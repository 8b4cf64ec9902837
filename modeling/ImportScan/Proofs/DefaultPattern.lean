import ImportScan.Config
import ImportScan.Proofs.Detour
import ImportScan.Proofs.PathName

/-!
# The specifiers that are followed by default

Unless a configuration says otherwise, an import is followed when its specifier ends like the name
of a script.  Such a specifier leads to a place whose name ends in the same way, whichever file it
stands in.

## Main results

* `Pattern.exists_of_any_reach` — a pattern that ends with a character and the end of the text tells
  the last character.
* `Path.getLast?_parts_resolve` — the last name of a specifier is that of the place it leads to.
* `Config.getLast?_resolve_default` — **a specifier that is followed by default does not lead to a
  file with the name of a configuration**.
-/

namespace ImportScan

/-! ### The end of a match -/

namespace Mask

variable {text : List Char} {m : Mask}

/-- Nothing but the end of a text remains where the end is asked for. -/
theorem getElem?_of_any_restrict (h : (m.restrict .textEnd text).any id = true) :
    m[text.length]? = some true := by
  obtain ⟨b, hb, htrue⟩ := List.any_eq_true.1 h
  obtain rfl : b = true := htrue
  obtain ⟨i, hi⟩ := List.mem_iff_getElem?.1 hb
  unfold restrict at hi
  obtain ⟨there, ⟨before, after⟩, hthere, hsides, hholds⟩ := List.getElem?_zipWith_eq_some.1 hi
  obtain ⟨rfl, hend⟩ := (Bool.and_eq_true _ _).mp hholds
  obtain rfl : after = none := Option.isNone_iff_eq_none.1 hend
  have hafter : (text.map some ++ [none])[i]? = some none := (List.getElem?_zip_eq_some.1 hsides).2
  -- only the end of the text has no character behind it
  have hi : i = text.length := by
    rcases Nat.lt_trichotomy i text.length with hlt | heq | hgt
    · rw [List.getElem?_append_left (by simpa using hlt)] at hafter
      simp [hlt] at hafter
    · exact heq
    · rw [List.getElem?_eq_none (by simpa using Nat.succ_le_of_lt hgt)] at hafter
      cases hafter
  exact hi ▸ hthere

/-- Whoever reaches the end of a text by going past a character has gone past the last one. -/
theorem exists_of_getElem?_advance {test : Char → Bool}
    (h : (m.advance test text)[text.length]? = some true) :
    ∃ c ∈ text.getLast?, test c = true := by
  cases hn : text.length with
  | zero =>
    rw [hn] at h
    cases h
  | succ n =>
    rw [hn, advance, List.getElem?_cons_succ] at h
    obtain ⟨c, there, hc, -, htest⟩ := List.getElem?_zipWith_eq_some.1 h
    refine ⟨c, ?_, ((Bool.and_eq_true _ _).mp htest).2⟩
    rw [List.getLast?_eq_getElem?, hn]
    exact hc

end Mask

/-- A pattern that ends with a character and the end of the text tells the last character. -/
theorem Pattern.exists_of_any_reach {text : List Char} {rule : CaseRule} {s : CharSet} {m : Mask}
    (h : (reach text (.seq (.one rule s) (.seq (.edge .textEnd) .empty)) m).any id = true) :
    ∃ c ∈ text.getLast?, s.member rule c = true :=
  Mask.exists_of_getElem?_advance (Mask.getElem?_of_any_restrict h)

/-! ### The last name of a specifier -/

namespace Path

theorem getLast?_filter {α : Type} {l : List α} {a : α} {test : α → Bool} (h : l.getLast? = some a)
    (ha : test a = true) : (l.filter test).getLast? = some a := by
  obtain ⟨before, rfl⟩ := List.getLast?_eq_some_iff.1 h
  rw [List.filter_append, List.filter_cons_of_pos ha]
  exact List.getLast?_concat

/-- A text that does not end with a slash ends like the last of the texts between its slashes. -/
theorem getLast?_splitSlashes {cs : List Char} {c : Char} (h : cs.getLast? = some c)
    (hc : c ≠ '/') : ∃ last, (splitSlashes cs).getLast? = some (last ++ [c]) := by
  -- the last character is no slash, and so it stays in the last text
  fun_induction splitSlashes cs with
  | case1 => cases h
  | case2 cs ih =>
    cases cs with
    | nil => exact absurd (Option.some.inj h).symm hc
    | cons d cs =>
      obtain ⟨last, hlast⟩ := ih (by rwa [List.getLast?_cons_cons] at h)
      exact ⟨last, by rw [List.getLast?_cons, hlast]; rfl⟩
  | case3 d cs hd first rest hsplit ih =>
    cases cs with
    | nil =>
      obtain ⟨rfl, rfl⟩ := List.cons.inj hsplit
      exact ⟨[], by simpa using h⟩
    | cons e cs =>
      obtain ⟨last, hlast⟩ := ih (by rwa [List.getLast?_cons_cons] at h)
      rw [hsplit] at hlast
      cases rest with
      | nil =>
        rw [List.getLast?_singleton, Option.some.injEq] at hlast
        exact ⟨d :: last, by rw [hlast]; rfl⟩
      | cons text rest => exact ⟨last, hlast⟩
  | case4 d cs hd hsplit => exact absurd hsplit (splitSlashes_ne_nil cs)

theorem ofText_of_getLast? {s : String} {c : Char} (h : s.toList.getLast? = some c)
    (hdot : c ≠ '.') : PathPart.ofText s = .name s := by
  have hhere : s ≠ "." := by
    rintro rfl
    exact hdot (Option.some.inj h).symm
  have hup : s ≠ ".." := by
    rintro rfl
    exact hdot (Option.some.inj h).symm
  rw [PathPart.ofText, if_neg hhere, if_neg hup]

theorem getLast?_withoutHere {parts : List PathPart} {s : String}
    (h : parts.getLast? = some (.name s)) : (withoutHere parts).getLast? = some (.name s) :=
  getLast?_filter h rfl

theorem getLast?_tidy {absolute : Bool} {parts : List PathPart} {s : String}
    (h : parts.getLast? = some (.name s)) : (tidy absolute parts).getLast? = some (.name s) := by
  unfold tidy
  split
  · next rest =>
    cases rest with
    | nil => cases h
    | cons part rest =>
      rw [List.getLast?_cons_cons] at h
      rw [List.getLast?_cons, getLast?_withoutHere h]
      rfl
  · exact getLast?_withoutHere h

/-- A text that ends neither with a slash nor with a dot names a place by its end. -/
theorem getLast?_parts_ofString {s : String} {c : Char} (h : s.toList.getLast? = some c)
    (hslash : c ≠ '/') (hdot : c ≠ '.') :
    ∃ name : String, name.toList.getLast? = some c ∧
      (ofString s).parts.getLast? = some (.name name) := by
  obtain ⟨last, hlast⟩ := getLast?_splitSlashes h hslash
  have hend : (String.ofList (last ++ [c])).toList.getLast? = some c := by
    rw [String.toList_ofList, List.getLast?_concat]
  refine ⟨String.ofList (last ++ [c]), hend, getLast?_tidy ?_⟩
  rw [List.getLast?_map, getLast?_filter hlast (by simp), Option.map_some,
    ofText_of_getLast? hend hdot]

theorem getLast?_parts_join {p q : Path} {s : String} (h : q.parts.getLast? = some (.name s)) :
    (p.join q).parts.getLast? = some (.name s) := by
  unfold join
  split
  · exact h
  split
  · exact h
  · exact (List.getLast?_append ..).trans (by rw [getLast?_withoutHere h]; rfl)

/-- The last name of a specifier is that of the place it leads to. -/
theorem getLast?_parts_resolve (importer : Path) {s : String} {c : Char}
    (h : s.toList.getLast? = some c) (hslash : c ≠ '/') (hdot : c ≠ '.') :
    ∃ name : String, name.toList.getLast? = some c ∧
      (importer.resolve s).parts.getLast? = some (.name name) := by
  obtain ⟨name, hname, hparts⟩ := getLast?_parts_ofString h hslash hdot
  exact ⟨name, hname, getLast?_parts_collapse (getLast?_parts_join hparts)⟩

end Path

/-! ### The default -/

namespace Config

/-- The pattern of the default configuration: a dot, perhaps an `m`, then `js` and the end, all of
them in either case. -/
theorem ofString?_default : Regex.ofString? Config.default.extractable
    = some ⟨.seq (.one .full (.single '.')) <|
        .seq (.times (.one .full (.single 'm')) 0 (some 1)) <|
          .seq (.one .full (.single 'j')) <|
            .seq (.one .full (.single 's')) (.seq (.edge .textEnd) .empty)⟩ := by
  decide +kernel

/-- **A specifier that is followed by default does not lead to a file with the name of a
configuration.** -/
theorem getLast?_resolve_default {r : Regex}
    (hr : Regex.ofString? Config.default.extractable = some r) {s : String}
    (h : r.isMatch s = true) (importer : Path) :
    ∃ name : String, (importer.resolve s).parts.getLast? = some (.name name) ∧
      name ≠ configFileName := by
  obtain rfl := Option.some.inj (ofString?_default.symm.trans hr)
  obtain ⟨c, hlast, hmember⟩ := Pattern.exists_of_any_reach h
  have hne {d : Char} (hd : (CharSet.single 's').member .full d = false) : c ≠ d := by
    rintro rfl
    exact Bool.false_ne_true (hd.symm.trans hmember)
  -- these three characters end no specifier that is followed
  have hslash : c ≠ '/' := hne (by decide +kernel)
  have hdot : c ≠ '.' := hne (by decide +kernel)
  have hn : c ≠ 'n' := hne (by decide +kernel)
  obtain ⟨name, hname, hparts⟩ := Path.getLast?_parts_resolve importer hlast hslash hdot
  refine ⟨name, hparts, ?_⟩
  rintro rfl
  exact hn (Option.some.inj hname).symm

end Config

end ImportScan
