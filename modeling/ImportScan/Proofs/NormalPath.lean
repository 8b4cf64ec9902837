import Mathlib.Data.List.Induction
import ImportScan.Proofs.FreshFile
import ImportScan.Proofs.PathName

/-!
# Paths without detours as normal forms

A path names a place in every folder.  Its form without detours names the same places, and two paths
name the same places everywhere only if they have the same form.  The form may be taken before two
paths are joined or behind that, and joining paths is joining their texts.

## Main definitions

* `Path.joinTexts` — the text of a path that is read at the place of another one.

## Main results

* `Path.ofString_joinTexts` — texts are joined as the paths are that they stand for.
* `Path.collapse_join` — detours may be removed before two paths are joined.
* `Path.collapse_eq_iff` — **two paths have one form if and only if they name one place in every
  folder**.
* `Path.collapse_isNormalForm` — the form without detours, all in all.
-/

namespace ImportScan

namespace Path

variable {absolute : Bool} {done parts : List PathPart} {p q : Path}

/-! ### Joining texts -/

/-- The text of a path that is read at the place of another one: a slash goes between them unless
the first one ends with a slash or is empty, and a path from the root stands for itself. -/
def joinTexts (s t : String) : String :=
  if t.toList.head? == some '/' then t
  else if s.toList.getLast?.all (· == '/') then s ++ t
  else s ++ "/" ++ t

theorem splitSlashes_append_slash (cs ds : List Char) :
    splitSlashes (cs ++ '/' :: ds) = splitSlashes cs ++ splitSlashes ds := by
  fun_induction splitSlashes cs with
  | case1 => rfl
  | case2 cs ih => exact congrArg ([] :: ·) ih
  | case3 c cs hc first rest hsplit ih =>
    rw [List.cons_append, splitSlashes.eq_3 c _ hc, ih, hsplit]
    rfl
  | case4 c cs hc hsplit => exact absurd hsplit (splitSlashes_ne_nil cs)

/-- The components of a text, all of them. -/
def components (cs : List Char) : List PathPart :=
  ((splitSlashes cs).filter fun cs => !cs.isEmpty).map fun cs => PathPart.ofText (String.ofList cs)

theorem ofString_eq (s : String) : ofString s =
    ⟨s.toList.head? == some '/', tidy (s.toList.head? == some '/') (components s.toList)⟩ := rfl

theorem components_append_slash (cs ds : List Char) :
    components (cs ++ '/' :: ds) = components cs ++ components ds := by
  rw [components, splitSlashes_append_slash, List.filter_append, List.map_append]
  rfl

theorem components_ne_nil {c : Char} (hc : c ≠ '/') (cs : List Char) :
    components (c :: cs) ≠ [] := by
  rw [components, splitSlashes.eq_3 c cs fun heq => hc heq]
  cases hsplit : splitSlashes cs with
  | nil => exact absurd hsplit (splitSlashes_ne_nil cs)
  | cons first rest => simp

theorem withoutHere_append (ps qs : List PathPart) :
    withoutHere (ps ++ qs) = withoutHere ps ++ withoutHere qs :=
  List.filter_append ps qs

theorem withoutHere_withoutHere (ps : List PathPart) :
    withoutHere (withoutHere ps) = withoutHere ps := by
  simp [withoutHere]

/-- What is tidied away is dropped anyway where a path goes on. -/
theorem withoutHere_tidy (absolute : Bool) (ps : List PathPart) :
    withoutHere (tidy absolute ps) = withoutHere ps := by
  unfold tidy
  split
  · next rest => exact withoutHere_withoutHere rest
  · exact withoutHere_withoutHere ps

/-- Only the first component may be the folder itself, so what follows loses all mentions of it. -/
theorem tidy_append {ps : List PathPart} (h : absolute = true ∨ ps ≠ []) (qs : List PathPart) :
    tidy absolute (ps ++ qs) = tidy absolute ps ++ withoutHere qs := by
  cases absolute with
  | true => exact withoutHere_append ps qs
  | false =>
    obtain ⟨part, rest, rfl⟩ := List.exists_cons_of_ne_nil (h.resolve_left Bool.false_ne_true)
    cases part with
    | here => exact congrArg (PathPart.here :: ·) (withoutHere_append rest qs)
    | up => exact withoutHere_append (.up :: rest) qs
    | name s => exact withoutHere_append (.name s :: rest) qs

theorem isEmpty_parts_ofString {s : String} :
    ((ofString s).parts.isEmpty && !(ofString s).absolute) = s.toList.isEmpty := by
  rw [ofString_eq]
  cases hs : s.toList with
  | nil => rfl
  | cons c cs =>
    by_cases hc : c = '/'
    · simp [hc]
    · -- a relative path keeps its first component, whatever it is
      obtain ⟨part, rest, hparts⟩ := List.exists_cons_of_ne_nil (components_ne_nil hc cs)
      have hrelative : ((c :: cs).head? == some '/') = false := by simpa using hc
      have htidy := @tidy_append false [part] (.inr (List.cons_ne_nil _ _)) rest
      rw [hrelative, hparts]
      cases part <;> simp_all [tidy, withoutHere]

/-- Joined texts have the components of both. -/
theorem components_joinTexts {s t : String} (h : (t.toList.head? == some '/') = false) :
    components (joinTexts s t).toList = components s.toList ++ components t.toList := by
  rw [joinTexts, if_neg (by simp [h])]
  split
  · next hlast =>
    cases hs : s.toList.getLast? with
    | none =>
      rw [String.toList_append, List.getLast?_eq_none_iff.1 hs]
      rfl
    | some c =>
      obtain ⟨cs, hcs⟩ := List.getLast?_eq_some_iff.1 hs
      obtain rfl : c = '/' := by simpa [hs] using hlast
      have hnone : components [] = [] := rfl
      rw [String.toList_append, hcs, List.append_assoc, List.singleton_append,
        components_append_slash, components_append_slash, hnone, List.append_nil]
  · rw [String.toList_append, String.toList_append, List.append_assoc]
    exact components_append_slash s.toList t.toList

theorem head?_joinTexts {s t : String} (h : (t.toList.head? == some '/') = false)
    (hs : s.toList ≠ []) : (joinTexts s t).toList.head? = s.toList.head? := by
  obtain ⟨c, cs, hcs⟩ := List.exists_cons_of_ne_nil hs
  rw [joinTexts, if_neg (by simp [h])]
  split <;> simp [hcs]

/-- **Texts are joined as the paths are that they stand for.** -/
theorem ofString_joinTexts (s t : String) :
    ofString (joinTexts s t) = (ofString s).join (ofString t) := by
  cases habsolute : t.toList.head? == some '/' with
  | true =>
    have ht : (ofString t).absolute = true := habsolute
    rw [joinTexts, if_pos habsolute, join_absolute _ ht]
  | false =>
    have ht : (ofString t).absolute = false := habsolute
    rw [join, if_neg (by simp [ht]), isEmpty_parts_ofString]
    by_cases hs : s.toList = []
    -- nothing to join to
    · have hjoined : joinTexts s t = t := by
        have hempty : s = "" := String.toList_inj.1 hs
        rw [joinTexts, if_neg (by simp [habsolute]), hempty]
        simp
      rw [hjoined, hs]
      rfl
    · -- what is joined keeps its start, so it is tidied as the first text is
      have hgoes : (s.toList.head? == some '/') = true ∨ components s.toList ≠ [] := by
        obtain ⟨c, cs, hcs⟩ := List.exists_cons_of_ne_nil hs
        by_cases hc : c = '/'
        · exact .inl (by simp [hcs, hc])
        · exact .inr (hcs ▸ components_ne_nil hc cs)
      rw [if_neg (by simpa using hs), ofString_eq, head?_joinTexts habsolute hs,
        components_joinTexts habsolute, tidy_append hgoes, ofString_eq s, ofString_eq t,
        withoutHere_tidy]

/-! ### Joining paths -/

/-- Following a form without detours is following the components that it comes from. -/
theorem collapseFrom_reverse (absolute : Bool) (done parts : List PathPart) :
    collapseFrom absolute done (collapseFrom false [] parts).reverse
      = collapseFrom absolute done parts := by
  induction parts using List.reverseRecOn with
  | nil => rfl
  | append_singleton parts part ih =>
    rw [collapseFrom_append, collapseFrom_append, ← ih]
    generalize collapseFrom false [] parts = trail
    cases part with
    | here => rfl
    | name s => simp [collapseFrom, follow]
    | up =>
      -- a name is left again, and any other way upwards stays
      cases trail with
      | nil => rfl
      | cons last trail => cases last <;> simp [collapseFrom, follow]

theorem collapseFrom_withoutHere (absolute : Bool) (done parts : List PathPart) :
    collapseFrom absolute done (withoutHere parts) = collapseFrom absolute done parts := by
  induction parts generalizing done with
  | nil => rfl
  | cons part parts ih =>
    cases part with
    | here => exact ih done
    | up => exact ih (follow absolute done .up)
    | name s => exact ih (follow absolute done (.name s))

@[simp] theorem absolute_collapse (p : Path) : p.collapse.absolute = p.absolute := by
  unfold collapse
  dsimp only
  split
  · next h => cases hp : p.absolute <;> simp [hp] at h ⊢
  · rfl

/-- The form without detours is told by where the components lead. -/
theorem collapse_congr (habsolute : p.absolute = q.absolute)
    (h : collapseFrom p.absolute [] p.parts = collapseFrom q.absolute [] q.parts) :
    p.collapse = q.collapse := by
  rw [collapse, collapse, h, habsolute]

theorem parts_collapse_of_absolute (hp : p.absolute = true) :
    p.collapse.parts = (collapseFrom true [] p.parts).reverse := by
  simp [collapse, hp]

/-- The form without detours is made of what is left of the components, unless nothing is. -/
theorem parts_collapse (p : Path) :
    p.collapse.parts = (collapseFrom p.absolute [] p.parts).reverse ∨
      p.collapse.parts = [.here] ∧ collapseFrom p.absolute [] p.parts = [] := by
  unfold collapse
  dsimp only
  split
  · next hempty =>
    rw [Bool.and_eq_true, List.isEmpty_iff, List.reverse_eq_nil_iff] at hempty
    exact .inr ⟨rfl, hempty.1⟩
  · exact .inl rfl

/-- A relative path may lose its detours wherever it is followed from. -/
theorem collapseFrom_parts_collapse_of_relative (hp : p.absolute = false) (absolute : Bool)
    (done : List PathPart) :
    collapseFrom absolute done p.collapse.parts = collapseFrom absolute done p.parts := by
  rw [← collapseFrom_reverse absolute done p.parts, ← hp]
  obtain hparts | ⟨hparts, hnil⟩ := p.parts_collapse
  · rw [hparts]
  · rw [hparts, hnil]
    rfl

/-- Every path may lose its detours when it is followed from its own start. -/
theorem collapseFrom_parts_collapse (p : Path) :
    collapseFrom p.absolute [] p.collapse.parts = collapseFrom p.absolute [] p.parts := by
  cases hp : p.absolute with
  | false => exact collapseFrom_parts_collapse_of_relative hp false []
  | true =>
    have hp' : p.collapse.absolute = true := (absolute_collapse p).trans hp
    have htwice := congrArg Path.parts p.collapse_collapse
    rwa [parts_collapse_of_absolute hp', parts_collapse_of_absolute hp, List.reverse_inj,
      ← parts_collapse_of_absolute hp] at htwice

/-- A relative path that is read at the place of another one is followed behind it. -/
theorem collapseFrom_join (p : Path) (hq : q.absolute = false) :
    (p.join q).absolute = p.absolute ∧
      collapseFrom p.absolute [] (p.join q).parts
        = collapseFrom p.absolute (collapseFrom p.absolute [] p.parts) q.parts := by
  rw [join, if_neg (by simp [hq])]
  split
  · next hempty =>
    rw [Bool.and_eq_true, List.isEmpty_iff, Bool.not_eq_true'] at hempty
    rw [hq, hempty.1, hempty.2]
    exact ⟨rfl, rfl⟩
  · refine ⟨rfl, ?_⟩
    rw [collapseFrom_append, collapseFrom_withoutHere]

/-- **Detours may be removed before two paths are joined.** -/
theorem collapse_join (p q : Path) :
    (p.join q).collapse = (p.collapse.join q.collapse).collapse := by
  cases hq : q.absolute with
  | true =>
    have hq' : q.collapse.absolute = true := (absolute_collapse q).trans hq
    rw [join_absolute p hq, join_absolute p.collapse hq', collapse_collapse]
  | false =>
    have hq' : q.collapse.absolute = false := (absolute_collapse q).trans hq
    obtain ⟨habsolute, hjoin⟩ := collapseFrom_join p hq
    obtain ⟨habsolute', hjoin'⟩ := collapseFrom_join p.collapse hq'
    rw [absolute_collapse] at habsolute' hjoin'
    refine collapse_congr (habsolute.trans habsolute'.symm) ?_
    rw [habsolute, habsolute', hjoin, hjoin', collapseFrom_parts_collapse,
      collapseFrom_parts_collapse_of_relative hq]

/-! ### Places -/

/-- Following a component leads to the place one step further. -/
theorem arrivalFrom_follow {place : List FileName} (hroot : absolute = true → place = [])
    (hdone : IsTrail absolute done) (part : PathPart) :
    arrivalFrom place (follow absolute done part).reverse
      = arrivalStep (arrivalFrom place done.reverse) part := by
  have hstep : ∀ next : PathPart, arrivalFrom place (next :: done).reverse
      = arrivalStep (arrivalFrom place done.reverse) next := by
    intro next
    rw [List.reverse_cons, arrivalFrom_append]
    rfl
  cases part with
  | here => rfl
  | name s => exact hstep (.name s)
  | up =>
    obtain ⟨names, ups, rfl, hups⟩ := hdone
    cases names with
    | cons s names =>
      rw [List.map_cons, List.cons_append, List.reverse_cons, arrivalFrom_append]
      exact (List.dropLast_concat ..).symm
    | nil =>
      cases absolute with
      | true =>
        -- nothing lies above the root
        rw [hups rfl, hroot rfl]
        rfl
      | false =>
        have hfollow : follow false ([] ++ List.replicate ups .up) .up
            = .up :: List.replicate ups .up := by cases ups <;> rfl
        rw [List.map_nil, hfollow]
        exact hstep .up

/-- Following some components leads to the place that they name. -/
theorem arrivalFrom_collapseFrom {place : List FileName} (hroot : absolute = true → place = [])
    (hdone : IsTrail absolute done) (parts : List PathPart) :
    arrivalFrom place (collapseFrom absolute done parts).reverse
      = arrivalFrom (arrivalFrom place done.reverse) parts := by
  induction parts generalizing done with
  | nil => rfl
  | cons part parts ih =>
    have hnext := ih (hdone.follow part)
    rw [arrivalFrom_follow hroot hdone] at hnext
    exact hnext

/-- A path and its form without detours name the same place. -/
theorem arrival_collapse (p : Path) (folder : List FileName) :
    p.collapse.arrival folder = p.arrival folder := by
  have hstart : IsTrail p.absolute [] := ⟨[], 0, rfl, fun _ => rfl⟩
  have hfollow : arrivalFrom (if p.absolute then [] else folder)
      (collapseFrom p.absolute [] p.parts).reverse = p.arrival folder :=
    arrivalFrom_collapseFrom (fun habsolute => if_pos habsolute) hstart p.parts
  rw [← hfollow, arrival, absolute_collapse]
  obtain hparts | ⟨hparts, hnil⟩ := p.parts_collapse
  · rw [hparts]
  · rw [hparts, hnil]
    rfl

/-- The relative path without detours that leads upwards, then by names. -/
def relativeTo (ups : Nat) (names : List FileName) : Path :=
  if ups = 0 ∧ names = [] then ⟨false, [.here]⟩
  else ⟨false, List.replicate ups .up ++ names.map .name⟩

theorem arrivalFrom_ups (place : List FileName) (ups : Nat) :
    arrivalFrom place (List.replicate ups .up) = place.take (place.length - ups) := by
  induction ups generalizing place with
  | zero => simp [arrivalFrom]
  | succ ups ih =>
    have hnext : arrivalFrom place (List.replicate (ups + 1) .up)
        = arrivalFrom place.dropLast (List.replicate ups .up) := rfl
    rw [hnext, ih, List.dropLast_eq_take, List.take_take, List.length_take]
    congr 1
    omega

/-- A path without detours names a place of its own, or one that is told from the folder. -/
theorem IsDirect.exists_arrival (h : p.IsDirect) :
    (∃ names, p = ⟨true, names.map .name⟩ ∧ ∀ folder, p.arrival folder = names) ∨
      ∃ ups names, p = relativeTo ups names ∧
        ∀ folder : List FileName, p.arrival folder = folder.take (folder.length - ups) ++ names := by
  cases h with
  | fromRoot names => exact .inl ⟨names, rfl, fun folder => arrivalFrom_names [] names⟩
  | here => exact .inr ⟨0, [], rfl, fun folder => by simp [arrival, arrivalFrom, arrivalStep]⟩
  | relative ups names somewhere =>
    refine .inr ⟨ups, names, ?_, fun folder => ?_⟩
    · rw [relativeTo, if_neg]
      rintro ⟨rfl, rfl⟩
      exact absurd somewhere (Nat.lt_irrefl 0)
    · rw [← arrivalFrom_ups, ← arrivalFrom_names, ← arrivalFrom_append]
      rfl

/-- How far upwards a place lies, and under which names, is told from the places that are named in
all folders. -/
theorem eq_of_forall_take {ups ups' : Nat} {names names' : List FileName} (hle : ups ≤ ups')
    (h : ∀ folder : List FileName, folder.take (folder.length - ups) ++ names
      = folder.take (folder.length - ups') ++ names') : ups = ups' ∧ names = names' := by
  -- in a folder just as deep as the one path leads upwards, the other leaves some names standing
  have hfolder : ∀ s, List.replicate (ups' - ups) s ++ names = names' := by
    intro s
    have hs := h (List.replicate ups' s)
    rwa [List.length_replicate, List.take_replicate, Nat.min_eq_left (Nat.sub_le _ _), Nat.sub_self,
      List.take_zero, List.nil_append] at hs
  have hsame := List.append_cancel_right ((hfolder "a").trans (hfolder "b").symm)
  have hzero : ups' - ups = 0 := by
    cases hn : ups' - ups with
    | zero => rfl
    | succ n =>
      rw [hn, List.replicate_succ, List.replicate_succ] at hsame
      exact absurd (List.cons.inj hsame).1 (by decide)
  have hnames := hfolder "a"
  rw [hzero] at hnames
  exact ⟨by omega, hnames⟩

/-- No place of its own is the one that a relative path names in every folder. -/
theorem exists_take_ne (ups : Nat) (names place : List FileName) :
    ∃ folder : List FileName, folder.take (folder.length - ups) ++ names ≠ place := by
  by_contra hall
  push Not at hall
  have hfolder : ∀ s, s :: names = place := by
    intro s
    have hs := hall (List.replicate (ups + 1) s)
    rwa [List.length_replicate, List.take_replicate, Nat.min_eq_left (Nat.sub_le _ _),
      Nat.add_sub_cancel_left] at hs
  exact absurd (List.cons.inj ((hfolder "a").trans (hfolder "b").symm)).1 (by decide)

/-- Two paths without detours that name the same place in every folder are the same. -/
theorem IsDirect.eq_of_arrival (hp : p.IsDirect) (hq : q.IsDirect)
    (h : ∀ folder, p.arrival folder = q.arrival folder) : p = q := by
  obtain ⟨names, rfl, hp⟩ | ⟨ups, names, rfl, hp⟩ := hp.exists_arrival
  · obtain ⟨names', rfl, hq⟩ | ⟨ups', names', rfl, hq⟩ := hq.exists_arrival
    · rw [← hp [], h, hq]
    -- a path from the root leads to one place from everywhere, a relative one does not
    · obtain ⟨folder, hne⟩ := exists_take_ne ups' names' names
      exact absurd (((hq folder).symm.trans (h folder).symm).trans (hp folder)) hne
  · obtain ⟨names', rfl, hq⟩ | ⟨ups', names', rfl, hq⟩ := hq.exists_arrival
    · obtain ⟨folder, hne⟩ := exists_take_ne ups names names'
      exact absurd (((hp folder).symm.trans (h folder)).trans (hq folder)) hne
    · have hall : ∀ folder : List FileName, folder.take (folder.length - ups) ++ names
          = folder.take (folder.length - ups') ++ names' := fun folder =>
        ((hp folder).symm.trans (h folder)).trans (hq folder)
      rcases Nat.le_total ups ups' with hle | hle
      · obtain ⟨rfl, rfl⟩ := eq_of_forall_take hle hall
        rfl
      · obtain ⟨rfl, rfl⟩ := eq_of_forall_take hle fun folder => (hall folder).symm
        rfl

/-- **Two paths have one form without detours if and only if they name one place in every
folder.** -/
theorem collapse_eq_iff :
    p.collapse = q.collapse ↔ ∀ folder, p.arrival folder = q.arrival folder := by
  constructor
  · intro h folder
    rw [← arrival_collapse p, ← arrival_collapse q, h]
  · intro h
    refine p.isDirect_collapse.eq_of_arrival q.isDirect_collapse fun folder => ?_
    rw [arrival_collapse, arrival_collapse, h]

/-! ### The form without detours, all in all -/

/-- Texts may lose their detours before they are joined. -/
theorem collapse_joinTexts (s t : String) :
    (ofString (joinTexts s t)).collapse = (ofString
      (joinTexts (ofString s).collapse.toString (ofString t).collapse.toString)).collapse := by
  rw [ofString_joinTexts, ofString_joinTexts, ofString_toString (isPlain_ofString s).collapse,
    ofString_toString (isPlain_ofString t).collapse, collapse_join]

/-- **The form without detours is a normal form that is compatible with joining.**  It is the
folder itself, or it leads from the root by names only, or it leads upwards and by names then; it
starts from the root if and only if the path does, so that nothing lies above the root.  The form of
a text is made of names that can be read back.  The paths of this shape are those that are their own
form, and taking the form twice changes nothing.  It may be taken of both paths before they are
joined, be they given by their components or as texts.  A path behind any folder may be replaced by
its form, and two paths have the same form just when they name the same place in every folder. -/
theorem collapse_isNormalForm (p q : Path) (s t : String) :
    p.collapse.IsDirect ∧ p.collapse.absolute = p.absolute ∧ (ofString s).collapse.IsCanonical ∧
      p.collapse.collapse = p.collapse ∧ (p.collapse = p ↔ p.IsDirect) ∧
      (p.join q).collapse = (p.collapse.join q.collapse).collapse ∧
      (ofString (joinTexts s t)).collapse = (ofString
        (joinTexts (ofString s).collapse.toString (ofString t).collapse.toString)).collapse ∧
      (p.join q).collapse = (p.join q.collapse).collapse ∧
      (p.collapse = q.collapse ↔ ∀ folder, p.arrival folder = q.arrival folder) := by
  refine ⟨p.isDirect_collapse, absolute_collapse p, (isPlain_ofString s).collapse,
    p.collapse_collapse, ⟨fun h => ?_, IsDirect.collapse_eq⟩, collapse_join p q,
    collapse_joinTexts s t, ?_, collapse_eq_iff⟩
  · rw [← h]
    exact p.isDirect_collapse
  · calc (p.join q).collapse
        = (p.collapse.join q.collapse).collapse := collapse_join p q
      _ = (p.collapse.join q.collapse.collapse).collapse := by rw [collapse_collapse]
      _ = (p.join q.collapse).collapse := (collapse_join p q.collapse).symm

/-- A way upwards behind a folder leaves it, and the root is never left. -/
example : (joinTexts "/a/b" "./../../../c") = "/a/b/./../../../c" ∧
    (ofString "/a/b/./../../../c").collapse.toString = "/c" ∧
    (ofString "./../../../c").collapse.toString = "../../../c" := by decide

end Path

end ImportScan
