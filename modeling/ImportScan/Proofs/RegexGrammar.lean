import ImportScan.Proofs.LookAhead
import ImportScan.Proofs.StringGrammar

/-!
# The grammar of regular expressions

The items of a regular expression are its plain characters, its escapes and its classes, and a class
has members of its own up to its bracket.  The scanner only knows whether a class is open, so what
it does is told from both sides: it passes members and items as a whole, and what is left of a text
that it reads is the end of a class, if one is open, and items up to the slash.

## Main definitions

* `ClassMember`, `RegexItem` — the members of a class, and the items of a regular expression.
* `ClassEnd` — what closes the class that is open.
* `StartsRegex` — a text that starts with a regular expression and its flags.

## Main results

* `itemsApart_regex` — the items are told apart, classes by their members.
* `regexExtent?_eq_some_iff` — **the extent of a regular expression follows its grammar**.
-/

namespace ImportScan

/-! ### Regular expressions -/

/-- One member of a class: a character that is neither a closing bracket nor a backslash nor a line
end, or a backslash with any character behind it but a line end. -/
inductive ClassMember : List Char → Prop where
  /-- A character that stands for itself. -/
  | plain {c : Char} (hclose : c ≠ ']') (hescape : c ≠ '\\') (hline : isLineEnd c = false) :
    ClassMember [c]
  /-- An escaped character. -/
  | escape {e : Char} (hline : isLineEnd e = false) : ClassMember ['\\', e]

/-- One item of a regular expression: a character that is neither a slash nor a backslash nor an
opening bracket nor a line end, or a backslash with any character behind it but a line end, or a
class between brackets. -/
inductive RegexItem : List Char → Prop where
  /-- A character that stands for itself. -/
  | plain {c : Char} (hslash : c ≠ '/') (hescape : c ≠ '\\') (hopen : c ≠ '[')
    (hline : isLineEnd c = false) : RegexItem [c]
  /-- An escaped character. -/
  | escape {e : Char} (hline : isLineEnd e = false) : RegexItem ['\\', e]
  /-- A class. -/
  | charClass {members : List (List Char)} (hmembers : ∀ member ∈ members, ClassMember member) :
    RegexItem ('[' :: (members.flatten ++ [']']))

/-- What closes a class, if one is open: the members that are left of it and its bracket. -/
inductive ClassEnd : Bool → List Char → Prop where
  /-- No class is open. -/
  | outside : ClassEnd false []
  /-- A class is open. -/
  | inside {members : List (List Char)} (hmembers : ∀ member ∈ members, ClassMember member) :
    ClassEnd true (members.flatten ++ [']'])

section

variable {cs as item member : List Char}

theorem itemsApart_class : ItemsApart ClassMember (fun _ => True) ']' where
  exists_cons h := by
    cases h with
    | plain hclose _ _ => exact ⟨_, _, rfl, hclose⟩
    | escape _ => exact ⟨_, _, rfl, by decide⟩
  follows _ _ := trivial
  eq_of_append h h' _ _ heq := by
    cases h with
    | plain _ hescape _ =>
      cases h' with
      | plain => simpa using (List.cons.inj heq).1
      | escape => exact absurd (List.cons.inj heq).1 hescape
    | escape =>
      cases h' with
      | plain _ hescape _ => exact absurd (List.cons.inj heq).1.symm hescape
      | escape => simp_all

theorem itemsApart_regex : ItemsApart RegexItem (fun _ => True) '/' where
  exists_cons h := by
    cases h with
    | plain hslash => exact ⟨_, _, rfl, hslash⟩
    | escape => exact ⟨_, _, rfl, by decide⟩
    | charClass => exact ⟨_, _, rfl, by decide⟩
  follows _ _ := trivial
  eq_of_append h h' _ _ heq := by
    cases h with
    | plain _ hescape hopen _ =>
      cases h' with
      | plain => simpa using (List.cons.inj heq).1
      | escape => exact absurd (List.cons.inj heq).1 hescape
      | charClass => exact absurd (List.cons.inj heq).1 hopen
    | escape =>
      cases h' with
      | plain _ hescape _ _ => exact absurd (List.cons.inj heq).1.symm hescape
      | escape => simp_all
      | charClass => exact absurd (List.cons.inj heq).1 (by decide)
    | charClass hmembers =>
      cases h' with
      | plain _ _ hopen _ => exact absurd (List.cons.inj heq).1.symm hopen
      | escape => exact absurd (List.cons.inj heq).1 (by decide)
      | charClass hmembers' =>
        -- both classes end at the same bracket
        simp only [List.cons_append, List.append_assoc, List.cons.injEq, true_and] at heq
        obtain ⟨rfl, -⟩ := itemsApart_class.eq_of_flatten hmembers hmembers' heq
        rfl

/-- A member of an open class is passed as a whole. -/
theorem regexExtent?_member (h : ClassMember member) :
    regexExtent? true (member ++ as) = (regexExtent? true as).map (· + member.length) := by
  cases h with
  | @plain c hclose hescape hline =>
    have hbehind : classBehind true c = true := by simp [classBehind, hclose]
    rw [List.singleton_append, regexExtent?_plain hescape (by simp) hline, hbehind]
    rfl
  | escape hline =>
    rw [List.cons_append, List.singleton_append, regexExtent?_escape, if_neg (by simp [hline])]
    rfl

/-- A class is passed up to its bracket. -/
theorem regexExtent?_members {members : List (List Char)}
    (hmembers : ∀ member ∈ members, ClassMember member) (as : List Char) :
    regexExtent? true (members.flatten ++ ']' :: as)
      = (regexExtent? false as).map (· + (members.flatten.length + 1)) := by
  rw [itemsApart_class.extent?_flatten (fun h _ => regexExtent?_member h) hmembers,
    regexExtent?_plain (by decide) (by simp) (by decide), Option.map_map]
  refine congrArg (fun f => Option.map f (regexExtent? false as)) (funext fun n => ?_)
  simp only [Function.comp_apply]
  omega

/-- An item is passed as a whole. -/
theorem regexExtent?_item (h : RegexItem item) :
    regexExtent? false (item ++ as) = (regexExtent? false as).map (· + item.length) := by
  cases h with
  | @plain c hslash hescape hopen hline =>
    have hbehind : classBehind false c = false := by simp [classBehind, hopen]
    rw [List.singleton_append, regexExtent?_plain hescape (by simp [hslash]) hline, hbehind]
    rfl
  | escape hline =>
    rw [List.cons_append, List.singleton_append, regexExtent?_escape, if_neg (by simp [hline])]
    rfl
  | @charClass members hmembers =>
    rw [List.cons_append, List.append_assoc, List.singleton_append,
      regexExtent?_plain (by decide) (by decide) (by decide)]
    show (regexExtent? true _).map _ = _
    rw [regexExtent?_members hmembers, Option.map_map]
    refine congrArg (fun f => Option.map f (regexExtent? false as)) (funext fun n => ?_)
    simp [Nat.add_assoc]

/-- A character that is passed is a member of the open class or closes it, or it is an item or opens
a class. -/
theorem ClassEnd.exists_cons {inClass : Bool} {c : Char} {ending : List Char}
    {items : List (List Char)} (hescape : c ≠ '\\') (hslash : ¬ (c = '/' ∧ inClass = false))
    (hline : isLineEnd c = false) (hending : ClassEnd (classBehind inClass c) ending)
    (hitems : ∀ item ∈ items, RegexItem item) :
    ∃ (ending' : List Char) (items' : List (List Char)), ClassEnd inClass ending' ∧
      (∀ item ∈ items', RegexItem item) ∧
      c :: (ending ++ items.flatten) = ending' ++ items'.flatten := by
  cases inClass with
  | false =>
    -- outside a class, an opening bracket starts one
    by_cases hopen : c = '['
    · subst hopen
      cases hending with
      | inside hmembers =>
        exact ⟨[], _ :: items, .outside, List.forall_mem_cons.2 ⟨.charClass hmembers, hitems⟩,
          by simp⟩
    · rw [classBehind, if_neg hopen, ite_self] at hending
      cases hending with
      | outside =>
        have hitem : RegexItem [c] := .plain (by simpa using hslash) hescape hopen hline
        exact ⟨[], _ :: items, .outside, List.forall_mem_cons.2 ⟨hitem, hitems⟩, by simp⟩
  | true =>
    -- inside a class, a closing bracket ends it
    by_cases hclose : c = ']'
    · subst hclose
      cases hending with
      | outside => exact ⟨[']'], items, @ClassEnd.inside [] (by simp), hitems, rfl⟩
    · rw [classBehind, if_neg hclose, ite_self] at hending
      cases hending with
      | inside hmembers =>
        have hmember : ClassMember [c] := .plain hclose hescape hline
        exact ⟨_, items, .inside (List.forall_mem_cons.2 ⟨hmember, hmembers⟩), hitems, by simp⟩

/-- A regular expression that is read consists of items up to its slash, behind the class that is
open. -/
theorem exists_items_of_regexExtent? {inClass : Bool} {n : Nat}
    (h : regexExtent? inClass cs = some n) :
    ∃ (ending : List Char) (items : List (List Char)) (rest : List Char),
      ClassEnd inClass ending ∧ (∀ item ∈ items, RegexItem item) ∧
      cs = ending ++ (items.flatten ++ '/' :: rest) := by
  induction inClass, cs using regexExtent?_induction generalizing n with
  | nil inClass => cases h
  | backslash inClass => cases h
  | escape inClass e cs ih =>
    rw [regexExtent?_escape] at h
    split at h
    · cases h
    · next he =>
      have hline : isLineEnd e = false := by simpa using he
      obtain ⟨m, hm, -⟩ := Option.map_eq_some_iff.1 h
      obtain ⟨ending, items, rest, hending, hitems, rfl⟩ := ih hm
      -- an escape belongs to the class that is open, if one is
      cases hending with
      | outside =>
        exact ⟨[], _ :: items, rest, .outside, List.forall_mem_cons.2 ⟨.escape hline, hitems⟩,
          by simp⟩
      | inside hmembers =>
        exact ⟨_, items, rest, .inside (List.forall_mem_cons.2 ⟨.escape hline, hmembers⟩), hitems,
          by simp⟩
  | slash cs => exact ⟨[], [], cs, .outside, by simp, rfl⟩
  | lineEnd inClass c cs hc =>
    rw [regexExtent?_lineEnd hc] at h
    cases h
  | plain inClass c cs hescape hslash hc ih =>
    rw [regexExtent?_plain hescape hslash hc] at h
    obtain ⟨m, hm, -⟩ := Option.map_eq_some_iff.1 h
    obtain ⟨ending, items, rest, hending, hitems, rfl⟩ := ih hm
    obtain ⟨ending', items', hending', hitems', heq⟩ :=
      hending.exists_cons hescape hslash hc hitems
    refine ⟨ending', items', rest, hending', hitems', ?_⟩
    rw [← List.append_assoc, ← List.append_assoc, ← heq, List.cons_append]

end

/-! ### Flags -/

/-- A text starts with a regular expression: a literal made of its items, and behind it the flags,
as many identifier characters as there are. -/
structure StartsRegex (items : List (List Char)) (flags text : List Char) : Prop where
  /-- What stands between the slashes. -/
  forall_items : ∀ item ∈ items, RegexItem item
  /-- The flags are identifier characters. -/
  forall_flags : ∀ d ∈ flags, isIdentifierPart d = true
  /-- They stand behind the literal, and no identifier character follows them. -/
  exists_behind : ∃ behind, text = enclosed '/' items ++ (flags ++ behind) ∧
    behind.head?.any isIdentifierPart = false

section

variable {items : List (List Char)} {flags behind text : List Char}

/-- The flags behind the closing slash are all the identifier characters that follow it. -/
theorem wordExtent_append (hflags : ∀ d ∈ flags, isIdentifierPart d = true)
    (hbehind : behind.head?.any isIdentifierPart = false) :
    wordExtent (flags ++ behind) = flags.length := by
  refine length_takeWhile_append ?_ ?_
  · rw [List.takeWhile_eq_self_iff.2 hflags]
  · cases behind with
    | nil => rfl
    | cons d behind => simpa using hbehind

theorem StartsRegex.startsLiteral (h : StartsRegex items flags text) :
    StartsLiteral RegexItem '/' items text := by
  obtain ⟨behind, rfl, -⟩ := h.exists_behind
  exact ⟨h.forall_items, List.prefix_append _ _⟩

/-- Behind a literal stand some flags, or none. -/
theorem StartsLiteral.exists_flags (h : StartsLiteral RegexItem '/' items text) :
    ∃ flags, StartsRegex items flags text := by
  obtain ⟨hitems, rest, rfl⟩ := h
  refine ⟨rest.takeWhile isIdentifierPart, hitems, fun d hd => List.mem_takeWhile_imp hd,
    rest.dropWhile isIdentifierPart, by rw [List.takeWhile_append_dropWhile], ?_⟩
  have hstop := List.head?_dropWhile_not isIdentifierPart rest
  cases hd : (rest.dropWhile isIdentifierPart).head? with
  | none => rfl
  | some d => simpa [hd] using hstop

/-- The extent of a regular expression that a text starts with. -/
theorem StartsRegex.extent?_eq {cs : List Char} (h : StartsRegex items flags ('/' :: cs)) :
    regexExtent? false cs = some (items.flatten.length + 1 + flags.length) := by
  obtain ⟨hitems, hflags, behind, htext, hbehind⟩ := h
  rw [enclosed_append] at htext
  rw [(List.cons.inj htext).2,
    itemsApart_regex.extent?_flatten (fun h _ => regexExtent?_item h) hitems,
    regexExtent?_slash, wordExtent_append hflags hbehind, Option.map_some]
  refine congrArg some ?_
  omega

theorem length_enclosed_append (mark : Char) (items : List (List Char)) (flags : List Char) :
    (enclosed mark items ++ flags).length = items.flatten.length + 1 + flags.length + 1 := by
  rw [List.length_append, length_enclosed]
  omega

/-- **The extent of a regular expression follows its grammar**: it is read just where a text starts
with one, and it is all of that with its flags. -/
theorem regexExtent?_eq_some_iff {cs : List Char} {n : Nat} :
    regexExtent? false cs = some n ↔ ∃ items flags, StartsRegex items flags ('/' :: cs) ∧
      n + 1 = (enclosed '/' items ++ flags).length := by
  constructor
  · intro h
    obtain ⟨ending, items, rest, hending, hitems, rfl⟩ := exists_items_of_regexExtent? h
    cases hending with
    | outside =>
      obtain ⟨flags, hstarts⟩ := StartsLiteral.exists_flags
        (startsLiteral_cons_iff.2 ⟨hitems, rest, rfl⟩)
      rw [List.nil_append, hstarts.extent?_eq] at h
      exact ⟨items, flags, hstarts, by rw [length_enclosed_append, Option.some.inj h]⟩
  · rintro ⟨items, flags, hstarts, hn⟩
    rw [length_enclosed_append] at hn
    rw [hstarts.extent?_eq, Nat.add_right_cancel hn]

end

end ImportScan
