import ImportScan.Proofs.ImportGrammar
import ImportScan.Proofs.Scan

/-!
# The grammar of strings

A literal is told here by a grammar: a mark, some items one behind the other, and the mark again.
If no item can be taken for another one or for the closing mark, a text starts with at most one
literal.  The items of a string are its plain characters and its escapes.  An escaped line end of
two characters is one item: what follows an escaped carriage return tells whether that is all of it.

## Main definitions

* `ItemsApart` — items that can be told apart, and from the mark that closes them.
* `enclosed`, `StartsLiteral` — a literal made of items, and a text that starts with one.
* `StringItem` — the items of a string.

## Main results

* `ItemsApart.eq_of_flatten`, `ItemsApart.extent?_flatten` — items are read in one way only, and an
  extent that passes each item passes all of them.
* `StartsLiteral.unique` — **a text starts with at most one literal**.
* `stringExtent?_eq_some_iff` — **the extent of a string follows its grammar**.
-/

namespace ImportScan

/-! ### Items up to a closing mark -/

/-- Items that can be told apart.  `Follows` is what is known of the text behind an item, up to and
including the closing mark. -/
structure ItemsApart (Item Follows : List Char → Prop) (mark : Char) : Prop where
  /-- An item is not empty, and it does not start with the closing mark. -/
  exists_cons : ∀ {item}, Item item → ∃ c cs, item = c :: cs ∧ c ≠ mark
  /-- What is known of the text behind an item. -/
  follows : ∀ {items : List (List Char)} (rest : List Char), (∀ item ∈ items, Item item) →
    Follows (items.flatten ++ mark :: rest)
  /-- Where an item ends can be told from what follows it. -/
  eq_of_append : ∀ {item item' as as'}, Item item → Item item' → Follows as → Follows as' →
    item ++ as = item' ++ as' → item = item'

namespace ItemsApart

variable {Item Follows : List Char → Prop} {mark : Char} {items items' : List (List Char)}
  {rest rest' : List Char}

/-- A text is read as items up to a closing mark in one way only. -/
theorem eq_of_flatten (h : ItemsApart Item Follows mark) (hitems : ∀ item ∈ items, Item item)
    (hitems' : ∀ item ∈ items', Item item)
    (heq : items.flatten ++ mark :: rest = items'.flatten ++ mark :: rest') :
    items = items' ∧ rest = rest' := by
  induction items generalizing items' with
  | nil =>
    cases items' with
    | nil => exact ⟨rfl, (List.cons.inj heq).2⟩
    | cons item' items' =>
      obtain ⟨c, cs, rfl, hc⟩ := h.exists_cons (hitems' _ List.mem_cons_self)
      exact absurd (List.cons.inj heq).1.symm hc
  | cons item items ih =>
    obtain ⟨hitem, hmore⟩ := List.forall_mem_cons.1 hitems
    cases items' with
    | nil =>
      obtain ⟨c, cs, rfl, hc⟩ := h.exists_cons hitem
      exact absurd (List.cons.inj heq).1 hc
    | cons item' items' =>
      obtain ⟨hitem', hmore'⟩ := List.forall_mem_cons.1 hitems'
      rw [List.flatten_cons, List.flatten_cons, List.append_assoc, List.append_assoc] at heq
      obtain rfl := h.eq_of_append hitem hitem' (h.follows rest hmore) (h.follows rest' hmore') heq
      obtain ⟨rfl, rfl⟩ := ih hmore hmore' (List.append_cancel_left heq)
      exact ⟨rfl, rfl⟩

/-- An extent that passes each item passes all of them. -/
theorem extent?_flatten (h : ItemsApart Item Follows mark) {extent? : List Char → Option Nat}
    (hstep : ∀ {item as}, Item item → Follows as →
      extent? (item ++ as) = (extent? as).map (· + item.length))
    (hitems : ∀ item ∈ items, Item item) (rest : List Char) :
    extent? (items.flatten ++ mark :: rest)
      = (extent? (mark :: rest)).map (· + items.flatten.length) := by
  induction items with
  | nil => simp
  | cons item items ih =>
    obtain ⟨hitem, hmore⟩ := List.forall_mem_cons.1 hitems
    rw [List.flatten_cons, List.append_assoc, hstep hitem (h.follows rest hmore), ih hmore,
      Option.map_map]
    refine congrArg (fun f => Option.map f (extent? (mark :: rest))) (funext fun n => ?_)
    simp only [Function.comp_apply, List.length_append]
    omega

end ItemsApart

/-! ### Whole literals -/

/-- Some items between two marks. -/
def enclosed (mark : Char) (items : List (List Char)) : List Char :=
  mark :: (items.flatten ++ [mark])

/-- A text starts with a literal: the mark, some items, and the mark again. -/
structure StartsLiteral (Item : List Char → Prop) (mark : Char) (items : List (List Char))
    (text : List Char) : Prop where
  /-- What stands between the marks. -/
  forall_items : ∀ item ∈ items, Item item
  /-- The literal is what the text starts with. -/
  isPrefix : enclosed mark items <+: text

section

variable {Item Follows : List Char → Prop} {mark : Char} {items items' : List (List Char)}
  {cs rest : List Char}

theorem enclosed_append (mark : Char) (items : List (List Char)) (rest : List Char) :
    enclosed mark items ++ rest = mark :: (items.flatten ++ mark :: rest) := by
  simp [enclosed]

@[simp] theorem length_enclosed (mark : Char) (items : List (List Char)) :
    (enclosed mark items).length = items.flatten.length + 2 := by
  simp [enclosed]

/-- What stands behind the mark at the start of a literal. -/
theorem startsLiteral_cons_iff : StartsLiteral Item mark items (mark :: cs) ↔
    (∀ item ∈ items, Item item) ∧ ∃ rest, cs = items.flatten ++ mark :: rest := by
  constructor
  · rintro ⟨hitems, rest, hrest⟩
    rw [enclosed_append] at hrest
    exact ⟨hitems, rest, (List.cons.inj hrest).2.symm⟩
  · rintro ⟨hitems, rest, rfl⟩
    exact ⟨hitems, rest, enclosed_append mark items rest⟩

/-- **A text starts with at most one literal**, and that has its items in one way only. -/
theorem StartsLiteral.unique (hapart : ItemsApart Item Follows mark)
    (h : StartsLiteral Item mark items (mark :: cs))
    (h' : StartsLiteral Item mark items' (mark :: cs)) : items = items' := by
  obtain ⟨hitems, rest, rfl⟩ := startsLiteral_cons_iff.1 h
  obtain ⟨hitems', rest', heq⟩ := startsLiteral_cons_iff.1 h'
  exact (hapart.eq_of_flatten hitems hitems' heq).1

end

/-! ### Strings -/

/-- One item of a string: a character that is neither the quote nor a backslash nor a line end, or a
backslash with the character behind it, or a backslash with a line end of two characters. -/
inductive StringItem (quote : Char) : List Char → Prop where
  /-- A character that stands for itself. -/
  | plain {c : Char} (hquote : c ≠ quote) (hescape : c ≠ '\\') (hline : isLineEnd c = false) :
    StringItem quote [c]
  /-- An escaped character. -/
  | escape (e : Char) : StringItem quote ['\\', e]
  /-- An escaped line end of two characters. -/
  | escapedPair : StringItem quote ['\\', '\r', '\n']

section

variable {quote : Char} {cs as item : List Char}

theorem ne_of_not_isQuoteMark (h : isQuoteMark quote = true) {d : Char}
    (hd : isQuoteMark d = false) : quote ≠ d := by
  rintro rfl
  rw [h] at hd
  cases hd

/-- No item starts with a line feed. -/
theorem StringItem.head?_ne (h : StringItem quote item) : (item ++ as).head? ≠ some '\n' := by
  cases h with
  | plain _ _ hline =>
    intro hhead
    obtain rfl : _ = '\n' := Option.some.inj hhead
    cases hline
  | escape e => simp
  | escapedPair => simp

/-- The items of a string are told apart: what follows an item does not start with a line feed, so
it shows whether an escaped carriage return is the whole item. -/
theorem itemsApart_string (hmark : isQuoteMark quote = true) :
    ItemsApart (StringItem quote) (fun as => as.head? ≠ some '\n') quote where
  exists_cons h := by
    have hescape : '\\' ≠ quote := (ne_of_not_isQuoteMark hmark (by decide)).symm
    cases h with
    | plain hne _ _ => exact ⟨_, _, rfl, hne⟩
    | escape e => exact ⟨_, _, rfl, hescape⟩
    | escapedPair => exact ⟨_, _, rfl, hescape⟩
  follows {items} rest hitems := by
    cases items with
    | nil => simpa using ne_of_not_isQuoteMark hmark (d := '\n') (by decide)
    | cons item items =>
      rw [List.flatten_cons, List.append_assoc]
      exact (hitems item List.mem_cons_self).head?_ne
  eq_of_append {item item' as as'} h h' hfollows hfollows' heq := by
    cases h with
    | plain hq hescape hline =>
      cases h' with
      | plain => simpa using (List.cons.inj heq).1
      | escape => exact absurd (List.cons.inj heq).1 hescape
      | escapedPair => exact absurd (List.cons.inj heq).1 hescape
    | escape e =>
      cases h' with
      | plain _ hescape => exact absurd (List.cons.inj heq).1.symm hescape
      | escape e' => simp_all
      | escapedPair =>
        -- the line feed would follow the escaped carriage return
        simp only [List.cons_append, List.nil_append, List.cons.injEq, true_and] at heq
        exact absurd (by simp [heq.2]) hfollows
    | escapedPair =>
      cases h' with
      | plain _ hescape => exact absurd (List.cons.inj heq).1.symm hescape
      | escape e' =>
        simp only [List.cons_append, List.nil_append, List.cons.injEq, true_and] at heq
        exact absurd (by simp [← heq.2]) hfollows'
      | escapedPair => rfl

/-- An item is passed as a whole. -/
theorem stringExtent?_item (hmark : isQuoteMark quote = true) (h : StringItem quote item)
    (hfollows : as.head? ≠ some '\n') :
    stringExtent? quote (item ++ as) = (stringExtent? quote as).map (· + item.length) := by
  have hescape : '\\' ≠ quote := (ne_of_not_isQuoteMark hmark (by decide)).symm
  cases h with
  | plain hq hback hline =>
    rw [List.singleton_append, stringExtent?.eq_def]
    simp [hq, hback, hline]
  | escape e =>
    -- no line feed follows, which an escaped return would take along
    have hpair : ∀ behind, e = '\r' → as = '\n' :: behind → False := by
      rintro behind - rfl
      exact hfollows rfl
    rw [List.cons_append, List.singleton_append, stringExtent?.eq_4 _ _ _ _ hpair, if_neg hescape,
      if_pos rfl]
    rfl
  | escapedPair =>
    simp only [List.cons_append, List.nil_append, stringExtent?.eq_def quote ('\\' :: _),
      if_neg hescape]
    rfl

/-- The extent of a string that a text starts with. -/
theorem StartsLiteral.stringExtent?_eq {items : List (List Char)}
    (hmark : isQuoteMark quote = true)
    (h : StartsLiteral (StringItem quote) quote items (quote :: cs)) :
    stringExtent? quote cs = some (items.flatten.length + 1) := by
  obtain ⟨hitems, rest, rfl⟩ := startsLiteral_cons_iff.1 h
  rw [(itemsApart_string hmark).extent?_flatten (stringExtent?_item hmark) hitems,
    stringExtent?.eq_def]
  simp [Nat.add_comm]

/-- A text of which a string is read starts with one. -/
theorem exists_startsLiteral_of_stringExtent? {n : Nat} (h : stringExtent? quote cs = some n) :
    ∃ items, StartsLiteral (StringItem quote) quote items (quote :: cs) := by
  simp only [startsLiteral_cons_iff]
  fun_induction stringExtent? quote cs generalizing n with
  | case1 => cases h
  | case2 cs => exact ⟨[], by simp, cs, rfl⟩
  | case3 => cases h
  | case4 hne rest ih =>
    obtain ⟨m, hm, -⟩ := Option.map_eq_some_iff.1 h
    obtain ⟨items, hitems, behind, rfl⟩ := ih hm
    exact ⟨_ :: items, List.forall_mem_cons.2 ⟨.escapedPair, hitems⟩, behind, by simp⟩
  | case5 e rest hpair hne ih =>
    obtain ⟨m, hm, -⟩ := Option.map_eq_some_iff.1 h
    obtain ⟨items, hitems, behind, rfl⟩ := ih hm
    exact ⟨_ :: items, List.forall_mem_cons.2 ⟨.escape e, hitems⟩, behind, by simp⟩
  | case6 => cases h
  | case7 c cs hne hback hline ih =>
    obtain ⟨m, hm, -⟩ := Option.map_eq_some_iff.1 h
    obtain ⟨items, hitems, behind, rfl⟩ := ih hm
    have hitem : StringItem quote [c] := .plain hne hback (by simpa using hline)
    exact ⟨_ :: items, List.forall_mem_cons.2 ⟨hitem, hitems⟩, behind, by simp⟩

/-- **The extent of a string follows its grammar**: a string is read just where a text starts with
one, and it is all of that. -/
theorem stringExtent?_eq_some_iff (hmark : isQuoteMark quote = true) {n : Nat} :
    stringExtent? quote cs = some n ↔ ∃ items,
      StartsLiteral (StringItem quote) quote items (quote :: cs) ∧
      n + 1 = (enclosed quote items).length := by
  constructor
  · intro h
    obtain ⟨items, hstarts⟩ := exists_startsLiteral_of_stringExtent? h
    rw [hstarts.stringExtent?_eq hmark] at h
    exact ⟨items, hstarts, by rw [length_enclosed, ← Option.some.inj h]⟩
  · rintro ⟨items, hstarts, hn⟩
    rw [length_enclosed] at hn
    rw [hstarts.stringExtent?_eq hmark, Nat.add_right_cancel hn]

end

end ImportScan
