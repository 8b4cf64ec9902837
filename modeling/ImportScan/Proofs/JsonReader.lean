import ImportScan.Proofs.JsonText

/-!
# Reading a JSON value

A reader for the values that are written, whose numbers are natural.  It takes any blanks between
tokens and any escapes in strings, and it wants one value and nothing behind it.

## Main definitions

* `readValue?` — a value at the start of some tokens.
* `JsonValue.read?` — the value of a text.

## Main results

* `readValue?_lexemes` — a value is read from its tokens, up to the last of them.
* `JsonValue.read?_pretty` — **a value is read back from its text**.
-/

namespace ImportScan

open JsonValue

mutual

/-- Read a value.  Here and below `fuel` bounds the number of tokens. -/
def readValue? : Nat → List JsonLexeme → Option (JsonValue × List JsonLexeme)
  | fuel + 1, l :: ls =>
    match l with
    | .number n => some (.number n, ls)
    | .token .null => some (.null, ls)
    | .token (.bool b) => some (.bool b, ls)
    | .token (.string s) => s.map fun s => (.string s, ls)
    | .token .openBracket => (readItems? fuel ls).map fun r => (.array r.1, r.2)
    | .token .openBrace => (readMembers? fuel ls).map fun r => (.object r.1, r.2)
    | .token _ => none
  | _, _ => none

/-- Read the items of an array, up to its end. -/
def readItems? : Nat → List JsonLexeme → Option (List JsonValue × List JsonLexeme)
  | _, .token .closeBracket :: ls => some ([], ls)
  | fuel + 1, ls => do
    let (v, ls) ← readValue? fuel ls
    let (items, ls) ← readMoreItems? fuel ls
    return (v :: items, ls)
  | 0, _ => none

/-- Read the items of an array behind the first one, up to its end. -/
def readMoreItems? : Nat → List JsonLexeme → Option (List JsonValue × List JsonLexeme)
  | _, .token .closeBracket :: ls => some ([], ls)
  | fuel + 1, .token .comma :: ls => do
    let (v, ls) ← readValue? fuel ls
    let (items, ls) ← readMoreItems? fuel ls
    return (v :: items, ls)
  | _, _ => none

/-- Read the members of an object, up to its end. -/
def readMembers? : Nat → List JsonLexeme → Option (List (String × JsonValue) × List JsonLexeme)
  | _, .token .closeBrace :: ls => some ([], ls)
  | fuel + 1, .token (.string (some name)) :: .token .colon :: ls => do
    let (v, ls) ← readValue? fuel ls
    let (members, ls) ← readMoreMembers? fuel ls
    return ((name, v) :: members, ls)
  | _, _ => none

/-- Read the members of an object behind the first one, up to its end. -/
def readMoreMembers? : Nat → List JsonLexeme → Option (List (String × JsonValue) × List JsonLexeme)
  | _, .token .closeBrace :: ls => some ([], ls)
  | fuel + 1, .token .comma :: .token (.string (some name)) :: .token .colon :: ls => do
    let (v, ls) ← readValue? fuel ls
    let (members, ls) ← readMoreMembers? fuel ls
    return ((name, v) :: members, ls)
  | _, _ => none

end

/-- The value of a text, behind which only blanks may follow. -/
def JsonValue.read? (s : String) : Option JsonValue :=
  match readValue? (jsonLexemes s).length (jsonLexemes s) with
  | some (v, []) => some v
  | _ => none

/-! ### Reading what has been written -/

theorem exists_lexemes_eq_cons (v : JsonValue) :
    ∃ l ls, v.lexemes = l :: ls ∧ l ≠ .token .closeBracket := by
  cases v with
  | array items => cases items <;> simp [lexemes]
  | object members =>
    rcases members with _ | ⟨⟨name, v⟩, members⟩ <;> simp [lexemes]
  | _ => simp [lexemes]

theorem length_lexemes_pos (v : JsonValue) : 0 < v.lexemes.length := by
  obtain ⟨l, ls, hcons, -⟩ := exists_lexemes_eq_cons v
  simp [hcons]

theorem length_furtherItems_pos (items : List JsonValue) : 0 < (furtherItems items).length := by
  cases items <;> simp [furtherItems]

theorem length_furtherMembers_pos (members : List (String × JsonValue)) :
    0 < (furtherMembers members).length := by
  rcases members with _ | ⟨⟨name, v⟩, members⟩ <;> simp [furtherMembers]

theorem readItems?_of_readValue? {fuel : Nat} {v : JsonValue} {items : List JsonValue}
    {ls ls' ls'' : List JsonLexeme} (hvalue : readValue? fuel (v.lexemes ++ ls) = some (v, ls'))
    (hmore : readMoreItems? fuel ls' = some (items, ls'')) :
    readItems? (fuel + 1) (v.lexemes ++ ls) = some (v :: items, ls'') := by
  obtain ⟨l, rest, hcons, hne⟩ := exists_lexemes_eq_cons v
  rw [readItems?.eq_2, hvalue]
  · simp [hmore]
  · intro rest' heq
    rw [hcons, List.cons_append] at heq
    exact hne (List.cons.inj heq).1

mutual

/-- A value is read from its tokens, up to the last of them. -/
theorem readValue?_lexemes (v : JsonValue) {fuel : Nat} (hfuel : v.lexemes.length ≤ fuel)
    (ls : List JsonLexeme) : readValue? fuel (v.lexemes ++ ls) = some (v, ls) :=
  match fuel, v with
  | 0, v => absurd hfuel (Nat.not_le_of_gt (length_lexemes_pos v))
  | _ + 1, .null => by simp [lexemes, readValue?]
  | _ + 1, .bool _ => by simp [lexemes, readValue?]
  | _ + 1, .number _ => by simp [lexemes, readValue?]
  | _ + 1, .string _ => by simp [lexemes, readValue?]
  | _ + 1, .array [] => by simp [lexemes, readValue?, readItems?]
  | fuel + 1, .array (v :: items) => by
    rw [lexemes] at hfuel ⊢
    simp only [List.length_cons, List.length_append] at hfuel
    -- the fuel lasts for the value and for what follows it
    have hlength := length_lexemes_pos v
    have hlength' := length_furtherItems_pos items
    obtain ⟨fuel, rfl⟩ : ∃ k, fuel = k + 1 := ⟨fuel - 1, by omega⟩
    have hvalue : readValue? fuel (v.lexemes ++ (furtherItems items ++ ls))
        = some (v, furtherItems items ++ ls) := readValue?_lexemes v (by omega) _
    have hmore : readMoreItems? fuel (furtherItems items ++ ls) = some (items, ls) :=
      readMoreItems?_furtherItems items (by omega) ls
    rw [List.cons_append, List.append_assoc, readValue?]
    simp [readItems?_of_readValue? hvalue hmore]
  | fuel + 1, .object [] => by simp [lexemes, readValue?, readMembers?]
  | fuel + 1, .object ((name, v) :: members) => by
    rw [lexemes] at hfuel ⊢
    simp only [List.length_cons, List.length_append] at hfuel
    have hlength := length_lexemes_pos v
    have hlength' := length_furtherMembers_pos members
    obtain ⟨fuel, rfl⟩ : ∃ k, fuel = k + 1 := ⟨fuel - 1, by omega⟩
    have hvalue : readValue? fuel (v.lexemes ++ (furtherMembers members ++ ls))
        = some (v, furtherMembers members ++ ls) := readValue?_lexemes v (by omega) _
    have hmore : readMoreMembers? fuel (furtherMembers members ++ ls) = some (members, ls) :=
      readMoreMembers?_furtherMembers members (by omega) ls
    simp [readValue?, readMembers?, hvalue, hmore]

/-- The items behind the first one are read up to the end of the array. -/
theorem readMoreItems?_furtherItems (items : List JsonValue) {fuel : Nat}
    (hfuel : (furtherItems items).length ≤ fuel) (ls : List JsonLexeme) :
    readMoreItems? fuel (furtherItems items ++ ls) = some (items, ls) :=
  match fuel, items with
  | _, [] => by simp [furtherItems, readMoreItems?]
  | 0, v :: items => absurd hfuel (Nat.not_le_of_gt (length_furtherItems_pos _))
  | fuel + 1, v :: items => by
    rw [furtherItems] at hfuel ⊢
    simp only [List.length_cons, List.length_append] at hfuel
    have hvalue : readValue? fuel (v.lexemes ++ (furtherItems items ++ ls))
        = some (v, furtherItems items ++ ls) := readValue?_lexemes v (by omega) _
    have hmore : readMoreItems? fuel (furtherItems items ++ ls) = some (items, ls) :=
      readMoreItems?_furtherItems items (by omega) ls
    simp [readMoreItems?, hvalue, hmore]

/-- The members behind the first one are read up to the end of the object. -/
theorem readMoreMembers?_furtherMembers (members : List (String × JsonValue)) {fuel : Nat}
    (hfuel : (furtherMembers members).length ≤ fuel) (ls : List JsonLexeme) :
    readMoreMembers? fuel (furtherMembers members ++ ls) = some (members, ls) :=
  match fuel, members with
  | _, [] => by simp [furtherMembers, readMoreMembers?]
  | 0, m :: members => absurd hfuel (Nat.not_le_of_gt (length_furtherMembers_pos _))
  | fuel + 1, (name, v) :: members => by
    rw [furtherMembers] at hfuel ⊢
    simp only [List.length_cons, List.length_append] at hfuel
    have hvalue : readValue? fuel (v.lexemes ++ (furtherMembers members ++ ls))
        = some (v, furtherMembers members ++ ls) := readValue?_lexemes v (by omega) _
    have hmore : readMoreMembers? fuel (furtherMembers members ++ ls) = some (members, ls) :=
      readMoreMembers?_furtherMembers members (by omega) ls
    simp [readMoreMembers?, hvalue, hmore]

end

/-- **A value is read back from its text**, also with blanks behind it. -/
theorem JsonValue.read?_pretty (v : JsonValue) {tail : String}
    (hblank : ∀ c ∈ tail.toList, isJsonBlank c = true) : read? (v.pretty ++ tail) = some v := by
  have hvalue := readValue?_lexemes v (Nat.le_refl _) []
  rw [List.append_nil] at hvalue
  rw [read?, jsonLexemes_pretty v hblank, hvalue]

end ImportScan
