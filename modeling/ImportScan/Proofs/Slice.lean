import ImportScan.Partition

/-!
# Slices

The ends of a slice are offsets in bytes, and there is a slice between two offsets only if both of
them fall between two characters.  Cutting a text somewhere is therefore the same as writing it as
one list of characters behind another, and everything about slices follows from that.

## Main definitions

* `IsBoundary` — an offset at which a text can be cut.

## Main results

* `slice?_eq_some_iff` — what a slice is, in terms of the text before and behind it.
* `slice?_append` — the piece in the middle of a text.
* `slice?_join` — two slices that meet make up one.
* `exists_slice?` — between two boundaries there is a slice.
-/

namespace ImportScan

/-! ### Bytes -/

theorem length_le_byteLength (cs : List Char) : cs.length ≤ byteLength cs := by
  induction cs with
  | nil => simp
  | cons c cs ih =>
    have hpos := c.utf8Size_pos
    simp only [byteLength_cons, List.length_cons]
    omega

theorem byteLength_pos {cs : List Char} (h : cs ≠ []) : 0 < byteLength cs :=
  Nat.lt_of_lt_of_le (List.length_pos_iff.2 h) (length_le_byteLength cs)

@[simp] theorem byteLength_eq_zero {cs : List Char} : byteLength cs = 0 ↔ cs = [] := by
  cases cs with
  | nil => simp
  | cons c cs =>
    have hpos := c.utf8Size_pos
    simp only [byteLength_cons, reduceCtorEq, iff_false]
    omega

/-! ### The first bytes of a text -/

theorem dropBytes?_eq_some_iff {n : Nat} {cs ds : List Char} :
    dropBytes? n cs = some ds ↔ ∃ as, cs = as ++ ds ∧ byteLength as = n := by
  induction cs generalizing n with
  | nil =>
    cases n with
    | zero =>
      simp only [dropBytes?, Option.some.injEq]
      constructor
      · rintro rfl
        exact ⟨[], rfl, rfl⟩
      · rintro ⟨as, hcut, -⟩
        exact (List.append_eq_nil_iff.1 hcut.symm).2.symm
    | succ n => simp [dropBytes?]
  | cons c cs ih =>
    cases n with
    | zero => simp [dropBytes?, eq_comm]
    | succ n =>
      rw [dropBytes?]
      split
      -- the character lies before the cut
      · next hle =>
        rw [ih]
        constructor
        · rintro ⟨as, rfl, has⟩
          exact ⟨c :: as, rfl, by rw [byteLength_cons, has]; omega⟩
        · rintro ⟨as, hcut, has⟩
          cases as with
          | nil => simp at has
          | cons a as =>
            obtain ⟨rfl, rfl⟩ := List.cons.inj hcut
            exact ⟨as, rfl, by rw [byteLength_cons] at has; omega⟩
      -- the cut falls inside the character
      · next hlt =>
        simp only [reduceCtorEq, false_iff, not_exists, not_and]
        intro as hcut has
        cases as with
        | nil => simp at has
        | cons a as =>
          obtain ⟨rfl, rfl⟩ := List.cons.inj hcut
          rw [byteLength_cons] at has
          omega

theorem takeBytes?_eq_some_iff {n : Nat} {cs as : List Char} :
    takeBytes? n cs = some as ↔ ∃ ds, cs = as ++ ds ∧ byteLength as = n := by
  induction cs generalizing n as with
  | nil =>
    cases n with
    | zero =>
      simp only [takeBytes?, Option.some.injEq]
      constructor
      · rintro rfl
        exact ⟨[], rfl, rfl⟩
      · rintro ⟨ds, hcut, -⟩
        exact (List.append_eq_nil_iff.1 hcut.symm).1.symm
    | succ n =>
      simp only [takeBytes?, reduceCtorEq, false_iff, not_exists, not_and]
      intro ds hcut has
      simp [(List.append_eq_nil_iff.1 hcut.symm).1] at has
  | cons c cs ih =>
    cases n with
    | zero =>
      simp only [takeBytes?, Option.some.injEq]
      constructor
      · rintro rfl
        exact ⟨c :: cs, rfl, rfl⟩
      · rintro ⟨ds, -, has⟩
        exact (byteLength_eq_zero.1 has).symm
    | succ n =>
      rw [takeBytes?]
      split
      -- the character lies before the cut
      · next hle =>
        rw [Option.map_eq_some_iff]
        constructor
        · rintro ⟨bs, hbs, rfl⟩
          obtain ⟨ds, rfl, hlen⟩ := ih.1 hbs
          exact ⟨ds, rfl, by rw [byteLength_cons, hlen]; omega⟩
        · rintro ⟨ds, hcut, has⟩
          cases as with
          | nil => simp at has
          | cons a as =>
            obtain ⟨rfl, rfl⟩ := List.cons.inj hcut
            exact ⟨as, ih.2 ⟨ds, rfl, by rw [byteLength_cons] at has; omega⟩, rfl⟩
      -- the cut falls inside the character
      · next hlt =>
        simp only [reduceCtorEq, false_iff, not_exists, not_and]
        intro ds hcut has
        cases as with
        | nil => simp at has
        | cons a as =>
          obtain ⟨rfl, rfl⟩ := List.cons.inj hcut
          rw [byteLength_cons] at has
          omega

/-! ### Slices -/

/-- A slice is a piece of the text, with the right number of bytes before it. -/
theorem slice?_eq_some_iff {text cs : List Char} {a b : Nat} (h : a ≤ b) :
    slice? text ⟨a, b⟩ = some cs ↔
      ∃ before behind, text = before ++ (cs ++ behind) ∧ byteLength before = a ∧
        byteLength before + byteLength cs = b := by
  unfold slice? Span.length
  rw [Option.bind_eq_some_iff]
  constructor
  · rintro ⟨rest, hdrop, htake⟩
    obtain ⟨before, rfl, hbefore⟩ := dropBytes?_eq_some_iff.1 hdrop
    obtain ⟨behind, rfl, hcs⟩ := takeBytes?_eq_some_iff.1 htake
    exact ⟨before, behind, rfl, hbefore, by dsimp only at hcs hbefore; omega⟩
  · rintro ⟨before, behind, rfl, hbefore, hcs⟩
    refine ⟨cs ++ behind, dropBytes?_eq_some_iff.2 ⟨before, rfl, hbefore⟩,
      takeBytes?_eq_some_iff.2 ⟨behind, rfl, ?_⟩⟩
    dsimp only
    omega

theorem slice?_append (before cs behind : List Char) :
    slice? (before ++ (cs ++ behind)) ⟨byteLength before, byteLength before + byteLength cs⟩
      = some cs :=
  (slice?_eq_some_iff (Nat.le_add_right _ _)).2 ⟨before, behind, rfl, rfl, rfl⟩

theorem slice?_self (text : List Char) : slice? text ⟨0, byteLength text⟩ = some text := by
  simpa using slice?_append [] text []

/-! ### Boundaries -/

/-- An offset at which a text can be cut: it falls between two characters or at an end. -/
def IsBoundary (text : List Char) (n : Nat) : Prop :=
  ∃ before behind, text = before ++ behind ∧ byteLength before = n

/-- Of two ways to cut a text, the one that leaves fewer bytes before the cut leaves a beginning of
what the other leaves. -/
theorem exists_append_of_byteLength_le {as bs cs ds : List Char} (h : as ++ bs = cs ++ ds)
    (hle : byteLength as ≤ byteLength cs) : ∃ es, cs = as ++ es ∧ bs = es ++ ds := by
  obtain ⟨es, hcs, hbs⟩ | ⟨es, has, hds⟩ := List.append_eq_append_iff.1 h
  · exact ⟨es, hcs, hbs⟩
  · -- the extra characters take no bytes, so there are none
    have hnil : es = [] := by
      rw [← byteLength_eq_zero]
      rw [has, byteLength_append] at hle
      omega
    exact ⟨[], by simp [has, hnil], by simp [hds, hnil]⟩

theorem exists_slice? {text : List Char} {a b : Nat} (ha : IsBoundary text a)
    (hb : IsBoundary text b) (hab : a ≤ b) : ∃ cs, slice? text ⟨a, b⟩ = some cs := by
  obtain ⟨before, rest, rfl, rfl⟩ := ha
  obtain ⟨upTo, behind, hcut, rfl⟩ := hb
  obtain ⟨cs, rfl, rfl⟩ := exists_append_of_byteLength_le hcut hab
  exact ⟨cs, by simpa using slice?_append before cs behind⟩

theorem isBoundary_zero (text : List Char) : IsBoundary text 0 := ⟨[], text, rfl, rfl⟩

theorem isBoundary_byteLength (text : List Char) : IsBoundary text (byteLength text) :=
  ⟨text, [], by simp, rfl⟩

theorem isBoundary_le {text : List Char} {n : Nat} (h : IsBoundary text n) :
    n ≤ byteLength text := by
  obtain ⟨before, behind, rfl, rfl⟩ := h
  simp

theorem isBoundary_start_of_slice? {text cs : List Char} {a b : Nat} (hab : a ≤ b)
    (h : slice? text ⟨a, b⟩ = some cs) : IsBoundary text a := by
  obtain ⟨before, behind, rfl, ha, -⟩ := (slice?_eq_some_iff hab).1 h
  exact ⟨before, cs ++ behind, rfl, ha⟩

theorem isBoundary_stop_of_slice? {text cs : List Char} {a b : Nat} (hab : a ≤ b)
    (h : slice? text ⟨a, b⟩ = some cs) : IsBoundary text b := by
  obtain ⟨before, behind, rfl, -, hb⟩ := (slice?_eq_some_iff hab).1 h
  exact ⟨before ++ cs, behind, by simp, by simpa using hb⟩

/-- Two slices that meet make up the slice between their outer ends. -/
theorem slice?_join {text cs ds : List Char} {a b c : Nat} (hab : a ≤ b) (hbc : b ≤ c)
    (h₁ : slice? text ⟨a, b⟩ = some cs) (h₂ : slice? text ⟨b, c⟩ = some ds) :
    slice? text ⟨a, c⟩ = some (cs ++ ds) := by
  obtain ⟨before, rest, rfl, ha, hb⟩ := (slice?_eq_some_iff hab).1 h₁
  obtain ⟨upTo, behind, hcut, hb', hc⟩ := (slice?_eq_some_iff hbc).1 h₂
  -- both cuts at `b` are the same cut
  have hsame : upTo = before ++ cs ∧ rest = ds ++ behind := by
    have hlen : (before ++ cs) ++ rest = upTo ++ (ds ++ behind) := by simpa using hcut
    obtain ⟨es, hupTo, hrest⟩ := exists_append_of_byteLength_le hlen (by simp; omega)
    have hnil : es = [] := by
      rw [← byteLength_eq_zero]
      rw [hupTo] at hb'
      simp only [byteLength_append] at hb'
      omega
    exact ⟨by simpa [hnil] using hupTo, by simpa [hnil] using hrest⟩
  rw [slice?_eq_some_iff (Nat.le_trans hab hbc)]
  refine ⟨before, behind, by simp [hsame.2], ha, ?_⟩
  rw [hsame.1] at hc
  simp only [byteLength_append] at hc ⊢
  omega

/-- A slice has as many bytes as its span. -/
theorem byteLength_of_slice? {text cs : List Char} {a b : Nat} (hab : a ≤ b)
    (h : slice? text ⟨a, b⟩ = some cs) : a + byteLength cs = b := by
  obtain ⟨before, behind, -, ha, hb⟩ := (slice?_eq_some_iff hab).1 h
  omega

end ImportScan
