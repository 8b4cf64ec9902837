import ImportScan.Proofs.Slice
import ImportScan.Text.Utf8

/-!
# The bytes of a text

In UTF-8 a character is one byte that starts it and up to three that continue it.  A character of
ASCII is its own byte, and that byte is found nowhere else; an offset falls between two characters
just where the text ends or a byte starts a character.

## Main definitions

* `isCharBoundary`, `boundaryFrom` — whether a character starts at an offset, and the next offset at
  which one does.

## Main results

* `exists_utf8EncodeChar_eq_cons` — the byte that starts a character, and the ones that continue it.
* `isCharBoundary_iff` — **the bytes tell where a text can be cut**.
-/

namespace ImportScan

@[simp] theorem length_textBytes (cs : List Char) : (textBytes cs).length = byteLength cs := by
  induction cs with
  | nil => rfl
  | cons c cs ih => rw [textBytes_cons, List.length_append, String.length_utf8EncodeChar, ih,
      byteLength_cons]

/-! ### The bytes of a character -/

theorem utf8EncodeChar_ascii {c : Char} (h : c.toNat < 128) :
    String.utf8EncodeChar c = [c.toUInt8] := by
  have hc : c.utf8Size = 1 := by
    rw [Char.utf8Size_eq_one_iff, UInt32.le_iff_toNat_le]
    exact Nat.le_of_lt_succ h
  rw [String.utf8EncodeChar_eq_singleton hc]
  rfl

/-- The bytes of a character beyond ASCII are beyond ASCII. -/
theorem le_toNat_of_mem_utf8EncodeChar {c : Char} (h : 128 ≤ c.toNat) :
    ∀ b ∈ String.utf8EncodeChar c, 128 ≤ b.toNat := by
  have hascii : ¬ c.val.toNat ≤ 127 := Nat.not_le.2 h
  intro b hb
  rw [String.utf8EncodeChar, if_neg hascii] at hb
  split at hb
  · simp only [List.mem_cons, List.not_mem_nil, or_false] at hb
    rcases hb with rfl | rfl <;> rw [UInt8.toNat_ofNat'] <;> omega
  · split at hb
    · simp only [List.mem_cons, List.not_mem_nil, or_false] at hb
      rcases hb with rfl | rfl | rfl <;> rw [UInt8.toNat_ofNat'] <;> omega
    · simp only [List.mem_cons, List.not_mem_nil, or_false] at hb
      rcases hb with rfl | rfl | rfl | rfl <;> rw [UInt8.toNat_ofNat'] <;> omega

theorem toNat_toUInt8 {c : Char} (h : c.toNat < 128) : c.toUInt8.toNat = c.toNat := by
  have hval : c.toUInt8.toNat = c.toNat % 256 := rfl
  omega

/-- A character of ASCII is its own byte.  No other character starts with a byte of ASCII, and none
is continued by one. -/
theorem exists_utf8EncodeChar_eq_cons (c : Char) : ∃ b more,
    String.utf8EncodeChar c = b :: more ∧
    (∀ d : Char, d.toNat < 128 → (b = d.toUInt8 ↔ c = d)) ∧
    ∀ b' ∈ more, ∀ d : Char, d.toNat < 128 → b' ≠ d.toUInt8 := by
  by_cases hascii : c.toNat < 128
  · refine ⟨c.toUInt8, [], utf8EncodeChar_ascii hascii, fun d hd => ⟨fun h => ?_, fun h => h ▸ rfl⟩,
      by simp⟩
    have hsame := congrArg UInt8.toNat h
    rw [toNat_toUInt8 hascii, toNat_toUInt8 hd] at hsame
    exact Char.toNat_inj.1 hsame
  · -- none of its bytes is one of ASCII
    have hne : ∀ b ∈ String.utf8EncodeChar c, ∀ d : Char, d.toNat < 128 → b ≠ d.toUInt8 := by
      rintro b hb d hd rfl
      have hle := le_toNat_of_mem_utf8EncodeChar (Nat.not_lt.1 hascii) _ hb
      rw [toNat_toUInt8 hd] at hle
      omega
    obtain ⟨b, more, hbytes⟩ := List.exists_cons_of_ne_nil (String.utf8EncodeChar_ne_nil (c := c))
    rw [hbytes] at hne
    obtain ⟨hb, hmore⟩ := List.forall_mem_cons.1 hne
    refine ⟨b, more, hbytes, fun d hd => ⟨fun h => absurd h (hb d hd), ?_⟩, hmore⟩
    rintro rfl
    exact absurd hd hascii

/-- A text starts with a character of ASCII just where its bytes start with the one of it. -/
theorem head?_textBytes_eq_some_iff {cs : List Char} {d : Char} (hd : d.toNat < 128) :
    (textBytes cs).head? = some d.toUInt8 ↔ cs.head? = some d := by
  cases cs with
  | nil => simp
  | cons c cs =>
    obtain ⟨b, more, hbytes, hb, -⟩ := exists_utf8EncodeChar_eq_cons c
    rw [textBytes_cons, hbytes, List.cons_append, List.head?_cons, List.head?_cons,
      Option.some.injEq, Option.some.injEq, hb d hd]

/-! ### Boundaries -/

/-- Whether a character starts at an offset, or the text ends there. -/
def isCharBoundary (bytes : List UInt8) (n : Nat) : Bool :=
  match bytes[n]? with
  | some b => decide b.IsUTF8FirstByte
  | none => n == bytes.length

/-- The next offset at which a character starts.  An offset behind the text stays as it is. -/
def boundaryFrom (bytes : List UInt8) (n : Nat) : Nat :=
  if n < bytes.length ∧ isCharBoundary bytes n = false then boundaryFrom bytes (n + 1) else n
termination_by bytes.length - n

theorem boundaryFrom_of_isCharBoundary {bytes : List UInt8} {n : Nat}
    (h : isCharBoundary bytes n = true) : boundaryFrom bytes n = n := by
  rw [boundaryFrom, if_neg (by simp [h])]

theorem isBoundary_nil_iff {n : Nat} : IsBoundary [] n ↔ n = 0 := by
  constructor
  · rintro ⟨before, behind, hcut, rfl⟩
    rw [(List.append_eq_nil_iff.1 hcut.symm).1, byteLength_nil]
  · rintro rfl
    exact isBoundary_zero []

theorem isBoundary_cons_iff {c : Char} {cs : List Char} {n : Nat} :
    IsBoundary (c :: cs) n ↔ n = 0 ∨ ∃ m, n = c.utf8Size + m ∧ IsBoundary cs m := by
  constructor
  · rintro ⟨before, behind, hcut, rfl⟩
    cases before with
    | nil => exact .inl rfl
    | cons d before =>
      obtain ⟨rfl, rfl⟩ := List.cons.inj hcut
      exact .inr ⟨byteLength before, rfl, before, behind, rfl, rfl⟩
  · rintro (rfl | ⟨m, rfl, before, behind, rfl, rfl⟩)
    · exact isBoundary_zero _
    · exact ⟨c :: before, behind, rfl, rfl⟩

theorem isCharBoundary_append (front bytes : List UInt8) (n : Nat) :
    isCharBoundary (front ++ bytes) (front.length + n) = isCharBoundary bytes n := by
  simp [isCharBoundary, List.getElem?_append_right, Bool.beq_eq_decide_eq]

/-- **The bytes tell where a text can be cut.** -/
theorem isCharBoundary_iff {text : List Char} {n : Nat} :
    isCharBoundary (textBytes text) n = true ↔ IsBoundary text n := by
  induction text generalizing n with
  | nil => simp [isCharBoundary, isBoundary_nil_iff]
  | cons c cs ih =>
    rw [isBoundary_cons_iff, textBytes_cons]
    have hsize := String.length_utf8EncodeChar c
    rcases Nat.lt_or_ge n (String.utf8EncodeChar c).length with hn | hn
    · -- only the first byte of a character starts it
      rw [isCharBoundary, List.getElem?_append_left hn, List.getElem?_eq_getElem hn]
      simp only [decide_eq_true_eq, UInt8.isUTF8FirstByte_getElem_utf8EncodeChar]
      constructor
      · exact .inl
      · rintro (h | ⟨m, h, -⟩)
        · exact h
        · omega
    · obtain ⟨m, rfl⟩ := Nat.exists_eq_add_of_le hn
      have hpos := c.utf8Size_pos
      rw [isCharBoundary_append, ih, hsize]
      constructor
      · exact fun h => .inr ⟨m, rfl, h⟩
      · rintro (h | ⟨m', h, hm'⟩)
        · omega
        · rwa [Nat.add_left_cancel h]

end ImportScan
