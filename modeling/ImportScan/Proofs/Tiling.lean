import ImportScan.Proofs.Slice

/-!
# Spans and tilings

Tokens, statements and segments all lie in the text one behind the other.  Statements may have
something between them; tokens and segments make up the whole text.

## Main definitions

* `Ascends` — spans that are not empty and follow one another without overlap.
* `Span.Apart` — two spans that have nothing in common.
* `Tiles` — pieces that make up a text between two offsets.

## Main results

* `Ascends.sublist` — leaving spans out keeps the others in order.
* `Tiles.slice?`, `Tiles.join` — pieces that tile a text make it up.
* `Tiles.start_add_length_le` — there are no more pieces than bytes.
-/

namespace ImportScan

/-! ### Spans that follow one another -/

/-- The spans lie between two offsets, none of them is empty, and each starts where the one before
it ends or behind that. -/
def Ascends : Nat → List Span → Nat → Prop
  | start, [], stop => start ≤ stop
  | start, s :: ss, stop => start ≤ s.start ∧ s.start < s.stop ∧ Ascends s.stop ss stop

/-- Two spans have nothing in common: one of them ends before the other one starts. -/
def Span.Apart (r s : Span) : Prop := r.stop ≤ s.start ∨ s.stop ≤ r.start

namespace Ascends

variable {start start' middle stop : Nat} {ss rs : List Span}

theorem le (h : Ascends start ss stop) : start ≤ stop := by
  induction ss generalizing start with
  | nil => exact h
  | cons s ss ih =>
    obtain ⟨hstart, hlt, hrest⟩ := h
    have hle := ih hrest
    omega

theorem mono (h : Ascends start ss stop) (hle : start' ≤ start) : Ascends start' ss stop := by
  cases ss with
  | nil => exact Nat.le_trans hle h
  | cons s ss => exact ⟨Nat.le_trans hle h.1, h.2⟩

theorem append (h₁ : Ascends start ss middle) (h₂ : Ascends middle rs stop) :
    Ascends start (ss ++ rs) stop := by
  induction ss generalizing start with
  | nil => exact h₂.mono h₁
  | cons s ss ih => exact ⟨h₁.1, h₁.2.1, ih h₁.2.2⟩

theorem sublist (h : Ascends start ss stop) (hsub : rs.Sublist ss) : Ascends start rs stop := by
  induction hsub generalizing start with
  | slnil => exact h
  | cons s hsub ih =>
    obtain ⟨hstart, hlt, hrest⟩ := h
    exact (ih hrest).mono (by omega)
  | cons_cons s hsub ih => exact ⟨h.1, h.2.1, ih h.2.2⟩

/-- Every one of the spans lies between the two offsets and is not empty. -/
theorem of_mem (h : Ascends start ss stop) {s : Span} (hs : s ∈ ss) :
    start ≤ s.start ∧ s.start < s.stop ∧ s.stop ≤ stop := by
  induction ss generalizing start with
  | nil => cases hs
  | cons r ss ih =>
    obtain ⟨hstart, hlt, hrest⟩ := h
    rcases List.mem_cons.1 hs with rfl | hs
    · exact ⟨hstart, hlt, hrest.le⟩
    · obtain ⟨hs₁, hs₂, hs₃⟩ := ih hrest hs
      exact ⟨by omega, hs₂, hs₃⟩

theorem pairwise_stop_le (h : Ascends start ss stop) :
    ss.Pairwise fun r s => r.start < r.stop ∧ r.stop ≤ s.start := by
  induction ss generalizing start with
  | nil => exact .nil
  | cons s ss ih =>
    obtain ⟨-, hlt, hrest⟩ := h
    exact .cons (fun r hr => ⟨hlt, (hrest.of_mem hr).1⟩) (ih hrest)

theorem pairwise_precedes (h : Ascends start ss stop) :
    ss.Pairwise fun r s => r.precedes s = true := by
  refine h.pairwise_stop_le.imp fun hle => ?_
  simp only [Span.precedes, Bool.or_eq_true, decide_eq_true_eq]
  exact .inl (Nat.lt_of_lt_of_le hle.1 hle.2)

theorem pairwise_apart (h : Ascends start ss stop) : ss.Pairwise Span.Apart :=
  h.pairwise_stop_le.imp fun hle => .inl hle.2

end Ascends

/-! ### Pieces that tile a text -/

/-- A piece of a text: its span and what stands there. -/
abbrev TextPiece := Span × String

/-- The pieces make up the text between two offsets: each starts where the one before it ends, is
not empty, and is the slice of the text at its span. -/
def Tiles (text : List Char) : Nat → List TextPiece → Nat → Prop
  | start, [], stop => start = stop ∧ IsBoundary text start
  | start, (span, s) :: pieces, stop =>
    span.start = start ∧ span.start < span.stop ∧ slice? text span = some s.toList ∧
      Tiles text span.stop pieces stop

namespace Tiles

variable {text : List Char} {start middle stop : Nat} {pieces more : List TextPiece}

theorem append (h₁ : Tiles text start pieces middle) (h₂ : Tiles text middle more stop) :
    Tiles text start (pieces ++ more) stop := by
  induction pieces generalizing start with
  | nil =>
    obtain ⟨rfl, -⟩ := h₁
    exact h₂
  | cons piece pieces ih => exact ⟨h₁.1, h₁.2.1, h₁.2.2.1, ih h₁.2.2.2⟩

theorem singleton {span : Span} {s : String} (hlt : span.start < span.stop)
    (hslice : slice? text span = some s.toList) :
    Tiles text span.start [(span, s)] span.stop :=
  ⟨rfl, hlt, hslice, rfl, isBoundary_stop_of_slice? (Nat.le_of_lt hlt) hslice⟩

theorem ascends (h : Tiles text start pieces stop) :
    Ascends start (pieces.map Prod.fst) stop := by
  induction pieces generalizing start with
  | nil => exact Nat.le_of_eq h.1
  | cons piece pieces ih => exact ⟨Nat.le_of_eq h.1.symm, h.2.1, ih h.2.2.2⟩

/-- Every piece has at least one byte. -/
theorem start_add_length_le (h : Tiles text start pieces stop) :
    start + pieces.length ≤ stop := by
  induction pieces generalizing start with
  | nil => simp [h.1]
  | cons piece pieces ih =>
    obtain ⟨hstart, hlt, -, hrest⟩ := h
    have hle := ih hrest
    rw [List.length_cons]
    omega

theorem le (h : Tiles text start pieces stop) : start ≤ stop :=
  Nat.le_trans (Nat.le_add_right _ _) h.start_add_length_le

/-- Pieces that tile a text make up its slice between the two offsets. -/
theorem slice? (h : Tiles text start pieces stop) :
    slice? text ⟨start, stop⟩ = some (pieces.flatMap fun p => p.2.toList) := by
  induction pieces generalizing start with
  | nil =>
    obtain ⟨rfl, before, behind, rfl, rfl⟩ := h
    simpa using slice?_append before [] behind
  | cons piece pieces ih =>
    obtain ⟨rfl, hlt, hslice, hrest⟩ := h
    rw [List.flatMap_cons]
    exact slice?_join (Nat.le_of_lt hlt) hrest.le hslice (ih hrest)

theorem join (h : Tiles text 0 pieces (byteLength text)) :
    String.join (pieces.map Prod.snd) = String.ofList text := by
  have hwhole := h.slice?.symm.trans (slice?_self text)
  rw [← String.toList_inj, String.toList_join, String.toList_ofList, List.flatMap_map]
  exact Option.some.inj hwhole

theorem start_add_bytes (h : Tiles text start pieces stop) :
    start + stringBytes (String.join (pieces.map Prod.snd)) = stop := by
  have hbytes := byteLength_of_slice? h.le h.slice?
  rw [stringBytes, String.toList_join, List.flatMap_map]
  exact hbytes

theorem stop_le (h : Tiles text start pieces stop) : stop ≤ byteLength text :=
  isBoundary_le (isBoundary_stop_of_slice? h.le h.slice?)

end Tiles

end ImportScan
