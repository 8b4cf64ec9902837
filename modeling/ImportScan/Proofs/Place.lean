import Mathlib.Data.List.DropRight
import ImportScan.Proofs.Slice
import ImportScan.Text.Lines

/-!
# Places by the text alone

A lexer counts lines and columns as it goes, and an issue shows a line that is found by counting line
ends anew.  Both counts are compared here with a third one that looks at nothing but the text before
the place.  All of them agree, unless the place is in the middle of a line end of two characters.

## Main definitions

* `lineEnds`, `lastLine` — how many lines a text ends, and the line that it leaves open.
* `placeBehind` — the place behind some text.
* `SplitsLineEnd` — a cut between a carriage return and a line feed.
* `Location.Marks` — a location is the place between two parts of a text, and the line shown for it
  is the line around the cut.

## Main results

* `Location.advance_start` — counting on from the start of a text gives the place behind it.
* `sourceLine_append` — **the line around a cut, found by the number of line ends before it**.
* `Location.marks_placeBehind` — the place behind some text marks what follows.
-/

namespace ImportScan

/-! ### Lines -/

/-- The number of line ends of a text.  A carriage return and a line feed make up one. -/
def lineEnds : List Char → Nat
  | [] => 0
  | '\r' :: '\n' :: rest => lineEnds rest + 1
  | c :: rest => if isLineEnd c then lineEnds rest + 1 else lineEnds rest

/-- The text behind the last line end. -/
def lastLine (text : List Char) : List Char := text.rtakeWhile fun c => !isLineEnd c

theorem lineEnds_eq_zero_iff {text : List Char} :
    lineEnds text = 0 ↔ ∀ c ∈ text, isLineEnd c = false := by
  fun_induction lineEnds text with
  | case1 => simp
  | case2 rest ih =>
    have hcr : isLineEnd '\r' = true := by decide
    simp [hcr]
  | case3 c rest hpair hc ih => simp [hc]
  | case4 c rest hpair hc ih => simp [hc, ih]

theorem lastLine_of_lineEnds_eq_zero {text : List Char} (h : lineEnds text = 0) :
    lastLine text = text := by
  rw [lastLine, List.rtakeWhile_eq_self_iff]
  intro c hc
  simp [lineEnds_eq_zero_iff.1 h c hc]

/-- What stands before a line end does not belong to the last line. -/
theorem lastLine_append_cons {c : Char} (hc : isLineEnd c = true) (before rest : List Char) :
    lastLine (before ++ c :: rest) = lastLine rest := by
  unfold lastLine List.rtakeWhile
  rw [List.reverse_append, List.reverse_cons, List.append_assoc, List.takeWhile_append]
  split
  · next hall =>
    have hself := (List.takeWhile_prefix _).eq_of_length hall
    simp [hc, hself]
  · rfl

theorem lastLine_cons {c : Char} (hc : isLineEnd c = true) (rest : List Char) :
    lastLine (c :: rest) = lastLine rest :=
  lastLine_append_cons hc [] rest

/-- A character belongs to the last line only if no line end follows it. -/
theorem lastLine_cons_of_lineEnds_ne_zero {rest : List Char} (h : lineEnds rest ≠ 0) (c : Char) :
    lastLine (c :: rest) = lastLine rest := by
  rw [Ne, lineEnds_eq_zero_iff] at h
  simp only [not_forall, Bool.not_eq_false] at h
  obtain ⟨e, he, hend⟩ := h
  obtain ⟨before, behind, rfl⟩ := List.append_of_mem he
  rw [← List.cons_append, lastLine_append_cons hend, lastLine_append_cons hend]

/-! ### The place behind a text -/

/-- The place behind some text, by the text alone: its line ends, the characters behind the last one,
and all its bytes are counted. -/
def placeBehind (passed : List Char) : Location :=
  ⟨lineEnds passed + 1, (lastLine passed).length + 1, byteLength passed⟩

namespace Location

theorem step_of_endsLine {c : Char} {rest : List Char} (h : endsLine c rest = true)
    (loc : Location) : loc.step c rest = ⟨loc.line + 1, 1, loc.offset + c.utf8Size⟩ := by
  rw [step, if_pos h]

theorem step_of_not_endsLine {c : Char} {rest : List Char} (h : endsLine c rest = false)
    (loc : Location) :
    loc.step c rest = ⟨loc.line, loc.column + 1, loc.offset + c.utf8Size⟩ := by
  rw [step, if_neg (by simp [h])]

/-- Counting on from any place. -/
theorem advance_eq (loc : Location) (passed : List Char) :
    loc.advance passed = ⟨loc.line + lineEnds passed,
      if lineEnds passed = 0 then loc.column + passed.length else (lastLine passed).length + 1,
      loc.offset + byteLength passed⟩ := by
  fun_induction lineEnds passed generalizing loc with
  | case1 => simp
  | case2 rest ih =>
    -- the carriage return is one more column, and the line feed ends the line
    have hcr : endsLine '\r' ('\n' :: rest) = false := by simp [endsLine]
    have hlf : endsLine '\n' rest = true := by simp [endsLine, isLineEnd]
    have hlast : lastLine ('\r' :: '\n' :: rest) = lastLine rest := by
      rw [lastLine_cons (by decide), lastLine_cons (by decide)]
    rw [advance_cons, advance_cons, step_of_not_endsLine hcr, step_of_endsLine hlf, ih, hlast]
    by_cases hrest : lineEnds rest = 0
    · simp [hrest, lastLine_of_lineEnds_eq_zero hrest]
      omega
    · simp [hrest]
      omega
  | case3 c rest hpair hc ih =>
    have hends : endsLine c rest = true := by
      have hcr : ¬ (c = '\r' ∧ rest.head? = some '\n') := by
        rintro ⟨rfl, hhead⟩
        obtain ⟨rest, rfl⟩ := List.head?_eq_some_iff.1 hhead
        exact hpair rest rfl rfl
      simp [endsLine, hc, not_and_or.1 hcr]
    rw [advance_cons, step_of_endsLine hends, ih, lastLine_cons hc]
    by_cases hrest : lineEnds rest = 0
    · simp [hrest, lastLine_of_lineEnds_eq_zero hrest]
      omega
    · simp [hrest]
      omega
  | case4 c rest hpair hc ih =>
    have hends : endsLine c rest = false := by simp [endsLine, hc]
    rw [advance_cons, step_of_not_endsLine hends, ih]
    by_cases hrest : lineEnds rest = 0
    · simp [hrest]
      omega
    · simp [hrest, lastLine_cons_of_lineEnds_ne_zero hrest]
      omega

/-- **Counting on from the start of a text gives the place behind it.** -/
theorem advance_start (passed : List Char) : start.advance passed = placeBehind passed := by
  rw [advance_eq, placeBehind]
  by_cases h : lineEnds passed = 0
  · simp [start, h, lastLine_of_lineEnds_eq_zero h]
    omega
  · simp [start, h]
    omega

end Location

/-! ### The line around a place -/

/-- A cut falls between a carriage return and a line feed. -/
def SplitsLineEnd (before behind : List Char) : Prop :=
  before.getLast? = some '\r' ∧ behind.head? = some '\n'

theorem not_splitsLineEnd_nil_left (behind : List Char) : ¬ SplitsLineEnd [] behind := by
  rintro ⟨hlast, -⟩
  cases hlast

theorem not_splitsLineEnd_of_getLast? {before behind : List Char} {c : Char}
    (h : before.getLast? = some c) (hc : c ≠ '\r') : ¬ SplitsLineEnd before behind := by
  rintro ⟨hlast, -⟩
  exact hc (Option.some.inj (h.symm.trans hlast))

/-- A cut in the rest of a text does not split a line end if the same cut in the whole text does not. -/
theorem not_splitsLineEnd_tail {c : Char} {before behind : List Char}
    (h : ¬ SplitsLineEnd (c :: before) behind) : ¬ SplitsLineEnd before behind := by
  rintro ⟨hlast, hhead⟩
  refine h ⟨?_, hhead⟩
  cases before with
  | nil => cases hlast
  | cons d before => rwa [List.getLast?_cons_cons]

theorem afterLine_of_isLineEnd {c : Char} {rest : List Char} (hc : isLineEnd c = true)
    (hpair : ¬ (c = '\r' ∧ rest.head? = some '\n')) : afterLine (c :: rest) = some rest := by
  unfold afterLine
  split
  · next heq => cases heq
  · next heq =>
    obtain ⟨rfl, rfl⟩ := List.cons.inj heq
    exact absurd ⟨rfl, rfl⟩ hpair
  · next heq =>
    obtain ⟨rfl, rfl⟩ := List.cons.inj heq
    rw [if_pos hc]

theorem afterLine_of_not_isLineEnd {c : Char} {rest : List Char} (hc : isLineEnd c = false) :
    afterLine (c :: rest) = afterLine rest := by
  rw [afterLine.eq_def]
  split
  · next heq => cases heq
  · next heq =>
    obtain ⟨rfl, rfl⟩ := List.cons.inj heq
    cases hc
  · next heq =>
    obtain ⟨rfl, rfl⟩ := List.cons.inj heq
    rw [if_neg (by simp [hc])]

/-- The line around a cut, found by going behind as many line ends as there are before the cut. -/
theorem lineAfter_append {before behind : List Char} (h : ¬ SplitsLineEnd before behind) :
    lineAfter (lineEnds before) (before ++ behind) = lastLine before ++ firstLine behind := by
  fun_induction lineEnds before with
  | case1 => rfl
  | case2 rest ih =>
    have hlast : lastLine ('\r' :: '\n' :: rest) = lastLine rest := by
      rw [lastLine_cons (by decide), lastLine_cons (by decide)]
    rw [hlast, ← ih (not_splitsLineEnd_tail (not_splitsLineEnd_tail h))]
    rfl
  | case3 c rest hpair hc ih =>
    have hcut : ¬ (c = '\r' ∧ (rest ++ behind).head? = some '\n') := by
      rintro ⟨rfl, hhead⟩
      cases rest with
      | nil => exact h ⟨rfl, hhead⟩
      | cons d rest =>
        obtain rfl := Option.some.inj hhead
        exact hpair rest rfl rfl
    rw [lastLine_cons hc, ← ih (not_splitsLineEnd_tail h), List.cons_append, lineAfter,
      afterLine_of_isLineEnd hc hcut]
  | case4 c rest hpair hc ih =>
    have hc : isLineEnd c = false := by simpa using hc
    have ih := ih (not_splitsLineEnd_tail h)
    cases hrest : lineEnds rest with
    | zero =>
      -- the cut is on the first line
      have hone : lineEnds (c :: rest) = 0 := by
        rw [lineEnds_eq_zero_iff] at hrest ⊢
        simpa [hc] using hrest
      rw [hrest, lastLine_of_lineEnds_eq_zero hrest] at ih
      rw [lastLine_of_lineEnds_eq_zero hone]
      show firstLine (c :: (rest ++ behind)) = _
      rw [firstLine, List.takeWhile_cons_of_pos (by simp [hc])]
      exact congrArg (c :: ·) ih
    | succ n =>
      have hne : lineEnds rest ≠ 0 := by omega
      rw [hrest] at ih
      rw [lastLine_cons_of_lineEnds_ne_zero hne, ← ih, List.cons_append, lineAfter, lineAfter,
        afterLine_of_not_isLineEnd hc]

/-- **The line around a cut is the one with the number of its place.** -/
theorem sourceLine_append {before behind : List Char} (h : ¬ SplitsLineEnd before behind) :
    sourceLine (before ++ behind) (placeBehind before).line = lastLine before ++ firstLine behind :=
  lineAfter_append h

/-- The location is the place between two parts of a text.  It can be told from the text before it,
and the line that is shown for it is the line around the cut, whose characters before the column are
those between the start of the line and the cut. -/
structure Location.Marks (loc : Location) (before behind : List Char) : Prop where
  /-- The location is the place behind the text before it. -/
  eq_placeBehind : loc = placeBehind before
  /-- The place is not in the middle of a line end. -/
  whole : ¬ SplitsLineEnd before behind
  /-- The line that is shown is the line around the cut. -/
  line : sourceLine (before ++ behind) loc.line = lastLine before ++ firstLine behind
  /-- The column is the end of what stands on the line before the cut. -/
  column : (sourceLine (before ++ behind) loc.line).take (loc.column - 1) = lastLine before

/-- The place behind some text marks what follows. -/
theorem Location.marks_placeBehind {before behind : List Char} (h : ¬ SplitsLineEnd before behind) :
    (placeBehind before).Marks before behind where
  eq_placeBehind := rfl
  whole := h
  line := sourceLine_append h
  column := by
    rw [sourceLine_append h]
    exact List.take_left' (by simp [placeBehind])

end ImportScan
