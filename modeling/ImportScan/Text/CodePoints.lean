/-!
# Sets of code points

The character classes of this library are sets of code points written as lists of maximal runs,
in increasing order.  A look-up walks the runs and stops at the first one that lies beyond the
code point it looks for.

## Main definitions

* `CodePoints` — a set of code points, as its runs.
* `CodePoints.holds` — membership of a character.

## Main results

* `CodePoints.holds_eq_true_imp` — a member lies in one of the runs.
-/

namespace ImportScan

/-- A set of code points: its maximal runs, each with both its ends, in increasing order. -/
abbrev CodePoints := List (Nat × Nat)

namespace CodePoints

/-- Whether the code point `n` lies in one of the runs. -/
def holdsNat (n : Nat) : CodePoints → Bool
  | [] => false
  | (lo, hi) :: runs => if n < lo then false else n ≤ hi || holdsNat n runs

/-- Whether the character `c` belongs to the set. -/
def holds (s : CodePoints) (c : Char) : Bool := holdsNat c.toNat s

@[simp] theorem holdsNat_nil (n : Nat) : holdsNat n [] = false := rfl

/-- A member of the set lies in one of its runs. -/
theorem holds_eq_true_imp {s : CodePoints} {c : Char} (h : s.holds c = true) :
    ∃ run ∈ s, run.1 ≤ c.toNat ∧ c.toNat ≤ run.2 := by
  unfold holds at h
  induction s with
  | nil => simp at h
  | cons run runs ih =>
    obtain ⟨lo, hi⟩ := run
    simp only [holdsNat] at h
    split at h
    · simp at h
    · rename_i hlo
      rw [Bool.or_eq_true, decide_eq_true_eq] at h
      rcases h with h | h
      · exact ⟨(lo, hi), List.mem_cons_self, by omega, h⟩
      · obtain ⟨r, hr, hin⟩ := ih h
        exact ⟨r, List.mem_cons_of_mem _ hr, hin⟩

end CodePoints

end ImportScan
