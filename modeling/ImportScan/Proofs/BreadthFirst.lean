import Mathlib.Data.List.Nodup
import Mathlib.Order.Lattice.Nat

/-!
# Breadth-first orders

A search that takes what it has found in the order in which it was found leaves an order behind.  Each
beginning of this order leads to a longer one, which holds the entries and all that an edge from the
beginning leads to.  This is all that is needed to see that the search finds what can be reached, and
what is near first.

## Main definitions

* `ReachedIn` — what can be reached by a number of edges.
* `BreadthFirst` — an order that a search leaves behind.

## Main results

* `BreadthFirst.exists_level` — what is not farther away than some number of edges is a beginning of
  the order.
* `BreadthFirst.mem_iff` — **the order holds all that can be reached**.
* `BreadthFirst.exists_distance` — **what is nearer comes first**.
-/

namespace ImportScan

variable {α : Type*}

/-- There is a chain of `n` edges from an entry. -/
inductive ReachedIn (edge : α → α → Prop) (entries : List α) : Nat → α → Prop where
  | entry {a : α} (ha : a ∈ entries) : ReachedIn edge entries 0 a
  | step {n : Nat} {a b : α} (ha : ReachedIn edge entries n a) (hedge : edge a b) :
    ReachedIn edge entries (n + 1) b

/-- The order holds everything once, and each beginning of it has led to a longer one. -/
structure BreadthFirst (edge : α → α → Prop) (entries order : List α) : Prop where
  nodup : order.Nodup
  /-- What the first `k` have led to, as long as something is left. -/
  grows : ∀ k ≤ order.length, ∃ n, (k < order.length → k < n) ∧
    ∀ b, b ∈ order.take n ↔ b ∈ entries ∨ ∃ a ∈ order.take k, edge a b

namespace BreadthFirst

variable {edge : α → α → Prop} {entries order : List α}

/-- What is not farther away than `d` edges is a beginning of the order. -/
theorem exists_level (h : BreadthFirst edge entries order) (d : Nat) :
    ∃ n ≤ order.length, ∀ a, a ∈ order.take n ↔ ∃ k ≤ d, ReachedIn edge entries k a := by
  induction d with
  | zero =>
    obtain ⟨n, -, hn⟩ := h.grows 0 (Nat.zero_le _)
    refine ⟨min n order.length, Nat.min_le_right _ _, fun a => ?_⟩
    rw [← List.take_eq_take_min, hn]
    simp only [List.take_zero, List.not_mem_nil, false_and, exists_false, or_false, Nat.le_zero]
    constructor
    · intro ha
      exact ⟨0, rfl, .entry ha⟩
    · rintro ⟨k, rfl, ha⟩
      cases ha with
      | entry ha => exact ha
  | succ d ih =>
    -- the next level is what the last one has led to
    obtain ⟨m, hm, hlevel⟩ := ih
    obtain ⟨n, -, hn⟩ := h.grows m hm
    refine ⟨min n order.length, Nat.min_le_right _ _, fun b => ?_⟩
    rw [← List.take_eq_take_min, hn]
    constructor
    · rintro (hb | ⟨a, ha, hedge⟩)
      · exact ⟨0, Nat.zero_le _, .entry hb⟩
      · obtain ⟨k, hk, hreached⟩ := (hlevel a).1 ha
        exact ⟨k + 1, Nat.succ_le_succ hk, .step hreached hedge⟩
    · rintro ⟨k, hk, hreached⟩
      cases hreached with
      | entry hb => exact .inl hb
      | @step k a b hreached hedge =>
        exact .inr ⟨a, (hlevel a).2 ⟨k, Nat.le_of_succ_le_succ hk, hreached⟩, hedge⟩

/-- Everything in the order can be reached: it is an entry, or an edge leads to it from something
before it. -/
theorem exists_reachedIn (h : BreadthFirst edge entries order) (i : Nat) (hi : i < order.length) :
    ∃ k, ReachedIn edge entries k order[i] := by
  induction i using Nat.strongRecOn with
  | ind i ih =>
    -- what stands before it has led to a beginning that it belongs to
    obtain ⟨n, hlt, hn⟩ := h.grows i (Nat.le_of_lt hi)
    have hmem : order[i] ∈ order.take n := by
      rw [List.mem_take_iff_getElem]
      exact ⟨i, by have := hlt hi; omega, rfl⟩
    rcases (hn order[i]).1 hmem with hentry | ⟨a, ha, hedge⟩
    · exact ⟨0, .entry hentry⟩
    · obtain ⟨j, hj, rfl⟩ := List.mem_take_iff_getElem.1 ha
      obtain ⟨k, hk⟩ := ih j (by omega) (by omega)
      exact ⟨k + 1, .step hk hedge⟩

/-- **The order holds all that can be reached.** -/
theorem mem_iff (h : BreadthFirst edge entries order) {a : α} :
    a ∈ order ↔ ∃ k, ReachedIn edge entries k a := by
  constructor
  · intro ha
    obtain ⟨i, hi, rfl⟩ := List.getElem_of_mem ha
    exact h.exists_reachedIn i hi
  · rintro ⟨k, hk⟩
    obtain ⟨n, -, hlevel⟩ := h.exists_level k
    exact List.mem_of_mem_take ((hlevel a).2 ⟨k, Nat.le_refl _, hk⟩)

/-- What comes before something can be reached by no more edges. -/
theorem reachedIn_le (h : BreadthFirst edge entries order) {i j k : Nat} (hij : i < j)
    (hj : j < order.length) (hk : ReachedIn edge entries k order[j]) :
    ∃ k' ≤ k, ReachedIn edge entries k' order[i] := by
  obtain ⟨n, hn, hlevel⟩ := h.exists_level k
  refine (hlevel _).1 ?_
  -- the level of the later one is a beginning, which holds the earlier one too
  have hmem := (hlevel order[j]).2 ⟨k, Nat.le_refl _, hk⟩
  obtain ⟨j', hj', heq⟩ := List.mem_take_iff_getElem.1 hmem
  obtain rfl : j' = j := h.nodup.getElem_inj_iff.1 heq
  exact List.mem_take_iff_getElem.2 ⟨i, by omega, rfl⟩

/-- **What is nearer comes first.** -/
theorem exists_distance (h : BreadthFirst edge entries order) :
    ∃ distance : α → Nat,
      (∀ a ∈ order, IsLeast {k | ReachedIn edge entries k a} (distance a)) ∧
        order.Pairwise fun a b => distance a ≤ distance b := by
  refine ⟨fun a => sInf {k | ReachedIn edge entries k a}, fun a ha => ?_, ?_⟩
  · exact ⟨Nat.sInf_mem (h.mem_iff.1 ha), fun k hk => Nat.sInf_le hk⟩
  · rw [List.pairwise_iff_getElem]
    intro i j hi hj hij
    have hfar := Nat.sInf_mem (h.mem_iff.1 (List.getElem_mem hj))
    obtain ⟨k, hk, hnear⟩ := h.reachedIn_le hij hj hfar
    exact Nat.le_trans (Nat.sInf_le hnear) hk

end BreadthFirst

end ImportScan
