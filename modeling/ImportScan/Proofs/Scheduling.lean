import Mathlib.Data.List.Induction
import Mathlib.Data.List.Nodup
import ImportScan.Worklist

/-!
# What the imports of a file schedule

The imports of a file are looked at one by one, and what one of them schedules is known to those
behind it.  Taken together they schedule every file that one of them leads to and that was not
scheduled before, once each, and the others that name no file are told in their order.

## Main definitions

* `ImportPolicy.Leads` — an import of a file leads to another file.
* `Worklist.led?`, `Worklist.unresolved?` — the file that an import schedules, and the complaint
  about one that names no file.
* `Worklist.Resolved` — what has become of the worklist behind some imports.

## Main results

* `Worklist.resolveOne_eq`, `Worklist.Resolved.step` — one import more.
* `Worklist.resolved_resolve` — **what the imports of a file schedule, and what they leave
  unresolved**.
-/

namespace ImportScan

variable {policy : ImportPolicy} {doesExist : Path → Bool} {importer p q : Path} {w : Worklist}

/-- An import of a file with this specifier leads to the file `q`. -/
structure ImportPolicy.Leads (policy : ImportPolicy) (doesExist : Path → Bool) (importer : Path)
    (specifier : String) (q : Path) : Prop where
  follow : policy.follow = true
  extractable : policy.extractable specifier = true
  resolve : importer.resolve specifier = q
  taken : policy.ignored q = false
  doesExist : doesExist q = true

namespace Worklist

@[simp] theorem isScheduled_iff : w.isScheduled p = true ↔ p ∈ w.scheduled := by
  simp [isScheduled]

/-- The file that an import schedules. -/
def led? (policy : ImportPolicy) (doesExist : Path → Bool) (importer : Path) (w : Worklist)
    (s : PlacedSpecifier) : Option Path :=
  let path := importer.resolve s.1
  if policy.follow && policy.extractable s.1 && !policy.ignored path && !w.isScheduled path &&
      doesExist path then
    some path
  else none

/-- The complaint about an import that names no file. -/
def unresolved? (policy : ImportPolicy) (doesExist : Path → Bool) (importer : Path) (w : Worklist)
    (s : PlacedSpecifier) : Option UnresolvedSpecifier :=
  let path := importer.resolve s.1
  if policy.follow && policy.extractable s.1 && !policy.ignored path && !w.isScheduled path &&
      !doesExist path then
    some ⟨s.1, path, s.2⟩
  else none

/-- Adding some paths at the end. -/
def enqueueAll (w : Worklist) (paths : List Path) : Worklist :=
  ⟨w.scheduled ++ paths, w.queue ++ paths⟩

@[simp] theorem enqueueAll_nil : w.enqueueAll [] = w := by simp [enqueueAll]

theorem mem_led?_iff {s : PlacedSpecifier} :
    q ∈ w.led? policy doesExist importer s ↔
      policy.Leads doesExist importer s.1 q ∧ q ∉ w.scheduled := by
  unfold led?
  dsimp only
  split
  · next hled =>
    simp only [Bool.and_eq_true, Bool.not_eq_true', ← Bool.not_eq_true, isScheduled_iff] at hled
    obtain ⟨⟨⟨⟨hfollow, hextractable⟩, htaken⟩, hnew⟩, hexists⟩ := hled
    rw [Option.mem_some_iff]
    constructor
    · rintro rfl
      exact ⟨⟨hfollow, hextractable, rfl, by simpa using htaken, hexists⟩, hnew⟩
    · rintro ⟨hleads, -⟩
      exact hleads.resolve
  · next hled =>
    simp only [Option.not_mem_none, false_iff]
    rintro ⟨⟨hfollow, hextractable, rfl, htaken, hexists⟩, hnew⟩
    rw [← isScheduled_iff, Bool.not_eq_true] at hnew
    simp [hfollow, hextractable, htaken, hexists, hnew] at hled

/-- Looking at one import schedules the file that it leads to, or adds a complaint. -/
theorem resolveOne_eq (hfollow : policy.follow = true) (state : Worklist × Resolution)
    (s : PlacedSpecifier) :
    resolveOne policy doesExist importer state s =
      (state.1.enqueueAll (state.1.led? policy doesExist importer s).toList,
        ⟨state.2.enqueued ++ (state.1.led? policy doesExist importer s).toList,
          state.2.unresolved ++ (state.1.unresolved? policy doesExist importer s).toList⟩) := by
  unfold resolveOne led? unresolved?
  dsimp only
  cases hextractable : policy.extractable s.1 with
  | false => simp
  | true =>
    cases hignored : policy.ignored (importer.resolve s.1) with
    | true => simp
    | false =>
      cases hscheduled : state.1.isScheduled (importer.resolve s.1) with
      | true => simp
      | false =>
        cases hexists : doesExist (importer.resolve s.1) with
        | false => simp [hfollow]
        | true => simp [hfollow, enqueue, enqueueAll]

/-- What has become of the worklist `w` behind some imports of a file. -/
structure Resolved (policy : ImportPolicy) (doesExist : Path → Bool) (importer : Path)
    (w : Worklist) (xs : List PlacedSpecifier) (state : Worklist × Resolution) : Prop where
  /-- What has been scheduled stands behind what was there. -/
  worklist : state.1 = w.enqueueAll state.2.enqueued
  /-- Nothing has been scheduled twice. -/
  nodup : state.2.enqueued.Nodup
  /-- All that the imports lead to has been scheduled, unless it was before. -/
  mem_enqueued : ∀ q, q ∈ state.2.enqueued ↔
    q ∉ w.scheduled ∧ ∃ s ∈ xs, policy.Leads doesExist importer s.1 q
  /-- What names no file has been told. -/
  unresolved : state.2.unresolved = xs.filterMap (w.unresolved? policy doesExist importer)

variable {xs : List PlacedSpecifier} {state : Worklist × Resolution}

theorem Resolved.mem_scheduled_iff (h : Resolved policy doesExist importer w xs state) :
    q ∈ state.1.scheduled ↔ q ∈ w.scheduled ∨ q ∈ state.2.enqueued := by
  rw [h.worklist, enqueueAll, List.mem_append]

/-- The complaint about an import does not depend on what has been scheduled for the imports before
it, since all of that exists. -/
theorem Resolved.unresolved?_eq (h : Resolved policy doesExist importer w xs state)
    (s : PlacedSpecifier) :
    state.1.unresolved? policy doesExist importer s = w.unresolved? policy doesExist importer s := by
  by_cases hnew : importer.resolve s.1 ∈ state.2.enqueued
  · obtain ⟨-, s', -, hleads⟩ := (h.mem_enqueued _).1 hnew
    simp [unresolved?, hleads.doesExist]
  · have hsame : state.1.isScheduled (importer.resolve s.1)
        = w.isScheduled (importer.resolve s.1) := by
      rw [Bool.eq_iff_iff, isScheduled_iff, isScheduled_iff, h.mem_scheduled_iff]
      simp [hnew]
    rw [unresolved?, unresolved?, hsame]

/-- One import more. -/
theorem Resolved.step (h : Resolved policy doesExist importer w xs state)
    (hfollow : policy.follow = true) (s : PlacedSpecifier) :
    Resolved policy doesExist importer w (xs ++ [s])
      (resolveOne policy doesExist importer state s) := by
  rw [resolveOne_eq hfollow]
  -- the import leads to a file unless one before it did
  have hled : ∀ q, q ∈ (state.1.led? policy doesExist importer s).toList ↔
      policy.Leads doesExist importer s.1 q ∧ q ∉ w.scheduled ∧ q ∉ state.2.enqueued := by
    intro q
    rw [Option.mem_toList, ← Option.mem_def, mem_led?_iff, h.mem_scheduled_iff, not_or]
  refine ⟨?_, ?_, ?_, ?_⟩
  · rw [h.worklist]
    simp [enqueueAll]
  · refine List.nodup_append.2 ⟨h.nodup, Option.toList_nodup _, ?_⟩
    rintro q hq q' hq' rfl
    exact ((hled q).1 hq').2.2 hq
  · intro q
    rw [List.mem_append, hled, h.mem_enqueued]
    constructor
    · rintro (⟨hnew, s', hs', hleads⟩ | ⟨hleads, hnew, -⟩)
      · exact ⟨hnew, s', List.mem_append_left _ hs', hleads⟩
      · exact ⟨hnew, s, by simp, hleads⟩
    · -- what an import before this one leads to has been scheduled for that one
      rintro ⟨hnew, s', hs', hleads⟩
      by_cases hmem : ∃ s ∈ xs, policy.Leads doesExist importer s.1 q
      · exact .inl ⟨hnew, hmem⟩
      · rcases List.mem_append.1 hs' with hs' | hs'
        · exact absurd ⟨s', hs', hleads⟩ hmem
        · rw [List.mem_singleton.1 hs'] at hleads
          exact .inr ⟨hleads, hnew, fun hold => hmem hold.2⟩
  · rw [List.filterMap_append, h.unresolved, h.unresolved?_eq]
    cases hs : w.unresolved? policy doesExist importer s <;> simp [hs]

/-- **What the imports of a file schedule, and what they leave unresolved.** -/
theorem resolved_resolve (policy : ImportPolicy) (doesExist : Path → Bool) (importer : Path)
    (xs : List PlacedSpecifier) (w : Worklist) :
    Resolved policy doesExist importer w xs (w.resolve policy doesExist importer xs) := by
  unfold resolve
  by_cases hfollow : policy.follow = true
  · rw [if_pos hfollow]
    induction xs using List.reverseRecOn with
    | nil => exact ⟨by simp, .nil, by simp, rfl⟩
    | append_singleton xs s ih =>
      rw [List.foldl_append]
      exact ih.step hfollow s
  · rw [if_neg hfollow]
    refine ⟨by simp, .nil, ?_, ?_⟩
    · intro q
      simp only [List.not_mem_nil, false_iff, not_and, not_exists]
      intro _ s _ hleads
      exact hfollow hleads.follow
    · symm
      rw [List.filterMap_eq_nil_iff]
      intro s _
      simp [unresolved?, hfollow]

end Worklist

end ImportScan
