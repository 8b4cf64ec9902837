import ImportScan.Proofs.Detour
import ImportScan.Proofs.Scheduling

/-!
# The history of a worklist

A worklist is used in any order: paths are scheduled, the next one is taken, and the imports of a
file are resolved, which schedules further paths while others wait.  Whatever the order is, a path
is scheduled once, in its form without detours, and paths are taken in the order in which they were
scheduled.

## Main definitions

* `Worklist.Call`, `Worklist.Answer` — the uses of a worklist, and what they answer.
* `Worklist.call`, `Worklist.callAll` — one use, and one after the other.
* `Worklist.History` — what a worklist holds, by the paths that were scheduled and taken.

## Main results

* `Worklist.schedule_resolve` — what an import leads to is scheduled as any other path is.
* `Worklist.History.call`, `Worklist.history_callAll` — one use more, and all of them.
* `Worklist.schedules_once` — **what a worklist schedules, holds and hands out**.
-/

namespace ImportScan

namespace Worklist

/-! ### Using a worklist -/

/-- The uses of a worklist. -/
inductive Call where
  /-- Schedule a path. -/
  | schedule (p : Path)
  /-- Take the next path. -/
  | next
  /-- Schedule the imports of a file, when these files exist. -/
  | resolve (doesExist : Path → Bool) (importer : Path) (imports : List PlacedSpecifier)

/-- What a worklist answers. -/
inductive Answer where
  /-- The path that has been scheduled, if it is new. -/
  | scheduled (p : Option Path)
  /-- The path that has been taken, if there was one. -/
  | next (p : Option Path)
  /-- What became of the imports. -/
  | resolved (r : Resolution)
  deriving DecidableEq, Repr, Inhabited

/-- The paths that are new. -/
def Answer.added : Answer → List Path
  | .scheduled p => p.toList
  | .next _ => []
  | .resolved r => r.enqueued

/-- The paths that have been taken. -/
def Answer.taken : Answer → List Path
  | .next p => p.toList
  | _ => []

/-- Use a worklist. -/
def call (policy : ImportPolicy) (w : Worklist) : Call → Worklist × Answer
  | .schedule p => ((w.schedule p).1, .scheduled (w.schedule p).2)
  | .next =>
    match w.next with
    | some (p, w) => (w, .next (some p))
    | none => (w, .next none)
  | .resolve doesExist importer imports =>
    let (w, r) := w.resolve policy doesExist importer imports
    (w, .resolved r)

/-- Use a worklist several times. -/
def callAll (policy : ImportPolicy) (w : Worklist) : List Call → Worklist × List Answer
  | [] => (w, [])
  | c :: calls =>
    let (w, answer) := w.call policy c
    let (w, answers) := w.callAll policy calls
    (w, answer :: answers)

/-! ### One use -/

variable {policy : ImportPolicy} {doesExist : Path → Bool} {importer p : Path} {w : Worklist}
  {added taken : List Path}

/-- What an import leads to is scheduled as any other path is: it has no detours, so that nothing
changes when it is brought into that form once more. -/
theorem schedule_resolve (w : Worklist) (importer : Path) (specifier : String) :
    w.schedule (importer.resolve specifier) =
      if w.isScheduled (importer.resolve specifier) then (w, none)
      else (w.enqueue (importer.resolve specifier), some (importer.resolve specifier)) := by
  rw [schedule, Path.collapse_resolve]

/-- Scheduling answers with the path, unless it has been scheduled before. -/
theorem schedule_snd_eq_none_iff : (w.schedule p).2 = none ↔ p.collapse ∈ w.scheduled := by
  unfold schedule
  split
  · next h => simpa using isScheduled_iff.1 h
  · next h => simpa using mt isScheduled_iff.2 h

/-- What a worklist holds when some paths were scheduled, and some of them taken. -/
structure History (w : Worklist) (added taken : List Path) : Prop where
  /-- The paths that were scheduled are known. -/
  scheduled : w.scheduled = added
  /-- Those of them that were not taken wait, in their order. -/
  queue : added = taken ++ w.queue
  /-- No path was scheduled twice. -/
  nodup : added.Nodup
  /-- All of them are without detours. -/
  collapse : ∀ p ∈ added, p.collapse = p

theorem history_empty : empty.History [] [] := ⟨rfl, rfl, .nil, by simp⟩

/-- Some paths more, all of which are new and without detours. -/
theorem History.enqueueAll (h : w.History added taken) {paths : List Path} (hnodup : paths.Nodup)
    (hnew : ∀ p ∈ paths, p ∉ w.scheduled) (hcollapse : ∀ p ∈ paths, p.collapse = p) :
    (w.enqueueAll paths).History (added ++ paths) taken := by
  refine ⟨?_, ?_, ?_, ?_⟩
  · rw [Worklist.enqueueAll, h.scheduled]
  · rw [Worklist.enqueueAll, h.queue, List.append_assoc]
  · refine List.nodup_append.2 ⟨h.nodup, hnodup, ?_⟩
    rintro p hp q hq rfl
    rw [h.scheduled] at hnew
    exact hnew p hq hp
  · intro p hp
    exact (List.mem_append.1 hp).elim (h.collapse p) (hcollapse p)

/-- One path more, unless it is known. -/
theorem History.schedule (h : w.History added taken) (p : Path) :
    (w.schedule p).1.History (added ++ (w.schedule p).2.toList) taken := by
  unfold Worklist.schedule
  split
  · simpa using h
  · next hnew =>
    refine h.enqueueAll (List.nodup_singleton p.collapse) ?_ ?_
    · simpa using hnew
    · simpa using p.collapse_collapse

/-- The imports of a file schedule files that are new, and each of them once. -/
theorem History.resolve (h : w.History added taken) (imports : List PlacedSpecifier) :
    (w.resolve policy doesExist importer imports).1.History
      (added ++ (w.resolve policy doesExist importer imports).2.enqueued) taken := by
  have hresolved := resolved_resolve policy doesExist importer imports w
  rw [hresolved.worklist]
  refine h.enqueueAll hresolved.nodup ?_ ?_
  · intro p hp
    exact ((hresolved.mem_enqueued p).1 hp).1
  · intro p hp
    obtain ⟨-, s, -, hleads⟩ := (hresolved.mem_enqueued p).1 hp
    rw [← hleads.resolve, Path.collapse_resolve]

/-- One use more. -/
theorem History.call (h : w.History added taken) (c : Call) :
    (w.call policy c).1.History (added ++ (w.call policy c).2.added)
      (taken ++ (w.call policy c).2.taken) := by
  cases c with
  | schedule p =>
    rw [Worklist.call, Answer.taken, List.append_nil]
    · exact h.schedule p
    · intro _ hnext
      cases hnext
  | resolve doesExist importer imports =>
    rw [Worklist.call, Answer.taken, List.append_nil]
    · exact h.resolve imports
    · intro _ hnext
      cases hnext
  | next =>
    have hqueue := h.queue
    unfold Worklist.call Worklist.next
    cases hw : w.queue with
    | nil => simpa [Answer.added, Answer.taken] using h
    | cons p rest =>
      rw [hw] at hqueue
      -- the first path that waits moves to those taken
      refine ⟨?_, ?_, ?_, ?_⟩
      · simpa [Answer.added] using h.scheduled
      · simpa [Answer.added, Answer.taken] using hqueue
      · simpa [Answer.added] using h.nodup
      · simpa [Answer.added] using h.collapse

/-! ### All uses -/

theorem History.callAll (h : w.History added taken) (calls : List Call) :
    (w.callAll policy calls).1.History
      (added ++ (w.callAll policy calls).2.flatMap Answer.added)
      (taken ++ (w.callAll policy calls).2.flatMap Answer.taken) := by
  induction calls generalizing w added taken with
  | nil => simpa [Worklist.callAll] using h
  | cons c calls ih => simpa [Worklist.callAll] using ih (h.call c)

theorem history_callAll (policy : ImportPolicy) (calls : List Call) :
    (empty.callAll policy calls).1.History
      ((empty.callAll policy calls).2.flatMap Answer.added)
      ((empty.callAll policy calls).2.flatMap Answer.taken) := by
  simpa using history_empty.callAll calls

/-- **What a worklist schedules, holds and hands out**, in whatever order it is used.  No path is
scheduled twice, each is scheduled without detours, they are handed out in the order in which they
were scheduled, and those not handed out wait.  The paths that have been scheduled are known, and no
path with the same form is scheduled again.  Where imports are not followed they change nothing. -/
theorem schedules_once (policy : ImportPolicy) (calls : List Call) :
    let w := (empty.callAll policy calls).1
    let added := (empty.callAll policy calls).2.flatMap Answer.added
    let taken := (empty.callAll policy calls).2.flatMap Answer.taken
    added.Nodup ∧ (∀ p ∈ added, p.collapse = p) ∧ added = taken ++ w.queue ∧
      taken.length ≤ added.length ∧ w.pending = added.length - taken.length ∧
      (∀ p, w.isScheduled p = true ↔ p ∈ added) ∧
      (∀ p, (w.schedule p).2 = none ↔ p.collapse ∈ added) ∧
      (policy.follow = false → ∀ doesExist importer imports,
        w.call policy (.resolve doesExist importer imports) = (w, .resolved ⟨[], []⟩)) := by
  intro w added taken
  have h : w.History added taken := history_callAll policy calls
  have hlength : added.length = taken.length + w.queue.length := by
    rw [h.queue, List.length_append]
  refine ⟨h.nodup, h.collapse, h.queue, by omega, ?_, ?_, ?_, ?_⟩
  · rw [pending]
    omega
  · intro p
    rw [isScheduled_iff, h.scheduled]
  · intro p
    rw [schedule_snd_eq_none_iff, h.scheduled]
  · intro hfollow doesExist importer imports
    rw [call, resolve, hfollow, if_neg Bool.false_ne_true]

end Worklist

end ImportScan
