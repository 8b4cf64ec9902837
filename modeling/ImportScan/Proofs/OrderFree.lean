import ImportScan.Proofs.WorklistHistory

/-!
# Resolving without an order

The imports of a file are resolved one after the other, and each sees what those before it have
scheduled.  The outcome can be told without that order: which imports are looked into depends on the
worklist before the first of them, and of the files that exist among those they name the first
mention counts.

## Main definitions

* `Worklist.LooksInto` — the imports that are looked into.

## Main results

* `Worklist.Resolved.led?_eq` — the imports before it can only keep an import from scheduling its
  file again.
* `Worklist.enqueued_resolve` — the first mentions of the files that imports lead to.
* `Worklist.resolve_eq_filter` — **resolving is filtering by the worklist before it**, and does not
  depend on the order of the imports.
-/

namespace ImportScan

namespace Worklist

variable {policy : ImportPolicy} {doesExist : Path → Bool} {importer : Path} {w : Worklist}
  {xs : List PlacedSpecifier} {s : PlacedSpecifier} {state : Worklist × Resolution}

/-- An import is looked into if its specifier names a file to follow, and if the path that it names
is neither left out nor scheduled. -/
def LooksInto (policy : ImportPolicy) (importer : Path) (w : Worklist) (s : PlacedSpecifier) :
    Prop :=
  policy.extractable s.1 = true ∧ policy.ignored (importer.resolve s.1) = false ∧
    importer.resolve s.1 ∉ w.scheduled

instance : DecidablePred (LooksInto policy importer w) := fun _ =>
  inferInstanceAs (Decidable (_ ∧ _ ∧ _))

/-! ### One import -/

/-- Where imports are followed, an import leads to the path that it names if it is looked into and
the path exists. -/
theorem led?_eq (hfollow : policy.follow = true) (s : PlacedSpecifier) :
    w.led? policy doesExist importer s =
      if LooksInto policy importer w s ∧ doesExist (importer.resolve s.1) = true then
        some (importer.resolve s.1)
      else none := by
  simp [led?, LooksInto, hfollow, isScheduled, and_assoc]

theorem unresolved?_eq (hfollow : policy.follow = true) (s : PlacedSpecifier) :
    w.unresolved? policy doesExist importer s =
      if LooksInto policy importer w s ∧ doesExist (importer.resolve s.1) = false then
        some ⟨s.1, importer.resolve s.1, s.2⟩
      else none := by
  simp [unresolved?, LooksInto, hfollow, isScheduled, and_assoc]

/-- What has been scheduled for the imports before it can only keep an import from scheduling its
file again. -/
theorem Resolved.led?_eq (h : Resolved policy doesExist importer w xs state) (s : PlacedSpecifier) :
    state.1.led? policy doesExist importer s =
      (w.led? policy doesExist importer s).filter fun q => q ∉ state.2.enqueued := by
  apply Option.ext
  intro q
  rw [← Option.mem_def, mem_led?_iff, h.mem_scheduled_iff, Option.filter_eq_some_iff,
    ← Option.mem_def, mem_led?_iff]
  simp only [not_or, decide_eq_true_eq, and_assoc]

/-! ### All imports -/

/-- Of the files that imports lead to, the first mention of each is scheduled. -/
theorem enqueued_resolve (hfollow : policy.follow = true) (doesExist : Path → Bool)
    (importer : Path) (xs : List PlacedSpecifier) (w : Worklist) :
    (w.resolve policy doesExist importer xs).2.enqueued
      = (xs.filterMap (w.led? policy doesExist importer)).eraseDups := by
  induction xs using List.reverseRecOn with
  | nil =>
    rw [resolve, if_pos hfollow]
    rfl
  | append_singleton xs s ih =>
    have hresolved := resolved_resolve policy doesExist importer xs w
    have hlast : w.resolve policy doesExist importer (xs ++ [s])
        = resolveOne policy doesExist importer (w.resolve policy doesExist importer xs) s := by
      rw [resolve, resolve, if_pos hfollow, if_pos hfollow, List.foldl_append]
      rfl
    rw [hlast, resolveOne_eq hfollow, hresolved.led?_eq, ih, List.filterMap_append,
      List.eraseDups_append]
    cases hs : w.led? policy doesExist importer s with
    | none => simp [hs]
    -- a path that has been enqueued before is not enqueued again
    | some q =>
      generalize xs.filterMap (w.led? policy doesExist importer) = paths
      by_cases hq : q ∈ paths
      · simp [hs, hq, List.removeAll]
      · simp [hs, hq, List.removeAll, List.eraseDups_cons]

theorem filterMap_led? (hfollow : policy.follow = true) (xs : List PlacedSpecifier) :
    xs.filterMap (w.led? policy doesExist importer)
      = ((xs.filter (LooksInto policy importer w ·)).map fun s => importer.resolve s.1).filter
          doesExist := by
  rw [List.filter_map, List.filter_filter, ← List.filterMap_eq_map, List.filterMap_filter]
  refine List.filterMap_congr fun s _ => ?_
  simp [led?_eq hfollow, and_comm]

/-- The complaints about the imports that are looked into. -/
theorem filterMap_unresolved? (hfollow : policy.follow = true) (xs : List PlacedSpecifier) :
    xs.filterMap (w.unresolved? policy doesExist importer)
      = ((xs.filter (LooksInto policy importer w ·)).filter
          fun s => !doesExist (importer.resolve s.1)).map fun s =>
            ⟨s.1, importer.resolve s.1, s.2⟩ := by
  rw [List.filter_filter, ← List.filterMap_eq_map, List.filterMap_filter]
  refine List.filterMap_congr fun s _ => ?_
  simp [unresolved?_eq hfollow, and_comm]

/-- **Resolving is filtering by the worklist before it.**  Where imports are followed, those that
are looked into are split by whether the path that they name exists.  The others are unresolved, in
their order, each with its path and its place.  Of the paths that exist, the first mentions are
scheduled in their order, each as it is scheduled by itself, and nothing else happens to the
worklist.  So the order of the imports matters only for the order of the outcome. -/
theorem resolve_eq_filter (policy : ImportPolicy) (hfollow : policy.follow = true)
    (doesExist : Path → Bool) (importer : Path) (imports : List PlacedSpecifier) (w : Worklist) :
    let looked := imports.filter (LooksInto policy importer w ·)
    let enqueued := ((looked.map fun s => importer.resolve s.1).filter doesExist).eraseDups
    let unresolved := (looked.filter fun s => !doesExist (importer.resolve s.1)).map fun s =>
      (⟨s.1, importer.resolve s.1, s.2⟩ : UnresolvedSpecifier)
    w.resolve policy doesExist importer imports
        = (⟨w.scheduled ++ enqueued, w.queue ++ enqueued⟩, ⟨enqueued, unresolved⟩) ∧
      (∀ p ∈ enqueued, w.schedule p = (w.enqueue p, some p)) ∧
      ∀ imports', imports.Perm imports' →
        (w.resolve policy doesExist importer imports').2.enqueued.Perm enqueued ∧
        (w.resolve policy doesExist importer imports').2.unresolved.Perm unresolved := by
  intro looked enqueued unresolved
  -- the state before the call decides what becomes of each import
  have hresolved := resolved_resolve policy doesExist importer imports w
  have henqueued : (w.resolve policy doesExist importer imports).2.enqueued = enqueued := by
    rw [enqueued_resolve hfollow, filterMap_led? hfollow]
  have hunresolved : (w.resolve policy doesExist importer imports).2.unresolved = unresolved := by
    rw [hresolved.unresolved, filterMap_unresolved? hfollow]
  refine ⟨?_, ?_, ?_⟩
  · have hworklist := hresolved.worklist
    rw [henqueued] at hworklist
    exact Prod.ext hworklist (congrArg₂ Resolution.mk henqueued hunresolved)
  · intro p hp
    rw [← henqueued, hresolved.mem_enqueued] at hp
    obtain ⟨hnew, s, -, hleads⟩ := hp
    rw [← hleads.resolve] at hnew ⊢
    rw [schedule_resolve, if_neg (mt isScheduled_iff.1 hnew)]
  · intro imports' hperm
    have hresolved' := resolved_resolve policy doesExist importer imports' w
    constructor
    · -- both lists hold the same paths, and each of them once
      rw [← henqueued, List.perm_ext_iff_of_nodup hresolved'.nodup hresolved.nodup]
      intro p
      rw [enqueued_resolve hfollow, enqueued_resolve hfollow, List.mem_eraseDups,
        List.mem_eraseDups]
      exact ((hperm.filterMap _).mem_iff).symm
    · rw [← hunresolved, hresolved'.unresolved, hresolved.unresolved]
      exact (hperm.filterMap _).symm

/-- A package, a file that is imported twice, one that is gone, the file itself, one that is left
out, and one from the root. -/
theorem resolve_eq_filter_mixed :
    ∃ (policy : ImportPolicy) (doesExist : Path → Bool) (w : Worklist)
      (imports : List PlacedSpecifier), policy.follow = true ∧
      imports.map Prod.fst = ["os", "./b.js", "../x/gone.js", "./b.js", "./main.js", "./v.js",
        "/a.js"] ∧
      w.resolve policy doesExist (.ofString "src/main.js") imports =
        (⟨[.ofString "src/main.js", .ofString "src/b.js", .ofString "/a.js"],
          [.ofString "src/b.js", .ofString "/a.js"]⟩,
         ⟨[.ofString "src/b.js", .ofString "/a.js"],
          [⟨"../x/gone.js", .ofString "x/gone.js", ⟨3, 1, 20⟩⟩]⟩) ∧
      (w.resolve policy doesExist (.ofString "src/main.js") imports.reverse).2.enqueued.Perm
        [.ofString "src/b.js", .ofString "/a.js"] := by
  let policy : ImportPolicy :=
    ⟨fun s => ".js".toList.isSuffixOf s.toList, (· == .ofString "src/v.js"), true⟩
  let doesExist : Path → Bool := (· != .ofString "x/gone.js")
  let w : Worklist := ⟨[.ofString "src/main.js"], []⟩
  let imports : List PlacedSpecifier :=
    [("os", ⟨1, 1, 0⟩), ("./b.js", ⟨2, 1, 10⟩), ("../x/gone.js", ⟨3, 1, 20⟩),
      ("./b.js", ⟨4, 1, 30⟩), ("./main.js", ⟨5, 1, 40⟩), ("./v.js", ⟨6, 1, 50⟩),
      ("/a.js", ⟨7, 1, 60⟩)]
  obtain ⟨hresolve, -, hperm⟩ :=
    resolve_eq_filter policy rfl doesExist (.ofString "src/main.js") imports w
  have hlooked : imports.filter (LooksInto policy (.ofString "src/main.js") w ·)
      = [("./b.js", ⟨2, 1, 10⟩), ("../x/gone.js", ⟨3, 1, 20⟩), ("./b.js", ⟨4, 1, 30⟩),
        ("/a.js", ⟨7, 1, 60⟩)] := by
    decide +kernel
  obtain ⟨hreversed, -⟩ := hperm imports.reverse (List.reverse_perm imports).symm
  rw [hlooked] at hresolve hreversed
  exact ⟨policy, doesExist, w, imports, rfl, rfl, hresolve, hreversed⟩

end Worklist

end ImportScan
