import ImportScan.Proofs.BreadthFirst
import ImportScan.Proofs.PassRun
import ImportScan.Proofs.RunStages

/-!
# The files that a run visits

A run that is not stopped has one module for each file that can be reached from its entries, along
the imports of the files that are done, and those that are nearer to the entries come first.

## Main definitions

* `Run.Links` — a file of a run leads to another one.

## Main results

* `Run.Drains.breadthFirst` — the modules of a run are in a breadth-first order.
* `Run.modules_breadthFirst` — **a run visits the files that can be reached, each once, and the near
  ones first**.
-/

namespace ImportScan

namespace Run

variable {source : Source} {settings : Settings} {entries ps : List Path} {r final : Run}
  {p q : Path}

/-- A file of the run that is done leads to another one. -/
def Links (r : Run) (policy : ImportPolicy) (doesExist : Path → Bool) (p q : Path) : Prop :=
  ∃ m ∈ r.modules, m.path = p ∧ m.LeadsTo policy doesExist q

/-- When no path waits, the files lead where reading them leads. -/
theorem Stands.links_iff (h : r.Stands source settings entries ps) (hqueue : r.worklist.queue = []) :
    r.Links settings.imports source.doesExist p q ↔
      p ∈ ps ∧ (source.read settings p).LeadsTo settings.imports source.doesExist q := by
  unfold Links
  rw [h.modules, hqueue, List.map_nil, List.append_nil]
  constructor
  · rintro ⟨m, hm, rfl, hleads⟩
    obtain ⟨p, hp, rfl⟩ := List.mem_map.1 hm
    rw [Source.read_path]
    exact ⟨hp, hleads⟩
  · rintro ⟨hp, hleads⟩
    exact ⟨_, List.mem_map.2 ⟨p, hp, rfl⟩, Source.read_path _ _ _, hleads⟩

/-- The paths of a run that has taken all of them are in a breadth-first order. -/
theorem Drains.breadthFirst
    (h : Drains source ((start settings).addEntries entries) ps final none) :
    BreadthFirst (final.Links settings.imports source.doesExist) (entries.map Path.collapse)
      (final.modules.map FileModule.path) := by
  have hstart := stands_addEntries source settings entries
  obtain ⟨hend, -⟩ := h.stands hstart
  obtain ⟨hqueue, -⟩ := (h.faults hstart).1 rfl
  rw [List.nil_append] at hend
  have hall : final.worklist.scheduled = ps := by
    rw [hend.scheduled, hqueue, List.append_nil]
  rw [hend.paths, hall]
  refine ⟨hall ▸ hend.nodup, fun k hk => ?_⟩
  -- the state behind the first files tells what they lead to
  obtain ⟨s, hs, hprefix, hwaits⟩ := h.stages hstart hk
  rw [hall, List.prefix_iff_eq_take] at hprefix
  rw [List.nil_append] at hs
  refine ⟨s.worklist.scheduled.length, fun hlt => ?_, fun q => ?_⟩
  · have hpos := List.length_pos_iff.2 (hwaits hlt)
    rw [hs.scheduled, List.length_append, List.length_take]
    omega
  · rw [← hprefix, hs.mem_scheduled]
    refine or_congr_right (exists_congr fun p => and_congr_right fun hp => ?_)
    rw [hend.links_iff hqueue, and_iff_right (List.mem_of_mem_take hp)]

/-- In a run that is not stopped the files lead where reading them leads. -/
theorem drain_links_iff (h : (drain source ((start settings).addEntries entries)).error = none) :
    (drain source ((start settings).addEntries entries)).run.Links settings.imports
        source.doesExist p q ↔
      p ∈ (drain source ((start settings).addEntries entries)).run.modules.map FileModule.path ∧
        (source.read settings p).LeadsTo settings.imports source.doesExist q := by
  obtain ⟨ps, -, hend, hdrained, -⟩ := exists_drains source settings entries
  have hqueue := (hdrained h).1
  rw [hend.links_iff hqueue, hend.paths, hend.scheduled, hqueue, List.append_nil]

/-- **A run visits the files that can be reached, each once, and the near ones first.**  An edge leads
from a file that is done to one that exists and is not ignored, along an import whose specifier may be
followed. -/
theorem modules_breadthFirst (texts : List (Path × String)) (settings : Settings)
    (entries : List Path)
    (h : (drain (.ofTexts texts) ((start settings).addEntries entries)).error = none) :
    let r := (drain (.ofTexts texts) ((start settings).addEntries entries)).run
    let edge := r.Links settings.imports (Source.ofTexts texts).doesExist
    let paths := r.modules.map FileModule.path
    paths.Nodup ∧
      (∀ p, p ∈ paths ↔ ∃ n, ReachedIn edge (entries.map Path.collapse) n p) ∧
      ∃ distance : Path → Nat,
        (∀ p ∈ paths, IsLeast {n | ReachedIn edge (entries.map Path.collapse) n p} (distance p)) ∧
        paths.Pairwise fun p q => distance p ≤ distance q := by
  obtain ⟨ps, hdrains, -⟩ := exists_drains (.ofTexts texts) settings entries
  rw [h] at hdrains
  have horder := hdrains.breadthFirst
  exact ⟨horder.nodup, fun p => horder.mem_iff, horder.exists_distance⟩

/-- A file that imports another one which imports it. -/
theorem modules_breadthFirst_cycle :
    ∃ (texts : List (Path × String)) (settings : Settings) (entry other : Path),
      other ≠ entry.collapse ∧
      (drain (.ofTexts texts) ((start settings).addEntries [entry])).error = none ∧
      ((drain (.ofTexts texts) ((start settings).addEntries [entry])).run.modules.map
        FileModule.path).Nodup ∧
      other ∈ (drain (.ofTexts texts) ((start settings).addEntries [entry])).run.modules.map
        FileModule.path := by
  let a : Path := ⟨false, [.name "a.js"]⟩
  let b : Path := ⟨false, [.name "b.js"]⟩
  let textOf (p : Path) : String :=
    if p = a then "import b from './b.js';\n" else "import a from './a.js';\n"
  let source : Source := .ofTexts [(a, textOf a), (b, textOf b)]
  let settings : Settings := ⟨some .ecma, ⟨fun _ => true, fun _ => false, true⟩, .abortRun⟩
  have hload : ∀ p ∈ [a, b], source.load p = .ok (textOf p) := by
    simp [source, Source.ofTexts, Source.textOf?, a, b]
  have hpass : ∀ p ∈ [a, b], ((Pass.ofLexer (.ofText .ecma (textOf p).toList)).steps? 9).any
      (fun q => q.lexer.pull == .finished && q.finish.toOption.any fun x =>
        x.imports.any fun i => p == b || i.specifier == "./b.js") = true := by
    decide +kernel
  have hread : ∀ p ∈ [a, b], source.fault? settings p = none ∧
      (source.read settings p).status = .done ∧
      ∃ i ∈ (source.read settings p).imports, p = b ∨ i.specifier = "./b.js" := by
    intro p hp
    obtain ⟨q, hq, hcheck⟩ := (Option.any_eq_true _ _).1 (hpass p hp)
    rw [Bool.and_eq_true, beq_iff_eq, Option.any_eq_true] at hcheck
    obtain ⟨hpull, x, hfinish, hspecifier⟩ := hcheck
    have hx : settings.outcome p (textOf p) = .ok x :=
      (Pass.outcome_of_steps? hq hpull hfinish).1
    obtain ⟨hfault, hmodule⟩ := Source.read_of_outcome (hload p hp) hx
    rw [hmodule]
    exact ⟨hfault, rfl, by simpa [FileModule.completed] using hspecifier⟩
  have hentry : [a].map Path.collapse = [a] := by decide
  have herror : (drain source ((start settings).addEntries [a])).error = none := by
    refine error_eq_none fun p hp => (hread p ?_).1
    rw [hentry, List.mem_singleton] at hp
    rcases hp with rfl | hp
    · exact List.mem_cons_self
    · exact List.contains_iff_mem.1 hp
  obtain ⟨hnodup, hmem, -⟩ := modules_breadthFirst _ settings [a] herror
  refine ⟨_, settings, a, b, by decide, herror, hnodup, (hmem b).2 ⟨1, ?_⟩⟩
  have hreached : ReachedIn ((drain source ((start settings).addEntries [a])).run.Links
      settings.imports source.doesExist) ([a].map Path.collapse) 0 a := by
    rw [hentry]
    exact .entry (List.mem_singleton.2 rfl)
  -- the import of the first file leads to the second one
  obtain ⟨-, hdone, i, hi, hspecifier⟩ := hread a List.mem_cons_self
  have hspecifier : i.specifier = "./b.js" := hspecifier.resolve_left (by decide)
  refine .step hreached ((drain_links_iff herror).2 ⟨(hmem a).2 ⟨0, hreached⟩, hdone, i, hi, ?_⟩)
  rw [hspecifier, Source.read_path]
  exact ⟨rfl, rfl, by decide, rfl, List.contains_iff_mem.2 (by simp)⟩

end Run

end ImportScan
