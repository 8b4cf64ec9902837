import ImportScan.Proofs.Accounting
import ImportScan.Proofs.Partition
import ImportScan.Proofs.RunInvariant

/-!
# From the segments back to the text

When a run is done with a file, the segments of the file make up its text again, and the imports
among them are the imports that have been found.  The imports follow one another in the text, so
that they are cut out one by one, and there is always a way to cut.

## Main definitions

* `FileModule.RoundTrips` — the segments of a module make up its text, and its imports are among
  them.

## Main results

* `exists_partition?_of_extract` — the text of a file can be cut at its imports.
* `FileModule.roundTrips_completed` — a module that is done has such segments.
* `Run.roundTrips_of_done` — **every module that a run is done with round-trips**.
-/

namespace ImportScan

/-! ### Cutting at the imports that have been found -/

section

variable {l : Language} {text : List Char} {x : Extraction}

/-- The imports of a text start and end between characters. -/
theorem isBoundary_imports (h : (extract l text).outcome = .ok x) {r : Span}
    (hr : r ∈ x.imports.map ImportRecord.range) :
    IsBoundary text r.start ∧ IsBoundary text r.stop := by
  have hle := Nat.le_of_lt ((ascends_imports h).of_mem hr).2.1
  obtain ⟨record, hrecord, rfl⟩ := List.mem_map.1 hr
  have hslice := slice?_imports h hrecord
  exact ⟨isBoundary_start_of_slice? hle hslice, isBoundary_stop_of_slice? hle hslice⟩

/-- The text of a file can be cut at its imports, and these are what is cut out. -/
theorem exists_partition?_of_extract (h : (extract l text).outcome = .ok x) :
    ∃ segments, partition? text (x.imports.map ImportRecord.range) = some segments ∧
      (segments.filter fun s => s.kind = .imports).map Segment.piece
        = x.imports.map fun r => (r.range, r.code) := by
  obtain ⟨segments, hsegments, hranges⟩ :=
    exists_partition? (ascends_imports h) fun r hr => isBoundary_imports h hr
  refine ⟨segments, hsegments, ?_⟩
  -- on both sides the text is the slice at the range
  let atRange (r : Span) : TextPiece := (r, String.ofList ((slice? text r).getD []))
  have hleft : (segments.filter fun s => s.kind = .imports).map Segment.piece
      = ((segments.filter fun s => s.kind = .imports).map Segment.range).map atRange := by
    rw [List.map_map]
    refine List.map_congr_left fun s hs => ?_
    have hslice := slice?_of_partition? hsegments (List.mem_of_mem_filter hs)
    simp [atRange, Segment.piece, hslice]
  have hright : (x.imports.map fun r => (r.range, r.code))
      = (x.imports.map ImportRecord.range).map atRange := by
    rw [List.map_map]
    refine List.map_congr_left fun r hr => ?_
    simp [atRange, slice?_imports h hr]
  rw [hleft, hright, hranges]

end

/-! ### Modules -/

namespace FileModule

/-- The segments of a module make up its text, and its imports are cut out one by one. -/
structure RoundTrips (m : FileModule) : Prop where
  /-- They are the segments of the text, cut at the imports. -/
  partitioned :
    partition? m.buffer.toList (m.imports.map ImportRecord.range) = some m.segments
  /-- They tile the text. -/
  tiles : Tiles m.buffer.toList 0 (m.segments.map Segment.piece) (byteLength m.buffer.toList)
  /-- Put together they are the text. -/
  reassembled : m.reassembled = m.buffer
  /-- The import segments are the imports, in their order, with their ranges and texts. -/
  imports : (m.segments.filter fun s => s.kind = .imports).map Segment.piece
    = m.imports.map fun r => (r.range, r.code)
  /-- Of two segments that are next to each other one is an import. -/
  apart : (m.segments.map Segment.kind).IsChain fun a b => a = .imports ∨ b = .imports

/-- A module that is done has such segments. -/
theorem roundTrips_completed (m : FileModule) {l : Language} {text : String} {x : Extraction}
    (h : (extract l text.toList).outcome = .ok x) : (m.completed text x).RoundTrips := by
  obtain ⟨segments, hsegments, himports⟩ := exists_partition?_of_extract h
  have hcompleted : (m.completed text x).segments = segments := by
    simp [completed, hsegments]
  refine ⟨?_, ?_, ?_, ?_, ?_⟩
  · rw [hcompleted]
    exact hsegments
  · rw [hcompleted]
    exact tiles_of_partition? hsegments
  · rw [reassembled, hcompleted, reassemble_of_partition? hsegments]
    exact String.ofList_toList
  · rw [hcompleted]
    exact himports
  · rw [hcompleted]
    exact isChain_of_partition? hsegments

theorem kept_roundTrips : Kept fun m => m.status = .done → m.RoundTrips where
  new := fun p h => by cases h
  opened := fun m _ h => by cases h
  completed := fun m _ _ _ _ hx _ => m.roundTrips_completed hx
  abandoned := fun m _ _ h => by cases h

end FileModule

/-! ### Runs -/

/-- **Every module that a run is done with round-trips**, whatever files, settings and entries it
starts from and however it ends.  In particular there is a way to cut every text at the imports that
are found in it. -/
theorem Run.roundTrips_of_done (source : Source) (settings : Settings) (entries : List Path) :
    (∀ m ∈ (Run.drain source ((Run.start settings).addEntries entries)).run.modules,
      m.status = .done → m.RoundTrips) ∧
    ∀ l text x, (extract l text).outcome = .ok x →
      (partition? text (x.imports.map ImportRecord.range)).isSome = true := by
  refine ⟨FileModule.kept_roundTrips.drain source settings entries, fun l text x hx => ?_⟩
  obtain ⟨segments, hsegments, -⟩ := exists_partition?_of_extract hx
  rw [hsegments]
  rfl

/-- A file of one import and a line behind it. -/
theorem Run.roundTrips_of_done_single :
    ∃ (source : Source) (settings : Settings) (entries : List Path),
      ∃ m ∈ (Run.drain source ((Run.start settings).addEntries entries)).run.modules,
        m.status = .done ∧ m.buffer = "import a from 'b';\n\u00e9" ∧ m.imports.length = 1 ∧
        m.RoundTrips := by
  let p : Path := ⟨false, [.name "a.js"]⟩
  let text : String := "import a from 'b';\n\u00e9"
  let source : Source := .ofTexts [(p, text)]
  let settings : Settings := ⟨some .ecma, ⟨fun _ => true, fun _ => false, false⟩, .abortRun⟩
  let r : Run := (Run.start settings).addEntries [p]
  have hpass : ((Pass.ofLexer (.ofText .ecma text.toList)).steps? 10).any (fun q =>
      q.lexer.pull == .finished && q.finish.toOption.any (·.imports.length == 1)) = true := by
    decide +kernel
  obtain ⟨q, hq, hcheck⟩ := (Option.any_eq_true _ _).1 hpass
  rw [Bool.and_eq_true, beq_iff_eq, Option.any_eq_true] at hcheck
  obtain ⟨hpull, x, hfinish, himports⟩ := hcheck
  have hx : (extract .ecma text.toList).outcome = .ok x :=
    (Pass.outcome_of_steps? hq hpull hfinish).1
  -- the only file is done in the first step, and nothing is scheduled by it
  let w : Worklist := ⟨[p], []⟩
  let behind : Run := (({ r with worklist := w } : Run).update p FileModule.opened).complete p text
    source.doesExist x
  have hnext : r.worklist.next = some (p, w) := by decide
  have hload : source.load p = .ok text := by
    simp [source, Source.ofTexts, Source.textOf?]
  have hprocess : process { r with worklist := w } p (source.load p) source.doesExist
      = ⟨behind, (extract .ecma text.toList).seen, none⟩ := by
    rw [hload]
    exact process_of_ok (r := { r with worklist := w }) (p := p) (by decide) hx source.doesExist
  obtain ⟨traces, hdrain⟩ := drainFrom_of_next_eq_some hnext hprocess rfl []
  have hend : behind.worklist.next = none := rfl
  rw [drainFrom_of_next_eq_none hend] at hdrain
  have hmem : (FileModule.completed { path := p } text x) ∈ (r.drain source).run.modules := by
    show _ ∈ (r.drainFrom source []).run.modules
    rw [hdrain]
    exact List.mem_singleton.2 rfl
  exact ⟨source, settings, [p], _, hmem, rfl, rfl, beq_iff_eq.1 himports,
    (roundTrips_of_done source settings [p]).1 _ hmem rfl⟩

end ImportScan
