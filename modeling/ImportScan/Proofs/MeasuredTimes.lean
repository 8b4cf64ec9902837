import ImportScan.Command

/-!
# What measured times change

The times that a run takes are measured, and two runs over the same files take different ones.  They
are noted with the files and with the report, and all they change is what is shown of them.

## Main results

* `RunReport.output_timed` — **where no times are shown, an output does not depend on them**.
* `Command.told_timed` — two outputs about one run that has taken different times.
* `Command.durationText_of_told` — where times are shown, the summary tells the time of the run.
-/

namespace ImportScan

/-! ### One file -/

namespace FileModule

variable (m : FileModule) (time : Path → Nat)

theorem exists_timed_eq : ∃ n, m.timed time = { m with elapsed := n } := by
  unfold timed
  split
  · exact ⟨time m.path, rfl⟩
  · exact ⟨time m.path, rfl⟩
  · exact ⟨m.elapsed, rfl⟩
  · exact ⟨m.elapsed, rfl⟩

@[simp] theorem timed_path : (m.timed time).path = m.path := by
  obtain ⟨n, hn⟩ := m.exists_timed_eq time
  rw [hn]

@[simp] theorem timed_status : (m.timed time).status = m.status := by
  obtain ⟨n, hn⟩ := m.exists_timed_eq time
  rw [hn]

theorem timed_toJson : (m.timed time).toJson = m.toJson := by
  obtain ⟨n, hn⟩ := m.exists_timed_eq time
  rw [hn]
  rfl

theorem modulePieces_timed (verbose : Bool) :
    modulePieces verbose false (m.timed time) = modulePieces verbose false m := by
  have hhidden : ∀ m, elapsedLine false m = [] := fun _ => rfl
  obtain ⟨n, hn⟩ := m.exists_timed_eq time
  rw [hn, modulePieces, modulePieces, moduleDetails, moduleDetails, hhidden, hhidden, moduleLine,
    moduleLine]

end FileModule

section

variable (modules : List FileModule) (time : Path → Nat)

theorem filter_timed (keep : ModuleStatus → Bool) :
    (modules.map fun m => m.timed time).filter (fun m => keep m.status)
      = (modules.filter fun m => keep m.status).map fun m => m.timed time := by
  rw [List.filter_map]
  refine congrArg _ (List.filter_congr fun m _ => ?_)
  rw [Function.comp, m.timed_status]

theorem importListing_timed (render : ImportRecord → String) :
    importListing render (modules.map fun m => m.timed time) = importListing render modules := by
  rw [importListing, importListing, filter_timed modules time fun status => status == .done,
    List.map_map]
  refine congrArg String.join (List.map_congr_left fun m _ => ?_)
  obtain ⟨n, hn⟩ := m.exists_timed_eq time
  rw [Function.comp, hn]

end

/-! ### Reports -/

namespace RunReport

variable (r : RunReport) (times : RunTimes)

theorem processed_timed : (r.timed times).processed = r.processed := by
  rw [processed, timed,
    filter_timed r.modules times.file fun status => status == .done || status == .failed,
    List.length_map, processed]

theorem summary_timed : (r.timed times).summary false = r.summary false := by
  have htext : (r.timed times).processedText false = r.processedText false := by
    rw [processedText, processedText, processed_timed, if_neg Bool.false_ne_true,
      if_neg Bool.false_ne_true]
  rw [summary, cleanSummary, issueSummary, htext]
  rfl

theorem reportJson_timed :
    reportJson (r.timed times).modules r.issues = reportJson r.modules r.issues := by
  have hmodules : (r.timed times).modules.map FileModule.toJson
      = r.modules.map FileModule.toJson := by
    rw [timed, List.map_map]
    exact List.map_congr_left fun m _ => m.timed_toJson times.file
  rw [reportJson, hmodules, reportJson]

theorem isData_timed : (r.timed times).isData = r.isData := by
  rw [isData, timed, List.all_map, isData]
  refine congrArg r.modules.all (funext fun m => ?_)
  rw [Function.comp, m.timed_path]

/-- **Where no times are shown, an output does not depend on them.** -/
theorem output_timed {options : ReportOptions} (h : options.timing = false) :
    (r.timed times).output options = r.output options := by
  have hbody : (r.timed times).body options = r.body options := by
    unfold body
    rw [h]
    cases options.format with
    | text =>
      -- times are hidden file by file
      have hlines : (r.timed times).modules.flatMap (modulePieces options.verbose false)
          = r.modules.flatMap (modulePieces options.verbose false) := by
        rw [timed, List.flatMap_map]
        exact congrArg r.modules.flatMap (funext fun m => m.modulePieces_timed times.file _)
      dsimp only
      rw [hlines, summary_timed]
      rfl
    | json =>
      dsimp only
      rw [isData_timed, ← reportJson_timed r times]
      rfl
    | es6 => exact congrArg (fun text => [plain text]) (importListing_timed _ _ _)
    | cjs => exact congrArg (fun text => [plain text]) (importListing_timed _ _ _)
  rw [output, hbody]
  rfl

end RunReport

/-! ### The command -/

/-- Two outputs about one run that has taken different times: apart from the times that are shown
they are the same. -/
theorem Command.told_timed (a : Arguments) (timing : Bool) (trace : Pieces) (result : Run.Result)
    (times times' : RunTimes) :
    let output := told a timing trace ((result.report times.total).timed times)
    let output' := told a timing trace ((result.report times'.total).timed times')
    (timing = false ∨ times = times' → output' = output) ∧ output'.stderr = output.stderr ∧
      output'.status = output.status := by
  refine ⟨?_, rfl, rfl⟩
  rintro (rfl | rfl)
  · have htotal : ∀ times : RunTimes, (result.report times.total).timed times
        = (result.report 0).timed times := fun _ => rfl
    rw [htotal, htotal, told, told, RunReport.output_timed _ times' rfl,
      RunReport.output_timed _ times rfl]
  · rfl

/-- The summary of a run that has not been stopped shows the time that it took. -/
theorem RunReport.durationText_of_summary {r : RunReport} (hfailure : r.failure = none)
    {times times' : RunTimes} (h : (r.timed times).summary true = (r.timed times').summary true) :
    durationText times.total = durationText times'.total := by
  have htext (times : RunTimes) : (r.timed times).processedText true
      = "Processed " ++ countOf r.processed "file" ++ (" in " ++ durationText times.total) := by
    rw [processedText, processed_timed, if_pos rfl]
    rfl
  have hdone {times : RunTimes} : (r.timed times).failure.isSome = false := by
    show r.failure.isSome = false
    rw [hfailure]
    rfl
  suffices hsame : (r.timed times).processedText true = (r.timed times').processedText true by
    rw [htext, htext, String.append_right_inj, String.append_right_inj] at hsame
    exact hsame
  have hissues (times : RunTimes) : (r.timed times).issues = r.issues := rfl
  -- the time stands in one piece of the summary
  unfold summary at h
  rw [hissues, hissues] at h
  split at h
  · rw [cleanSummary, cleanSummary, hdone, hdone] at h
    have hpiece := congrArg (fun pieces : Pieces => pieces[2]?.map Piece.text) h
    simpa [Style.piece] using hpiece
  · have hpiece := congrArg (fun pieces : Pieces => pieces[1]?.map Piece.text) h
    have herrors (times : RunTimes) : (r.timed times).errorCount = r.errorCount := rfl
    simpa [issueSummary, plain, hissues, herrors] using hpiece

/-- Where times are shown, two outputs about one run that has not been stopped can only be the same
if it has taken the same time, as far as this is shown. -/
theorem Command.durationText_of_told {a : Arguments} (hformat : a.format = none)
    (hverbose : a.verbose = false) {trace : Pieces} {result : Run.Result}
    (herror : result.error = none) {times times' : RunTimes}
    (h : told a true trace ((result.report times.total).timed times)
      = told a true trace ((result.report times'.total).timed times')) :
    durationText times.total = durationText times'.total := by
  have hfailure : (result.report 0).failure = none := by
    show result.error.map _ = none
    rw [herror]
    rfl
  have hoptions : a.reportOptions true = ⟨.text, false, true⟩ := by
    rw [Arguments.reportOptions, hformat, hverbose]
    rfl
  -- without details the lines of the modules tell no times
  have hlines (times : RunTimes) : ((result.report 0).timed times).modules.flatMap
      (modulePieces false true) = result.run.modules.flatMap moduleLine := by
    show (result.run.modules.map fun m => m.timed times.file).flatMap _ = _
    rw [List.flatMap_map]
    refine congrArg result.run.modules.flatMap (funext fun m => ?_)
    obtain ⟨n, hn⟩ := m.exists_timed_eq times.file
    rw [hn]
    exact List.append_nil _
  have htotal (times : RunTimes) : (result.report times.total).timed times
      = (result.report 0).timed times := rfl
  have hbody (times : RunTimes) : (told a true trace ((result.report 0).timed times)).stdout
      = result.run.modules.flatMap moduleLine ++ issueReport result.run.issues ++
        ((result.report 0).timed times).summary true := by
    have hend : (((result.report 0).timed times).failure.map Failure.pieces).getD [] = [] := by
      show ((result.report 0).failure.map Failure.pieces).getD [] = []
      rw [hfailure]
      rfl
    rw [told, RunReport.output, hend, List.append_nil, hoptions, RunReport.body]
    dsimp only
    rw [hlines]
    rfl
  rw [htotal, htotal] at h
  -- what is left when the rest is cancelled is the summary
  have hstdout := congrArg Output.stdout h
  rw [hbody, hbody, List.append_cancel_left_eq] at hstdout
  exact RunReport.durationText_of_summary hfailure hstdout

end ImportScan
