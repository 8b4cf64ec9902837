import ImportScan.Proofs.AlikeSources
import ImportScan.Proofs.ConfigText
import ImportScan.Proofs.DefaultPattern
import ImportScan.Proofs.FreshFile
import ImportScan.Proofs.MeasuredTimes
import ImportScan.Proofs.PassRun

/-!
# A fresh configuration changes nothing

The configuration that the command writes on request is the one in force when there is none.  Behind
it every command answers as before, unless it is told to start from the new file or from a place
below it: the imports that are followed by default never lead there.  What may differ are the times
that an answer shows, since they are measured.

## Main definitions

* `Command.answer` — what a command line gives in a file tree.
* `Arguments.StayClear` — arguments that ask for no configuration and start from no place at or
  below a given one.

## Main results

* `Config.parse_defaultText` — a fresh configuration is read as the default one.
* `FileTree.alike_write` — a run by default cannot tell whether the configuration is there.
* `Command.answer_init` — **writing a configuration where there is none adds one file and changes no
  answer; a second time it fails; no other command changes a file**.
-/

namespace ImportScan

/-! ### Reading a fresh configuration -/

namespace Config

theorem parse_defaultText : parse defaultText = .ok default := parse_pretty default

theorem ofFile_defaultText (path : String) : ofFile path (.ok defaultText) = .ok default := by
  rw [ofFile, parse_defaultText]

theorem exists_settings_default : ∃ (r : Regex) (settings : Settings),
    Regex.ofString? default.extractable = some r ∧ default.settings = .ok settings ∧
      settings.imports.extractable = r.isMatch := by
  obtain ⟨r, hr⟩ : ∃ r, Regex.ofString? default.extractable = some r := ⟨_, ofString?_default⟩
  refine ⟨r, ⟨none, ⟨r.isMatch, acceptsPath [], true⟩, .abortRun⟩, hr, ?_, rfl⟩
  rw [settings, extractableRegex, hr]
  rfl

end Config

namespace FileTree

variable {t : FileTree} {folder : Place}

theorem loadConfig_of_findConfig (h : t.findConfig folder = none) :
    t.loadConfig folder = .ok Config.default := by
  rw [loadConfig, h]

/-- Where a fresh configuration has been written, it is in force. -/
theorem loadConfig_write (h : t.Admits folder configFileName) :
    (t.write (folder ++ [configFileName]) Config.defaultText).loadConfig folder
      = .ok Config.default := by
  have htext : (t.write (folder ++ [configFileName]) Config.defaultText).textAt
      (folder ++ [configFileName]) = .ok Config.defaultText := by
    rw [textAt, h.file?_write_self]
  rw [loadConfig, findConfig_of_holds (h.holds_write_self _)]
  dsimp only
  rw [htext, Config.ofFile_defaultText]

/-! ### Runs by default -/

theorem source_doesExist : (t.source folder).doesExist = t.isFile folder := rfl

/-- The path is one that a run may ask for without noticing a new file. -/
def Avoids (folder place : Place) (p : Path) : Prop :=
  p.IsDirect ∧ ¬ place.names <+: p.arrival folder.names

/-- A run by default cannot tell whether the configuration is there, as long as it takes paths that
avoid it. -/
theorem alike_write (h : t.Admits folder configFileName) {policy : ImportPolicy} {r : Regex}
    (hr : Regex.ofString? Config.default.extractable = some r)
    (hpolicy : policy.extractable = r.isMatch) :
    (t.source folder).Alike policy (Avoids folder (folder ++ [configFileName]))
      ((t.write (folder ++ [configFileName]) Config.defaultText).source folder) := by
  refine ⟨fun p hp => ?_, fun importer specifier hextractable => ?_,
    fun importer specifier _ hexists => ?_⟩
  · have hread := h.read_write Config.defaultText hp.1 hp.2
    unfold source
    dsimp only
    rw [hread]
  · -- the name of the new file does not match, so that no import leads to it
    obtain ⟨name, hlast, hne⟩ :=
      Config.getLast?_resolve_default hr (hpolicy ▸ hextractable) importer
    rw [source_doesExist, source_doesExist]
    refine h.isFile_write Config.defaultText (importer.isDirect_resolve specifier) fun heq => hne ?_
    have hname := Path.getLast?_arrival folder.names hlast
    rw [heq, Place.names_concat, List.getLast?_concat] at hname
    exact (FileName.text.inj (Option.some.inj hname)).symm
  · rw [source_doesExist] at hexists
    exact ⟨importer.isDirect_resolve specifier, h.arrival_elsewhere hexists⟩

end FileTree

/-! ### Command lines -/

/-- The arguments ask for no configuration, and no file that they name lies at a place or below
it. -/
structure Arguments.StayClear (a : Arguments) (folder place : Place) : Prop where
  /-- No configuration is asked for. -/
  init : a.init = false
  /-- The files to start from lie elsewhere. -/
  files : ∀ name ∈ a.files,
    ¬ place.names <+: (Path.ofString name).collapse.arrival folder.names

namespace Command

variable {t : FileTree} {folder : Place}

/-- What a command line gives in a file tree, when a run takes these times: the mistake in it, or
what is written; and the tree behind it. -/
def answer (args : List String) (t : FileTree) (folder : Place) (timing : Bool) (times : RunTimes) :
    Except UsageFault Output × FileTree :=
  match Arguments.read args with
  | .error fault => (.error fault, t)
  | .ok a => (.ok (run a t folder timing times).1, (run a t folder timing times).2)

/-- The default entry does not lie at a configuration or below it. -/
theorem avoids_entry_default : ¬ Place.names (folder ++ [configFileName]) <+:
    (Path.ofString Config.default.entry).collapse.arrival folder.names := by
  have harrival : (Path.ofString Config.default.entry).collapse.arrival folder.names
      = folder.names ++ [.text "lib", .text "util.js"] := by
    have hpath : (Path.ofString Config.default.entry).collapse
        = ⟨false, [.name "lib", .name "util.js"]⟩ := by decide
    rw [hpath]
    exact Path.arrivalFrom_names folder.names [.text "lib", .text "util.js"]
  rw [harrival, Place.names_concat, List.prefix_append_right_inj]
  decide

/-- **Behind a fresh configuration the command scans as before**, if it takes the same times. -/
theorem scan_write (h : t.Admits folder configFileName) (hnone : t.findConfig folder = none)
    {a : Arguments} (ha : a.StayClear folder (folder ++ [configFileName])) (timing : Bool)
    (times : RunTimes) :
    scan a (t.write (folder ++ [configFileName]) freshConfig) folder timing times
      = scan a t folder timing times := by
  obtain ⟨r, settings, hr, hsettings, hextractable⟩ := Config.exists_settings_default
  obtain ⟨first, hfirst⟩ : ∃ first : Run,
      first = (Run.start (settings.adapt a)).addEntries (a.entries Config.default) := ⟨_, rfl⟩
  have hstart : start a Config.default = .ok first := by
    rw [start, hsettings, hfirst]
  have hstands : first.Stands (t.source folder) (settings.adapt a) (a.entries Config.default) [] :=
    hfirst ▸ Run.stands_addEntries ..
  -- no entry leads to the new file or below it
  have hentries : ∀ p ∈ a.entries Config.default,
      ¬ Place.names (folder ++ [configFileName]) <+: p.collapse.arrival folder.names := by
    intro p hp
    unfold Arguments.entries at hp
    split at hp
    · rw [List.mem_singleton.1 hp]
      exact avoids_entry_default
    · obtain ⟨name, hname, rfl⟩ := List.mem_map.1 hp
      exact ha.files name hname
  have hqueue : ∀ p ∈ first.worklist.queue,
      FileTree.Avoids folder (folder ++ [configFileName]) p := by
    intro p hp
    have hscheduled : p ∈ first.worklist.scheduled := hstands.scheduled ▸ List.mem_append_right _ hp
    obtain ⟨q, hq, rfl⟩ : ∃ q ∈ a.entries Config.default, q.collapse = p := by
      simpa using (hstands.mem_scheduled p).1 hscheduled
    exact ⟨q.isDirect_collapse, hentries q hq⟩
  -- both sources answer alike what the run asks
  have halike : (t.source folder).Alike first.settings.imports
      (FileTree.Avoids folder (folder ++ [configFileName]))
      ((t.write (folder ++ [configFileName]) freshConfig).source folder) := by
    rw [hstands.settings_eq]
    exact FileTree.alike_write h hr hextractable
  have hconfig : (t.write (folder ++ [configFileName]) freshConfig).loadConfig folder
      = .ok Config.default := FileTree.loadConfig_write h
  rw [scan, scan, hconfig, FileTree.loadConfig_of_findConfig hnone]
  dsimp only
  rw [hstart]
  dsimp only
  rw [Run.drain_alike halike hqueue]

/-- Other times change at most what is shown of them. -/
theorem scan_times (a : Arguments) (t : FileTree) (folder : Place) (timing : Bool)
    (times times' : RunTimes) :
    (timing = false ∨ times = times' →
      scan a t folder timing times' = scan a t folder timing times) ∧
    (scan a t folder timing times').stderr = (scan a t folder timing times).stderr ∧
    (scan a t folder timing times').status = (scan a t folder timing times).status := by
  unfold scan
  split
  · exact ⟨fun _ => rfl, rfl, rfl⟩
  · split
    · exact ⟨fun _ => rfl, rfl, rfl⟩
    · exact told_timed ..

theorem initialise_of_admits (h : t.Admits folder configFileName) :
    initialise t folder = (initialised, t.write (folder ++ [configFileName]) freshConfig) := by
  rw [initialise, t.finds_configFileName, h.isFree, if_neg Bool.false_ne_true]

theorem initialise_of_holds (h : t.holds (folder ++ [configFileName]) = true) :
    initialise t folder = (failed alreadyThere, t) := by
  rw [initialise, t.finds_configFileName, h, if_pos rfl]

theorem answer_of_read {args : List String} {a : Arguments} (h : Arguments.read args = .ok a)
    (t : FileTree) (folder : Place) (timing : Bool) (times : RunTimes) :
    answer args t folder timing times
      = (.ok (run a t folder timing times).1, (run a t folder timing times).2) := by
  rw [answer, h]

theorem answer_of_asksInit {args : List String} {a : Arguments}
    (hread : Arguments.read args = .ok a) (hinit : a.init = true) (t : FileTree) (folder : Place)
    (timing : Bool) (times : RunTimes) :
    answer args t folder timing times = (.ok (initialise t folder).1, (initialise t folder).2) := by
  rw [answer_of_read hread, run, if_pos hinit]

theorem answer_fst_of_read {args : List String} {a : Arguments} (h : Arguments.read args = .ok a)
    (hinit : a.init = false) (t : FileTree) (folder : Place) (timing : Bool) (times : RunTimes) :
    (answer args t folder timing times).1 = .ok (scan a t folder timing times) := by
  rw [answer_of_read h, run, hinit, if_neg Bool.false_ne_true]

/-- **A command that asks for no configuration changes no file.** -/
theorem answer_snd {args : List String}
    (hargs : ∀ a, Arguments.read args = .ok a → a.init = false) (t : FileTree) (folder : Place)
    (timing : Bool) (times : RunTimes) : (answer args t folder timing times).2 = t := by
  unfold answer
  split
  · rfl
  · next a ha =>
    unfold run
    rw [hargs a ha, if_neg Bool.false_ne_true]

/-- The report about a file that cannot be read ends with the reason. -/
theorem getLast?_scan_of_read {a : Arguments} {name : String} {fault : ReadFault} (timing : Bool)
    (times : RunTimes) (hconfig : t.loadConfig folder = .ok Config.default)
    (hfiles : a.files = [name])
    (hread : t.read folder (Path.ofString name).collapse = .error fault) :
    (scan a t folder timing times).stdout.getLast?
      = some (plain (" " ++ fault.message ++ "\n")) := by
  obtain ⟨r, settings, -, hsettings, -⟩ := Config.exists_settings_default
  obtain ⟨p, hp⟩ : ∃ p, p = (Path.ofString name).collapse := ⟨_, rfl⟩
  obtain ⟨first, hfirst⟩ : ∃ first : Run,
      first = ⟨settings.adapt a, ⟨[p], [p]⟩, [{ path := p }], []⟩ := ⟨_, rfl⟩
  have hstart : start a Config.default = .ok first := by
    have hentries : a.entries Config.default = [Path.ofString name] := by
      rw [Arguments.entries, hfiles]
      rfl
    rw [start, hsettings, hentries, hfirst, hp]
    rfl
  have hload : (t.source folder).load p = .error (.unreadable p fault) := by
    unfold FileTree.source
    dsimp only
    rw [hp, hread]
  have hnext : first.worklist.next = some (p, ⟨[p], []⟩) := by rw [hfirst]; rfl
  have hmodule : (Run.module? { first with worklist := ⟨[p], []⟩ } p).isSome = true := by
    rw [hfirst]
    simp [Run.module?]
  -- the only path that waits stops the run
  have herror : (first.drain (t.source folder)).error = some ⟨p, .load (.unreadable p fault)⟩ := by
    rw [Run.drain, Run.drainFrom_of_next hnext (by rw [hload, Run.process_of_error hmodule])]
  rw [scan, hconfig]
  dsimp only
  rw [hstart]
  dsimp only
  show (_ ++ ((((first.drain (t.source folder)).error.map RunError.failure).map
    Failure.pieces).getD [])).getLast? = _
  rw [herror]
  exact List.getLast?_append_of_ne_nil _ (List.cons_ne_nil _ _)

theorem outcome_extract_nil (l : Language) :
    (extract l []).outcome = .ok Extraction.empty := by
  have hsteps : (Pass.ofLexer (.ofText l [])).steps? 0 = some (Pass.ofLexer (.ofText l [])) := rfl
  rw [Pass.extract_eq hsteps (.finished rfl)]
  rfl

/-- No run is stopped in a tree whose only file is empty, and so its output tells how long it has
taken. -/
theorem durationText_of_scan_empty {place : Place} {name : String} {times times' : RunTimes}
    (hfiles : t.files = [(place, .text "")])
    (hentry : t.isFile folder (Path.ofString name).collapse = true)
    (hconfig : t.loadConfig folder = .ok Config.default)
    (h : scan { Arguments.none with files := [name] } t folder true times
      = scan { Arguments.none with files := [name] } t folder true times') :
    durationText times.total = durationText times'.total := by
  obtain ⟨r, settings, -, hsettings, -⟩ := Config.exists_settings_default
  let a : Arguments := { Arguments.none with files := [name] }
  have hstart : start a Config.default
      = .ok ((Run.start (settings.adapt a)).addEntries [Path.ofString name]) := by
    rw [start, hsettings]
    rfl
  -- the only file is empty
  have hload : ∀ p, t.isFile folder p = true → (t.source folder).load p = .ok "" := by
    intro p hp
    unfold FileTree.isFile at hp
    unfold FileTree.source FileTree.read FileTree.textAt
    split at hp
    · next target htarget =>
      have hfile : t.file? target = some (.text "") := by
        rw [FileTree.file?, hfiles, List.find?_singleton] at hp ⊢
        split at hp
        · next hplace => rw [if_pos hplace]; rfl
        · cases hp
      dsimp only
      rw [htarget]
      dsimp only
      rw [hfile]
    · cases hp
  -- and so nothing stops the run
  have herror : (Run.drain (t.source folder)
      ((Run.start (settings.adapt a)).addEntries [Path.ofString name])).error = none := by
    refine Run.error_eq_none fun p hp => ?_
    have hp : t.isFile folder p = true := by
      rcases hp with hp | hp
      · rwa [List.mem_singleton.1 hp]
      · exact hp
    exact (Source.read_of_outcome (hload p hp) (outcome_extract_nil _)).1
  rw [scan, scan, hconfig] at h
  dsimp only at h
  rw [hstart] at h
  exact durationText_of_told rfl rfl herror h

/-- A file to start from that lies below the new file, which is no folder, cannot be read for
another reason than before. -/
theorem exists_answer_below_ne : ∃ (args : List String) (t : FileTree),
    (t.isFolder [] = true ∧ t.findConfig [] = none ∧ ∀ a, Arguments.read args = .ok a →
      a.init = false ∧ ∀ name ∈ a.files,
        (Path.ofString name).collapse.arrival [] ≠ Place.names [configFileName]) ∧
    ∀ timing times, (answer args (answer ["--init"] t [] timing times).2 [] timing times).1
      ≠ (answer args t [] timing times).1 := by
  let t : FileTree := ⟨[], [[".git"]]⟩
  let a : Arguments := { Arguments.none with files := [".modsplitrc.json/x.js"] }
  have hnone : t.findConfig [] = none := by decide
  have hadmits : t.Admits [] configFileName := FileTree.admits_of_findConfig rfl hnone
  have hread : Arguments.read [".modsplitrc.json/x.js"] = .ok a := rfl
  have hasked : Arguments.read ["--init"] = .ok { Arguments.none with init := true } := rfl
  refine ⟨[".modsplitrc.json/x.js"], t, ⟨rfl, hnone, fun a' ha' => ?_⟩,
    fun timing times hsame => ?_⟩
  · obtain rfl := Except.ok.inj (hread.symm.trans ha')
    exact ⟨rfl, by decide⟩
  rw [answer_of_asksInit hasked rfl, initialise_of_admits hadmits, answer_fst_of_read hread rfl,
    answer_fst_of_read hread rfl] at hsame
  obtain ⟨t', ht'⟩ : ∃ t', t' = t.write ([] ++ [configFileName]) freshConfig := ⟨_, rfl⟩
  rw [← ht'] at hsame
  have hscan : scan a t' [] timing times = scan a t [] timing times := Except.ok.inj hsame
  -- before, there is nothing of that name; behind, a file stands where a folder is needed
  have hmissing : t.read [] (Path.ofString ".modsplitrc.json/x.js").collapse
      = .error .notFound := by
    decide
  have hblocked : t'.read [] (Path.ofString ".modsplitrc.json/x.js").collapse
      = .error .notFolder := by
    rw [ht']
    decide
  have hbefore := getLast?_scan_of_read (a := a) timing times
    (FileTree.loadConfig_of_findConfig hnone) rfl hmissing
  have hbehind := getLast?_scan_of_read (a := a) timing times
    (ht' ▸ FileTree.loadConfig_write hadmits) rfl hblocked
  rw [hscan, hbefore] at hbehind
  exact absurd hbehind (by decide)

/-- A run that takes another time shows another time, wherever it starts. -/
theorem exists_answer_times_ne : ∃ (args : List String) (t : FileTree) (times times' : RunTimes),
    (t.isFolder [] = true ∧ t.findConfig [] = none ∧
      ∀ a, Arguments.read args = .ok a → a.StayClear [] [configFileName]) ∧
    (answer args (answer ["--init"] t [] true times).2 [] true times').1
      ≠ (answer args t [] true times).1 := by
  let t : FileTree := ⟨[(["a.js"], .text "")], [[".git"]]⟩
  let a : Arguments := { Arguments.none with files := ["a.js"] }
  have hnone : t.findConfig [] = none := by decide
  have hadmits : t.Admits [] configFileName := FileTree.admits_of_findConfig rfl hnone
  have hread : Arguments.read ["a.js"] = .ok a := rfl
  have hasked : Arguments.read ["--init"] = .ok { Arguments.none with init := true } := rfl
  have hclear : a.StayClear [] [configFileName] := ⟨rfl, by decide⟩
  refine ⟨["a.js"], t, .zero, ⟨fun _ => 0, 1000000⟩, ⟨rfl, hnone, fun a' ha' => ?_⟩,
    fun hsame => ?_⟩
  · obtain rfl := Except.ok.inj (hread.symm.trans ha')
    exact hclear
  rw [answer_of_asksInit hasked rfl, initialise_of_admits hadmits, answer_fst_of_read hread rfl,
    answer_fst_of_read hread rfl, scan_write hadmits hnone hclear] at hsame
  have htext := durationText_of_scan_empty (t := t) rfl (by decide)
    (FileTree.loadConfig_of_findConfig hnone) (Except.ok.inj hsame)
  exact absurd htext (by decide)

end Command

end ImportScan
