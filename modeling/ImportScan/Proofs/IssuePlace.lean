import ImportScan.Proofs.FileStep
import ImportScan.Proofs.RecordPlace
import ImportScan.Report.Issues

/-!
# Where issues point

An issue keeps the line and the column of what it is about, and the text of that line.  Since all
places that a pass reports are true places of its text, the line is the one around the place, and the
caret stands below the first character of what the issue is about.

## Main definitions

* `Problem.Faces` — what stands behind the place of a problem.
* `Issue.PointsAt` — an issue points at a cut of a text.

## Main results

* `exists_pointsAt_fileIssues` — the issues of one file point into its text.
* `reported_places` — **all places that a lexer or a run reports are true places, and carets stand
  below what is wrong**.
-/

namespace ImportScan

/-- What stands behind the place of a problem: a character that starts no token, the token that does
not fit, or the keyword of the statement. -/
def Problem.Faces (behind : List Char) : Problem → Prop
  | .lex _ => behind ≠ []
  | .balance m => m.Faces behind
  | .malformed kind _ => kind.keyword.toList <+: behind
  | .unresolved _ _ => StatementKind.imports.keyword.toList <+: behind

/-- The issue points at the cut of a text between two parts. -/
structure Issue.PointsAt (i : Issue) (p : Path) (text : String) (before behind : List Char) :
    Prop where
  /-- The two parts make up the text. -/
  cut : text.toList = before ++ behind
  /-- The line and the column are those of the cut. -/
  context : i.context = Run.contextAt p text (placeBehind before)
  /-- The line that is shown is the one around the cut. -/
  line : i.context.sourceLine.toList = lastLine before ++ firstLine behind
  /-- The caret stands as far to the right as what is on the line before the cut. -/
  caret : caretPadding i.context = displayWidth (lastLine before)
  /-- What is wrong starts at the cut. -/
  subject : i.problem.Faces behind

variable {i : Issue} {p : Path} {text : String} {loc : Location} {before behind : List Char}

/-- An issue at a true place of the text points at it. -/
theorem Issue.pointsAt (hcut : text.toList = before ++ behind) (hmarks : loc.Marks before behind)
    (hcontext : i.context = Run.contextAt p text loc) (hfaces : i.problem.Faces behind) :
    i.PointsAt p text before behind where
  cut := hcut
  context := by rw [hcontext, hmarks.eq_placeBehind]
  line := by
    rw [hcontext]
    simp only [Run.contextAt, String.toList_ofList]
    rw [hcut, hmarks.line]
  caret := by
    rw [hcontext]
    simp only [Run.contextAt, caretPadding, String.toList_ofList]
    rw [hcut, hmarks.column]
  subject := hfaces

/-- An issue about a statement points at its keyword. -/
theorem Issue.exists_pointsAt {kind : StatementKind}
    (hloc : loc.IsAt text.toList kind.keyword.toList)
    (hcontext : i.context = Run.contextAt p text loc)
    (hfaces : ∀ behind, kind.keyword.toList <+: behind → i.problem.Faces behind) :
    ∃ before behind, i.PointsAt p text before behind := by
  obtain ⟨before, behind, hcut, hmarks⟩ := hloc
  exact ⟨before, _, pointsAt hcut hmarks hcontext (hfaces _ (List.prefix_append _ _))⟩

/-! ### The issues of a file -/

variable {l : Language} {x : Extraction}

/-- A statement that cannot be understood is told at its keyword. -/
theorem isAt_malformed (h : (extract l text.toList).outcome = .ok x) {m : Malformed}
    (hm : m ∈ x.malformed) : m.loc.IsAt text.toList m.kind.keyword.toList := by
  obtain ⟨ss, o, hdecomposes, haccounts, -⟩ := exists_accounts h
  have htokens : ∀ t ∈ (extract l text.toList).tokens, t.IsIn text.toList :=
    fun t ht => isIn_tokens ht
  obtain ⟨s, hs, hkind, hloc⟩ | ⟨cut, rfl, hkind, hloc⟩ := haccounts.of_mem_malformed hm
  · rw [hkind, hloc]
    exact hdecomposes.isAt_loc htokens hs
  · obtain ⟨first, hmem, hfirst, hfirstLoc⟩ := hdecomposes.exists_first
    rw [hkind, hloc, ← hfirstLoc, ← StatementKind.lexeme_of_ofToken? hfirst]
    exact htokens first hmem

theorem isAt_import (h : (extract l text.toList).outcome = .ok x) {r : ImportRecord}
    (hr : r ∈ x.imports) : r.loc.IsAt text.toList StatementKind.imports.keyword.toList := by
  obtain ⟨ss, o, hdecomposes, haccounts, -⟩ := exists_accounts h
  obtain ⟨s, hs, hkind, hread⟩ := haccounts.of_mem_imports hr
  rw [(Statement.of_toImport hread).2.1, ← hkind]
  exact hdecomposes.isAt_loc (fun t ht => isIn_tokens ht) hs

/-- The issues of a file point into its text. -/
theorem exists_pointsAt_fileIssues {policy : ImportPolicy} {doesExist : Path → Bool} {w : Worklist}
    (hi : i ∈ fileIssues policy doesExist w p text (extract l text.toList).outcome) :
    ∃ before behind, i.PointsAt p text before behind := by
  cases houtcome : (extract l text.toList).outcome with
  | ok x =>
    rw [houtcome] at hi
    rcases List.mem_append.1 hi with hi | hi
    · obtain ⟨m, hm, rfl⟩ := List.mem_map.1 hi
      exact Issue.exists_pointsAt (isAt_malformed houtcome hm) rfl fun _ hprefix => hprefix
    · obtain ⟨u, hu, rfl⟩ := List.mem_map.1 hi
      obtain ⟨s, hs, hunresolved⟩ := List.mem_filterMap.1 hu
      obtain ⟨r, hr, rfl⟩ := List.mem_map.1 hs
      -- the complaint stands where its import does
      have hloc : u.loc = r.loc := by
        simp only [Worklist.unresolved?] at hunresolved
        split at hunresolved
        · cases hunresolved
          rfl
        · cases hunresolved
      have hat := isAt_import houtcome hr
      rw [← hloc] at hat
      exact Issue.exists_pointsAt hat rfl fun _ hprefix => hprefix
  | error fault =>
    obtain ⟨before, behind, hcut, hmarks, hfaces⟩ := exists_marks_fault houtcome
    rw [houtcome] at hi
    cases fault with
    | lex e =>
      rw [List.mem_singleton.1 hi]
      exact ⟨before, behind, Issue.pointsAt hcut hmarks rfl hfaces⟩
    | balance m =>
      rw [List.mem_singleton.1 hi]
      exact ⟨before, behind, Issue.pointsAt hcut hmarks rfl hfaces⟩

/-! ### Whole runs -/

namespace Run

/-- Every issue of the run points into the text of a file of the source. -/
def IssuesPoint (source : Source) (r : Run) : Prop :=
  ∀ i ∈ r.issues, ∃ p text before behind,
    source.load p = .ok text ∧ i.PointsAt p text before behind

theorem IssuesPoint.process {source : Source} {r : Run} (h : r.IssuesPoint source) (p : Path) :
    (r.process p (source.load p) source.doesExist).run.IssuesPoint source := by
  intro i hi
  rcases (r.process_issues source.doesExist (source.load p)).2 i hi with hi | ⟨text, hload, hi⟩
  · exact h i hi
  · obtain ⟨before, behind, hpoints⟩ := exists_pointsAt_fileIssues hi
    exact ⟨p, text, before, behind, hload, hpoints⟩

theorem addEntry_issues (r : Run) (p : Path) : (r.addEntry p).1.issues = r.issues := by
  unfold addEntry
  split <;> rfl

/-- All issues of a run point at what is wrong. -/
theorem issuesPoint_drain (source : Source) (settings : Settings) (entries : List Path) :
    (drain source ((start settings).addEntries entries)).run.IssuesPoint source := by
  have hstart : ((start settings).addEntries entries).IssuesPoint source := by
    refine addEntries_invariant (fun r p hr => ?_) entries (fun i hi => ?_)
    · intro i hi
      rw [addEntry_issues] at hi
      exact hr i hi
    · cases hi
  refine drainFrom_invariant (fun r p w hr _ => ?_) [] hstart
  exact IssuesPoint.process (r := { r with worklist := w }) hr p

end Run

/-- **All places that a lexer or a run reports are true places, and carets stand below what is
wrong.**  Whatever a lexer is told, its tokens and errors are at the places that the text before them
leads to, and so is the lexer itself, which comes to the end of the text in the end.  For each of
these places the line that is found by its number is the line around it.  Every issue of a run shows
this line, with the caret below the first character of what the issue is about. -/
theorem reported_places (l : Language) (text : List Char) (calls : List Lexer.Call)
    (source : Source) (settings : Settings) (entries : List Path) :
    (∀ a ∈ (Lexer.ofText l text).answers calls, a.IsIn text) ∧
    (∃ passed, text = passed ++ ((Lexer.ofText l text).after calls).rest ∧
      ((Lexer.ofText l text).after calls).loc.Marks passed
        ((Lexer.ofText l text).after calls).rest) ∧
    ∀ i ∈ (Run.drain source ((Run.start settings).addEntries entries)).run.issues,
      ∃ p text before behind, source.load p = .ok text ∧ i.PointsAt p text before behind := by
  have hmarks := Lexer.marks_ofText l text
  obtain ⟨hanswers, hafter⟩ := hmarks.calls rfl calls
  exact ⟨hanswers, hafter, Run.issuesPoint_drain source settings entries⟩

end ImportScan
