import ImportScan.Proofs.Decomposition
import ImportScan.Proofs.PassRun

/-!
# Every statement is accounted for

A pass that succeeds has read every statement of its text once, in the order of the text.  A
statement gives one record or one complaint, or nothing if it is an import without `from`, and what
the end of the text cuts off gives the last complaint.  A record keeps the range, the place and the
text of its statement, so that the records follow one another as the statements do.

## Main definitions

* `Statement.Gives` — what one statement gives.
* `Accounts` — what some statements give, and the one that is cut off behind them.

## Main results

* `Accounts.of_mem` — where a record or a complaint comes from.
* `exists_accounts` — **the statements of a text are pieces of it, and account for all that is
  found**.
* `ascends_imports`, `slice?_imports` — the imports of a text follow one another, and their texts are
  its slices.
-/

namespace ImportScan

/-! ### What statements give -/

namespace Extraction

/-- The records and complaints of one extraction, and behind them those of another. -/
def append (x y : Extraction) : Extraction :=
  ⟨x.imports ++ y.imports, x.exports ++ y.exports, x.malformed ++ y.malformed⟩

theorem append_empty (x : Extraction) : x.append empty = x := by
  simp [append, empty]

theorem append_assoc (x y z : Extraction) : (x.append y).append z = x.append (y.append z) := by
  simp [append]

end Extraction

/-- What a statement gives: one record, one complaint, or nothing if it is an import that binds
nothing. -/
inductive Statement.Gives (s : Statement) : Extraction → Prop where
  | nothing (hkind : s.kind = .imports) (hfrom : s.hasFrom = false) : s.Gives ⟨[], [], []⟩
  | imported {r : ImportRecord} (hkind : s.kind = .imports) (hfrom : s.hasFrom = true)
      (hread : s.toImport = .ok r) : s.Gives ⟨[r], [], []⟩
  | malformedImport {m : Malformed} (hkind : s.kind = .imports) (hfrom : s.hasFrom = true)
      (hread : s.toImport = .error m) : s.Gives ⟨[], [], [m]⟩
  | exported {r : ExportRecord} (hkind : s.kind = .exports) (hread : s.toExport = .ok r) :
    s.Gives ⟨[], [r], []⟩
  | malformedExport {m : Malformed} (hkind : s.kind = .exports) (hread : s.toExport = .error m) :
    s.Gives ⟨[], [], [m]⟩

/-- What some statements give, in their order, and behind it the complaint about the statement that
is cut off. -/
inductive Accounts : List Statement → Option OpenStatement → Extraction → Prop where
  | finished : Accounts [] none ⟨[], [], []⟩
  | cutOff (cut : OpenStatement) :
    Accounts [] (some cut) ⟨[], [], [⟨cut.kind, .unterminated, cut.loc⟩]⟩
  | statement {s : Statement} {ss : List Statement} {o : Option OpenStatement} {x y : Extraction}
      (hgives : s.Gives y) (hrest : Accounts ss o x) : Accounts (s :: ss) o (y.append x)

/-- Reading a statement adds what it gives. -/
theorem Extraction.exists_gives (x : Extraction) (s : Statement) :
    ∃ y, s.Gives y ∧ x.add s = x.append y := by
  unfold add
  cases hkind : s.kind with
  | imports =>
    dsimp only
    cases hfrom : s.hasFrom with
    | false => exact ⟨_, .nothing hkind hfrom, x.append_empty.symm⟩
    | true =>
      cases hread : s.toImport with
      | ok r => exact ⟨_, .imported hkind hfrom hread, by simp [append, addImport]⟩
      | error m => exact ⟨_, .malformedImport hkind hfrom hread, by simp [append, addMalformed]⟩
  | exports =>
    dsimp only
    cases hread : s.toExport with
    | ok r => exact ⟨_, .exported hkind hread, by simp [append, addExport]⟩
    | error m => exact ⟨_, .malformedExport hkind hread, by simp [append, addMalformed]⟩

/-- Reading some statements one by one adds what they give. -/
theorem accounts_foldl (ss : List Statement) (x : Extraction) :
    ∃ y, Accounts ss none y ∧ ss.foldl Extraction.add x = x.append y := by
  induction ss generalizing x with
  | nil => exact ⟨_, .finished, x.append_empty.symm⟩
  | cons s ss ih =>
    obtain ⟨y, hy, hadd⟩ := x.exists_gives s
    obtain ⟨z, hz, hrest⟩ := ih (x.add s)
    refine ⟨y.append z, .statement hy hz, ?_⟩
    rw [List.foldl_cons, hrest, hadd, Extraction.append_assoc]

namespace Statement

variable {s : Statement} {x : Extraction}

/-- A record keeps the range, the place and the text of its statement. -/
theorem of_toImport {r : ImportRecord} (h : s.toImport = .ok r) :
    r.range = s.range ∧ r.loc = s.loc ∧ r.code = s.text := by
  unfold toImport at h
  split at h
  · cases h
    exact ⟨rfl, rfl, rfl⟩
  · cases h

theorem of_toExport {r : ExportRecord} (h : s.toExport = .ok r) :
    r.range = s.range ∧ r.loc = s.loc ∧ r.code = s.text := by
  unfold toExport at h
  split at h
  · cases h
  · split at h
    · cases h
    · split at h
      · cases h
        exact ⟨rfl, rfl, rfl⟩
      · cases h

theorem loc_of_toImport {m : Malformed} (h : s.toImport = .error m) :
    m.kind = .imports ∧ m.loc = s.loc := by
  unfold toImport at h
  split at h
  · cases h
  · cases h
    exact ⟨rfl, rfl⟩

theorem loc_of_toExport {m : Malformed} (h : s.toExport = .error m) :
    m.kind = .exports ∧ m.loc = s.loc := by
  unfold toExport at h
  split at h
  · cases h
    exact ⟨rfl, rfl⟩
  · split at h
    · cases h
      exact ⟨rfl, rfl⟩
    · split at h
      · cases h
      · cases h
        exact ⟨rfl, rfl⟩

theorem Gives.of_mem_imports (h : s.Gives x) {r : ImportRecord} (hr : r ∈ x.imports) :
    s.kind = .imports ∧ s.toImport = .ok r := by
  cases h with
  | imported hkind _ hread =>
    rw [List.mem_singleton.1 hr]
    exact ⟨hkind, hread⟩
  | nothing | malformedImport | exported | malformedExport => cases hr

theorem Gives.of_mem_exports (h : s.Gives x) {r : ExportRecord} (hr : r ∈ x.exports) :
    s.kind = .exports ∧ s.toExport = .ok r := by
  cases h with
  | exported hkind hread =>
    rw [List.mem_singleton.1 hr]
    exact ⟨hkind, hread⟩
  | nothing | malformedImport | imported | malformedExport => cases hr

theorem Gives.of_mem_malformed (h : s.Gives x) {m : Malformed} (hm : m ∈ x.malformed) :
    m.kind = s.kind ∧ m.loc = s.loc := by
  cases h with
  | malformedImport hkind _ hread =>
    rw [List.mem_singleton.1 hm, hkind]
    exact loc_of_toImport hread
  | malformedExport hkind hread =>
    rw [List.mem_singleton.1 hm, hkind]
    exact loc_of_toExport hread
  | nothing | imported | exported => cases hm

theorem Gives.sublist_ranges (h : s.Gives x) :
    (x.imports.map ImportRecord.range).Sublist [s.range] ∧
      (x.exports.map ExportRecord.range).Sublist [s.range] := by
  cases h with
  | nothing | malformedImport | malformedExport => simp
  | imported _ _ hread => simp [(of_toImport hread).1]
  | exported _ hread => simp [(of_toExport hread).1]

end Statement

namespace Accounts

variable {ss : List Statement} {o : Option OpenStatement} {x : Extraction}

/-- A statement that is cut off adds the last complaint. -/
theorem addMalformed (h : Accounts ss none x) (cut : OpenStatement) :
    Accounts ss (some cut) (x.addMalformed ⟨cut.kind, .unterminated, cut.loc⟩) := by
  generalize ho : none = o at h
  induction h with
  | finished => exact .cutOff cut
  | cutOff => cases ho
  | @statement s ss o x y hgives _ ih =>
    have hassoc : (y.append x).addMalformed ⟨cut.kind, .unterminated, cut.loc⟩
        = y.append (x.addMalformed ⟨cut.kind, .unterminated, cut.loc⟩) := by
      simp [Extraction.append, Extraction.addMalformed]
    rw [hassoc]
    exact .statement hgives (ih ho)

/-- All that is found comes from a statement, or from the one that is cut off. -/
theorem of_mem {α : Type} {found : Extraction → List α} (hnil : found ⟨[], [], []⟩ = [])
    (happend : ∀ x y, found (x.append y) = found x ++ found y) (h : Accounts ss o x) {a : α}
    (ha : a ∈ found x) :
    (∃ s ∈ ss, ∃ y, s.Gives y ∧ a ∈ found y) ∨
      ∃ cut, o = some cut ∧ a ∈ found ⟨[], [], [⟨cut.kind, .unterminated, cut.loc⟩]⟩ := by
  induction h with
  | finished =>
    rw [hnil] at ha
    cases ha
  | cutOff cut => exact .inr ⟨cut, rfl, ha⟩
  | @statement s ss o x y hgives _ ih =>
    rw [happend] at ha
    rcases List.mem_append.1 ha with ha | ha
    · exact .inl ⟨s, List.mem_cons_self, y, hgives, ha⟩
    · obtain ⟨s', hs', hfound⟩ | hcut := ih ha
      · exact .inl ⟨s', List.mem_cons_of_mem _ hs', hfound⟩
      · exact .inr hcut

theorem of_mem_imports (h : Accounts ss o x) {r : ImportRecord} (hr : r ∈ x.imports) :
    ∃ s ∈ ss, s.kind = .imports ∧ s.toImport = .ok r := by
  obtain ⟨s, hs, y, hgives, hr⟩ | ⟨cut, -, hr⟩ :=
    h.of_mem rfl (fun _ _ => rfl) hr
  · exact ⟨s, hs, hgives.of_mem_imports hr⟩
  · cases hr

theorem of_mem_exports (h : Accounts ss o x) {r : ExportRecord} (hr : r ∈ x.exports) :
    ∃ s ∈ ss, s.kind = .exports ∧ s.toExport = .ok r := by
  obtain ⟨s, hs, y, hgives, hr⟩ | ⟨cut, -, hr⟩ :=
    h.of_mem rfl (fun _ _ => rfl) hr
  · exact ⟨s, hs, hgives.of_mem_exports hr⟩
  · cases hr

theorem of_mem_malformed (h : Accounts ss o x) {m : Malformed} (hm : m ∈ x.malformed) :
    (∃ s ∈ ss, m.kind = s.kind ∧ m.loc = s.loc) ∨
      ∃ cut, o = some cut ∧ m.kind = cut.kind ∧ m.loc = cut.loc := by
  obtain ⟨s, hs, y, hgives, hm⟩ | ⟨cut, hcut, hm⟩ :=
    h.of_mem rfl (fun _ _ => rfl) hm
  · exact .inl ⟨s, hs, hgives.of_mem_malformed hm⟩
  · rw [List.mem_singleton.1 hm]
    exact .inr ⟨cut, hcut, rfl, rfl⟩

/-- The ranges of the records are among those of the statements, in their order. -/
theorem sublist_ranges (h : Accounts ss o x) :
    (x.imports.map ImportRecord.range).Sublist (ss.map Statement.range) ∧
      (x.exports.map ExportRecord.range).Sublist (ss.map Statement.range) := by
  induction h with
  | finished => simp
  | cutOff => simp
  | statement hgives _ ih =>
    obtain ⟨himports, hexports⟩ := hgives.sublist_ranges
    constructor
    · rw [Extraction.append, List.map_append]
      exact himports.append ih.1
    · rw [Extraction.append, List.map_append]
      exact hexports.append ih.2

end Accounts

/-! ### Whole texts -/

variable {l : Language} {text : List Char} {x : Extraction}

/-- The statements of a text are pieces of it that follow one another, and they account for all that
is found in it. -/
theorem exists_accounts (h : (extract l text).outcome = .ok x) :
    ∃ ss o, Decomposes (extract l text).tokens ss o ∧ Accounts ss o x ∧
      (∀ s ∈ ss, s.IsPieceOf text) ∧ Ascends 0 (ss.map Statement.range) (byteLength text) := by
  -- the records of the pass are those of the statements that its collector has given away
  obtain ⟨p, hreaches, -, hfinish, htokens⟩ := Pass.exists_finished h
  have hfollows := hreaches.follows
  refine ⟨_, _, (decomposes_feedAll _).1, ?_, ?_⟩
  · rw [htokens, hfollows.collected, Pass.finish_eq_ok hfinish]
    obtain ⟨y, hy, hfound⟩ := accounts_foldl (Collector.idle.feedAll p.tokens).2 .empty
    have hfound : p.found = y := hfollows.found.trans hfound
    cases hopen : p.collector.finish.2 with
    | none => rwa [hfound]
    | some cut =>
      rw [hfound]
      exact hy.addMalformed cut
  · rw [htokens]
    exact hfollows.statements

theorem ascends_imports (h : (extract l text).outcome = .ok x) :
    Ascends 0 (x.imports.map ImportRecord.range) (byteLength text) := by
  obtain ⟨ss, o, -, haccounts, -, hascends⟩ := exists_accounts h
  exact hascends.sublist haccounts.sublist_ranges.1

/-- The text of an import is the slice at its range. -/
theorem slice?_imports (h : (extract l text).outcome = .ok x) {r : ImportRecord}
    (hr : r ∈ x.imports) : slice? text r.range = some r.code.toList := by
  obtain ⟨ss, o, -, haccounts, hpieces, -⟩ := exists_accounts h
  obtain ⟨s, hs, -, hread⟩ := haccounts.of_mem_imports hr
  obtain ⟨hrange, -, hcode⟩ := Statement.of_toImport hread
  rw [hrange, hcode]
  exact (hpieces s hs).slice?

end ImportScan
