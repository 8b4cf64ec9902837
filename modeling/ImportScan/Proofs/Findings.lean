import ImportScan.Proofs.ParallelRun

/-!
# Findings without places

What a text imports and exports does not depend on its blanks and comments.  The collector asks of
them only which ones end a line; all others may be left out or put in, and the same is found, at
other places.

## Main definitions

* `Findings`, `Extraction.findings` — what is found, without places and texts.
* `Token.counts` — the tokens that the collector asks for.
* `Statement.SameSense` — two statements that differ in blanks and comments only.
* `OutcomesAgree` — outcomes that differ in places and texts only.

## Main results

* `Statement.SameSense.findings_add` — statements of the same sense give the same.
* `findings_ofTokens_filter` — **what is found in a stream is found in the tokens that count**.
* `findings_ofTokens_eq` — streams whose tokens that count are the same give the same.
-/

namespace ImportScan

/-! ### Findings -/

/-- What is found in a text, without places and texts. -/
structure Findings where
  /-- What each import binds, and where from. -/
  imports : List (Bindings × String)
  /-- The form of each export, the token behind its keyword, and the name. -/
  exports : List (ExportKind × String × String)
  /-- The kind of each statement that could not be understood, and its fault. -/
  malformed : List (StatementKind × StatementFault)
  deriving DecidableEq, Repr

/-- What is found, without places and texts. -/
def Extraction.findings (x : Extraction) : Findings :=
  ⟨x.imports.map fun r => (r.bindings, r.specifier),
    x.exports.map fun r => (r.kind, r.declaration, r.exported),
    x.malformed.map fun m => (m.kind, m.fault)⟩

namespace Extraction

theorem findings_addImport (x : Extraction) (r : ImportRecord) : (x.addImport r).findings
    = { x.findings with imports := x.findings.imports ++ [(r.bindings, r.specifier)] } := by
  simp [findings, addImport]

theorem findings_addExport (x : Extraction) (r : ExportRecord) : (x.addExport r).findings
    = { x.findings with exports := x.findings.exports ++ [(r.kind, r.declaration, r.exported)] } := by
  simp [findings, addExport]

theorem findings_addMalformed (x : Extraction) (m : Malformed) : (x.addMalformed m).findings
    = { x.findings with malformed := x.findings.malformed ++ [(m.kind, m.fault)] } := by
  simp [findings, addMalformed]

end Extraction

/-- Two passes end in the same way: what they find differs in places and texts only, or they fail
with the same fault, at places that may differ. -/
inductive OutcomesAgree :
    Except ExtractionFault Extraction → Except ExtractionFault Extraction → Prop where
  /-- The same is found. -/
  | ok {x x' : Extraction} (h : x'.findings = x.findings) : OutcomesAgree (.ok x) (.ok x')
  /-- The lexer cannot go on for the same reason. -/
  | lex {e e' : LexError} (h : e'.fault = e.fault) :
    OutcomesAgree (.error (.lex e)) (.error (.lex e'))
  /-- The brackets do not nest: the same was expected, found and open. -/
  | balance {m m' : BalanceMismatch} (hexpected : m'.expected = m.expected)
      (hfound : m'.found = m.found) (hstack : m'.stack = m.stack) :
    OutcomesAgree (.error (.balance m)) (.error (.balance m'))

/-! ### The sense of a statement -/

/-- Two statements that differ in blanks, comments and places only. -/
structure Statement.SameSense (s s' : Statement) : Prop where
  /-- The keyword is the same. -/
  kind : s'.kind = s.kind
  /-- The tokens that carry meaning are the same. -/
  significant : s'.significant = s.significant
  /-- Both have the keyword `from` or neither has. -/
  hasFrom : s'.hasFrom = s.hasFrom

namespace Statement.SameSense

variable {s s' : Statement} {x x' : Extraction}

theorem body (h : s.SameSense s') (kind : StatementKind) : s'.body kind = s.body kind := by
  rw [Statement.body, Statement.body, h.significant]

theorem toImport (h : s.SameSense s') :
    (∃ r r', s.toImport = .ok r ∧ s'.toImport = .ok r' ∧
        r'.bindings = r.bindings ∧ r'.specifier = r.specifier) ∨
      ∃ m m', s.toImport = .error m ∧ s'.toImport = .error m' ∧
        m'.kind = m.kind ∧ m'.fault = m.fault := by
  unfold Statement.toImport
  rw [h.body]
  split
  · exact .inl ⟨_, _, rfl, rfl, rfl, rfl⟩
  · exact .inr ⟨_, _, rfl, rfl, rfl, rfl⟩

theorem exportKind (h : s.SameSense s') (first : Token) : s'.exportKind first = s.exportKind first := by
  rw [Statement.exportKind, Statement.exportKind, h.hasFrom]

theorem toExport (h : s.SameSense s') :
    (∃ r r', s.toExport = .ok r ∧ s'.toExport = .ok r' ∧ r'.kind = r.kind ∧
        r'.declaration = r.declaration ∧ r'.exported = r.exported) ∨
      ∃ m m', s.toExport = .error m ∧ s'.toExport = .error m' ∧
        m'.kind = m.kind ∧ m'.fault = m.fault := by
  unfold Statement.toExport
  rw [h.body]
  split
  · exact .inr ⟨_, _, rfl, rfl, rfl, rfl⟩
  · rw [h.exportKind]
    split
    · exact .inr ⟨_, _, rfl, rfl, rfl, rfl⟩
    · split
      · exact .inl ⟨_, _, rfl, rfl, rfl, rfl, rfl⟩
      · exact .inr ⟨_, _, rfl, rfl, rfl, rfl⟩

/-- Statements of the same sense give the same. -/
theorem findings_add (h : s.SameSense s') (hx : x'.findings = x.findings) :
    (x'.add s').findings = (x.add s).findings := by
  unfold Extraction.add
  rw [h.kind, h.hasFrom]
  cases s.kind with
  | imports =>
    dsimp only
    split
    · obtain ⟨r, r', hr, hr', hbindings, hspecifier⟩ | ⟨m, m', hm, hm', hkind, hfault⟩ := h.toImport
      · rw [hr, hr', Extraction.findings_addImport, Extraction.findings_addImport, hx, hbindings,
          hspecifier]
      · rw [hm, hm', Extraction.findings_addMalformed, Extraction.findings_addMalformed, hx, hkind,
          hfault]
    · exact hx
  | exports =>
    dsimp only
    obtain ⟨r, r', hr, hr', hkind, hdeclaration, hexported⟩ | ⟨m, m', hm, hm', hkind, hfault⟩ :=
      h.toExport
    · rw [hr, hr', Extraction.findings_addExport, Extraction.findings_addExport, hx, hkind,
        hdeclaration, hexported]
    · rw [hm, hm', Extraction.findings_addMalformed, Extraction.findings_addMalformed, hx, hkind,
        hfault]

theorem findings_foldl_add {ss ss' : List Statement} (h : List.Forall₂ SameSense ss ss')
    (hx : x'.findings = x.findings) :
    (ss'.foldl Extraction.add x').findings = (ss.foldl Extraction.add x).findings := by
  induction h generalizing x x' with
  | nil => exact hx
  | cons hs _ ih => exact ih (hs.findings_add hx)

end Statement.SameSense

/-! ### The tokens that count -/

/-- Whether the collector asks for the token: it carries meaning, or it ends a line. -/
def Token.counts (t : Token) : Bool := !t.kind.isTrivia || t.isLineTerminator

namespace Token

variable {t : Token}

theorem counts_of_endsStatement (h : t.endsStatement = true) : t.counts = true := by
  rw [endsStatement, Bool.or_eq_true, isPunctuator, is, Bool.and_eq_true, beq_iff_eq] at h
  rcases h with ⟨hkind, -⟩ | hline
  · simp [counts, hkind, TokenKind.isTrivia]
  · simp [counts, hline]

theorem Like.counts {k : Likeness} {t' : Token} (h : t.Like k t') : t'.counts = t.counts := by
  rw [Token.counts, Token.counts, h.isTrivia, h.line]

theorem ofToken?_of_not_counts (h : t.counts = false) : StatementKind.ofToken? t = none := by
  have hkind : t.kind ≠ .keyword := by
    intro hkind
    simp [counts, hkind, TokenKind.isTrivia] at h
  simp [StatementKind.ofToken?, isKeyword, is, hkind]

end Token

theorem significant_filter (ts : List Token) : (ts.filter Token.counts).filter
    (fun t => !t.kind.isTrivia) = ts.filter fun t => !t.kind.isTrivia := by
  rw [List.filter_filter]
  refine List.filter_congr fun t _ => ?_
  unfold Token.counts
  cases t.kind.isTrivia <;> simp

theorem any_from_filter (ts : List Token) :
    (ts.filter Token.counts).any (fun t => t.isKeyword "from") = ts.any fun t => t.isKeyword "from" := by
  rw [List.any_filter]
  refine congrArg ts.any (funext fun t => ?_)
  cases hfrom : t.isKeyword "from" with
  | false => simp
  | true =>
    rw [Token.isKeyword, Token.is, Bool.and_eq_true, beq_iff_eq] at hfrom
    simp [Token.counts, hfrom.1, TokenKind.isTrivia]

/-- One collector has collected the tokens of the other that count. -/
inductive Collector.Thins : Collector → Collector → Prop where
  /-- Neither is collecting. -/
  | idle : Thins .idle .idle
  /-- Both have started with the same token. -/
  | collecting (kind : StatementKind) (first : Token) (more : List Token) :
    Thins (.collecting kind first more) (.collecting kind first (more.filter Token.counts))

namespace Collector.Thins

variable {c c' : Collector} {t : Token}

/-- A token that does not count may be left out. -/
theorem skip (h : Thins c c') (ht : t.counts = false) :
    Thins (c.feed t).1 c' ∧ (c.feed t).2 = none := by
  cases h with
  | idle =>
    rw [Collector.feed, Token.ofToken?_of_not_counts ht]
    exact ⟨.idle, rfl⟩
  | collecting kind first more =>
    have hends : ¬ t.endsStatement = true := by
      intro hends
      rw [Token.counts_of_endsStatement hends] at ht
      cases ht
    rw [Collector.feed, if_neg hends]
    have hleft : (t :: more).filter Token.counts = more.filter Token.counts :=
      List.filter_cons_of_neg (by simp [ht])
    refine ⟨?_, rfl⟩
    rw [← hleft]
    exact .collecting kind first (t :: more)

/-- A token that counts does the same to both. -/
theorem feed (h : Thins c c') (ht : t.counts = true) :
    Thins (c.feed t).1 (c'.feed t).1 ∧
      List.Forall₂ Statement.SameSense (c.feed t).2.toList (c'.feed t).2.toList := by
  cases h with
  | idle =>
    unfold Collector.feed
    dsimp only
    cases StatementKind.ofToken? t with
    | none => exact ⟨.idle, .nil⟩
    | some kind => exact ⟨.collecting kind t [], .nil⟩
  | collecting kind first more =>
    unfold Collector.feed
    dsimp only
    split
    · refine ⟨.idle, .cons ⟨rfl, ?_, ?_⟩ .nil⟩
      · simp only [Statement.significant, statement, List.filter_cons, List.filter_append,
          List.filter_reverse, significant_filter]
      · simp only [Statement.hasFrom, statement, List.any_cons, List.any_append, List.any_reverse,
          any_from_filter]
    · refine ⟨?_, .nil⟩
      rw [← List.filter_cons_of_pos ht]
      exact .collecting kind first (t :: more)

/-- A stream may be fed without the tokens that do not count. -/
theorem feedAll (h : Thins c c') (ts : List Token) :
    Thins (c.feedAll ts).1 (c'.feedAll (ts.filter Token.counts)).1 ∧
      List.Forall₂ Statement.SameSense (c.feedAll ts).2
        (c'.feedAll (ts.filter Token.counts)).2 := by
  induction ts generalizing c c' with
  | nil => exact ⟨h, .nil⟩
  | cons t ts ih =>
    cases ht : t.counts with
    | false =>
      obtain ⟨hnext, hnone⟩ := h.skip ht
      obtain ⟨hend, hrest⟩ := ih hnext
      rw [List.filter_cons_of_neg (by simp [ht])]
      refine ⟨hend, ?_⟩
      rw [Collector.feedAll, hnone]
      exact hrest
    | true =>
      obtain ⟨hnext, hfinished⟩ := h.feed ht
      obtain ⟨hend, hrest⟩ := ih hnext
      rw [List.filter_cons_of_pos ht]
      exact ⟨hend, List.rel_append hfinished hrest⟩

theorem finish (h : Thins c c') : c'.finish.2 = c.finish.2 := by
  cases h <;> rfl

end Collector.Thins

/-! ### What is found in a stream -/

/-- **What is found in a stream is found in the tokens that count.** -/
theorem findings_ofTokens_filter (ts : List Token) :
    (Extraction.ofTokens (ts.filter Token.counts)).findings = (Extraction.ofTokens ts).findings := by
  obtain ⟨hend, hss⟩ := Collector.Thins.idle.feedAll ts
  have hfound := Statement.SameSense.findings_foldl_add hss (x := .empty) rfl
  unfold Extraction.ofTokens
  dsimp only
  rw [hend.finish]
  cases (Collector.idle.feedAll ts).1.finish.2 with
  | none => exact hfound
  | some cut =>
    dsimp only
    rw [Extraction.findings_addMalformed, Extraction.findings_addMalformed, hfound]

/-- Places do not matter at all. -/
def Likeness.anywhere : Likeness := .ofPlaces (fun _ _ => True) (fun _ _ => True) (fun _ => trivial)

theorem Likeness.keeps_anywhere : anywhere.Keeps fun lx lx' => lx.SameAhead lx' ∧ True :=
  keeps_sameAhead (fun _ => trivial) fun _ _ => trivial

/-- What is found does not depend on the places of the tokens. -/
theorem Extraction.Like.findings_eq {x x' : Extraction} (h : x.Like .anywhere x') :
    x'.findings = x.findings := by
  -- what is told of a record holds no place
  have himport : ∀ r r' : ImportRecord, r.Like .anywhere r' →
      (r'.bindings, r'.specifier) = (r.bindings, r.specifier) := by
    intro r r' hr
    exact Prod.ext (hr.bindings.trans (Bindings.respell_same _)) hr.specifier
  have hexport : ∀ r r' : ExportRecord, r.Like .anywhere r' →
      (r'.kind, r'.declaration, r'.exported) = (r.kind, r.declaration, r.exported) := by
    intro r r' hr
    exact Prod.ext hr.kind (Prod.ext hr.declaration hr.exported)
  have hcomplaint : ∀ m m' : Malformed, m.Like .anywhere m' →
      (m'.kind, m'.fault) = (m.kind, m.fault) := by
    intro m m' hm
    exact Prod.ext hm.kind (hm.fault.trans (StatementFault.respell_same _))
  rw [findings, findings, map_eq_map_of_forall₂ himport h.imports,
    map_eq_map_of_forall₂ hexport h.exports, map_eq_map_of_forall₂ hcomplaint h.malformed]

/-- Streams whose tokens that count are the same give the same. -/
theorem findings_ofTokens_eq {ts ts' : List Token}
    (h : List.Forall₂ (Token.Like .anywhere) (ts.filter Token.counts) (ts'.filter Token.counts)) :
    (Extraction.ofTokens ts').findings = (Extraction.ofTokens ts).findings := by
  rw [← findings_ofTokens_filter ts', ← findings_ofTokens_filter ts]
  exact (Extraction.Like.ofTokens h).findings_eq

end ImportScan
