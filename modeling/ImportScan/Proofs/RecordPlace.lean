import Mathlib.Data.List.Pairwise
import ImportScan.Proofs.Accounting
import ImportScan.Proofs.PassPlace

/-!
# Where records stand

A record tells where its statement stands: its range is that of a piece of the text, from the keyword
to what ends the statement, and its place is the one where this piece starts.

## Main definitions

* `Records` — a range, a place and a text that are those of a statement.

## Main results

* `Decomposes.records` — what a record keeps of a statement.
* `extract_accounts` — **every statement of a text is accounted for exactly once, and every record
  tells where its statement stands**.
-/

namespace ImportScan

/-- The texts that end a statement. -/
def statementEnds : List String := [";", "\n", "\r\n", "\r", "\u2028", "\u2029"]

theorem Token.lexeme_of_endsStatement {t : Token} (h : t.endsStatement = true) :
    t.lexeme ∈ statementEnds := by
  simp only [endsStatement, isPunctuator, is, isLineTerminator, Bool.or_eq_true, Bool.and_eq_true,
    beq_iff_eq] at h
  simp only [statementEnds, List.mem_cons, List.not_mem_nil, or_false]
  tauto

/-- The range, the place and the text of a statement as it stands in its source: a piece of it, from
the keyword to what ends the statement, and the place where this piece starts. -/
structure Records (source : List Char) (kind : StatementKind) (range : Span) (loc : Location)
    (code : String) : Prop where
  start_lt_stop : range.start < range.stop
  stop_le : range.stop ≤ byteLength source
  boundaries : IsBoundary source range.start ∧ IsBoundary source range.stop
  slice : slice? source range = some code.toList
  place : loc.offset = range.start ∧ loc.IsIn source
  delimited : ∃ body ending, code.toList = kind.keyword.toList ++ (body ++ ending.toList) ∧
    ending ∈ statementEnds

variable {ts : List Token} {ss : List Statement} {o : Option OpenStatement} {source : List Char}

/-- A statement of a decomposition starts with its keyword and ends with what can end it. -/
theorem Decomposes.delimited (h : Decomposes ts ss o) {s : Statement} (hs : s ∈ ss) :
    ∃ body ending, s.text.toList = s.kind.keyword.toList ++ (body ++ ending.toList) ∧
      ending ∈ statementEnds := by
  obtain ⟨first, body, last, heq, -, hfirst, hlast⟩ := h.exists_statement hs
  refine ⟨(String.join (body.map Token.lexeme)).toList, last.lexeme, ?_,
    Token.lexeme_of_endsStatement hlast⟩
  rw [← StatementKind.lexeme_of_ofToken? hfirst, heq]
  simp [Statement.text, Collector.statement, String.toList_join]

/-- A statement of a decomposition is at the place of its keyword. -/
theorem Decomposes.isAt_loc (h : Decomposes ts ss o) (hts : ∀ t ∈ ts, t.IsIn source)
    {s : Statement} (hs : s ∈ ss) : s.loc.IsAt source s.kind.keyword.toList := by
  obtain ⟨first, body, last, heq, hmem, hfirst, -⟩ := h.exists_statement hs
  rw [← StatementKind.lexeme_of_ofToken? hfirst, heq]
  exact hts first hmem

/-- What a record keeps of a statement tells where the statement stands. -/
theorem Decomposes.records (h : Decomposes ts ss o) (hts : ∀ t ∈ ts, t.IsIn source)
    {s : Statement} (hs : s ∈ ss) (hpiece : s.IsPieceOf source) :
    Records source s.kind s.range s.loc s.text where
  start_lt_stop := hpiece.start_lt_stop
  stop_le := hpiece.tiles.stop_le
  boundaries :=
    have hle := Nat.le_of_lt hpiece.start_lt_stop
    ⟨isBoundary_start_of_slice? hle hpiece.slice?, isBoundary_stop_of_slice? hle hpiece.slice?⟩
  slice := hpiece.slice?
  place := ⟨hpiece.loc_offset, (h.isAt_loc hts hs).isIn⟩
  delimited := h.delimited hs

/-! ### Whole texts -/

variable {l : Language} {text : List Char} {x : Extraction}

/-- Two statements of different kinds have nothing in common. -/
theorem apart_of_kind_ne {ss : List Statement} (h : (ss.map Statement.range).Pairwise Span.Apart)
    {s t : Statement} (hs : s ∈ ss) (ht : t ∈ ss) (hkind : s.kind ≠ t.kind) :
    s.range.Apart t.range := by
  have hpairs : ss.Pairwise fun a b => a.range.Apart b.range := List.pairwise_map.1 h
  have : Std.Symm fun a b : Statement => a.range.Apart b.range := ⟨fun _ _ => Or.symm⟩
  refine hpairs.forall hs ht ?_
  rintro rfl
  exact hkind rfl

/-- **Every statement of a text is accounted for exactly once, and every record tells where its
statement stands.**  The tokens of the text split into statements in one way.  Each of them gives one
record or one complaint in the order of the text, but imports without `from` give nothing, and the
last complaint is about what the end of the text cuts off.  The records of either kind follow one
another, and no two records of any kind have anything in common. -/
theorem extract_accounts (h : (extract l text).outcome = .ok x) :
    ∃ ss o, Decomposes (extract l text).tokens ss o ∧
      (∀ ss' o', Decomposes (extract l text).tokens ss' o' → ss' = ss ∧ o' = o) ∧
      Accounts ss o x ∧
      Ascends 0 (x.imports.map ImportRecord.range) (byteLength text) ∧
      Ascends 0 (x.exports.map ExportRecord.range) (byteLength text) ∧
      (x.imports.map ImportRecord.range ++ x.exports.map ExportRecord.range).Pairwise Span.Apart ∧
      (∀ r ∈ x.imports, Records text .imports r.range r.loc r.code) ∧
      ∀ r ∈ x.exports, Records text .exports r.range r.loc r.code := by
  obtain ⟨ss, o, hdecomposes, haccounts, hpieces, hascends⟩ := exists_accounts h
  obtain ⟨himports, hexports⟩ := haccounts.sublist_ranges
  have htokens : ∀ t ∈ (extract l text).tokens, t.IsIn text := fun t ht => isIn_tokens ht
  refine ⟨ss, o, hdecomposes, ?_, haccounts, hascends.sublist himports, hascends.sublist hexports,
    ?_, ?_, ?_⟩
  · intro ss' o' h'
    obtain ⟨hss, ho⟩ := hdecomposes.feedAll
    obtain ⟨hss', ho'⟩ := h'.feedAll
    exact ⟨hss'.symm.trans hss, ho'.symm.trans ho⟩
  · refine List.pairwise_append.2 ⟨(hascends.sublist himports).pairwise_apart,
      (hascends.sublist hexports).pairwise_apart, ?_⟩
    -- an import and an export come from different statements
    intro a ha b hb
    obtain ⟨r, hr, rfl⟩ := List.mem_map.1 ha
    obtain ⟨e, he, rfl⟩ := List.mem_map.1 hb
    obtain ⟨s, hs, hskind, hsread⟩ := haccounts.of_mem_imports hr
    obtain ⟨t, ht, htkind, htread⟩ := haccounts.of_mem_exports he
    rw [(Statement.of_toImport hsread).1, (Statement.of_toExport htread).1]
    exact apart_of_kind_ne hascends.pairwise_apart hs ht (by simp [hskind, htkind])
  · intro r hr
    obtain ⟨s, hs, hkind, hread⟩ := haccounts.of_mem_imports hr
    obtain ⟨hrange, hloc, hcode⟩ := Statement.of_toImport hread
    rw [hrange, hloc, hcode, ← hkind]
    exact hdecomposes.records htokens hs (hpieces s hs)
  · intro r hr
    obtain ⟨s, hs, hkind, hread⟩ := haccounts.of_mem_exports hr
    obtain ⟨hrange, hloc, hcode⟩ := Statement.of_toExport hread
    rw [hrange, hloc, hcode, ← hkind]
    exact hdecomposes.records htokens hs (hpieces s hs)

/-- A text with statements of every kind, the last one of which is cut off. -/
theorem extract_accounts_mixed :
    ∃ (text : String) (x : Extraction), (extract .ecma text.toList).outcome = .ok x ∧
      x.imports.length = 1 ∧ x.exports.length = 1 ∧ x.malformed.length = 2 ∧
      ∃ ss o, ss.length = 4 ∧ Accounts ss o x := by
  let text : String := "import a from 'b'\r\nexport default c;import 'd';import x from;export"
  have hpass : ((Pass.ofLexer (.ofText .ecma text.toList)).steps? 25).any (fun p =>
      p.lexer.pull == .finished && (Collector.idle.feedAll p.tokens).2.length == 4 &&
        p.finish.toOption.any fun x =>
          x.imports.length == 1 && x.exports.length == 1 && x.malformed.length == 2) = true := by
    decide +kernel
  obtain ⟨p, hp, hcheck⟩ := (Option.any_eq_true _ _).1 hpass
  simp only [Bool.and_eq_true, beq_iff_eq, Option.any_eq_true] at hcheck
  obtain ⟨⟨hpull, hstatements⟩, x, hfinish, ⟨himports, hexports⟩, hmalformed⟩ := hcheck
  obtain ⟨hx, htokens⟩ := Pass.outcome_of_steps? hp hpull hfinish
  obtain ⟨ss, o, hdecomposes, -, haccounts, -⟩ := extract_accounts hx
  refine ⟨text, x, hx, himports, hexports, hmalformed, ss, o, ?_, haccounts⟩
  rw [← hdecomposes.feedAll.1, htokens, hstatements]

end ImportScan
