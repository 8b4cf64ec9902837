import Mathlib.Data.List.TakeWhile
import ImportScan.Extraction
import ImportScan.Proofs.StatementStream

/-!
# The clause of an export

The tokens of an export before its first `from` are its clause; the first `from` and what stands
behind it tell the source of what is passed on.  The name of an export is looked for in all of its
tokens.  It is the one that the clause tells, unless the clause names nothing and the source does:
then a word behind the specifier is taken for the exported name.

## Main definitions

* `Statement.exportClause`, `Statement.exportSource` — the two parts of an export.
* `Statement.HasDeclaration`, `Statement.PassesOn` — an export with something behind its keyword,
  and one that passes on all that its source exports.
* `Statement.clauseKind`, `Statement.clauseName` — the form and the name of an export by its parts.

## Main results

* `Statement.hasFrom_iff` — an export has a source if `from` occurs in it.
* `Statement.toExport_eq_ok_iff` — which exports are understood, and as what.
* `Statement.toExport_reads_clause` — **an export is read as its clause tells, unless only its
  source names something**.
-/

namespace ImportScan

namespace Statement

/-! ### The parts of an export -/

/-- The tokens of an export before its first `from`. -/
def exportClause (s : Statement) : List Token :=
  (s.body .exports).takeWhile fun t => !t.isKeyword "from"

/-- The first `from` of an export, and what stands behind it. -/
def exportSource (s : Statement) : List Token :=
  (s.body .exports).dropWhile fun t => !t.isKeyword "from"

/-- Something other than a semicolon follows the keyword. -/
def HasDeclaration (s : Statement) : Prop :=
  (s.body .exports).head?.any (fun t => !t.isPunctuator ";") = true

instance : DecidablePred HasDeclaration := fun _ => inferInstanceAs (Decidable (_ = true))

/-- The clause starts with a star, and there is a source. -/
def PassesOn (s : Statement) : Prop :=
  (∃ star rest, s.exportClause = star :: rest ∧ star.isPunctuator "*" = true) ∧
    s.exportSource ≠ []

/-- The form of an export, by its first token and its source. -/
def clauseKind (s : Statement) : ExportKind :=
  if s.exportClause.head?.any (·.isKeyword "default") then .default
  else if s.exportSource.isEmpty then .named
  else .reExport

/-- The first name in the clause, or a star when there is none. -/
def clauseName (s : Statement) : String :=
  ((s.exportClause.find? namesExport).map Token.lexeme).getD "*"

variable {s : Statement} {first : Token} {rest : List Token}

theorem HasDeclaration.exists_cons (h : s.HasDeclaration) :
    ∃ first rest, s.body .exports = first :: rest ∧ first.isPunctuator ";" = false := by
  rw [HasDeclaration] at h
  cases hbody : s.body .exports with
  | nil => simp [hbody] at h
  | cons first rest => exact ⟨first, rest, rfl, by simpa [hbody] using h⟩

theorem hasDeclaration_of_cons (hbody : s.body .exports = first :: rest)
    (hfirst : first.isPunctuator ";" = false) : s.HasDeclaration := by
  simp [HasDeclaration, hbody, hfirst]

theorem exportClause_append_exportSource (s : Statement) :
    s.exportClause ++ s.exportSource = s.body .exports :=
  List.takeWhile_append_dropWhile

/-- Blanks and comments are no `from`, and neither is the keyword of an export. -/
theorem hasFrom_eq (s : Statement) :
    s.hasFrom = (s.body .exports).any fun t => t.isKeyword "from" := by
  have hvisible : s.hasFrom = s.significant.any fun t => t.isKeyword "from" := by
    rw [hasFrom, significant, List.any_filter]
    refine congrArg (List.any s.tokens) (funext fun t => ?_)
    cases hkind : t.kind <;> simp [Token.isKeyword, Token.is, hkind, TokenKind.isTrivia]
  rw [hvisible, body]
  split
  · next first rest hsignificant =>
    split
    · next hfirst =>
      -- what has been dropped is the keyword of the statement
      have hother : first.isKeyword "from" = false := by
        simp only [Token.isKeyword, Token.is, Bool.and_eq_true, beq_iff_eq] at hfirst
        simp [Token.isKeyword, Token.is, hfirst.2, StatementKind.keyword]
      rw [hsignificant, List.any_cons, hother, Bool.false_or]
    · rw [hsignificant]
  · next hsignificant => rw [hsignificant]

theorem hasFrom_iff : s.hasFrom = true ↔ s.exportSource ≠ [] := by
  rw [hasFrom_eq, exportSource, ne_eq, List.dropWhile_eq_nil_iff, List.any_eq_true]
  simp

/-! ### Reading an export -/

theorem head?_exportClause (hbody : s.body .exports = first :: rest) :
    s.exportClause.head? = if first.isKeyword "from" then none else some first := by
  rw [exportClause, hbody, List.takeWhile_cons]
  cases first.isKeyword "from" <;> rfl

theorem isEmpty_exportSource (s : Statement) : s.exportSource.isEmpty = !s.hasFrom := by
  rw [Bool.eq_iff_iff, List.isEmpty_iff, Bool.not_eq_true', ← Bool.not_eq_true, hasFrom_iff,
    ne_eq, not_not]

theorem exportKind_eq (hbody : s.body .exports = first :: rest) :
    s.exportKind first = s.clauseKind := by
  have hhead : s.exportClause.head?.any (·.isKeyword "default") = first.isKeyword "default" := by
    rw [head?_exportClause hbody]
    split
    · next hfrom =>
      simp only [Token.isKeyword, Token.is, Bool.and_eq_true, beq_iff_eq] at hfrom
      simp [Token.isKeyword, Token.is, hfrom.2]
    · rfl
  rw [exportKind, clauseKind, hhead, isEmpty_exportSource]
  cases s.hasFrom <;> rfl

/-- The star is taken for the exported name if everything is passed on. -/
theorem passesOn_iff (hbody : s.body .exports = first :: rest) :
    (s.exportKind first = .reExport && first.isPunctuator "*") = true ↔ s.PassesOn := by
  rw [PassesOn, ← hasFrom_iff, Bool.and_eq_true, decide_eq_true_eq, and_comm]
  -- a star is no keyword
  have hstar : first.isPunctuator "*" = true → first.isKeyword "default" = false ∧
      first.isKeyword "from" = false := by
    simp only [Token.isPunctuator, Token.is, Bool.and_eq_true, beq_iff_eq]
    rintro ⟨hkind, -⟩
    simp [Token.isKeyword, Token.is, hkind]
  have hclause := head?_exportClause hbody
  constructor
  · rintro ⟨hfirst, hkind⟩
    obtain ⟨hdefault, hfrom⟩ := hstar hfirst
    rw [hfrom, if_neg Bool.false_ne_true] at hclause
    obtain ⟨more, hmore⟩ := List.head?_eq_some_iff.1 hclause
    refine ⟨⟨first, more, hmore, hfirst⟩, ?_⟩
    rw [exportKind, hdefault, if_neg Bool.false_ne_true] at hkind
    by_contra hnone
    rw [if_neg hnone] at hkind
    cases hkind
  · rintro ⟨⟨star, more, hmore, hfirst⟩, hfrom⟩
    rw [hmore, List.head?_cons] at hclause
    split at hclause
    · cases hclause
    · cases hclause
      rw [exportKind, (hstar hfirst).1, if_neg Bool.false_ne_true, if_pos hfrom]
      exact ⟨hfirst, rfl⟩

/-- The name that is looked for: the first in all tokens, or else a star if everything is passed
on. -/
theorem exportedName?_eq (hbody : s.body .exports = first :: rest) {name : String} :
    exportedName? (s.exportKind first) first rest = some name ↔
      (∃ t, (s.body .exports).find? namesExport = some t ∧ t.lexeme = name) ∨
        (s.body .exports).find? namesExport = none ∧ s.PassesOn ∧ name = "*" := by
  rw [exportedName?, ← passesOn_iff hbody, hbody]
  cases hfound : (first :: rest).find? namesExport with
  | some t => simp
  | none =>
    cases hstar : (s.exportKind first = .reExport && first.isPunctuator "*") with
    | true => simp [eq_comm]
    | false => simp

/-- An export is understood if it has a declaration and a name can be found. -/
theorem toExport_eq_ok_iff {r : ExportRecord} :
    s.toExport = .ok r ↔
      ∃ first rest name, s.body .exports = first :: rest ∧ first.isPunctuator ";" = false ∧
        exportedName? (s.exportKind first) first rest = some name ∧
        r = ⟨s.clauseKind, first.lexeme, name, s.range, s.loc, s.text⟩ := by
  rw [toExport]
  split
  · next hbody => simp [hbody]
  · next first rest hbody =>
    cases hfirst : first.isPunctuator ";" with
    | true => simp [hbody, hfirst]
    | false =>
      rw [if_neg Bool.false_ne_true]
      cases hname : exportedName? (s.exportKind first) first rest with
      | none => simp [hbody, hname]
      | some name =>
        simp only [hbody, List.cons.injEq, Except.ok.injEq, exportKind_eq hbody]
        constructor
        · intro hr
          exact ⟨first, rest, name, ⟨rfl, rfl⟩, hfirst, exportKind_eq hbody ▸ hname, hr.symm⟩
        · rintro ⟨_, _, _, ⟨rfl, rfl⟩, -, hname', rfl⟩
          rw [Option.some.inj (hname.symm.trans hname')]

/-! ### Names in the clause and in the source -/

/-- The clause names nothing, and something behind its end can be taken for a name. -/
def NamesInSource (s : Statement) : Prop :=
  s.exportClause.any namesExport = false ∧ s.exportSource.any namesExport = true

instance : DecidablePred NamesInSource := fun _ => inferInstanceAs (Decidable (_ ∧ _))

theorem find?_body (s : Statement) :
    (s.body .exports).find? namesExport =
      (s.exportClause.find? namesExport).or (s.exportSource.find? namesExport) := by
  rw [← exportClause_append_exportSource, List.find?_append]

/-- Unless only the source names something, the first name of an export is that of its clause. -/
theorem find?_body_of_not_namesInSource (h : ¬ s.NamesInSource) :
    (s.body .exports).find? namesExport = s.exportClause.find? namesExport := by
  rw [NamesInSource, ← List.isSome_find?, ← List.isSome_find?] at h
  rw [find?_body]
  cases hclause : s.exportClause.find? namesExport with
  | some t => rfl
  | none =>
    cases hsource : s.exportSource.find? namesExport with
    | none => rfl
    | some t => exact absurd ⟨by rw [hclause]; rfl, by rw [hsource]; rfl⟩ h

/-- If only the source names something, the first name of an export is that of its source. -/
theorem NamesInSource.find?_body (h : s.NamesInSource) :
    ∃ t, (s.body .exports).find? namesExport = some t ∧
      s.exportSource.find? namesExport = some t := by
  obtain ⟨hclause, hsource⟩ := h
  rw [← List.isSome_find?, Option.isSome_eq_false_iff, Option.isNone_iff_eq_none] at hclause
  rw [← List.isSome_find?, Option.isSome_iff_exists] at hsource
  obtain ⟨t, ht⟩ := hsource
  exact ⟨t, by rw [Statement.find?_body, hclause, Option.none_or, ht], ht⟩

/-- Unless only the source names something, the name that is found is that of the clause, and one is
found if the clause has one or everything is passed on. -/
theorem exportedName?_of_not_namesInSource (hbody : s.body .exports = first :: rest)
    (h : ¬ s.NamesInSource) {name : String} :
    exportedName? (s.exportKind first) first rest = some name ↔
      (s.exportClause.any namesExport = true ∨ s.PassesOn) ∧ name = s.clauseName := by
  rw [exportedName?_eq hbody, find?_body_of_not_namesInSource h, clauseName,
    ← List.isSome_find?]
  cases s.exportClause.find? namesExport with
  | some t => simp [eq_comm]
  | none => simp

/-- An export is read as its clause tells: it is understood if something other than a semicolon
follows the keyword and the clause names something or passes everything on, its name is the first of
the clause or else a star, and its form is told by its first token and by whether it has a source.
The form is right for every export; the name and the outcome are not if the clause names nothing and
the source does, for then the first name of the source is taken. -/
theorem toExport_reads_clause (s : Statement) :
    (¬ s.NamesInSource →
      ((∃ r, s.toExport = .ok r) ↔
        s.HasDeclaration ∧ (s.exportClause.any namesExport = true ∨ s.PassesOn)) ∧
      ∀ r, s.toExport = .ok r → r.exported = s.clauseName) ∧
    (∀ r, s.toExport = .ok r → r.kind = s.clauseKind) ∧
    (s.NamesInSource → s.HasDeclaration → ∃ r t, s.toExport = .ok r ∧
      s.exportSource.find? namesExport = some t ∧ r.exported = t.lexeme) := by
  refine ⟨fun hclause => ⟨⟨?_, ?_⟩, ?_⟩, ?_, ?_⟩
  · rintro ⟨r, hread⟩
    obtain ⟨first, rest, name, hbody, hfirst, hname, -⟩ := toExport_eq_ok_iff.1 hread
    exact ⟨hasDeclaration_of_cons hbody hfirst,
      ((exportedName?_of_not_namesInSource hbody hclause).1 hname).1⟩
  · rintro ⟨hdeclaration, hnames⟩
    obtain ⟨first, rest, hbody, hfirst⟩ := hdeclaration.exists_cons
    have hname := (exportedName?_of_not_namesInSource hbody hclause).2 ⟨hnames, rfl⟩
    exact ⟨_, toExport_eq_ok_iff.2 ⟨first, rest, _, hbody, hfirst, hname, rfl⟩⟩
  · intro r hread
    obtain ⟨first, rest, name, hbody, -, hname, rfl⟩ := toExport_eq_ok_iff.1 hread
    exact ((exportedName?_of_not_namesInSource hbody hclause).1 hname).2
  · intro r hread
    obtain ⟨first, rest, name, -, -, -, rfl⟩ := toExport_eq_ok_iff.1 hread
    rfl
  · intro hsource hdeclaration
    obtain ⟨first, rest, hbody, hfirst⟩ := hdeclaration.exists_cons
    obtain ⟨t, hfound, ht⟩ := hsource.find?_body
    have hname := (exportedName?_eq hbody).2 (.inl ⟨t, hfound, rfl⟩)
    exact ⟨_, t, toExport_eq_ok_iff.2 ⟨first, rest, _, hbody, hfirst, hname, rfl⟩, ht, rfl⟩

/-- In a list, the first name is that of the export, and a word behind the specifier changes
nothing; behind a star it is taken for the name. -/
theorem toExport_reads_clause_word :
    ∃ listed star : Statement,
      (Collector.idle.feedAll ((extract .ecma
        "export \x7b a as b \x7d from './x.json' with \x7b type: 'json' \x7d;".toList).seen.map
          Prod.fst)).2 = [listed] ∧
      (Collector.idle.feedAll ((extract .ecma
        "export * from './x.json' with \x7b type: 'json' \x7d;".toList).seen.map
          Prod.fst)).2 = [star] ∧
      ¬ listed.NamesInSource ∧ star.NamesInSource ∧
      (∃ r, listed.toExport = .ok r ∧ r.exported = "a" ∧ r.kind = .reExport) ∧
      star.clauseName = "*" ∧ ∃ r, star.toExport = .ok r ∧ r.exported = "type" := by
  -- one statement names what it exports in its clause, the other has a word behind the specifier
  let statementOf (text : String) : Statement :=
    (Collector.idle.feedAll ((extract .ecma text.toList).seen.map Prod.fst)).2.headD default
  let listed := statementOf "export \x7b a as b \x7d from './x.json' with \x7b type: 'json' \x7d;"
  let star := statementOf "export * from './x.json' with \x7b type: 'json' \x7d;"
  obtain ⟨hlisted, hdeclaration, hnames, hname, hkind⟩ : ¬ listed.NamesInSource ∧
      listed.HasDeclaration ∧ listed.exportClause.any namesExport = true ∧
      listed.clauseName = "a" ∧ listed.clauseKind = .reExport := by
    decide +kernel
  obtain ⟨hstar, hdeclaration', hstarName, hword⟩ : star.NamesInSource ∧ star.HasDeclaration ∧
      star.clauseName = "*" ∧
      (star.exportSource.find? namesExport).map Token.lexeme = some "type" := by
    decide +kernel
  refine ⟨listed, star, by decide +kernel, by decide +kernel, hlisted, hstar, ?_, hstarName, ?_⟩
  · obtain ⟨hread, hexported⟩ := (toExport_reads_clause listed).1 hlisted
    obtain ⟨r, hr⟩ := hread.2 ⟨hdeclaration, .inl hnames⟩
    exact ⟨r, hr, (hexported r hr).trans hname,
      ((toExport_reads_clause listed).2.1 r hr).trans hkind⟩
  · obtain ⟨r, t, hr, ht, hexported⟩ := (toExport_reads_clause star).2.2 hstar hdeclaration'
    rw [ht] at hword
    exact ⟨r, hr, hexported.trans (Option.some.inj hword)⟩

end Statement

end ImportScan
