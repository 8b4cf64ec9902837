import ImportScan.Report

/-!
# Output without its colours

Colours are escape sequences around the styled pieces of the output.  A reader who removes them has
the output that is written without colours: no width is counted with an escape sequence in it, and
no printer looks at whether there are colours.  This needs texts that bring no escape sequences of
their own.

## Main definitions

* `withoutSequences` — a text without its escape sequences.
* `EscapeFree` — a string without the character that starts an escape sequence.
* `RunReport.texts` — the strings of a report that a reader may get to see.

## Main results

* `withoutSequences_render` — **of pieces with escape-free texts, the texts remain**.
* `escapeFree_modulePieces`, `escapeFree_importListing`, `escapeFree_issueReport`,
  `Failure.escapeFree_pieces`, `RunReport.escapeFree_summary` — each printer brings no escape
  sequences of its own.
* `JsonValue.escapeFree_write` — data never has an escape sequence in its text, whatever its
  strings.
* `RunReport.withoutSequences_output` — **colours change nothing but escape sequences**.
-/

namespace ImportScan

/-! ### Removing escape sequences -/

/-- The text without its escape sequences, each of which ends at its first `m`; `inside` tells
whether the text starts within one. -/
def withoutSequencesFrom (inside : Bool) : List Char → List Char
  | [] => []
  | c :: cs =>
    if inside then withoutSequencesFrom (c != 'm') cs
    else if c = escapeChar ∧ cs.head? = some '[' then withoutSequencesFrom true cs
    else c :: withoutSequencesFrom false cs

/-- The text without its escape sequences. -/
def withoutSequences (s : String) : String := String.ofList (withoutSequencesFrom false s.toList)

/-- The string has no character that starts an escape sequence. -/
def EscapeFree (s : String) : Prop := ∀ c ∈ s.toList, c ≠ escapeChar

instance (s : String) : Decidable (EscapeFree s) :=
  decidable_of_iff (s.toList.all (· != escapeChar) = true) (by simp [EscapeFree])

theorem withoutSequencesFrom_append {cs : List Char} (h : ∀ c ∈ cs, c ≠ escapeChar)
    (rest : List Char) :
    withoutSequencesFrom false (cs ++ rest) = cs ++ withoutSequencesFrom false rest := by
  induction cs with
  | nil => rfl
  | cons c cs ih =>
    obtain ⟨hc, hcs⟩ := List.forall_mem_cons.mp h
    rw [List.cons_append, withoutSequencesFrom, if_neg (by simp), if_neg fun hstart => hc hstart.1,
      ih hcs, List.cons_append]

/-- Within an escape sequence nothing remains, up to its end. -/
theorem withoutSequencesFrom_inside {numbers : List Char} (h : 'm' ∉ numbers)
    (rest : List Char) :
    withoutSequencesFrom true (numbers ++ 'm' :: rest) = withoutSequencesFrom false rest := by
  induction numbers with
  | nil => rfl
  | cons c numbers ih =>
    obtain ⟨hc, hnumbers⟩ := not_or.mp (mt List.mem_cons.mpr h)
    have hgo : (c != 'm') = true := bne_iff_ne.mpr fun heq => hc heq.symm
    rw [List.cons_append, withoutSequencesFrom, if_pos rfl, hgo, ih hnumbers]

theorem withoutSequencesFrom_escapeSequence {numbers : String}
    (h : 'm' ∉ numbers.toList) (rest : List Char) :
    withoutSequencesFrom false ((escapeSequence numbers).toList ++ rest)
      = withoutSequencesFrom false rest := by
  have htext : (escapeSequence numbers).toList ++ rest
      = escapeChar :: '[' :: (numbers.toList ++ 'm' :: rest) := by
    simp [escapeSequence]
  rw [htext, withoutSequencesFrom, if_neg (by simp), if_pos ⟨rfl, rfl⟩, withoutSequencesFrom,
    if_pos rfl]
  exact withoutSequencesFrom_inside h rest

/-! ### Pieces -/

theorem Style.m_notMem_numbers (style : Style) : 'm' ∉ style.numbers.toList := by
  cases style with
  | coloured c => cases c <;> decide
  | bold => decide
  | dimmed => decide
  | boldColoured c => cases c <;> decide
  | dimmedColoured c => cases c <;> decide

/-- A text without escape sequences has no place where it ends a style. -/
theorem resume_of_escapeFree (code : List Char) {cs : List Char} (h : ∀ c ∈ cs, c ≠ escapeChar) :
    resume code cs = cs := by
  induction cs with
  | nil => rfl
  | cons c cs ih =>
    obtain ⟨hc, hcs⟩ := List.forall_mem_cons.mp h
    rw [resume.eq_2 _ _ _ fun _ heq => absurd heq hc, ih hcs]

/-- Of a piece its text remains. -/
theorem Piece.withoutSequencesFrom_render {p : Piece} (h : EscapeFree p.text) (rest : List Char) :
    withoutSequencesFrom false ((p.render true).toList ++ rest)
      = p.text.toList ++ withoutSequencesFrom false rest := by
  obtain ⟨style, text⟩ := p
  cases style with
  | none => exact withoutSequencesFrom_append h rest
  | some style =>
    have hshown : (Piece.render true ⟨some style, text⟩).toList ++ rest
        = style.code.toList ++ (text.toList ++ (resetCode.toList ++ rest)) := by
      simp [Piece.render, resume_of_escapeFree _ h]
    rw [hshown, Style.code, withoutSequencesFrom_escapeSequence style.m_notMem_numbers,
      withoutSequencesFrom_append h, resetCode, withoutSequencesFrom_escapeSequence (by decide)]

/-- Some pieces bring no escape sequences of their own. -/
def Pieces.EscapeFree (pieces : Pieces) : Prop := ∀ p ∈ pieces, ImportScan.EscapeFree p.text

/-- **Of pieces with escape-free texts, the texts remain.** -/
theorem withoutSequences_render {pieces : Pieces} (h : pieces.EscapeFree) :
    withoutSequences (render true pieces) = render false pieces := by
  have hlist : withoutSequencesFrom false (render true pieces).toList
      = (render false pieces).toList := by
    rw [render_false, render]
    induction pieces with
    | nil => rfl
    | cons p pieces ih =>
      obtain ⟨hp, hpieces⟩ := List.forall_mem_cons.mp h
      rw [List.map_cons, List.map_cons, String.join_cons, String.join_cons, String.toList_append,
        String.toList_append, Piece.withoutSequencesFrom_render hp, ih hpieces]
  rw [withoutSequences, hlist, String.ofList_toList]

example : render true [(Style.coloured .red).piece "^"] = "\x1b[31m^\x1b[0m" ∧
    withoutSequences "\x1b[31m^\x1b[0m" = "^" := by decide

/-! ### Escape-free strings -/

section Strings

variable {s t : String}

@[simp] theorem escapeFree_append : EscapeFree (s ++ t) ↔ EscapeFree s ∧ EscapeFree t := by
  rw [EscapeFree, String.toList_append, List.forall_mem_append]
  rfl

theorem escapeFree_ofList {cs : List Char} :
    EscapeFree (String.ofList cs) ↔ ∀ c ∈ cs, c ≠ escapeChar := by
  rw [EscapeFree, String.toList_ofList]

theorem escapeFree_join {texts : List String} (h : ∀ s ∈ texts, EscapeFree s) :
    EscapeFree (String.join texts) := by
  induction texts with
  | nil => decide
  | cons s texts ih =>
    obtain ⟨hs, htexts⟩ := List.forall_mem_cons.mp h
    rw [String.join_cons]
    exact escapeFree_append.mpr ⟨hs, ih htexts⟩

theorem escapeFree_intercalate {texts : List String} (hs : EscapeFree s)
    (h : ∀ t ∈ texts, EscapeFree t) : EscapeFree (s.intercalate texts) := by
  induction texts with
  | nil => exact fun c hc => absurd hc (by simp)
  | cons t texts ih =>
    obtain ⟨ht, htexts⟩ := List.forall_mem_cons.mp h
    cases texts with
    | nil => simpa using ht
    | cons t' texts =>
      rw [String.intercalate_cons_cons]
      exact escapeFree_append.mpr ⟨escapeFree_append.mpr ⟨ht, hs⟩, ih htexts⟩

@[simp] theorem escapeFree_repr (n : Nat) : EscapeFree n.repr := by
  rw [Nat.repr_eq_ofList_toDigits, escapeFree_ofList]
  intro c hc heq
  have hdigit : c.isDigit = true := Nat.isDigit_of_mem_toDigits (by decide) (by decide) hc
  exact absurd (heq ▸ hdigit) (by decide)

@[simp] theorem escapeFree_blanks (n : Nat) : EscapeFree (blanks n) := by
  rw [blanks, escapeFree_ofList]
  intro c hc
  rw [List.eq_of_mem_replicate hc]
  decide

@[simp] theorem escapeFree_padLeft (width : Nat) :
    EscapeFree (padLeft width s) ↔ EscapeFree s := by
  simp [padLeft]

@[simp] theorem escapeFree_padRight (width : Nat) :
    EscapeFree (padRight width s) ↔ EscapeFree s := by
  simp [padRight]

end Strings

@[simp] theorem Pieces.escapeFree_nil : Pieces.EscapeFree [] :=
  fun _ hp => absurd hp List.not_mem_nil

@[simp] theorem Pieces.escapeFree_cons {p : Piece} {pieces : Pieces} :
    Pieces.EscapeFree (p :: pieces) ↔ ImportScan.EscapeFree p.text ∧ pieces.EscapeFree :=
  List.forall_mem_cons

@[simp] theorem Pieces.escapeFree_append {pieces pieces' : Pieces} :
    Pieces.EscapeFree (pieces ++ pieces') ↔ pieces.EscapeFree ∧ pieces'.EscapeFree :=
  List.forall_mem_append

theorem Pieces.escapeFree_flatMap {α : Type} {list : List α} {pieces : α → Pieces}
    (h : ∀ a ∈ list, (pieces a).EscapeFree) : Pieces.EscapeFree (list.flatMap pieces) := by
  intro p hp
  obtain ⟨a, ha, hpa⟩ := List.mem_flatMap.mp hp
  exact h a ha p hpa

@[simp] theorem plain_text (s : String) : (plain s).text = s := rfl

@[simp] theorem Style.piece_text (style : Style) (s : String) : (style.piece s).text = s := rfl

/-! ### The strings of a report -/

/-- The names that an import brings in, on both sides. -/
def Bindings.names : Bindings → List String
  | .everything name => [name]
  | .defaultOnly name => [name]
  | .named list => list.flatMap fun b => [b.imported, b.localName]

/-- The strings of an import, apart from its own text. -/
def ImportRecord.texts (r : ImportRecord) : List String := r.specifier :: r.bindings.names

/-- The strings of a file that a listing may show. -/
def FileModule.texts (m : FileModule) : List String :=
  m.name :: (m.imports.flatMap ImportRecord.texts ++ m.exports.map ExportRecord.exported)

/-- The strings that tell what is wrong. -/
def Problem.texts : Problem → List String
  | .lex message => [message]
  | .balance m => m.found.toList ++ m.expected.toList ++ m.stack
  | .malformed _ reason => [reason]
  | .unresolved specifier resolved => [specifier, resolved]

/-- The strings of an issue. -/
def Issue.texts (i : Issue) : List String :=
  i.context.file :: i.context.sourceLine :: i.problem.texts

/-- The strings of a report that a reader may get to see. -/
def RunReport.texts (r : RunReport) : List String :=
  r.modules.flatMap FileModule.texts ++ r.issues.flatMap Issue.texts ++
    r.failure.toList.flatMap Failure.chain

/-! ### Files -/

theorem escapeFree_countOf (n : Nat) {noun : String} (h : EscapeFree noun) :
    EscapeFree (countOf n noun) := by
  have hs : EscapeFree (if n = 1 then "" else "s") := by split <;> decide
  simp +decide [countOf, h, hs]

theorem escapeFree_durationText (n : Nat) : EscapeFree (durationText n) := by
  unfold durationText
  dsimp only
  split <;> simp +decide

theorem Location.escapeFree_text (loc : Location) : EscapeFree loc.text := by
  simp +decide [Location.text]

theorem escapeFree_recordStart (label : String) {kind : String} (loc : Location)
    (hlabel : EscapeFree label) (hkind : EscapeFree kind) :
    (recordStart label loc kind).EscapeFree := by
  simp +decide [recordStart, hlabel, hkind, loc.escapeFree_text]

theorem Bindings.locals_subset_names (b : Bindings) : b.locals ⊆ b.names := by
  cases b with
  | everything name => exact List.Subset.refl _
  | defaultOnly name => exact List.Subset.refl _
  | named list =>
    intro s hs
    obtain ⟨binding, hbinding, rfl⟩ := List.mem_map.mp hs
    exact List.mem_flatMap.mpr ⟨binding, hbinding, by simp⟩

theorem escapeFree_importLine {r : ImportRecord} (h : ∀ s ∈ r.texts, EscapeFree s) :
    (importLine r).EscapeFree := by
  obtain ⟨hspecifier, hnames⟩ := List.forall_mem_cons.mp h
  have hkind : EscapeFree r.bindings.kindName := by
    cases r.bindings <;> simp +decide [Bindings.kindName]
  have hlocals : EscapeFree (", ".intercalate r.bindings.locals) :=
    escapeFree_intercalate (by decide) fun s hs => hnames s (r.bindings.locals_subset_names hs)
  have hstart := escapeFree_recordStart "import" r.loc (by decide) hkind
  simp +decide [importLine, hstart, hspecifier, hlocals]

theorem escapeFree_exportLine {r : ExportRecord} (h : EscapeFree r.exported) :
    (exportLine r).EscapeFree := by
  have hkind : EscapeFree r.kind.name := by cases r.kind <;> decide
  have hstart := escapeFree_recordStart "export" r.loc (by decide) hkind
  simp +decide [exportLine, hstart, h]

theorem escapeFree_segmentLine (s : Segment) : (segmentLine s).EscapeFree := by
  have hkind : EscapeFree s.kind.name := by cases s.kind <;> decide
  simp +decide [segmentLine, hkind]

theorem escapeFree_elapsedLine (timing : Bool) (m : FileModule) :
    (elapsedLine timing m).EscapeFree := by
  unfold elapsedLine
  split
  · simp +decide [escapeFree_durationText]
  · exact Pieces.escapeFree_nil

theorem escapeFree_moduleLine {m : FileModule} (h : EscapeFree m.name) :
    (moduleLine m).EscapeFree := by
  have hstatus : EscapeFree m.status.piece.text := by cases m.status <;> decide
  have hcounts : EscapeFree (countOf m.imports.length "import") ∧
      EscapeFree (countOf m.exports.length "export") ∧
      EscapeFree (countOf m.segments.length "segment") :=
    ⟨escapeFree_countOf _ (by decide), escapeFree_countOf _ (by decide),
      escapeFree_countOf _ (by decide)⟩
  simp +decide [moduleLine, h, hstatus, hcounts]

/-- A file is shown without escape sequences of its own, with or without details. -/
theorem escapeFree_modulePieces {m : FileModule} (h : ∀ s ∈ m.texts, EscapeFree s)
    (verbose timing : Bool) : (modulePieces verbose timing m).EscapeFree := by
  obtain ⟨hname, hrecords⟩ := List.forall_mem_cons.mp h
  obtain ⟨himports, hexports⟩ := List.forall_mem_append.mp hrecords
  have hdetails : (moduleDetails timing m).EscapeFree := by
    refine Pieces.escapeFree_append.mpr ⟨Pieces.escapeFree_append.mpr
      ⟨Pieces.escapeFree_append.mpr ⟨?_, ?_⟩, ?_⟩, escapeFree_elapsedLine timing m⟩
    · exact Pieces.escapeFree_flatMap fun r hr =>
        escapeFree_importLine fun s hs => himports s (List.mem_flatMap.mpr ⟨r, hr, hs⟩)
    · exact Pieces.escapeFree_flatMap fun r hr =>
        escapeFree_exportLine (hexports _ (List.mem_map_of_mem hr))
    · exact Pieces.escapeFree_flatMap fun s _ => escapeFree_segmentLine s
  refine Pieces.escapeFree_append.mpr ⟨escapeFree_moduleLine hname, ?_⟩
  split
  · exact hdetails
  · exact Pieces.escapeFree_nil

/-! ### Listings -/

theorem Binding.escapeFree_render {b : Binding} {sign : String} (hsign : EscapeFree sign)
    (himported : EscapeFree b.imported) (hlocal : EscapeFree b.localName) :
    EscapeFree (b.render sign) := by
  unfold Binding.render
  split
  · exact hlocal
  · exact escapeFree_append.mpr ⟨escapeFree_append.mpr ⟨himported, hsign⟩, hlocal⟩

/-- A list of names between braces, each entry written with the same sign. -/
theorem escapeFree_braced {list : List Binding} {sign : String} (hsign : EscapeFree sign)
    (h : ∀ s ∈ (Bindings.named list).names, EscapeFree s) :
    EscapeFree (ImportRecord.braced (list.map (Binding.render sign))) := by
  have hentries : ∀ entry ∈ list.map (Binding.render sign), EscapeFree entry := by
    intro entry hentry
    obtain ⟨b, hb, rfl⟩ := List.mem_map.mp hentry
    have hnames : ∀ s ∈ [b.imported, b.localName], EscapeFree s :=
      fun s hs => h s (List.mem_flatMap.mpr ⟨b, hb, hs⟩)
    exact Binding.escapeFree_render hsign (hnames _ (by simp)) (hnames _ (by simp))
  have hjoined := escapeFree_intercalate (s := ", ") (by decide) hentries
  simp +decide [ImportRecord.braced, hjoined]

theorem ImportRecord.escapeFree_esText {r : ImportRecord} (h : ∀ s ∈ r.texts, EscapeFree s) :
    EscapeFree r.esText := by
  obtain ⟨bindings, specifier, range, loc, code⟩ := r
  obtain ⟨hspecifier, hnames⟩ := List.forall_mem_cons.mp h
  cases bindings with
  | everything name =>
    have hname : EscapeFree name := hnames name (List.mem_singleton_self name)
    simp +decide [esText, quotedSpecifier, hspecifier, hname]
  | defaultOnly name =>
    have hname : EscapeFree name := hnames name (List.mem_singleton_self name)
    simp +decide [esText, quotedSpecifier, hspecifier, hname]
  | named list =>
    have hlist : EscapeFree (braced (list.map Binding.esText)) :=
      escapeFree_braced (by decide) hnames
    simp +decide [esText, quotedSpecifier, hspecifier, hlist]

theorem ImportRecord.escapeFree_requireText {r : ImportRecord} (h : ∀ s ∈ r.texts, EscapeFree s) :
    EscapeFree r.requireText := by
  obtain ⟨bindings, specifier, range, loc, code⟩ := r
  obtain ⟨hspecifier, hnames⟩ := List.forall_mem_cons.mp h
  cases bindings with
  | everything name =>
    have hname : EscapeFree name := hnames name (List.mem_singleton_self name)
    simp +decide [requireText, quotedSpecifier, hspecifier, hname]
  | defaultOnly name =>
    have hname : EscapeFree name := hnames name (List.mem_singleton_self name)
    simp +decide [requireText, quotedSpecifier, hspecifier, hname]
  | named list =>
    have hlist : EscapeFree (braced (list.map Binding.requireText)) :=
      escapeFree_braced (by decide) hnames
    simp +decide [requireText, quotedSpecifier, hspecifier, hlist]

/-- A listing has no escape sequences when no import is rendered with one. -/
theorem escapeFree_importListing {rendered : ImportRecord → String} {modules : List FileModule}
    (hrendered : ∀ r : ImportRecord, (∀ s ∈ r.texts, EscapeFree s) → EscapeFree (rendered r))
    (h : ∀ m ∈ modules, ∀ s ∈ m.texts, EscapeFree s) :
    EscapeFree (importListing rendered modules) := by
  refine escapeFree_join fun text htext => ?_
  obtain ⟨m, hm, rfl⟩ := List.mem_map.mp htext
  obtain ⟨hname, hrecords⟩ := List.forall_mem_cons.mp (h m (List.mem_filter.mp hm).1)
  have hlines : EscapeFree (String.join (m.imports.map fun r => rendered r ++ "\n")) := by
    refine escapeFree_join fun line hline => ?_
    obtain ⟨r, hr, rfl⟩ := List.mem_map.mp hline
    refine escapeFree_append.mpr ⟨hrendered r fun s hs => ?_, by decide⟩
    exact hrecords s (List.mem_append_left _ (List.mem_flatMap.mpr ⟨r, hr, hs⟩))
  simp +decide [hname, hlines]

/-! ### Issues -/

theorem BalanceMismatch.escapeFree_stackText {m : BalanceMismatch}
    (h : ∀ s ∈ m.stack, EscapeFree s) : EscapeFree m.stackText := by
  refine escapeFree_intercalate (by decide) fun text htext => ?_
  obtain ⟨s, hs, rfl⟩ := List.mem_map.mp htext
  simp +decide [BalanceMismatch.inQuotes, h s hs]

namespace Problem

variable {p : Problem}

theorem escapeFree_message (h : ∀ s ∈ p.texts, EscapeFree s) : EscapeFree p.message := by
  cases p with
  | lex message => exact h message (List.mem_singleton_self _)
  | balance m =>
    obtain ⟨hsigns, -⟩ := List.forall_mem_append.mp h
    obtain ⟨hfound, hexpected⟩ := List.forall_mem_append.mp hsigns
    -- the signs stand in quotes, with words around them that hold no escapes
    unfold message mismatchMessage
    dsimp only
    split
    · next found expected hf he =>
      have hsign := hfound found (hf ▸ List.mem_singleton_self found)
      have hcloser := hexpected expected (he ▸ List.mem_singleton_self expected)
      simp +decide [hsign, hcloser]
    · next found hf he =>
      have hsign := hfound found (hf ▸ List.mem_singleton_self found)
      simp +decide [hsign]
    · next expected hf he =>
      have hcloser := hexpected expected (he ▸ List.mem_singleton_self expected)
      simp +decide [hcloser]
    · decide
  | malformed kind reason => exact h reason (List.mem_singleton_self _)
  | unresolved specifier resolved =>
    have hspecifier := h specifier (List.mem_cons_self ..)
    unfold message
    simp +decide [hspecifier]

theorem escapeFree_details (h : ∀ s ∈ p.texts, EscapeFree s) : ∀ s ∈ p.details?, EscapeFree s := by
  intro s hs
  cases p with
  | lex message => cases hs; decide
  | balance m =>
    have hstack := m.escapeFree_stackText fun s hs => h s (List.mem_append_right _ hs)
    rw [details?] at hs
    split at hs
    · cases hs
    · cases hs
      simp +decide [hstack]
  | malformed kind reason =>
    cases hs
    cases kind <;> decide
  | unresolved specifier resolved =>
    cases hs
    have hresolved := h resolved (by simp [texts])
    simp +decide [hresolved]

theorem escapeFree_hint : ∀ s ∈ p.hint?, EscapeFree s := by
  intro s hs
  cases p <;> cases hs
  decide

end Problem

theorem escapeFree_gutter (width : Nat) {sign : String} (h : EscapeFree sign) :
    (gutter width sign).EscapeFree := by
  simp +decide [gutter, h]

theorem escapeFree_remark (width : Nat) (style : Style) (label : String) {text : Option String}
    (hlabel : EscapeFree label) (htext : ∀ s ∈ text, EscapeFree s) :
    (remark width style label text).EscapeFree := by
  cases text with
  | none => exact Pieces.escapeFree_nil
  | some text => simp +decide [remark, escapeFree_gutter, hlabel, htext text rfl]

/-- An issue is shown without escape sequences of its own. -/
theorem escapeFree_issuePieces (width : Nat) {i : Issue} (h : ∀ s ∈ i.texts, EscapeFree s) :
    (issuePieces width i).EscapeFree := by
  obtain ⟨hfile, hrest⟩ := List.forall_mem_cons.mp h
  obtain ⟨hline, hproblem⟩ := List.forall_mem_cons.mp hrest
  have hseverity : EscapeFree i.problem.severity.name := by cases i.problem.severity <;> decide
  have hrule : EscapeFree i.problem.rule.name := by cases i.problem.rule <;> decide
  have htitle : (issueTitle i.problem).EscapeFree := by
    simp +decide [issueTitle, hseverity, hrule, Problem.escapeFree_message hproblem]
  have hplace : (issuePlace i.context).EscapeFree := by
    simp +decide [issuePlace, hfile]
  have hexcerpt : (sourceExcerpt width i.context).EscapeFree := by
    simp +decide [sourceExcerpt, hline]
  have hcaret : (caretLine width i).EscapeFree := by
    simp +decide [caretLine, escapeFree_gutter]
  have hnote := escapeFree_remark width .bold "note" (by decide)
    (Problem.escapeFree_details hproblem)
  have hhint := escapeFree_remark width (.boldColoured .cyan) "hint" (by decide)
    (Problem.escapeFree_hint (p := i.problem))
  simp +decide [issuePieces, htitle, hplace, hexcerpt, hcaret, hnote, hhint, escapeFree_gutter]

theorem escapeFree_issueReport {issues : List Issue}
    (h : ∀ i ∈ issues, ∀ s ∈ i.texts, EscapeFree s) : (issueReport issues).EscapeFree :=
  Pieces.escapeFree_flatMap fun i hi =>
    escapeFree_issuePieces _ (h i ((List.mergeSort_perm issues _).mem_iff.mp hi))

/-! ### Data -/

namespace JsonValue

/-- A control character is written by its code. -/
theorem escapeFree_escapeJson (c : Char) : EscapeFree (escapeJson c) := by
  have hcontrol : ∀ n < 0x20, EscapeFree ("\\u00" ++ twoHexDigits n) := by decide
  unfold escapeJson
  iterate 7
    split
    · decide
  split
  · next hlow => exact hcontrol _ hlow
  · next hhigh =>
    refine escapeFree_ofList.mpr fun c' hc' heq => hhigh ?_
    rw [← List.mem_singleton.mp hc', heq]
    decide

theorem escapeFree_quote (s : String) : EscapeFree (quote s) := by
  have hchars : EscapeFree (String.join (s.toList.map escapeJson)) := by
    refine escapeFree_join fun text htext => ?_
    obtain ⟨c, -, rfl⟩ := List.mem_map.mp htext
    exact escapeFree_escapeJson c
  simp +decide [quote, hchars]

theorem escapeFree_bracketed {opener closer : String} {lines : List String} (depth : Nat)
    (hopener : EscapeFree opener) (hcloser : EscapeFree closer)
    (h : ∀ line ∈ lines, EscapeFree line) :
    EscapeFree (bracketed opener closer depth lines) := by
  have hnew (depth : Nat) : EscapeFree (newLine depth) := by simp +decide [newLine]
  have hlines : EscapeFree (("," ++ newLine (depth + 1)).intercalate lines) :=
    escapeFree_intercalate (escapeFree_append.mpr ⟨by decide, hnew _⟩) h
  unfold bracketed
  split <;> simp [hopener, hcloser, hnew, hlines]

mutual

/-- The text of a value has no escape sequence, whatever its strings are. -/
theorem escapeFree_write (depth : Nat) (v : JsonValue) : EscapeFree (v.write depth) := by
  cases v with
  | null =>
    rw [write]
    decide
  | bool b =>
    rw [write]
    cases b <;> decide
  | number n => exact escapeFree_repr n
  | string s => exact escapeFree_quote s
  | array items =>
    exact escapeFree_bracketed depth (by decide) (by decide)
      (escapeFree_writeItems (depth + 1) items)
  | object members =>
    exact escapeFree_bracketed depth (by decide) (by decide)
      (escapeFree_writeMembers (depth + 1) members)

theorem escapeFree_writeItems (depth : Nat) (items : List JsonValue) :
    ∀ line ∈ writeItems depth items, EscapeFree line := by
  cases items with
  | nil => exact fun _ hline => absurd hline List.not_mem_nil
  | cons v rest =>
    exact List.forall_mem_cons.mpr ⟨escapeFree_write depth v, escapeFree_writeItems depth rest⟩

theorem escapeFree_writeMembers (depth : Nat) (members : List (String × JsonValue)) :
    ∀ line ∈ writeMembers depth members, EscapeFree line := by
  match members with
  | [] => exact fun _ hline => absurd hline List.not_mem_nil
  | (name, v) :: rest =>
    refine List.forall_mem_cons.mpr ⟨?_, escapeFree_writeMembers depth rest⟩
    simp +decide [escapeFree_quote, escapeFree_write depth v]

end

end JsonValue

/-! ### Whole reports -/

theorem Failure.escapeFree_pieces {f : Failure} (h : ∀ s ∈ f.chain, EscapeFree s) :
    f.pieces.EscapeFree := by
  obtain ⟨hmessage, hcauses⟩ := List.forall_mem_cons.mp h
  refine Pieces.escapeFree_append.mpr ⟨by simp +decide [hmessage], ?_⟩
  exact Pieces.escapeFree_flatMap fun cause hcause => by simp +decide [hcauses cause hcause]

namespace RunReport

theorem escapeFree_summary (r : RunReport) (timing : Bool) : (r.summary timing).EscapeFree := by
  have hprocessed : EscapeFree (r.processedText timing) := by
    have htime : EscapeFree (if timing then " in " ++ durationText r.elapsed else "") := by
      split
      · simp +decide [escapeFree_durationText]
      · decide
    have hfiles : EscapeFree (countOf r.processed "file") := escapeFree_countOf _ (by decide)
    simp +decide [processedText, hfiles, htime]
  have hnoun {n : Nat} {one many : String} (hone : EscapeFree one) (hmany : EscapeFree many) :
      EscapeFree (if n = 1 then one else many) := by split <;> assumption
  unfold summary
  split
  · unfold cleanSummary
    split
    · exact Pieces.escapeFree_nil
    · simp +decide [successMark, hprocessed]
  · have herrors : EscapeFree (if r.errorCount = 1 then "error" else "errors") :=
      hnoun (by decide) (by decide)
    have hwarnings :
        EscapeFree (if r.issues.length - r.errorCount = 1 then "warning" else "warnings") :=
      hnoun (by decide) (by decide)
    simp +decide [issueSummary, failureMark, hprocessed, herrors, hwarnings]

theorem escapeFree_body {r : RunReport} (h : ∀ s ∈ r.texts, EscapeFree s)
    (options : ReportOptions) : (r.body options).EscapeFree := by
  obtain ⟨hfound, -⟩ := List.forall_mem_append.mp h
  obtain ⟨hmodules, hissues⟩ := List.forall_mem_append.mp hfound
  have hmodule : ∀ m ∈ r.modules, ∀ s ∈ m.texts, EscapeFree s :=
    fun m hm s hs => hmodules s (List.mem_flatMap.mpr ⟨m, hm, hs⟩)
  have hissue : ∀ i ∈ r.issues, ∀ s ∈ i.texts, EscapeFree s :=
    fun i hi s hs => hissues s (List.mem_flatMap.mpr ⟨i, hi, hs⟩)
  -- each format joins texts of the report with texts of its own
  unfold body
  cases options.format with
  | text =>
    have hlines :
        Pieces.EscapeFree (r.modules.flatMap (modulePieces options.verbose options.timing)) :=
      Pieces.escapeFree_flatMap fun m hm => escapeFree_modulePieces (hmodule m hm) _ _
    simp [hlines, escapeFree_issueReport hissue, escapeFree_summary]
  | json =>
    have hdata := JsonValue.escapeFree_write 0 (reportJson r.modules r.issues)
    dsimp only
    split
    · simp +decide [JsonValue.pretty, hdata]
    · simp +decide [notData]
  | es6 =>
    simp [escapeFree_importListing (fun _ => ImportRecord.escapeFree_esText) hmodule]
  | cjs =>
    simp [escapeFree_importListing (fun _ => ImportRecord.escapeFree_requireText) hmodule]

theorem escapeFree_remarks {r : RunReport} (h : ∀ s ∈ r.texts, EscapeFree s)
    (options : ReportOptions) : (r.remarks options).EscapeFree := by
  obtain ⟨hfound, -⟩ := List.forall_mem_append.mp h
  obtain ⟨-, hissues⟩ := List.forall_mem_append.mp hfound
  have hreport : (issueReport r.issues).EscapeFree :=
    escapeFree_issueReport fun i hi s hs => hissues s (List.mem_flatMap.mpr ⟨i, hi, hs⟩)
  unfold remarks
  cases options.format with
  | text => exact Pieces.escapeFree_nil
  | json => exact Pieces.escapeFree_nil
  | es6 => exact hreport
  | cjs => exact hreport

/-- **Colours change nothing but escape sequences**: whoever removes them from the two outputs with
colours has the outputs without, in every format, with or without details, provided that the report
itself brings no escape sequences. -/
theorem withoutSequences_output (r : RunReport) (h : ∀ s ∈ r.texts, EscapeFree s)
    (options : ReportOptions) :
    withoutSequences (render true (r.output options).stdout)
        = render false (r.output options).stdout ∧
      withoutSequences (render true (r.output options).stderr)
        = render false (r.output options).stderr := by
  have hfailure : Pieces.EscapeFree ((r.failure.map Failure.pieces).getD []) := by
    cases hf : r.failure with
    | none => exact Pieces.escapeFree_nil
    | some f =>
      refine Failure.escapeFree_pieces fun s hs => h s (List.mem_append_right _ ?_)
      rw [hf]
      exact List.mem_flatMap.mpr ⟨f, List.mem_singleton_self f, hs⟩
  have hstdout := Pieces.escapeFree_append.mpr ⟨escapeFree_body h options, hfailure⟩
  exact ⟨withoutSequences_render hstdout, withoutSequences_render (escapeFree_remarks h options)⟩

/-- The outputs about a file with a bracket that was never opened. -/
theorem withoutSequences_output_stray :
    let place : SourceContext := ⟨"a.js", 1, 3, "x \x7d"⟩
    let mismatch : BalanceMismatch := ⟨none, some "\x7d", [], ⟨1, 3, 2⟩⟩
    let stray : RunReport :=
      { modules := [{ path := ⟨false, [.name "a.js"]⟩, name := "a.js", status := .failed }]
        issues := [⟨place, .balance mismatch⟩]
        failure := some ⟨"Failed to process a.js", [mismatch.message]⟩
        elapsed := 0 }
    (∀ s ∈ stray.texts, EscapeFree s) ∧ ∀ options,
      withoutSequences (render true (stray.output options).stdout)
          = render false (stray.output options).stdout ∧
        withoutSequences (render true (stray.output options).stderr)
          = render false (stray.output options).stderr := by
  intro place mismatch stray
  have hfree : ∀ s ∈ stray.texts, EscapeFree s := by decide
  exact ⟨hfree, withoutSequences_output stray hfree⟩

end RunReport

end ImportScan
