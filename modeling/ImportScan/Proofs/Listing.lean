import ImportScan.Report.Modules
import ImportScan.Proofs.Accounting
import ImportScan.Proofs.PrintedList

/-!
# Listings are read back

The imports of the processed files can be printed as statements, each file behind a comment with its
name.  Such a listing is a script itself.  Reading it gives the imports again, in their order, and
nothing else.

## Main definitions

* `ImportRecord.IsReadAs` — what is read is what was printed.
* `ReadsAs` — tokens that give some imports, wherever they stand.
* `listingTokens` — the tokens of a listing.

## Main results

* `ImportRecord.toImport_of_significant` — a statement with the tokens of a printed import is read
  as this import.
* `extract_importListing` — **a listing is read back as what it was printed from**.
-/

namespace ImportScan

open PlainToken (blank lineFeed keyword name sign string)

/-! ### The clause -/

theorem PlainToken.isName_name (text : String) : (name text).IsName :=
  ⟨rfl, by simp [name, keyword, sign]⟩

/-- An entry is printed as what it shows. -/
theorem Binding.shownAs_plainTokens (b : Binding) :
    b.ShownAs (b.plainTokens.filter PlainToken.isVisible) := by
  have himported : (importedToken b.imported).IsName ∧
      (importedToken b.imported).kind ≠ .stringLiteral := by
    unfold importedToken
    split
    · next hdefault =>
      rw [hdefault]
      decide
    · exact ⟨PlainToken.isName_name _, by simp [name]⟩
  unfold plainTokens
  by_cases hsame : b.imported = b.localName
  · rw [if_pos hsame]
    exact .alone (PlainToken.isName_name _) (by simp [name]) hsame.symm hsame
  · rw [if_neg hsame, List.filter_cons_of_pos himported.1.isVisible]
    exact .renamed himported.1 himported.2 (PlainToken.isName_name _) (lexeme_importedToken _) rfl
      hsame

theorem shownAs_plainTokens (list : List Binding) : List.Forall₂ Binding.ShownAs list
    (list.map fun b => b.plainTokens.filter PlainToken.isVisible) := by
  rw [List.forall₂_map_right_iff]
  exact List.forall₂_same.2 fun b _ => b.shownAs_plainTokens

/-- The tokens with meaning of the entries of a list. -/
theorem filter_entryTokens (list : List Binding) :
    (entryTokens list).filter PlainToken.isVisible
      = joinedTokens (list.map fun b => b.plainTokens.filter PlainToken.isVisible) := by
  fun_induction entryTokens list with
  | case1 => rfl
  | case2 b => rfl
  | case3 b next list ih =>
    rw [List.filter_append, List.filter_cons_of_pos rfl, List.filter_cons_of_neg (by decide), ih]
    rfl

/-- The tokens of the bindings are a clause with these bindings. -/
theorem Bindings.importClause {bindings : Bindings} {ts : List Token}
    (h : ts.map Token.plain = bindings.plainTokens.filter PlainToken.isVisible) :
    ImportClause ts bindings := by
  cases bindings with
  | everything text =>
    obtain ⟨loc, _, rfl, hmark⟩ := exists_placed_cons h
    obtain ⟨loc', _, rfl, hname⟩ := exists_placed_cons hmark
    obtain ⟨loc'', rfl⟩ := exists_placed_singleton hname
    exact .everything rfl rfl rfl
  | defaultOnly text =>
    obtain ⟨loc, rfl⟩ := exists_placed_singleton h
    exact .defaultOnly rfl
  | named list =>
    -- what is printed of the list are its entries, with commas between them
    have hlist : (Bindings.named list).plainTokens.filter PlainToken.isVisible
        = listTokens (list.map fun b => b.plainTokens.filter PlainToken.isVisible) := by
      rw [listTokens, ← filter_entryTokens]
      cases list with
      | nil => rfl
      | cons b list =>
        rw [plainTokens, List.filter_cons_of_pos rfl, List.filter_cons_of_neg (by decide),
          List.filter_append]
        rfl
    exact .named (braceList_of_entries (shownAs_plainTokens list) (h.trans hlist))

/-! ### The import -/

/-- What is read has the bindings and the specifier of what was printed, and its text is the printed
one. -/
structure ImportRecord.IsReadAs (r read : ImportRecord) : Prop where
  /-- The bindings. -/
  bindings : read.bindings = r.bindings
  /-- The specifier. -/
  specifier : read.specifier = r.specifier
  /-- The text of the statement. -/
  code : read.code = r.esText

/-- **A statement whose tokens with meaning are those of an import is read as this import.** -/
theorem ImportRecord.toImport_of_significant (r : ImportRecord) {s : Statement}
    {us : List PlainToken} (hclause : ∀ ts, ts.map Token.plain = us → ImportClause ts r.bindings)
    (h : s.significant.map Token.plain
      = keyword "import" :: (us ++ [keyword "from", string r.quotedSpecifier, sign ";"])) :
    s.hasFrom = true ∧ s.toImport = .ok ⟨r.bindings, r.specifier, s.range, s.loc, s.text⟩ := by
  obtain ⟨loc, body, hsignificant, hbody⟩ := exists_placed_cons h
  obtain ⟨clause, _, rfl, hus, hbehind⟩ := List.map_eq_append_iff.1 hbody
  obtain ⟨loc', _, rfl, hspecifier⟩ := exists_placed_cons hbehind
  obtain ⟨loc'', rest, rfl, -⟩ := exists_placed_cons hspecifier
  have hquote : isQuoteMark '\x27' = true := rfl
  have hquotes : Unquotes r.quotedSpecifier r.specifier := .quoted hquote r.specifier
  have hread : ImportScan.importClause (s.body .imports) = .ok (r.bindings, r.specifier) := by
    rw [importClause_eq_ok_iff, Statement.body, hsignificant]
    exact ⟨clause, _, _, rest, rfl, hclause clause hus, rfl, rfl, hquotes⟩
  constructor
  · -- `from` carries meaning, and so it is one of the tokens
    have hmem : (keyword "from").placed loc' ∈ s.significant := by
      rw [hsignificant]
      simp
    exact List.any_eq_true.2 ⟨_, (List.mem_filter.1 hmem).1, rfl⟩
  · rw [Statement.toImport, hread]

/-- A statement that consists of the tokens of an import is read as this import. -/
theorem ImportRecord.exists_toImport (r : ImportRecord) {s : Statement}
    (h : s.tokens.map Token.plain = r.plainTokens) :
    s.hasFrom = true ∧ ∃ read, s.toImport = .ok read ∧ r.IsReadAs read := by
  -- the blanks between the words carry no meaning
  have hvisible : s.significant.map Token.plain
      = keyword "import" :: (r.bindings.plainTokens.filter PlainToken.isVisible ++
        [keyword "from", string r.quotedSpecifier, sign ";"]) := by
    rw [Statement.significant, map_plain_filter, h, plainTokens, innerTokens,
      List.filter_cons_of_pos rfl, List.cons_append, List.filter_cons_of_neg (by decide),
      List.append_assoc, List.filter_append]
    rfl
  obtain ⟨hfrom, hread⟩ :=
    r.toImport_of_significant (fun ts hts => Bindings.importClause hts) hvisible
  refine ⟨hfrom, _, hread, rfl, rfl, ?_⟩
  show s.text = r.esText
  rw [← String.toList_inj, ← r.spell_plainTokens, ← h, Statement.text, String.toList_join,
    List.flatMap_map, spell, List.flatMap_map]
  rfl

/-! ### Tokens that give imports -/

/-- The statement is an import, and consists of the tokens of a record. -/
def ImportRecord.MakesUp (r : ImportRecord) (s : Statement) : Prop :=
  s.kind = .imports ∧ s.tokens.map Token.plain = r.plainTokens

/-- Some tokens give the imports `rs` and nothing else, wherever they stand: they are legible before
any text, leave all that is open as it is, and split into the statements of these imports. -/
structure ReadsAs (us : List PlainToken) (rs : List ImportRecord) : Prop where
  /-- The tokens are legible. -/
  legible : ∀ rest, Legible us rest
  /-- The brackets are balanced. -/
  balanced : ∀ s : FlatStack, s.feedPlain us = some s
  /-- The statements are those of the imports. -/
  decomposes : ∀ {ts behind : List Token} {ss : List Statement}, ts.map Token.plain = us →
    Decomposes behind ss none →
      ∃ ss', Decomposes (ts ++ behind) (ss' ++ ss) none ∧ List.Forall₂ ImportRecord.MakesUp rs ss'

namespace ReadsAs

variable {us vs : List PlainToken} {rs qs : List ImportRecord}

theorem nil : ReadsAs [] [] where
  legible _ := trivial
  balanced _ := rfl
  decomposes hts hbehind := by
    rw [List.map_eq_nil_iff.1 hts]
    exact ⟨[], hbehind, .nil⟩

theorem append (h : ReadsAs us rs) (h' : ReadsAs vs qs) : ReadsAs (us ++ vs) (rs ++ qs) where
  legible rest := legible_append_iff.2 ⟨h.legible _, h'.legible rest⟩
  balanced s := by
    rw [FlatStack.feedPlain_append, h.balanced s]
    exact h'.balanced s
  decomposes := by
    intro ts behind ss hts hbehind
    obtain ⟨ts, ts', rfl, hts, hts'⟩ := List.map_eq_append_iff.1 hts
    obtain ⟨ss'', hdecomposes, hqs⟩ := h'.decomposes hts' hbehind
    obtain ⟨ss', hdecomposes, hrs⟩ := h.decomposes hts hdecomposes
    refine ⟨ss' ++ ss'', ?_, List.rel_append hrs hqs⟩
    rw [List.append_assoc, List.append_assoc]
    exact hdecomposes

theorem flatMap {α : Type} {l : List α} {f : α → List PlainToken} {g : α → List ImportRecord}
    (h : ∀ a ∈ l, ReadsAs (f a) (g a)) : ReadsAs (l.flatMap f) (l.flatMap g) := by
  induction l with
  | nil => exact nil
  | cons a l ih =>
    obtain ⟨ha, hl⟩ := List.forall_mem_cons.1 h
    rw [List.flatMap_cons, List.flatMap_cons]
    exact ha.append (ih hl)

end ReadsAs

/-! ### The lines of a listing -/

/-- The comment in front of the imports of a file. -/
def headerToken (m : FileModule) : PlainToken := ⟨.comment, "// " ++ m.name⟩

/-- The tokens of the lines of a file. -/
def moduleTokens (m : FileModule) : List PlainToken :=
  [headerToken m, lineFeed] ++ m.imports.flatMap fun r => r.plainTokens ++ [lineFeed]

/-- The tokens of a listing. -/
def listingTokens (modules : List FileModule) : List PlainToken :=
  (modules.filter fun m => m.status == .done).flatMap moduleTokens

theorem spell_flatMap {α : Type} (l : List α) (f : α → List PlainToken) :
    spell (l.flatMap f) = l.flatMap fun a => spell (f a) := List.flatMap_assoc

/-- The tokens of a listing spell it. -/
theorem spell_listingTokens (modules : List FileModule) :
    spell (listingTokens modules)
      = (importListing ImportRecord.esText modules).toList := by
  have hmodule : ∀ m : FileModule, spell (moduleTokens m)
      = ("// " ++ m.name ++ "\n" ++
        String.join (m.imports.map fun r => r.esText ++ "\n")).toList := by
    intro m
    rw [moduleTokens, spell_append, spell_flatMap, String.toList_append, String.toList_join,
      List.flatMap_map]
    simp [headerToken, lineFeed, ImportRecord.spell_plainTokens]
  rw [listingTokens, spell_flatMap, importListing, String.toList_join, List.flatMap_map]
  simp only [hmodule]

/-- A comment gives no import. -/
theorem readsAs_header {m : FileModule} (h : ∀ c ∈ m.name.toList, isLineEnd c = false) :
    ReadsAs [headerToken m, lineFeed] [] where
  legible rest := by
    have hline : ∀ c ∈ '/' :: ' ' :: m.name.toList, (!isLineEnd c) = true := by
      simpa [isLineEnd] using h
    have hreadable : (headerToken m).Readable := by
      apply PlainToken.readable_of_scansAs
      have hscans : ScansAs none ('/' :: '/' :: ' ' :: m.name.toList) .comment
          (lineExtent ('/' :: ' ' :: m.name.toList) + 1) := scansAs_lineComment _
      rw [lineExtent, List.takeWhile_eq_self_iff.2 hline] at hscans
      simpa [headerToken] using hscans
    exact ⟨hreadable, rfl, rfl, rfl, trivial⟩
  balanced s := rfl
  decomposes := by
    intro ts behind ss hts hbehind
    obtain ⟨loc, _, rfl, hfeed⟩ := exists_placed_cons hts
    obtain ⟨loc', rfl⟩ := exists_placed_singleton hfeed
    exact ⟨[], (hbehind.cons rfl).cons rfl, .nil⟩

/-- A statement gives its import. -/
theorem readsAs_import {r : ImportRecord} (h : r.IsPrintable) :
    ReadsAs (r.plainTokens ++ [lineFeed]) [r] where
  legible rest := legible_append_iff.2 ⟨h.legible rest, rfl, rfl, trivial⟩
  balanced s := by
    rw [FlatStack.feedPlain_append, r.balanced s]
    rfl
  decomposes := by
    intro ts behind ss hts hbehind
    obtain ⟨tokens, _, rfl, htokens, hts⟩ := List.map_eq_append_iff.1 hts
    obtain ⟨loc'', rfl⟩ := exists_placed_singleton hts
    obtain ⟨loc, _, rfl, hinner⟩ := exists_placed_cons htokens
    obtain ⟨body, _, rfl, hbody, hends⟩ := List.map_eq_append_iff.1 hinner
    obtain ⟨loc', rfl⟩ := exists_placed_singleton hends
    -- the statement goes up to its semicolon, and the line feed behind it belongs to none
    have hgoes : ∀ t ∈ body, t.endsStatement = false := by
      intro t ht
      have hmem : t.plain ∈ r.innerTokens := by
        rw [← hbody]
        exact List.mem_map_of_mem ht
      exact r.endsStatement_eq_false t.loc _ hmem
    refine ⟨[Collector.statement .imports _ body _], ?_, .cons ⟨rfl, htokens⟩ .nil⟩
    have hrest : Decomposes (lineFeed.placed loc'' :: behind) ss none := hbehind.cons rfl
    have hall : Decomposes ([] ++ (keyword "import").placed loc ::
        (body ++ (sign ";").placed loc' :: lineFeed.placed loc'' :: behind)) _ none :=
      .statement (by simp) rfl hgoes rfl hrest
    simpa using hall

theorem readsAs_listing {modules : List FileModule}
    (hnames : ∀ m ∈ modules, ∀ c ∈ m.name.toList, isLineEnd c = false)
    (himports : ∀ m ∈ modules, m.status = .done → ∀ r ∈ m.imports, r.IsPrintable) :
    ReadsAs (listingTokens modules)
      ((modules.filter fun m => m.status == .done).flatMap FileModule.imports) := by
  apply ReadsAs.flatMap
  intro m hm
  obtain ⟨hmem, hdone⟩ := List.mem_filter.1 hm
  have hlines : ReadsAs (m.imports.flatMap fun r => r.plainTokens ++ [lineFeed])
      (m.imports.flatMap fun r => [r]) := by
    apply ReadsAs.flatMap
    intro r hr
    exact readsAs_import (himports m hmem (by simpa using hdone) r hr)
  have hmodule := (readsAs_header (hnames m hmem)).append hlines
  rwa [List.flatMap_singleton', List.nil_append] at hmodule

/-! ### Reading a listing -/

/-- Statements made up of the tokens of imports give these imports and nothing else. -/
theorem Accounts.isReadAs {ss : List Statement} {rs : List ImportRecord} {x : Extraction}
    (h : Accounts ss none x) (hss : List.Forall₂ ImportRecord.MakesUp rs ss) :
    x.exports = [] ∧ x.malformed = [] ∧ List.Forall₂ ImportRecord.IsReadAs rs x.imports := by
  induction hss generalizing x with
  | nil =>
    cases h
    exact ⟨rfl, rfl, .nil⟩
  | cons hmade _ ih =>
    obtain ⟨himport, htokens⟩ := hmade
    cases h with
    | statement hgives hrest =>
      obtain ⟨hexports, hmalformed, himports⟩ := ih hrest
      obtain ⟨hfrom, read, hread, hsame⟩ := ImportRecord.exists_toImport _ htokens
      -- the statement is an import that is understood, and so it gives a record
      cases hgives with
      | imported _ _ hrecord =>
        cases hread.symm.trans hrecord
        exact ⟨hexports, hmalformed, .cons hsame himports⟩
      | nothing _ hnone => cases hfrom.symm.trans hnone
      | malformedImport _ _ herror => cases hread.symm.trans herror
      | exported hkind _ => cases himport.symm.trans hkind
      | malformedExport hkind _ => cases himport.symm.trans hkind

/-- **A listing is read back as what it was printed from.**  If no name of a file has a line end in
it, and the imports of the processed files have names and specifiers that are single tokens, reading
the listing succeeds.  It gives the imports of these files in their order, each with its bindings
and its specifier and with the printed statement for its text.  It gives neither exports nor
complaints. -/
theorem extract_importListing (modules : List FileModule)
    (hnames : ∀ m ∈ modules, ∀ c ∈ m.name.toList, isLineEnd c = false)
    (himports : ∀ m ∈ modules, m.status = .done → ∀ r ∈ m.imports, r.IsPrintable) :
    ∃ x, (extract .ecma (importListing ImportRecord.esText modules).toList).outcome = .ok x ∧
      x.exports = [] ∧ x.malformed = [] ∧
      List.Forall₂ ImportRecord.IsReadAs
        ((modules.filter fun m => m.status == .done).flatMap FileModule.imports) x.imports := by
  have hreads := readsAs_listing hnames himports
  obtain ⟨htokens, x, houtcome⟩ := tokens_of_legible (hreads.legible []) (hreads.balanced [])
  obtain ⟨ss, o, hdecomposes, haccounts, -⟩ := exists_accounts houtcome
  -- the statements of the pass are those of the listing
  have hend : Decomposes [] [] none := .gap (by simp)
  obtain ⟨ss', hdecomposes', hmade⟩ := hreads.decomposes htokens hend
  rw [List.append_nil, List.append_nil] at hdecomposes'
  obtain ⟨hss, ho⟩ := hdecomposes.feedAll
  obtain ⟨hss', ho'⟩ := hdecomposes'.feedAll
  obtain rfl : ss = ss' := hss.symm.trans hss'
  obtain rfl : o = none := ho.symm.trans ho'
  rw [← spell_listingTokens]
  exact ⟨x, houtcome, haccounts.isReadAs hmade⟩

/-- A file with an import of each form, and one that has not been processed. -/
theorem extract_importListing_forms :
    ∃ modules : List FileModule,
      importListing ImportRecord.esText modules = "// lib/a b.js\nimport * as ns from './n;s';\n" ++
        "import d from '';\nimport \x7b default as e, x as $y, z \x7d from 'u';\n" ++
        "import \x7b  \x7d from 'v';\n" ∧
      (∀ m ∈ modules, ∀ c ∈ m.name.toList, isLineEnd c = false) ∧
      (∀ m ∈ modules, m.status = .done → ∀ r ∈ m.imports, r.IsPrintable) ∧
      ∃ x, (extract .ecma (importListing ImportRecord.esText modules).toList).outcome = .ok x ∧
        x.exports = [] ∧ x.malformed = [] ∧
        List.Forall₂ ImportRecord.IsReadAs
          ((modules.filter fun m => m.status == .done).flatMap FileModule.imports) x.imports := by
  let record (bindings : Bindings) (specifier : String) : ImportRecord :=
    ⟨bindings, specifier, ⟨0, 0⟩, .start, ""⟩
  let list : List Binding := [⟨"default", "e"⟩, ⟨"x", "$y"⟩, ⟨"z", "z"⟩]
  let modules : List FileModule :=
    [{ path := ⟨false, []⟩, name := "lib/a b.js", status := .done,
       imports := [record (.everything "ns") "./n;s", record (.defaultOnly "d") "",
         record (.named list) "u", record (.named []) "v"] },
      { path := ⟨false, []⟩, name := "c.js", imports := [record (.defaultOnly "not a name") "'"] }]
  have hlines : ∀ m ∈ modules, m.name.toList.all (fun c => !isLineEnd c) = true := by
    decide +kernel
  have hnames : ∀ m ∈ modules, ∀ c ∈ m.name.toList, isLineEnd c = false := by
    intro m hm c hc
    simpa using List.all_eq_true.1 (hlines m hm) c hc
  have himports : ∀ m ∈ modules, m.status = .done → ∀ r ∈ m.imports, r.IsPrintable := by
    decide +kernel
  have hread := extract_importListing modules hnames himports
  exact ⟨modules, by decide +kernel, hnames, himports, hread⟩

end ImportScan
