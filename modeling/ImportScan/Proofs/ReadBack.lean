import ImportScan.Proofs.PrintedEntries

/-!
# Printed imports that are read back

An import is printed without a look at what its names are.  If they are tokens by themselves that
can stand in a list, if their brackets fit, and if the specifier is one string between its quotes,
then the printed text is one statement, which is read as the import again.

## Main definitions

* `ImportRecord.ReadsBack` — what the names and the specifier of such an import are.
* `ImportRecord.IsRead` — the printed text gives the import again, and nothing is wrong with it.

## Main results

* `FlatStack.feedPlain_filter_isVisible` — brackets do not depend on what has no meaning.
* `ImportRecord.ReadsBack.isRead` — **an import reads back if its names and its specifier do**.
-/

namespace ImportScan

open PlainToken (blank keyword name sign string)

/-- The names of a list can stand there as they are: each entry is made of tokens by themselves, and
the brackets among them fit.  The specifier is one string between its quotes. -/
structure ImportRecord.ReadsBack (r : ImportRecord) : Prop where
  /-- The names of a list. -/
  bindings : ∀ list, r.bindings = .named list → ∃ entries,
    List.Forall₂ Binding.ShownAs list entries ∧ (∀ e ∈ entries, EntryStands e) ∧
      FlatStack.feedPlain [] (listTokens entries) = some []
  /-- The specifier. -/
  specifier : (string r.quotedSpecifier).Readable

/-- The printed text is accepted, and gives just this import, with nothing that could not be
understood. -/
def ImportRecord.IsRead (r : ImportRecord) : Prop :=
  ∃ x read, (extract .ecma r.esText.toList).outcome = .ok x ∧ x.imports = [read] ∧
    x.malformed = [] ∧ read.bindings = r.bindings ∧ read.specifier = r.specifier

/-- A name that stands alone before `from` is a token. -/
def Bindings.HasReadableName : Bindings → Prop
  | .everything text => (name text).Readable
  | .defaultOnly text => (name text).Readable
  | .named _ => True

section

variable {b : Binding} {e us : List PlainToken} {list : List Binding}
  {entries : List (List PlainToken)} {bindings : Bindings} {clause : Spaced} {r : ImportRecord}
  {ts inside : List Token}

/-! ### Tokens with meaning -/

theorem isRegular_spacedBefore {gap : List Char} (hus : ∀ u ∈ us, u.isVisible = true)
    (hgap : ∀ c ∈ gap, c = ' ') : Spaced.IsRegular (spacedBefore gap us) := by
  fun_induction spacedBefore gap us with
  | case1 => exact ⟨by simp, by simp⟩
  | case2 u => exact Spaced.isRegular_cons_iff.2 ⟨hus u (by simp), hgap, by simp, by simp⟩
  | case3 u v us ih =>
    obtain ⟨hu, hus⟩ := List.forall_mem_cons.1 hus
    exact Spaced.isRegular_cons_iff.2 ⟨hu, by simp, ih hus⟩

theorem isRegular_spacedEntries (h : List.Forall₂ Binding.ShownAs list entries) :
    Spaced.IsRegular (spacedEntries entries) := by
  induction h with
  | nil => exact ⟨by simp [spacedEntries], by simp [spacedEntries]⟩
  | @cons b e list entries hb h ih =>
    have he : ∀ u ∈ e, u.isVisible = true := fun u hu => (hb.isName u hu).isVisible
    cases h with
    | nil => exact isRegular_spacedBefore he (by simp)
    | cons =>
      exact Spaced.isRegular_append_iff.2 ⟨isRegular_spacedBefore he (by simp),
        Spaced.isRegular_cons_iff.2 ⟨rfl, by simp, ih⟩⟩

theorem Bindings.ShownAs.isRegular (h : bindings.ShownAs entries clause) :
    Spaced.IsRegular clause := by
  cases h with
  | everything => exact ⟨by simp [sign, keyword, name, PlainToken.isVisible, TokenKind.isTrivia],
      by simp⟩
  | defaultOnly => exact ⟨by simp [name, PlainToken.isVisible, TokenKind.isTrivia], by simp⟩
  | named h =>
    refine Spaced.isRegular_cons_iff.2 ⟨rfl, ?_, Spaced.isRegular_append_iff.2
      ⟨isRegular_spacedEntries h, Spaced.isRegular_cons_iff.2 ⟨rfl, by simp, by simp, by simp⟩⟩⟩
    split <;> simp

theorem ImportRecord.isRegular_spaced (h : r.bindings.ShownAs entries clause) :
    Spaced.IsRegular (r.spaced clause) := by
  refine Spaced.isRegular_cons_iff.2 ⟨rfl, by simp, Spaced.isRegular_append_iff.2
    ⟨h.isRegular, ?_, by simp⟩⟩
  simp [keyword, string, sign, PlainToken.isVisible, TokenKind.isTrivia]

/-! ### Brackets -/

/-- What has no meaning leaves the brackets as they are. -/
theorem FlatStack.feedPlain_filter_isVisible (s : FlatStack) (us : List PlainToken) :
    s.feedPlain (us.filter PlainToken.isVisible) = s.feedPlain us := by
  induction us generalizing s with
  | nil => rfl
  | cons u us ih =>
    cases hu : u.isVisible with
    | true =>
      rw [List.filter_cons_of_pos hu, feedPlain_cons, feedPlain_cons]
      exact Option.bind_congr fun next _ => ih next
    | false =>
      have hneutral : u.IsNeutral := by
        have hkind : u.kind.isTrivia = true := PlainToken.isVisible_eq_false_iff.1 hu
        refine PlainToken.isNeutral_of_ne ?_ ?_ <;> rintro hk <;> rw [hk] at hkind <;> cases hkind
      rw [List.filter_cons_of_neg (by simp [hu]), feedPlain_cons, hneutral s, Option.bind_some, ih]

theorem FlatStack.feedPlain_map_plain (s : FlatStack) (ts : List Token) :
    s.feedPlain (ts.map Token.plain) = s.feedAll ts := by
  induction ts generalizing s with
  | nil => rfl
  | cons t ts ih => exact Option.bind_congr fun next _ => ih next

theorem ImportRecord.feedPlain_spaced (r : ImportRecord) (clause : Spaced) (s : FlatStack) :
    s.feedPlain ((r.spaced clause).map Prod.fst) = s.feedPlain (clause.map Prod.fst) := by
  rw [ImportRecord.spaced, List.map_cons, List.map_append]
  show s.feedPlain (clause.map Prod.fst ++ [keyword "from", string r.quotedSpecifier, sign ";"]) = _
  rw [FlatStack.feedPlain_append]
  cases s.feedPlain (clause.map Prod.fst) <;> rfl

/-! ### The grammar -/

/-- The tokens of a clause are a clause with the printed bindings. -/
theorem Bindings.ShownAs.importClause (h : bindings.ShownAs entries clause)
    (hts : ts.map Token.plain = clause.map Prod.fst) : ImportClause ts bindings := by
  cases h with
  | everything => exact Bindings.importClause hts
  | defaultOnly => exact Bindings.importClause hts
  | named h =>
    rw [map_fst_spacedList] at hts
    exact .named (braceList_of_entries h hts)

/-! ### The printed statement -/

theorem Bindings.ShownAs.hasReadableName (h : bindings.ShownAs entries clause) :
    bindings.HasReadableName := by
  cases h with
  | everything htext => exact htext
  | defaultOnly htext => exact htext
  | named => trivial

/-- No token of a clause ends the statement. -/
theorem Bindings.ShownAs.notMem (h : bindings.ShownAs entries clause) :
    sign ";" ∉ clause.map Prod.fst := by
  cases h with
  | everything => simp [sign, keyword, name]
  | defaultOnly => simp [sign, name]
  | @named list entries h =>
    rw [map_fst_spacedList, listTokens]
    have hsigns : sign ";" ≠ sign "\x7b" ∧ sign ";" ≠ sign "," ∧ sign ";" ≠ sign "\x7d" := by decide
    simp only [List.mem_cons, List.mem_append, List.not_mem_nil, or_false]
    rintro (heq | hmem | heq)
    · exact hsigns.1 heq
    · rcases mem_joinedTokens hmem with heq | ⟨e, he, hu⟩
      · exact hsigns.2.1 heq
      · exact (isName_of_mem h he hu).ne (by decide) rfl
    · exact hsigns.2.2 heq

namespace Spaced

variable {ws ws' : Spaced} {u : PlainToken}

/-- A token of the text is one of the tokens with meaning, or it is made of blanks. -/
theorem mem_tokens (h : IsRegular ws) (hu : u ∈ tokens ws) : u ∈ ws.map Prod.fst ∨ u.IsGap := by
  obtain ⟨⟨v, gap⟩, hv, hmem⟩ := List.mem_flatMap.1 hu
  rcases List.mem_cons.1 hmem with rfl | hmem
  · exact .inl (List.mem_map.2 ⟨_, hv, rfl⟩)
  · right
    unfold gapTokens at hmem
    split at hmem
    · cases hmem
    · next hne =>
      rw [List.mem_singleton.1 hmem]
      refine ⟨rfl, by simpa using hne, fun c hc => ?_⟩
      rw [h.eq_blank _ hv c (by simpa using hc)]
      exact ⟨rfl, rfl⟩

/-- A semicolon is the only token with meaning that ends a statement. -/
theorem endsStatement_eq_false (h : IsRegular ws) (hsemicolon : sign ";" ∉ ws.map Prod.fst)
    (hu : u ∈ tokens ws) (loc : Location) : (u.placed loc).endsStatement = false := by
  rcases mem_tokens h hu with hmem | hgap
  · obtain ⟨w, hw, rfl⟩ := List.mem_map.1 hmem
    have hvisible := h.isVisible w hw
    have hsign : (w.1.placed loc).isPunctuator ";" = false := by
      rw [Bool.eq_false_iff, ne_eq, Token.isPunctuator_iff]
      intro heq
      exact hsemicolon (heq ▸ hmem)
    have hkind : w.1.kind ≠ .whitespace := by
      intro hkind
      simp [PlainToken.isVisible, hkind, TokenKind.isTrivia] at hvisible
    rw [Token.endsStatement, hsign, Bool.false_or]
    simp [Token.isLineTerminator, PlainToken.placed, hkind]
  · exact hgap.endsStatement loc

end Spaced

/-- The printed text is read as its tokens if they are tokens by themselves and their brackets
fit. -/
theorem Bindings.ShownAs.isRead (h : r.bindings.ShownAs entries clause)
    (hstands : ∀ e ∈ entries, EntryStands e) (hspecifier : (string r.quotedSpecifier).Readable)
    (hbalanced : FlatStack.feedPlain [] (clause.map Prod.fst) = some []) : r.IsRead := by
  have hregular := ImportRecord.isRegular_spaced h
  have hscans := (ImportRecord.scans_spaced_iff h).2 ⟨hstands, hspecifier⟩
  have hfeed : FlatStack.feedPlain [] (Spaced.tokens (r.spaced clause)) = some [] := by
    rw [← FlatStack.feedPlain_filter_isVisible, Spaced.filter_tokens hregular,
      r.feedPlain_spaced, hbalanced]
  obtain ⟨htokens, x, houtcome⟩ := tokens_of_scans (hscans.scans hregular) hfeed
  rw [Spaced.spell_tokens, ImportRecord.text_spaced h] at htokens houtcome
  -- the statement goes from its keyword to its only semicolon
  let inner : Spaced := clause ++ [(keyword "from", [' ']), (string r.quotedSpecifier, [])]
  have hinner : Spaced.IsRegular inner := by
    refine Spaced.isRegular_append_iff.2 ⟨h.isRegular, ?_, by simp⟩
    simp [keyword, string, PlainToken.isVisible, TokenKind.isTrivia]
  have hsemicolon : sign ";" ∉ inner.map Prod.fst := by
    simpa [inner, sign, keyword, string] using h.notMem
  have hsplit : Spaced.tokens (r.spaced clause)
      = keyword "import" :: (blank :: Spaced.tokens inner ++ [sign ";"]) := by
    simp [ImportRecord.spaced, inner, Spaced.tokens, Spaced.gapTokens, blank]
  have hends : ∀ u ∈ blank :: Spaced.tokens inner, ∀ loc, (u.placed loc).endsStatement = false := by
    intro u hu loc
    rcases List.mem_cons.1 hu with rfl | hu
    · rfl
    · exact Spaced.endsStatement_eq_false hinner hsemicolon hu loc
  obtain ⟨s, hgives, hkind, hs⟩ :=
    exists_statement_of_tokens houtcome (htokens.trans hsplit) hends
  have hsignificant : s.significant.map Token.plain = keyword "import" ::
      (clause.map Prod.fst ++ [keyword "from", string r.quotedSpecifier, sign ";"]) := by
    rw [Statement.significant, map_plain_filter, hs, htokens, Spaced.filter_tokens hregular,
      ImportRecord.spaced, List.map_cons, List.map_append]
    rfl
  obtain ⟨hfrom, hread⟩ := r.toImport_of_significant (fun ts hts => h.importClause hts) hsignificant
  cases hgives with
  | imported _ _ hrecord =>
    cases hread.symm.trans hrecord
    exact ⟨_, _, houtcome, rfl, rfl, rfl, rfl⟩
  | nothing _ hnone => cases hfrom.symm.trans hnone
  | malformedImport _ _ herror => cases hread.symm.trans herror
  | exported hexport => cases hkind.symm.trans hexport
  | malformedExport hexport => cases hkind.symm.trans hexport

/-- The names of such an import are printed as tokens by themselves, with balanced brackets. -/
theorem ImportRecord.ReadsBack.exists_shownAs (h : r.ReadsBack)
    (hname : r.bindings.HasReadableName) : ∃ entries clause, r.bindings.ShownAs entries clause ∧
      (∀ e ∈ entries, EntryStands e) ∧ FlatStack.feedPlain [] (clause.map Prod.fst) = some [] := by
  have hlist := h.bindings
  generalize r.bindings = bindings at hname hlist
  cases bindings with
  | everything text => exact ⟨_, _, .everything hname, by simp, rfl⟩
  | defaultOnly text => exact ⟨_, _, .defaultOnly hname, by simp, rfl⟩
  | named list =>
    obtain ⟨entries, hentries, hstands, hbalanced⟩ := hlist list rfl
    refine ⟨entries, _, .named hentries, hstands, ?_⟩
    rw [map_fst_spacedList, hbalanced]

/-- **An import reads back if its names and its specifier do.** -/
theorem ImportRecord.ReadsBack.isRead (h : r.ReadsBack) (hname : r.bindings.HasReadableName) :
    r.IsRead := by
  obtain ⟨entries, clause, hshown, hstands, hbalanced⟩ := h.exists_shownAs hname
  exact hshown.isRead hstands h.specifier hbalanced

end

end ImportScan
