import Mathlib.Data.List.Chain
import ImportScan.Proofs.OnlyReading

/-!
# Which printed imports are read back

The tokens with meaning of a printed import that is read as itself are the printed ones, since there
is no room for others.  No template hides among them, so each of them is scanned behind the one
before it, as it stands in the printed text, and thus is a token by itself.

## Main definitions

* `PlainToken.ApartFrom` — two tokens are not both pieces of templates.

## Main results

* `ImportRecord.Reading.exists_shownAs` — the clause is the printed one.
* `ImportRecord.Reading.kind_ne` — no token is a piece of a template.
* `ImportRecord.Reading.rest_eq_nil` — nothing stands behind the specifier.
* `ImportRecord.Reading.scans_spaced` — the tokens are those of the printed text, each by itself.
* `ImportRecord.Reading.readsBack` — what is read as itself has names and a specifier that are.
* `extract_isRead_iff` — **an import of a text is read back just when its names and its specifier
  are**.
-/

namespace ImportScan

open PlainToken (blank keyword name sign string)

/-! ### No pieces of templates -/

/-- Two tokens one behind the other are not both pieces of templates. -/
def PlainToken.ApartFrom (u v : PlainToken) : Prop :=
  u.kind = .templateLiteral → v.kind ≠ .templateLiteral

section

variable {b : Binding} {e us : List PlainToken} {u w : PlainToken} {list : List Binding}
  {entries : List (List PlainToken)} {bindings : Bindings} {clause : Spaced}

theorem isChain_cons_of_ne (hu : u.kind ≠ .templateLiteral)
    (h : List.IsChain PlainToken.ApartFrom us) : List.IsChain PlainToken.ApartFrom (u :: us) :=
  List.isChain_cons.2 ⟨fun _ _ ht => absurd ht hu, h⟩

/-- Behind a name stands no piece of a template. -/
theorem Binding.ShownAs.isChain (he : b.ShownAs e) (hw : w.kind ≠ .templateLiteral)
    (h : List.IsChain PlainToken.ApartFrom (w :: us)) :
    List.IsChain PlainToken.ApartFrom (e ++ w :: us) := by
  have has : (keyword "as").kind ≠ .templateLiteral := by decide
  cases he with
  | alone => exact List.isChain_cons_cons.2 ⟨fun _ => hw, h⟩
  | @renamed u v =>
    have hlast : List.IsChain PlainToken.ApartFrom (v :: w :: us) :=
      List.isChain_cons_cons.2 ⟨fun _ => hw, h⟩
    exact List.isChain_cons_cons.2 ⟨fun _ => has, isChain_cons_of_ne has hlast⟩

theorem isChain_joinedTokens (hlist : List.Forall₂ Binding.ShownAs list entries)
    (hw : w.kind ≠ .templateLiteral) (h : List.IsChain PlainToken.ApartFrom (w :: us)) :
    List.IsChain PlainToken.ApartFrom (joinedTokens entries ++ w :: us) := by
  have hcomma : (sign ",").kind ≠ .templateLiteral := by decide
  induction hlist with
  | nil => exact h
  | cons hb hmore ih =>
    cases hmore with
    | nil => exact hb.isChain hw h
    | cons =>
      rw [joinedTokens, List.append_assoc, List.cons_append]
      exact hb.isChain hcomma (isChain_cons_of_ne hcomma ih)

/-- No two pieces of templates stand in a printed clause one behind the other. -/
theorem Bindings.ShownAs.isChain (hclause : bindings.ShownAs entries clause)
    (h : List.IsChain PlainToken.ApartFrom (w :: us)) :
    List.IsChain PlainToken.ApartFrom (clause.map Prod.fst ++ w :: us) := by
  cases hclause with
  | everything =>
    exact isChain_cons_of_ne (by decide) (isChain_cons_of_ne (by decide)
      (isChain_cons_of_ne (by simp [name]) h))
  | defaultOnly => exact isChain_cons_of_ne (by simp [name]) h
  | named hlist =>
    have hcloser : (sign "\x7d").kind ≠ .templateLiteral := by decide
    rw [map_fst_spacedList, listTokens, List.cons_append, List.append_assoc]
    exact isChain_cons_of_ne (by decide)
      (isChain_joinedTokens hlist hcloser (isChain_cons_of_ne hcloser h))

end

/-- An element of two joined lists that is not in the second one is in the first one. -/
theorem exists_of_append_cons_eq {α : Type} {before after front back : List α} {a : α}
    (h : before ++ a :: after = front ++ back) (ha : a ∉ back) :
    ∃ more, front = before ++ a :: more ∧ after = more ++ back := by
  rcases List.append_eq_append_iff.1 h with ⟨more, hfront, hmore⟩ | ⟨more, -, hback⟩
  · cases more with
    | nil =>
      rw [List.nil_append] at hmore
      exact absurd (by simp [← hmore]) ha
    | cons b more =>
      obtain ⟨rfl, rfl⟩ := List.cons.inj hmore
      exact ⟨more, hfront, rfl⟩
  · exact absurd (by simp [hback]) ha

namespace ImportRecord.Reading

variable {r : ImportRecord}

/-- The clause of the statement is the printed one. -/
theorem exists_shownAs (R : r.Reading) : ∃ entries clause,
    r.bindings.ShownAs entries clause ∧ R.clause.map Token.plain = clause.map Prod.fst := by
  have hmem : ∀ t ∈ R.clause, t ∈ R.body ∧ t.plain.isVisible = true := by
    intro t ht
    apply List.mem_filter.1
    show t ∈ R.body.filter fun t => !t.kind.isTrivia
    rw [R.filter_body]
    exact List.mem_append_left _ ht
  have hscanned : ∀ t ∈ R.clause, t.IsScanned := fun t ht =>
    R.isScanned t (by simp [(hmem t ht).1])
  refine R.importClause.exists_shownAs R.head_clause (fun t ht => ?_)
    (fun t ht hname => (hscanned t ht).readable hname) R.room.1
  have hends := R.endsStatement_body t (hmem t ht).1
  rw [Token.endsStatement, Bool.or_eq_false_iff] at hends
  exact ⟨(hmem t ht).2, hends.1, (hscanned t ht).isQuoted⟩

/-- The tokens with meaning. -/
theorem filter_tokens (R : r.Reading) :
    (R.first :: (R.body ++ [R.last])).filter (fun t => !t.kind.isTrivia)
      = R.first :: (R.clause ++ R.mark :: R.specifier :: (R.rest ++ [R.last])) := by
  obtain ⟨loc, hfirst⟩ := Token.exists_placed (Token.isKeyword_iff.1 R.isKeyword_first)
  obtain ⟨loc', hlast⟩ := Token.exists_placed R.last_eq.1
  have hvisible : (R.first :: (R.body ++ [R.last])).filter (fun t => !t.kind.isTrivia)
      = R.first :: (R.body.filter (fun t => !t.kind.isTrivia) ++ [R.last]) := by
    rw [hfirst, hlast, List.filter_cons_of_pos rfl, List.filter_append, List.filter_cons_of_pos rfl,
      List.filter_nil]
  rw [hvisible, R.filter_body]
  simp

/-- Up to the specifier, no two pieces of templates stand one behind the other. -/
theorem isChain (R : r.Reading) : List.IsChain PlainToken.ApartFrom
    ((R.first :: (R.clause ++ [R.mark, R.specifier])).map Token.plain) := by
  obtain ⟨entries, clause, hshown, hclause⟩ := R.exists_shownAs
  rw [List.map_cons, List.map_append, hclause, Token.isKeyword_iff.1 R.isKeyword_first,
    List.map_cons, Token.isKeyword_iff.1 R.isKeyword_mark]
  refine isChain_cons_of_ne (by decide) (hshown.isChain (isChain_cons_of_ne (by decide) ?_))
  exact .singleton _

/-- Behind the specifier, no template starts. -/
theorem notMem_of_quote (R : r.Reading) {t : Token} (ht : t.kind = .templateLiteral)
    (hquote : t.lexeme = "\x60") : t ∉ R.rest ++ [R.last] := by
  intro hmem
  rcases List.mem_append.1 hmem with hmem | hmem
  · -- the quote would weigh something
    have hle := le_weight_of_mem (p := isInk) hmem
    rw [R.room.2.1, hquote] at hle
    exact absurd hle (by decide)
  · have hlast := R.last_eq.1
    rw [← List.mem_singleton.1 hmem] at hlast
    cases ht.symm.trans (congrArg PlainToken.kind hlast)

/-- No token is a piece of a template: the first one would be a name, and another would stand right
behind it. -/
theorem kind_ne (R : r.Reading) :
    ∀ t ∈ R.first :: (R.body ++ [R.last]), t.kind ≠ .templateLiteral := by
  obtain ⟨x, houtcome⟩ := R.accepted
  obtain ⟨p, hreaches, -, -, htokens⟩ := Pass.exists_finished houtcome
  rw [R.tokens_eq, R.last_eq.2] at htokens
  have hvisible := R.filter_tokens
  generalize R.first :: (R.body ++ [R.last]) = all at htokens hvisible
  cases hfind : all.find? fun t => t.kind == .templateLiteral with
  | none => simpa using hfind
  | some t =>
    exfalso
    obtain ⟨ht, before, after, hsplit, hbefore⟩ := List.find?_eq_some_iff_append.1 hfind
    have ht : t.kind = .templateLiteral := by simpa using ht
    have hbefore : ∀ v ∈ before, v.kind ≠ .templateLiteral := by simpa using hbefore
    obtain ⟨hquote, hnext⟩ := hreaches.template_first (htokens.symm.trans hsplit) hbefore ht
    have hpiece : ∀ v : Token, v.kind = .templateLiteral → (!v.kind.isTrivia) = true := by
      intro v hv
      rw [hv]
      rfl
    -- it stands before the specifier, and the next token with meaning is the next one
    have hregroup : R.first :: (R.clause ++ R.mark :: R.specifier :: (R.rest ++ [R.last]))
        = (R.first :: (R.clause ++ [R.mark, R.specifier])) ++ (R.rest ++ [R.last]) := by simp
    rw [hsplit, hregroup, List.filter_append,
      List.filter_cons_of_pos (p := fun t : Token => !t.kind.isTrivia) (hpiece t ht)] at hvisible
    obtain ⟨more, hfront, hafter⟩ :=
      exists_of_append_cons_eq hvisible (R.notMem_of_quote ht hquote)
    cases more with
    | nil =>
      have hend : R.first :: (R.clause ++ [R.mark, R.specifier])
          = (R.first :: (R.clause ++ [R.mark])) ++ [R.specifier] := by simp
      have hlast := (List.append_inj' (hend.symm.trans hfront) rfl).2
      rw [← List.singleton_inj.1 hlast, R.kind_specifier] at ht
      cases ht
    | cons u more =>
      cases after with
      | nil => cases hafter
      | cons v after =>
        have hv := hnext v after rfl
        rw [List.filter_cons_of_pos (p := fun t : Token => !t.kind.isTrivia) (hpiece v hv)]
          at hafter
        obtain ⟨rfl, -⟩ := List.cons.inj hafter
        have hchain := R.isChain
        rw [hfront, List.map_append] at hchain
        exact List.isChain_iff_forall_rel_of_append_cons_cons.1 hchain rfl ht hv

/-- Nothing stands between the specifier and the last token. -/
theorem rest_eq_nil (R : r.Reading) : R.rest = [] := by
  cases hrest : R.rest with
  | nil => rfl
  | cons t rest =>
    exfalso
    obtain ⟨ht, hvisible⟩ : t ∈ R.body ∧ t.plain.isVisible = true := by
      apply List.mem_filter.1
      show t ∈ R.body.filter fun t => !t.kind.isTrivia
      rw [R.filter_body, hrest]
      simp
    have hink := (R.isScanned t (by simp [ht])).ink_pos (R.kind_ne t (by simp [ht])) hvisible
    have hzero := R.room.2.1
    rw [hrest, weight_cons] at hzero
    omega

/-- What has no meaning is made of blanks. -/
theorem isBlank_of_not_isVisible (R : r.Reading) {t : Token}
    (ht : t ∈ R.first :: (R.body ++ [R.last])) (hvisible : t.plain.isVisible = false) :
    ∀ c ∈ t.lexeme.toList, isBlank c = true := by
  have htrivia : t.kind.isTrivia = true := PlainToken.isVisible_eq_false_iff.1 hvisible
  -- neither the keyword nor the semicolon is without meaning
  have hmem : t ∈ R.body := by
    have hends : t ≠ R.first ∧ t ≠ R.last := by
      constructor
      · rintro rfl
        rw [Token.isKeyword_iff.1 R.isKeyword_first] at hvisible
        cases hvisible
      · rintro rfl
        rw [R.last_eq.1] at hvisible
        cases hvisible
    simpa [hends.1, hends.2] using ht
  have hzero := R.room.2.2 t hmem htrivia
  intro c hc
  simpa [isInk] using List.countP_eq_zero.1 hzero c hc

section

variable {entries : List (List PlainToken)} {clause : Spaced}

/-- The tokens with meaning are the printed ones. -/
theorem filter_isVisible (R : r.Reading)
    (hclause : R.clause.map Token.plain = clause.map Prod.fst) :
    ((R.first :: (R.body ++ [R.last])).map Token.plain).filter PlainToken.isVisible
      = (r.spaced clause).map Prod.fst := by
  have hspecifier : R.specifier.plain = string r.quotedSpecifier := by
    rw [Token.plain, R.kind_specifier, R.lexeme_specifier]
    rfl
  rw [← map_plain_filter, R.filter_tokens, R.rest_eq_nil]
  simp [ImportRecord.spaced, hclause, hspecifier, R.last_eq.1,
    Token.isKeyword_iff.1 R.isKeyword_first, Token.isKeyword_iff.1 R.isKeyword_mark]

/-- They are scanned each behind the one before it, as they stand in the printed text. -/
theorem scans_spaced (R : r.Reading) (hshown : r.bindings.ShownAs entries clause)
    (hclause : R.clause.map Token.plain = clause.map Prod.fst) :
    Spaced.Scans none (r.spaced clause) := by
  obtain ⟨x, houtcome⟩ := R.accepted
  obtain ⟨p, hreaches, hpull, -, htokens⟩ := Pass.exists_finished houtcome
  have hspell := spell_tokens_of_ok houtcome
  rw [R.tokens_eq, R.last_eq.2] at htokens hspell
  have hscans : Scans none ((R.first :: (R.body ++ [R.last])).map Token.plain) [] := by
    obtain ⟨-, hscans, -⟩ := hreaches.scans (htokens ▸ R.kind_ne)
    rwa [← htokens, (hreaches.follows.rest_of_finished hpull).1] at hscans
  have htext : spell ((R.first :: (R.body ++ [R.last])).map Token.plain)
      = [] ++ Spaced.text (r.spaced clause) := by
    rw [hspell, List.nil_append, ImportRecord.text_spaced hshown]
  refine Spaced.scans_of_scans hscans (ImportRecord.isRegular_spaced hshown)
    (R.filter_isVisible hclause) (fun u hu hblank => ?_) (by simp) htext
  obtain ⟨t, ht, rfl⟩ := List.mem_map.1 hu
  exact R.isBlank_of_not_isVisible ht hblank

/-- The text is accepted, and so the brackets of the clause fit. -/
theorem feedPlain_clause (R : r.Reading)
    (hclause : R.clause.map Token.plain = clause.map Prod.fst) :
    FlatStack.feedPlain [] (clause.map Prod.fst) = some [] := by
  obtain ⟨x, houtcome⟩ := R.accepted
  obtain ⟨p, hreaches, -, hfinish, htokens⟩ := Pass.exists_finished houtcome
  rw [R.tokens_eq, R.last_eq.2] at htokens
  rw [← r.feedPlain_spaced, ← R.filter_isVisible hclause, FlatStack.feedPlain_filter_isVisible,
    FlatStack.feedPlain_map_plain, htokens, hreaches.feedAll_tokens]
  by_cases hopen : p.contexts.openings = []
  · rw [hopen]
  · rw [Pass.finish_of_ne_nil hopen] at hfinish
    cases hfinish

end

/-- **A printed import that is read as itself has names and a specifier that are read back.** -/
theorem readsBack (R : r.Reading) : r.ReadsBack ∧ r.bindings.HasReadableName := by
  obtain ⟨entries, clause, hshown, hclause⟩ := R.exists_shownAs
  obtain ⟨hstands, hspecifier⟩ :=
    (ImportRecord.scans_spaced_iff hshown).1 (R.scans_spaced hshown hclause)
  have hbalanced := R.feedPlain_clause hclause
  refine ⟨⟨fun list hlist => ?_, hspecifier⟩, hshown.hasReadableName⟩
  rw [hlist] at hshown
  cases hshown with
  | named hentries =>
    rw [map_fst_spacedList] at hbalanced
    exact ⟨entries, hentries, hstands, hbalanced⟩

end ImportRecord.Reading

/-- **An import is read back just when its names and its specifier are.** -/
theorem ImportRecord.isRead_iff (r : ImportRecord) :
    r.IsRead ↔ r.ReadsBack ∧ r.bindings.HasReadableName := by
  constructor
  · intro h
    obtain ⟨R⟩ := h.nonempty_reading
    exact R.readsBack
  · rintro ⟨hreads, hname⟩
    exact hreads.isRead hname

/-! ### The imports of a text -/

/-- The tokens of a statement are among those in which it is found. -/
theorem Decomposes.mem_tokens {ts : List Token} {ss : List Statement} {o : Option OpenStatement}
    (h : Decomposes ts ss o) {s : Statement} (hs : s ∈ ss) {t : Token} (ht : t ∈ s.tokens) :
    t ∈ ts := by
  induction h with
  | gap => cases hs
  | cutOff => cases hs
  | statement _ _ _ _ _ ih =>
    rcases List.mem_cons.1 hs with rfl | hs
    · simp only [Collector.statement, List.mem_append, List.mem_cons, List.not_mem_nil, or_false]
        at ht ⊢
      tauto
    · simp [ih hs]

/-- What stands before `from` without braces has been an identifier in the text. -/
theorem hasReadableName_of_mem {text : List Char} {x : Extraction}
    (houtcome : (extract .ecma text).outcome = .ok x) {r : ImportRecord} (hr : r ∈ x.imports) :
    r.bindings.HasReadableName := by
  obtain ⟨p, hreaches, -, -, htokens⟩ := Pass.exists_finished houtcome
  obtain ⟨ss, o, hdecomposes, haccounts, -⟩ := exists_accounts houtcome
  obtain ⟨s, hs, -, hread⟩ := haccounts.of_mem_imports hr
  obtain ⟨clause, mark, t, rest, bindings, specifier, hbody, hclause, -, -, -, rfl⟩ :=
    (s.toImport_eq_ok_iff r).1 hread
  -- an identifier of the clause has been scanned, and so it can be read
  have hreadable : ∀ t ∈ clause, t.isIdentifier = true → (name t.lexeme).Readable := by
    intro t ht hname
    have hmem : t ∈ s.body .imports := by
      rw [hbody]
      exact List.mem_append_left _ ht
    have hsignificant : t ∈ s.significant := by
      unfold Statement.body at hmem
      split at hmem
      · next first more heq =>
        rw [heq]
        split at hmem
        · exact List.mem_cons_of_mem _ hmem
        · exact hmem
      · cases hmem
    have hscanned : t.IsScanned := by
      apply hreaches.isScanned
      rw [← htokens]
      exact hdecomposes.mem_tokens hs (List.mem_filter.1 hsignificant).1
    rw [← Token.plain_of_isIdentifier hname]
    exact hscanned.readable hname
  show bindings.HasReadableName
  cases hclause with
  | everything _ _ hname => exact hreadable _ (by simp) hname
  | defaultOnly hname => exact hreadable _ (by simp) hname
  | named => trivial
  | defaultAndNamed => trivial

/-- **An import of a text is read back from its printed form just when its names and its specifier
are.**  The printed form of every import that is found in a script gives this import again, with the
same bindings and the same specifier and without any complaint, unless a listed name or the
specifier is printed as something else.  A listed name is printed without quotes, and so it has to
be a token without them that can stand in a list; the brackets among such tokens have to fit; and
the specifier has to be one string between single quotes. -/
theorem extract_isRead_iff {text : List Char} {x : Extraction}
    (houtcome : (extract .ecma text).outcome = .ok x) {r : ImportRecord} (hr : r ∈ x.imports) :
    r.IsRead ↔ r.ReadsBack := by
  rw [r.isRead_iff]
  exact and_iff_left (hasReadableName_of_mem houtcome hr)

/-- Reserved words, a number and a regular expression that are listed, and a listed string that is
no token without its quotes. -/
theorem extract_isRead_iff_listed :
    ∃ x y : Extraction, ∃ r q : ImportRecord,
      (extract .ecma ("import c, \x7b 'default' as d, 7 as e, /,/ as 'f' \x7d " ++
        "from \x22./x.js\x22;").toList).outcome = .ok x ∧ r ∈ x.imports ∧
      r.esText = "import \x7b default as c, default as d, 7 as e, /,/ as 'f' \x7d from './x.js';" ∧
      r.ReadsBack ∧ r.IsRead ∧
      (extract .ecma "import \x7b 'a-b' as ab \x7d from './x.js';".toList).outcome = .ok y ∧
      q ∈ y.imports ∧ q.esText = "import \x7b a-b as ab \x7d from './x.js';" ∧
      ¬ q.IsRead ∧ ¬ q.ReadsBack := by
  let r : ImportRecord :=
    ⟨.named [⟨"default", "c"⟩, ⟨"default", "d"⟩, ⟨"7", "e"⟩, ⟨"/,/", "'f'"⟩], "./x.js", ⟨0, 63⟩,
      .start, "import c, \x7b 'default' as d, 7 as e, /,/ as 'f' \x7d from \x22./x.js\x22;"⟩
  let q : ImportRecord := ⟨.named [⟨"a-b", "ab"⟩], "./x.js", ⟨0, 37⟩, .start,
    "import \x7b 'a-b' as ab \x7d from './x.js';"⟩
  have hr : (extract .ecma r.code.toList).outcome = .ok ⟨[r], [], []⟩ := by decide +kernel
  have hq : (extract .ecma q.code.toList).outcome = .ok ⟨[q], [], []⟩ := by decide +kernel
  have hreads : r.ReadsBack := by
    refine ⟨fun list hlist => ?_, by decide +kernel⟩
    obtain rfl := Bindings.named.inj hlist
    refine ⟨[[keyword "default", keyword "as", name "c"],
      [keyword "default", keyword "as", name "d"], [⟨.numericLiteral, "7"⟩, keyword "as", name "e"],
      [⟨.regexpLiteral, "/,/"⟩, keyword "as", string "'f'"]], ?_, ?_, by decide +kernel⟩
    · refine .cons (.renamed ?_ ?_ ?_ ?_ ?_ ?_) (.cons (.renamed ?_ ?_ ?_ ?_ ?_ ?_)
        (.cons (.renamed ?_ ?_ ?_ ?_ ?_ ?_) (.cons (.renamed ?_ ?_ ?_ ?_ ?_ ?_) .nil))) <;> decide
    · intro e he
      simp only [List.mem_cons, List.not_mem_nil, or_false] at he
      rcases he with rfl | rfl | rfl | rfl <;>
        exact .renamed ⟨_, _, by decide, rfl, rfl⟩ ⟨_, _, by decide, rfl, rfl⟩
  have hlost : ¬ q.IsRead := by
    rintro ⟨x, read, houtcome, himports, -⟩
    -- no import is left when the printed text is read
    have hnone : (extract .ecma q.esText.toList).outcome.toOption.map Extraction.imports
        = some [] := by
      decide +kernel
    rw [houtcome] at hnone
    simp [Except.toOption, himports] at hnone
  have hread : r.IsRead := (extract_isRead_iff hr (by simp)).2 hreads
  exact ⟨_, _, r, q, hr, by simp, by decide +kernel, hreads, hread, hq, by simp, by decide +kernel,
    hlost, fun h => hlost ((extract_isRead_iff hq (by simp)).2 h)⟩

end ImportScan
