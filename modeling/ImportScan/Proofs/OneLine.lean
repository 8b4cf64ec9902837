import ImportScan.Proofs.Listing

/-!
# Statements on one line

The tokens of a statement can be written on one line with any blanks between them.  Words, strings
and signs are then read back, and the blanks do not matter: the text has one statement, and its
tokens with meaning are those that were written.

## Main definitions

* `PlainToken.IsGap`, `PlainToken.IsItem` — blanks within a line, and what may stand between them.
* `WrittenAs` — tokens, and the same tokens with blanks between them.
* `onOneLine` — the tokens with single blanks.

## Main results

* `isIdentifierPart_of_isBlank` — a word ends at a blank.
* `WrittenAs.legible`, `WrittenAs.feedPlain` — the written tokens are legible, and the blanks leave
  the brackets as they are.
* `exists_onlyStatement` — **an import that is written on one line is the only statement of its
  text**.
-/

namespace ImportScan

open PlainToken (blank keyword name sign string)

/-! ### Blanks -/

/-- A word ends at a blank. -/
theorem isIdentifierPart_of_isBlank {c : Char} (h : isBlank c = true) :
    isIdentifierPart c = false := by
  have hruns : ∀ r ∈ whiteSpaceRuns, ∀ i < r.2 + 1 - r.1,
      isIdentifierPart (Char.ofNat (r.1 + i)) = false := by
    decide +kernel
  rw [isBlank, Bool.or_eq_true, beq_iff_eq] at h
  rcases h with h | rfl
  · obtain ⟨run, hrun, hlo, hhi⟩ := CodePoints.holds_eq_true_imp h
    have hpart := hruns run hrun (c.toNat - run.1) (by omega)
    rwa [Nat.add_sub_cancel' hlo, Char.ofNat_toNat] at hpart
  · decide +kernel

namespace PlainToken

variable {u : PlainToken}

/-- Blanks that do not end the line. -/
structure IsGap (u : PlainToken) : Prop where
  /-- They are a token of their own. -/
  kind : u.kind = .whitespace
  /-- There is at least one. -/
  ne_nil : u.lexeme.toList ≠ []
  /-- All of them are blanks within a line. -/
  inline : ∀ c ∈ u.lexeme.toList, isBlank c = true ∧ isLineEnd c = false

theorem isGap_blank : blank.IsGap where
  kind := rfl
  ne_nil := by simp [blank]
  inline := by
    intro c hc
    obtain rfl : c = ' ' := by simpa [blank] using hc
    exact ⟨rfl, rfl⟩

theorem IsGap.isVisible (h : u.IsGap) : u.isVisible = false := by
  simp [PlainToken.isVisible, h.kind, TokenKind.isTrivia]

theorem IsGap.readable (h : u.IsGap) : u.Readable := by
  apply readable_of_scansAs
  obtain ⟨c, cs, hlexeme⟩ := List.exists_cons_of_ne_nil h.ne_nil
  have hinline := h.inline
  rw [hlexeme] at hinline ⊢
  obtain ⟨⟨hc, hline⟩, hcs⟩ := List.forall_mem_cons.1 hinline
  have hextent : blankExtent cs = cs.length := by
    rw [blankExtent, List.takeWhile_eq_self_iff.2]
    intro d hd
    simp [hcs d hd]
  have hscans : ScansAs none (c :: cs) .whitespace (blankExtent cs + 1) := scansAs_blanks hc hline
  rwa [hextent, ← h.kind] at hscans

theorem IsGap.endsStatement (h : u.IsGap) (loc : Location) :
    (u.placed loc).endsStatement = false := by
  have hends : ∀ s : String, s.toList ≠ [] → s.toList.all isLineEnd = true → u.lexeme ≠ s := by
    rintro s hs hall rfl
    obtain ⟨c, cs, hlexeme⟩ := List.exists_cons_of_ne_nil hs
    have hc := (h.inline c (by simp [hlexeme])).2
    rw [List.all_eq_true.1 hall c (by simp [hlexeme])] at hc
    cases hc
  simp only [Token.endsStatement, Token.isPunctuator, Token.is, Token.isLineTerminator, placed,
    h.kind, Bool.or_eq_false_iff, Bool.and_eq_false_iff, beq_eq_false_iff_ne]
  refine ⟨.inl (by decide), .inr ?_⟩
  refine ⟨⟨⟨⟨?_, ?_⟩, ?_⟩, ?_⟩, ?_⟩ <;> exact hends _ (by decide) (by decide)

/-- A word, a string or a sign that is a token by itself. -/
structure IsItem (u : PlainToken) : Prop where
  /-- It is read from its own text. -/
  readable : u.Readable
  /-- It is one of these. -/
  kind : u.kind = .keyword ∨ u.kind = .identifier ∨ u.kind = .stringLiteral ∨
    u.kind = .punctuator

theorem IsItem.isVisible (h : u.IsItem) : u.isVisible = true := by
  rcases h.kind with hkind | hkind | hkind | hkind <;>
    simp [PlainToken.isVisible, hkind, TokenKind.isTrivia]

/-- It ends before a blank, and at the end of the text. -/
theorem IsItem.endsBefore_of_isBlank (h : u.IsItem) {next : Option Char}
    (hnext : next.all isBlank = true) : u.endsBefore next = true := by
  have hword : next.all (fun d => !isIdentifierPart d) = true := by
    cases next with
    | none => rfl
    | some d => simp [isIdentifierPart_of_isBlank (c := d) (by simpa using hnext)]
  rcases h.kind with hkind | hkind | hkind | hkind <;> simp only [endsBefore, hkind]
  · exact hword
  · exact hword
  · exact hnext

/-- All but a sign end before a comma and before a semicolon. -/
theorem IsItem.endsBefore_sign (h : u.IsItem) (hne : u.kind ≠ .punctuator) {d : Char}
    (hd : d = ',' ∨ d = ';') : u.endsBefore (some d) = true := by
  have hword : isIdentifierPart d = false := by
    rcases hd with rfl | rfl <;> decide +kernel
  rcases h.kind with hkind | hkind | hkind | hkind
  · simp [endsBefore, hkind, hword]
  · simp [endsBefore, hkind, hword]
  · simp [endsBefore, hkind]
  · exact absurd hkind hne

/-- It ends no statement, but for a semicolon. -/
theorem IsItem.endsStatement (h : u.IsItem) (hne : u ≠ sign ";") (loc : Location) :
    (u.placed loc).endsStatement = false := by
  have hsign : (u.kind == .punctuator && u.lexeme == ";") = false := by
    rw [Bool.eq_false_iff, ne_eq, Bool.and_eq_true, beq_iff_eq, beq_iff_eq]
    rintro ⟨hkind, hlexeme⟩
    apply hne
    rw [sign, ← hkind, ← hlexeme]
  have hblank : (u.kind == .whitespace) = false := by
    rcases h.kind with hkind | hkind | hkind | hkind <;> rw [hkind] <;> rfl
  simp [Token.endsStatement, Token.isPunctuator, Token.is, Token.isLineTerminator, placed, hsign,
    hblank]

end PlainToken

/-! ### Tokens with blanks between them -/

/-- The same tokens on one line: there are blanks between any two of them, but a comma and a
semicolon may stand right behind a word or a string. -/
inductive WrittenAs : List PlainToken → List PlainToken → Prop where
  | last (u : PlainToken) : WrittenAs [u] [u]
  | apart {u v gap : PlainToken} {us vs : List PlainToken} (hgap : gap.IsGap)
      (h : WrittenAs (v :: us) vs) : WrittenAs (u :: v :: us) (u :: gap :: vs)
  | close {u v : PlainToken} {us vs : List PlainToken} (hu : u.kind ≠ .punctuator)
      (hv : v = sign "," ∨ v = sign ";") (h : WrittenAs (v :: us) vs) :
    WrittenAs (u :: v :: us) (u :: vs)

/-- The tokens on one line, with single blanks where some may stand. -/
def onOneLine : List PlainToken → List PlainToken
  | u :: v :: us =>
    if u.kind ≠ .punctuator ∧ (v = sign "," ∨ v = sign ";") then u :: onOneLine (v :: us)
    else u :: blank :: onOneLine (v :: us)
  | us => us

theorem writtenAs_onOneLine (u : PlainToken) (us : List PlainToken) :
    WrittenAs (u :: us) (onOneLine (u :: us)) := by
  induction us generalizing u with
  | nil => exact .last u
  | cons v us ih =>
    rw [onOneLine]
    split
    · next hclose => exact .close hclose.1 hclose.2 (ih v)
    · exact .apart PlainToken.isGap_blank (ih v)

namespace WrittenAs

variable {u : PlainToken} {us vs : List PlainToken}

theorem exists_cons (h : WrittenAs (u :: us) vs) : ∃ vs', vs = u :: vs' := by
  cases h with
  | last => exact ⟨_, rfl⟩
  | apart => exact ⟨_, rfl⟩
  | close => exact ⟨_, rfl⟩

/-- The written tokens are legible. -/
theorem legible (h : WrittenAs us vs) (hus : ∀ u ∈ us, u.IsItem) : Legible vs [] := by
  induction h with
  | last u =>
    have hu := hus u (by simp)
    exact ⟨hu.readable, hu.endsBefore_of_isBlank rfl, trivial⟩
  | @apart u v gap us vs hgap h ih =>
    obtain ⟨hu, hus⟩ := List.forall_mem_cons.1 hus
    have hvs := ih hus
    obtain ⟨vs', rfl⟩ := h.exists_cons
    refine ⟨hu.readable, ?_, hgap.readable, ?_, hvs⟩
    · obtain ⟨c, cs, hlexeme⟩ := List.exists_cons_of_ne_nil hgap.ne_nil
      have hc := (hgap.inline c (by simp [hlexeme])).1
      apply hu.endsBefore_of_isBlank
      simpa [hlexeme] using hc
    · -- what follows the blanks starts with none
      have hv := hus v (by simp)
      have hkind : v.kind ≠ .whitespace := by
        rcases hv.kind with hkind | hkind | hkind | hkind <;> simp [hkind]
      obtain ⟨c, cs, hlexeme, hfirst⟩ := hv.readable.exists_cons
      simp [PlainToken.endsBefore, hgap.kind, hlexeme, hfirst hkind]
  | @close u v us vs hkind hv h ih =>
    obtain ⟨hu, hus⟩ := List.forall_mem_cons.1 hus
    have hvs := ih hus
    obtain ⟨vs', rfl⟩ := h.exists_cons
    refine ⟨hu.readable, ?_, hvs⟩
    rcases hv with rfl | rfl
    · exact hu.endsBefore_sign hkind (.inl rfl)
    · exact hu.endsBefore_sign hkind (.inr rfl)

/-- The tokens with meaning are those that were written. -/
theorem filter_isVisible (h : WrittenAs us vs) (hus : ∀ u ∈ us, u.isVisible = true) :
    vs.filter PlainToken.isVisible = us := by
  induction h with
  | last u => exact List.filter_eq_self.2 hus
  | apart hgap _ ih =>
    obtain ⟨hu, hus⟩ := List.forall_mem_cons.1 hus
    rw [List.filter_cons_of_pos hu, List.filter_cons_of_neg (by simp [hgap.isVisible]), ih hus]
  | close _ _ _ ih =>
    obtain ⟨hu, hus⟩ := List.forall_mem_cons.1 hus
    rw [List.filter_cons_of_pos hu, ih hus]

/-- Between the first and the last token there are blanks and what was written there. -/
theorem exists_inner {body : List PlainToken} {last : PlainToken}
    (h : WrittenAs (u :: (body ++ [last])) vs) :
    ∃ inner, vs = u :: (inner ++ [last]) ∧ ∀ v ∈ inner, v ∈ body ∨ v.IsGap := by
  induction body generalizing u vs with
  | nil =>
    cases h with
    | @apart _ _ gap _ _ hgap h =>
      cases h
      exact ⟨[gap], rfl, by simpa using hgap⟩
    | close _ _ h =>
      cases h
      exact ⟨[], rfl, by simp⟩
  | cons b body ih =>
    -- what is inside stays inside behind one more token
    have hbody : ∀ {inner : List PlainToken}, (∀ v ∈ inner, v ∈ body ∨ v.IsGap) →
        ∀ v ∈ b :: inner, v ∈ b :: body ∨ v.IsGap := by
      intro inner hinner v hv
      rcases List.mem_cons.1 hv with rfl | hv
      · exact .inl List.mem_cons_self
      · exact (hinner v hv).imp_left (List.mem_cons_of_mem b)
    cases h with
    | @apart _ _ gap _ _ hgap h =>
      obtain ⟨inner, rfl, hinner⟩ := ih h
      exact ⟨gap :: b :: inner, rfl, List.forall_mem_cons.2 ⟨.inr hgap, hbody hinner⟩⟩
    | close _ _ h =>
      obtain ⟨inner, rfl, hinner⟩ := ih h
      exact ⟨b :: inner, rfl, hbody hinner⟩

/-- The blanks leave the brackets as they are. -/
theorem feedPlain (h : WrittenAs us vs) (s : FlatStack) : s.feedPlain vs = s.feedPlain us := by
  induction h generalizing s with
  | last u => rfl
  | @apart _ _ gap _ _ hgap _ ih =>
    have hneutral : gap.IsNeutral :=
      PlainToken.isNeutral_of_ne (by simp [hgap.kind]) (by simp [hgap.kind])
    rw [FlatStack.feedPlain_cons, FlatStack.feedPlain_cons]
    refine Option.bind_congr fun next _ => ?_
    rw [FlatStack.feedPlain_cons, hneutral next, Option.bind_some]
    exact ih next
  | close _ _ _ ih =>
    rw [FlatStack.feedPlain_cons, FlatStack.feedPlain_cons]
    exact Option.bind_congr fun next _ => ih next

end WrittenAs

/-! ### The only statement of a text -/

/-- An import that only the last token of its text ends is the only statement of the text. -/
theorem exists_statement_of_tokens {text : List Char} {x : Extraction}
    (houtcome : (extract .ecma text).outcome = .ok x) {inner : List PlainToken}
    (htokens : (extract .ecma text).tokens.map Token.plain
      = keyword "import" :: (inner ++ [sign ";"]))
    (hinner : ∀ u ∈ inner, ∀ loc, (u.placed loc).endsStatement = false) :
    ∃ s : Statement, s.Gives x ∧ s.kind = .imports ∧ s.tokens = (extract .ecma text).tokens := by
  obtain ⟨ss, o, hdecomposes, haccounts, -⟩ := exists_accounts houtcome
  obtain ⟨loc, _, hts, hmore⟩ := exists_placed_cons htokens
  obtain ⟨middle, _, rfl, hmiddle, hlast⟩ := List.map_eq_append_iff.1 hmore
  obtain ⟨loc', rfl⟩ := exists_placed_singleton hlast
  have hmiddle : ∀ t ∈ middle, t.endsStatement = false := by
    intro t ht
    have hplain : t.plain ∈ inner := by
      rw [← hmiddle]
      exact List.mem_map_of_mem ht
    exact hinner _ hplain t.loc
  let s := Collector.statement .imports ((keyword "import").placed loc) middle
    ((sign ";").placed loc')
  -- the tokens decompose into one statement, and in one way only
  have hone : Decomposes ([] ++ (keyword "import").placed loc ::
      (middle ++ (sign ";").placed loc' :: [])) [s] none :=
    .statement (by simp) rfl hmiddle rfl (.gap (by simp))
  rw [List.nil_append, ← hts] at hone
  obtain ⟨hss, ho⟩ := hdecomposes.feedAll
  obtain ⟨hss', ho'⟩ := hone.feedAll
  obtain rfl : ss = [s] := hss.symm.trans hss'
  obtain rfl : o = none := ho.symm.trans ho'
  have hgives : s.Gives x := by
    cases haccounts with
    | @statement _ _ _ _ y hgives hrest =>
      cases hrest
      have hempty : y.append ⟨[], [], []⟩ = y := y.append_empty
      rwa [hempty]
  exact ⟨s, hgives, rfl, hts.symm⟩

/-- **An import that is written on one line is the only statement of its text.**  Its tokens with
meaning are those that were written, and its text is the whole one. -/
theorem exists_onlyStatement {body vs : List PlainToken} (hitems : ∀ u ∈ body, u.IsItem)
    (hinner : ∀ u ∈ body, u ≠ sign ";") (hbalanced : FlatStack.feedPlain [] body = some [])
    (h : WrittenAs (keyword "import" :: (body ++ [sign ";"])) vs) :
    ∃ (x : Extraction) (s : Statement), (extract .ecma (spell vs)).outcome = .ok x ∧
      s.Gives x ∧ s.kind = .imports ∧
      s.significant.map Token.plain = keyword "import" :: (body ++ [sign ";"]) ∧
      s.text.toList = spell vs := by
  have hall : ∀ u ∈ keyword "import" :: (body ++ [sign ";"]), u.IsItem := by
    intro u hu
    rcases List.mem_cons.1 hu with rfl | hu
    · exact ⟨rfl, .inl rfl⟩
    · rcases List.mem_append.1 hu with hu | hu
      · exact hitems u hu
      · rw [List.mem_singleton.1 hu]
        exact ⟨rfl, .inr (.inr (.inr rfl))⟩
  have hfeed : FlatStack.feedPlain [] vs = some [] := by
    rw [h.feedPlain]
    show FlatStack.feedPlain [] (body ++ [sign ";"]) = some []
    rw [FlatStack.feedPlain_append, hbalanced]
    rfl
  obtain ⟨htokens, x, houtcome⟩ := tokens_of_legible (h.legible hall) hfeed
  -- the tokens of the text are one statement from the keyword to the semicolon
  obtain ⟨inner, hvs, hgoes⟩ := h.exists_inner
  have hends : ∀ u ∈ inner, ∀ loc, (u.placed loc).endsStatement = false := by
    intro u hu loc
    rcases hgoes u hu with hbody | hgap
    · exact (hitems u hbody).endsStatement (hinner u hbody) loc
    · exact hgap.endsStatement loc
  obtain ⟨s, hgives, hkind, hs⟩ := exists_statement_of_tokens houtcome (htokens.trans hvs) hends
  rw [← hs] at htokens
  refine ⟨x, s, houtcome, hgives, hkind, ?_, ?_⟩
  · rw [Statement.significant, map_plain_filter, htokens]
    exact h.filter_isVisible fun u hu => (hall u hu).isVisible
  · rw [← htokens, Statement.text, String.toList_join, List.flatMap_map, spell, List.flatMap_map]
    rfl

end ImportScan
