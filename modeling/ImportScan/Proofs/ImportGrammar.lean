import Mathlib.Data.List.Forall2
import ImportScan.Classification

/-!
# The grammar of imports

An import is read by a few functions that go through its tokens.  Here the imports are told without
them: what may stand between the keyword and `from`, and which names it binds.  A list of names ends
at the brace that closes the first one, and its entries are what stands between the commas that are
inside no other braces.

## Main definitions

* `Unquotes`, `Token.Names` — a text without its quotes, and the name that a token stands for.
* `braceDepth`, `StaysInside` — the braces left open, and tokens that do not close the list.
* `CutsAtCommas`, `Entry`, `BraceList` — the entries of a list, what each may be, and the list.
* `ImportClause` — what may stand before `from`.

## Main results

* `bracedBindings_eq_ok_iff` — the lists of names.
* `importClause_eq_ok_iff` — the clauses with what follows them.
* `Statement.toImport_eq_ok_iff` — **an import is understood just when it belongs to the grammar,
  and its record holds what the grammar tells**.
-/

namespace ImportScan

/-! ### Names -/

/-- A text without one pair of quotes around it, or the text itself when there is none. -/
inductive Unquotes : String → String → Prop where
  | quoted {mark : Char} (hmark : isQuoteMark mark = true) (inner : String) :
    Unquotes (String.singleton mark ++ inner ++ String.singleton mark) inner
  | bare {s : String} (hbare : ∀ mark inner, isQuoteMark mark = true →
      s ≠ String.singleton mark ++ inner ++ String.singleton mark) : Unquotes s s

/-- The name that a token stands for: a string stands for what is between its quotes. -/
inductive Token.Names (t : Token) : String → Prop where
  | word (hkind : t.kind ≠ .stringLiteral) : t.Names t.lexeme
  | string {name : String} (hkind : t.kind = .stringLiteral) (hname : Unquotes t.lexeme name) :
    t.Names name

theorem stripQuotes_quoted {mark : Char} (hmark : isQuoteMark mark = true) (inner : String) :
    stripQuotes (String.singleton mark ++ inner ++ String.singleton mark) = inner := by
  have hlist : (String.singleton mark ++ inner ++ String.singleton mark).toList
      = mark :: (inner.toList ++ [mark]) := by
    simp
  unfold stripQuotes
  rw [hlist]
  cases hinner : inner.toList ++ [mark] with
  | nil => simp at hinner
  | cons d rest =>
    have hlast : (d :: rest).getLast? = some mark := by
      rw [← hinner, List.getLast?_concat]
    dsimp only
    rw [hmark, hlast, ← hinner, List.dropLast_concat]
    simp

theorem stripQuotes_of_bare {s : String} (hbare : ∀ mark inner, isQuoteMark mark = true →
    s ≠ String.singleton mark ++ inner ++ String.singleton mark) : stripQuotes s = s := by
  unfold stripQuotes
  split
  · next c d rest hs =>
    split
    · next hquoted =>
      rw [Bool.and_eq_true, beq_iff_eq] at hquoted
      obtain ⟨hmark, hlast⟩ := hquoted
      obtain ⟨init, hinit⟩ := List.getLast?_eq_some_iff.1 hlast
      refine absurd ?_ (hbare c (String.ofList init) hmark)
      rw [← String.toList_inj, hs, hinit]
      simp
    · rfl
  · rfl

theorem unquotes_iff {s name : String} : Unquotes s name ↔ name = stripQuotes s := by
  constructor
  · intro h
    cases h with
    | quoted hmark inner => exact (stripQuotes_quoted hmark name).symm
    | bare hbare => exact (stripQuotes_of_bare hbare).symm
  · rintro rfl
    by_cases hquoted : ∃ mark inner, isQuoteMark mark = true ∧
        s = String.singleton mark ++ inner ++ String.singleton mark
    · obtain ⟨mark, inner, hmark, rfl⟩ := hquoted
      rw [stripQuotes_quoted hmark]
      exact .quoted hmark inner
    · have hbare : ∀ mark inner, isQuoteMark mark = true →
          s ≠ String.singleton mark ++ inner ++ String.singleton mark := by
        intro mark inner hmark heq
        exact hquoted ⟨mark, inner, hmark, heq⟩
      rw [stripQuotes_of_bare hbare]
      exact .bare hbare

theorem Token.names_iff {t : Token} {name : String} : t.Names name ↔ name = t.bindingName := by
  unfold bindingName
  by_cases hkind : t.kind = .stringLiteral
  · rw [if_pos hkind, ← unquotes_iff]
    constructor
    · intro h
      cases h with
      | word hword => exact absurd hkind hword
      | string _ hname => exact hname
    · exact .string hkind
  · rw [if_neg hkind]
    constructor
    · intro h
      cases h with
      | word => rfl
      | string hstring => exact absurd hstring hkind
    · rintro rfl
      exact .word hkind

/-! ### Braces -/

/-- The token is a brace. -/
def Token.isBrace (t : Token) : Bool := t.isPunctuator "\x7b" || t.isPunctuator "\x7d"

/-- What a token adds to the number of open braces. -/
def Token.braceChange (t : Token) : Int :=
  if t.isPunctuator "\x7b" then 1 else if t.isPunctuator "\x7d" then -1 else 0

/-- The number of braces that some tokens leave open. -/
def braceDepth : List Token → Int
  | [] => 0
  | t :: ts => t.braceChange + braceDepth ts

@[simp] theorem braceDepth_nil : braceDepth [] = 0 := rfl

@[simp] theorem braceDepth_cons (t : Token) (ts : List Token) :
    braceDepth (t :: ts) = t.braceChange + braceDepth ts := rfl

/-- Behind each of the tokens some brace is open, and behind the last of them just one. -/
structure StaysInside (depth : Int) (ts : List Token) : Prop where
  one_le : ∀ before after, ts = before ++ after → 1 ≤ depth + braceDepth before
  eq_one : depth + braceDepth ts = 1

/-- No comma stands where just one brace is open. -/
def OneEntry (depth : Int) (ts : List Token) : Prop :=
  ∀ before comma after, ts = before ++ comma :: after → comma.isPunctuator "," = true →
    depth + braceDepth before ≠ 1

/-- The pieces between the commas at which just one brace is open. -/
inductive CutsAtCommas : Int → List Token → List (List Token) → Prop where
  | last {depth : Int} {piece : List Token} (hpiece : OneEntry depth piece) :
    CutsAtCommas depth piece [piece]
  | comma {depth : Int} {piece rest : List Token} {comma : Token} {pieces : List (List Token)}
      (hpiece : OneEntry depth piece) (hcomma : comma.isPunctuator "," = true)
      (hdepth : depth + braceDepth piece = 1) (hrest : CutsAtCommas 1 rest pieces) :
    CutsAtCommas depth (piece ++ comma :: rest) (piece :: pieces)

/-- What an entry of a list binds: an empty one nothing, a name itself, and two names with `as`
between them the second one. -/
inductive Entry : List Token → List Binding → Prop where
  | empty : Entry [] []
  | name {t : Token} {name : String} (hname : t.Names name) : Entry [t] [⟨name, name⟩]
  | renamed {t mark other : Token} {name : String} (hname : t.Names name)
      (hmark : mark.isKeyword "as" = true) : Entry [t, mark, other] [⟨name, other.lexeme⟩]

/-- The tokens of an entry but the braces. -/
def withoutBraces (piece : List Token) : List Token := piece.filter fun t => !t.isBrace

/-- A list of names: it starts with a brace and ends where this brace is closed.  There is no `from`
in it, and its pieces without the braces in them are entries. -/
inductive BraceList : List Token → List Binding → Prop where
  | intro {opener closer : Token} {inside : List Token} {pieces : List (List Token)}
      {bindings : List (List Binding)} (hopener : opener.isPunctuator "\x7b" = true)
      (hcloser : closer.isPunctuator "\x7d" = true) (hinside : StaysInside 1 inside)
      (hfrom : ∀ t ∈ inside, t.isKeyword "from" = false) (hpieces : CutsAtCommas 1 inside pieces)
      (hentries : List.Forall₂ Entry (pieces.map withoutBraces) bindings) :
    BraceList (opener :: (inside ++ [closer])) bindings.flatten

/-- What may stand between the keyword of an import and `from`: a star with a name, a name, or a
list of names with or without a name before it. -/
inductive ImportClause : List Token → Bindings → Prop where
  | everything {star mark name : Token} (hstar : star.isPunctuator "*" = true)
      (hmark : mark.isKeyword "as" = true) (hname : name.isIdentifier = true) :
    ImportClause [star, mark, name] (.everything name.lexeme)
  | defaultOnly {name : Token} (hname : name.isIdentifier = true) :
    ImportClause [name] (.defaultOnly name.lexeme)
  | named {ts : List Token} {list : List Binding} (hlist : BraceList ts list) :
    ImportClause ts (.named list)
  | defaultAndNamed {name comma : Token} {ts : List Token} {list : List Binding}
      (hname : name.isIdentifier = true) (hcomma : comma.isPunctuator "," = true)
      (hlist : BraceList ts list) :
    ImportClause (name :: comma :: ts) (.named (⟨"default", name.lexeme⟩ :: list))

/-! ### Tokens of different kinds -/

namespace Token

variable {t : Token} {sign sign' word : String}

theorem isPunctuator_eq_false (h : t.isPunctuator sign = true) (hne : sign ≠ sign') :
    t.isPunctuator sign' = false := by
  simp only [isPunctuator, is, Bool.and_eq_true, beq_iff_eq] at h
  obtain ⟨hkind, rfl⟩ := h
  simp [isPunctuator, is, hne]

theorem isKeyword_of_isPunctuator (h : t.isPunctuator sign = true) : t.isKeyword word = false := by
  simp only [isPunctuator, is, Bool.and_eq_true, beq_iff_eq] at h
  simp [isKeyword, is, h.1]

theorem isIdentifier_of_isPunctuator (h : t.isPunctuator sign = true) : t.isIdentifier = false := by
  simp only [isPunctuator, is, Bool.and_eq_true, beq_iff_eq] at h
  simp [isIdentifier, h.1]

theorem isPunctuator_of_isIdentifier (h : t.isIdentifier = true) : t.isPunctuator sign = false := by
  rw [isIdentifier, beq_iff_eq] at h
  simp [isPunctuator, is, h]

theorem braceChange_opener (h : t.isPunctuator "\x7b" = true) : t.braceChange = 1 := if_pos h

theorem braceChange_closer (h : t.isPunctuator "\x7d" = true) : t.braceChange = -1 := by
  rw [braceChange, if_neg (by simp [isPunctuator_eq_false h]), if_pos h]

theorem braceChange_of_not_isBrace (h : t.isBrace = false) : t.braceChange = 0 := by
  rw [isBrace, Bool.or_eq_false_iff] at h
  rw [braceChange, if_neg (by simp [h.1]), if_neg (by simp [h.2])]

theorem isBrace_of_comma (h : t.isPunctuator "," = true) : t.isBrace = false := by
  rw [isBrace, isPunctuator_eq_false h (by decide), isPunctuator_eq_false h (by decide)]
  rfl

end Token

/-! ### One token more -/

variable {depth : Int} {t : Token} {ts : List Token} {pieces : List (List Token)}

theorem staysInside_cons_iff :
    StaysInside depth (t :: ts) ↔ 1 ≤ depth ∧ StaysInside (depth + t.braceChange) ts := by
  constructor
  · intro h
    refine ⟨?_, ?_, ?_⟩
    · simpa using h.one_le [] (t :: ts) rfl
    · rintro before after rfl
      have hle := h.one_le (t :: before) after rfl
      rw [braceDepth_cons] at hle
      omega
    · have heq := h.eq_one
      rw [braceDepth_cons] at heq
      omega
  · rintro ⟨hdepth, h⟩
    constructor
    -- the empty prefix has the depth that is given, a longer one starts with the first token
    · intro before after hts
      cases before with
      | nil => simpa using hdepth
      | cons u before =>
        obtain ⟨rfl, rfl⟩ := List.cons.inj hts
        have hle := h.one_le before after rfl
        rw [braceDepth_cons]
        omega
    · have heq := h.eq_one
      rw [braceDepth_cons]
      omega

theorem oneEntry_nil (depth : Int) : OneEntry depth [] := by
  intro before comma after hnil
  simp at hnil

theorem oneEntry_cons_iff :
    OneEntry depth (t :: ts) ↔
      (t.isPunctuator "," = true → depth ≠ 1) ∧ OneEntry (depth + t.braceChange) ts := by
  constructor
  · intro h
    refine ⟨?_, ?_⟩
    · intro ht
      simpa using h [] t ts rfl ht
    · rintro before comma after rfl hcomma
      have hne := h (t :: before) comma after rfl hcomma
      rw [braceDepth_cons] at hne
      omega
  · rintro ⟨ht, h⟩ before comma after hts hcomma
    cases before with
    -- no token stands before the comma: it is the first one
    | nil =>
      obtain ⟨rfl, rfl⟩ := List.cons.inj hts
      simpa using ht hcomma
    | cons u before =>
      obtain ⟨rfl, rfl⟩ := List.cons.inj hts
      have hne := h before comma after rfl hcomma
      rw [braceDepth_cons]
      omega

namespace CutsAtCommas

theorem ne_nil (h : CutsAtCommas depth ts pieces) : pieces ≠ [] := by
  cases h with
  | last => exact List.cons_ne_nil _ _
  | comma => exact List.cons_ne_nil _ _

/-- A token that is no comma between two entries belongs to the first piece. -/
theorem cons_iff (ht : t.isPunctuator "," = true → depth ≠ 1) :
    CutsAtCommas depth (t :: ts) pieces ↔ ∃ piece pieces', pieces = (t :: piece) :: pieces' ∧
      CutsAtCommas (depth + t.braceChange) ts (piece :: pieces') := by
  constructor
  · generalize hts : t :: ts = us
    intro h
    cases h with
    | last hpiece =>
      subst hts
      exact ⟨ts, [], rfl, .last (oneEntry_cons_iff.1 hpiece).2⟩
    | @comma _ piece rest comma _ hpiece hcomma hdepth hrest =>
      cases piece with
      | nil =>
        -- the token would be that comma
        obtain ⟨rfl, rfl⟩ := List.cons.inj hts
        exact absurd (by simpa using hdepth) (ht hcomma)
      | cons u piece =>
        obtain ⟨rfl, rfl⟩ := List.cons.inj hts
        rw [braceDepth_cons] at hdepth
        exact ⟨piece, _, rfl, .comma (oneEntry_cons_iff.1 hpiece).2 hcomma (by omega) hrest⟩
  · rintro ⟨piece, pieces', rfl, h⟩
    cases h with
    | last hpiece => exact .last (oneEntry_cons_iff.2 ⟨ht, hpiece⟩)
    | @comma _ _ rest comma _ hpiece hcomma hdepth hrest =>
      have hdepth : depth + braceDepth (t :: piece) = 1 := by
        rw [braceDepth_cons]
        omega
      exact .comma (oneEntry_cons_iff.2 ⟨ht, hpiece⟩) hcomma hdepth hrest

/-- A comma between two entries ends the first piece. -/
theorem comma_iff (ht : t.isPunctuator "," = true) :
    CutsAtCommas 1 (t :: ts) pieces ↔
      ∃ pieces', pieces = [] :: pieces' ∧ CutsAtCommas 1 ts pieces' := by
  constructor
  · generalize hts : t :: ts = us
    intro h
    cases h with
    | last hpiece =>
      subst hts
      exact absurd rfl ((oneEntry_cons_iff.1 hpiece).1 ht)
    | @comma _ piece rest comma _ hpiece hcomma hdepth hrest =>
      -- the comma ends the first piece, so that nothing can be in it
      cases piece with
      | nil =>
        obtain ⟨rfl, rfl⟩ := List.cons.inj hts
        exact ⟨_, rfl, hrest⟩
      | cons u piece =>
        obtain ⟨rfl, -⟩ := List.cons.inj hts
        exact absurd rfl ((oneEntry_cons_iff.1 hpiece).1 ht)
  · rintro ⟨pieces', rfl, h⟩
    exact @comma 1 [] ts t pieces' (oneEntry_nil 1) ht (by simp) h

end CutsAtCommas

/-! ### The tokens of a list, one by one -/

/-- How the tokens of a list are read: with the number of braces opened inside it, the tokens of the
current entry and those of the entries behind it, and what follows the list. -/
inductive ReadsList : Nat → List Token → List Token → List (List Token) → List Token → Prop where
  | closed {t : Token} {rest : List Token} (ht : t.isPunctuator "\x7d" = true) :
    ReadsList 0 (t :: rest) [] [] rest
  | opening {inner : Nat} {t : Token} {ts group rest : List Token} {groups : List (List Token)}
      (ht : t.isPunctuator "\x7b" = true) (h : ReadsList (inner + 1) ts group groups rest) :
    ReadsList inner (t :: ts) group groups rest
  | closing {inner : Nat} {t : Token} {ts group rest : List Token} {groups : List (List Token)}
      (ht : t.isPunctuator "\x7d" = true) (h : ReadsList inner ts group groups rest) :
    ReadsList (inner + 1) (t :: ts) group groups rest
  | comma {t : Token} {ts group rest : List Token} {groups : List (List Token)}
      (ht : t.isPunctuator "," = true) (h : ReadsList 0 ts group groups rest) :
    ReadsList 0 (t :: ts) [] (group :: groups) rest
  | token {inner : Nat} {t : Token} {ts group rest : List Token} {groups : List (List Token)}
      (hfrom : t.isKeyword "from" = false) (hbrace : t.isBrace = false)
      (hcomma : t.isPunctuator "," = true → inner ≠ 0)
      (h : ReadsList inner ts group groups rest) :
    ReadsList inner (t :: ts) (t :: group) groups rest

theorem entryBindings_eq_ok_iff {entry : List Token} {bindings : List Binding} :
    entryBindings entry = .ok bindings ↔ Entry entry bindings := by
  constructor
  · intro h
    unfold entryBindings at h
    split at h
    · cases h
      exact .empty
    · cases h
      exact .name (Token.names_iff.2 rfl)
    · split at h
      · next hmark =>
        cases h
        exact .renamed (Token.names_iff.2 rfl) hmark
      · cases h
    · cases h
  · intro h
    cases h with
    | empty => rfl
    | name hname =>
      obtain rfl := Token.names_iff.1 hname
      rfl
    | renamed hname hmark =>
      obtain rfl := Token.names_iff.1 hname
      exact if_pos hmark

section Lists

variable {inner : Nat} {entry rest group : List Token} {done list : List Binding}
  {groups : List (List Token)} {bindings : List (List Binding)}

/-- What the function that reads lists has gone through. -/
theorem exists_readsList (h : listBindings inner entry done ts = .ok (list, rest)) :
    ∃ group groups bindings, ReadsList inner ts group groups rest ∧
      List.Forall₂ Entry ((entry.reverse ++ group) :: groups) bindings ∧
      list = done.reverse ++ bindings.flatten := by
  revert h
  -- what has been collected of the current entry is reversed, and the rest of it is still to come
  fun_induction listBindings inner entry done ts with
  | case1 | case2 | case5 | case8 =>
    intro h
    cases h
  | case3 inner entry done t ts _ ht ih =>
    intro h
    obtain ⟨group, groups, bindings, hreads, hentries, hlist⟩ := ih h
    exact ⟨group, groups, bindings, .opening ht hreads, hentries, hlist⟩
  | case4 entry done t ts _ _ ht own hown =>
    intro h
    cases h
    refine ⟨[], [], [own], .closed ht, ?_, by simp⟩
    rw [List.append_nil]
    exact .cons (entryBindings_eq_ok_iff.1 hown) .nil
  | case6 entry done t ts _ _ ht inner ih =>
    intro h
    obtain ⟨group, groups, bindings, hreads, hentries, hlist⟩ := ih h
    exact ⟨group, groups, bindings, .closing ht hreads, hentries, hlist⟩
  | case7 inner entry done t ts _ _ _ ht own hown ih =>
    intro h
    rw [Bool.and_eq_true, beq_iff_eq] at ht
    obtain ⟨hcomma, rfl⟩ := ht
    obtain ⟨group, groups, bindings, hreads, hentries, hlist⟩ := ih h
    refine ⟨[], group :: groups, own :: bindings, .comma hcomma hreads, ?_, by simp [hlist]⟩
    rw [List.append_nil]
    exact .cons (entryBindings_eq_ok_iff.1 hown) hentries
  | case9 inner entry done t ts hfrom hopener hcloser hcomma ih =>
    intro h
    obtain ⟨group, groups, bindings, hreads, hentries, hlist⟩ := ih h
    have hbrace : t.isBrace = false := by
      simp [Token.isBrace, hopener, hcloser]
    refine ⟨t :: group, groups, bindings, .token (by simpa using hfrom) hbrace ?_ hreads, ?_, hlist⟩
    · rintro ht rfl
      simp [ht] at hcomma
    · simpa using hentries

theorem listBindings_opener (ht : t.isPunctuator "\x7b" = true) :
    listBindings inner entry done (t :: ts) = listBindings (inner + 1) entry done ts := by
  rw [listBindings.eq_def]
  dsimp only
  rw [if_neg (by simp [Token.isKeyword_of_isPunctuator ht]), if_pos ht]

theorem listBindings_closer (ht : t.isPunctuator "\x7d" = true) :
    listBindings (inner + 1) entry done (t :: ts) = listBindings inner entry done ts := by
  rw [listBindings, if_neg (by simp [Token.isKeyword_of_isPunctuator ht]),
    if_neg (by simp [Token.isPunctuator_eq_false ht]), if_pos ht]

theorem listBindings_last (ht : t.isPunctuator "\x7d" = true) {own : List Binding}
    (hown : Entry entry.reverse own) :
    listBindings 0 entry done (t :: rest) = .ok (done.reverse ++ own, rest) := by
  rw [listBindings, if_neg (by simp [Token.isKeyword_of_isPunctuator ht]),
    if_neg (by simp [Token.isPunctuator_eq_false ht]), if_pos ht, entryBindings_eq_ok_iff.2 hown]

theorem listBindings_comma (ht : t.isPunctuator "," = true) {own : List Binding}
    (hown : Entry entry.reverse own) :
    listBindings 0 entry done (t :: ts) = listBindings 0 [] (own.reverse ++ done) ts := by
  rw [listBindings, if_neg (by simp [Token.isKeyword_of_isPunctuator ht]),
    if_neg (by simp [Token.isPunctuator_eq_false ht]),
    if_neg (by simp [Token.isPunctuator_eq_false ht]), if_pos (by simp [ht]),
    entryBindings_eq_ok_iff.2 hown]

theorem listBindings_token (hfrom : t.isKeyword "from" = false) (hbrace : t.isBrace = false)
    (hcomma : t.isPunctuator "," = true → inner ≠ 0) :
    listBindings inner entry done (t :: ts) = listBindings inner (t :: entry) done ts := by
  rw [Token.isBrace, Bool.or_eq_false_iff] at hbrace
  have hinside : ¬ (t.isPunctuator "," && inner == 0) = true := by
    rw [Bool.and_eq_true, beq_iff_eq]
    rintro ⟨ht, hinner⟩
    exact hcomma ht hinner
  rw [listBindings.eq_def]
  dsimp only
  rw [if_neg (by simp [hfrom]), if_neg (by simp [hbrace.1]), if_neg (by simp [hbrace.2]),
    if_neg hinside]

/-- The function that reads lists goes through all of their tokens. -/
theorem ReadsList.listBindings_eq (h : ReadsList inner ts group groups rest)
    (hentries : List.Forall₂ Entry ((entry.reverse ++ group) :: groups) bindings) :
    listBindings inner entry done ts = .ok (done.reverse ++ bindings.flatten, rest) := by
  induction h generalizing entry done bindings with
  | closed ht =>
    -- the last entry ends with the list
    cases hentries with
    | cons hown hnil =>
      cases hnil
      rw [List.append_nil] at hown
      rw [listBindings_last ht hown, List.flatten_singleton]
  | opening ht _ ih =>
    rw [listBindings_opener ht]
    exact ih hentries
  | closing ht _ ih =>
    rw [listBindings_closer ht]
    exact ih hentries
  | comma ht _ ih =>
    cases hentries with
    | @cons _ own _ bindings hown hentries =>
      rw [List.append_nil] at hown
      rw [listBindings_comma ht hown, @ih [] (own.reverse ++ done) bindings hentries]
      simp
  | token hfrom hbrace hcomma _ ih =>
    rw [listBindings_token hfrom hbrace hcomma]
    exact ih (by simpa using hentries)

/-- The tokens that are read up to the end of a list stay inside it, and are cut at its commas. -/
theorem ReadsList.exists_inside (h : ReadsList inner ts group groups rest) :
    ∃ inside closer piece pieces, ts = inside ++ closer :: rest ∧
      closer.isPunctuator "\x7d" = true ∧ StaysInside (inner + 1) inside ∧
      (∀ t ∈ inside, t.isKeyword "from" = false) ∧
      CutsAtCommas (inner + 1) inside (piece :: pieces) ∧
      group = withoutBraces piece ∧ groups = pieces.map withoutBraces := by
  -- the reader counts the braces opened inside the list, the depth also the one around it
  induction h with
  | @closed t rest ht =>
    exact ⟨[], t, [], [], rfl, ht, ⟨by simp, by simp⟩, by simp, .last (oneEntry_nil _), rfl, rfl⟩
  | @opening inner t ts group rest groups ht _ ih =>
    obtain ⟨inside, closer, piece, pieces, rfl, hcloser, hstays, hfrom, hcuts, rfl, rfl⟩ := ih
    have hchange : ((inner : Int) + 1) + t.braceChange = ((inner + 1 : Nat) : Int) + 1 := by
      rw [Token.braceChange_opener ht]
      omega
    have hcomma : t.isPunctuator "," = true → (inner : Int) + 1 ≠ 1 := by
      simp [Token.isPunctuator_eq_false ht]
    rw [← hchange] at hstays hcuts
    refine ⟨t :: inside, closer, t :: piece, pieces, rfl, hcloser,
      staysInside_cons_iff.2 ⟨by omega, hstays⟩,
      List.forall_mem_cons.2 ⟨Token.isKeyword_of_isPunctuator ht, hfrom⟩,
      (CutsAtCommas.cons_iff hcomma).2 ⟨piece, pieces, rfl, hcuts⟩, ?_, rfl⟩
    simp [withoutBraces, Token.isBrace, ht]
  | @closing inner t ts group rest groups ht _ ih =>
    obtain ⟨inside, closer, piece, pieces, rfl, hcloser, hstays, hfrom, hcuts, rfl, rfl⟩ := ih
    have hchange : (((inner + 1 : Nat) : Int) + 1) + t.braceChange = (inner : Int) + 1 := by
      rw [Token.braceChange_closer ht]
      omega
    have hcomma : t.isPunctuator "," = true → ((inner + 1 : Nat) : Int) + 1 ≠ 1 := by
      simp [Token.isPunctuator_eq_false ht]
    rw [← hchange] at hstays hcuts
    refine ⟨t :: inside, closer, t :: piece, pieces, rfl, hcloser,
      staysInside_cons_iff.2 ⟨by omega, hstays⟩,
      List.forall_mem_cons.2 ⟨Token.isKeyword_of_isPunctuator ht, hfrom⟩,
      (CutsAtCommas.cons_iff hcomma).2 ⟨piece, pieces, rfl, hcuts⟩, ?_, rfl⟩
    simp [withoutBraces, Token.isBrace, ht]
  | @comma t ts group rest groups ht _ ih =>
    obtain ⟨inside, closer, piece, pieces, rfl, hcloser, hstays, hfrom, hcuts, rfl, rfl⟩ := ih
    have hchange := Token.braceChange_of_not_isBrace (Token.isBrace_of_comma ht)
    refine ⟨t :: inside, closer, [], piece :: pieces, rfl, hcloser,
      staysInside_cons_iff.2 ⟨by simp, by simpa [hchange] using hstays⟩,
      List.forall_mem_cons.2 ⟨Token.isKeyword_of_isPunctuator ht, hfrom⟩,
      (CutsAtCommas.comma_iff ht).2 ⟨_, rfl, by simpa using hcuts⟩, rfl, rfl⟩
  | @token inner t ts group rest groups hkeyword hbrace hcomma _ ih =>
    obtain ⟨inside, closer, piece, pieces, rfl, hcloser, hstays, hfrom, hcuts, rfl, rfl⟩ := ih
    have hchange := Token.braceChange_of_not_isBrace hbrace
    have hcomma : t.isPunctuator "," = true → (inner : Int) + 1 ≠ 1 := by
      intro ht
      have hne := hcomma ht
      omega
    refine ⟨t :: inside, closer, t :: piece, pieces, rfl, hcloser,
      staysInside_cons_iff.2 ⟨by omega, by simpa [hchange] using hstays⟩,
      List.forall_mem_cons.2 ⟨hkeyword, hfrom⟩,
      (CutsAtCommas.cons_iff hcomma).2 ⟨piece, pieces, rfl, by simpa [hchange] using hcuts⟩, ?_,
      rfl⟩
    simp [withoutBraces, hbrace]

/-- Tokens that stay inside a list are read up to its end. -/
theorem readsList_of_staysInside {inside piece : List Token} {closer : Token}
    (hcloser : closer.isPunctuator "\x7d" = true) (hstays : StaysInside (inner + 1) inside)
    (hfrom : ∀ t ∈ inside, t.isKeyword "from" = false)
    (hcuts : CutsAtCommas (inner + 1) inside (piece :: pieces)) (rest : List Token) :
    ReadsList inner (inside ++ closer :: rest) (withoutBraces piece) (pieces.map withoutBraces)
      rest := by
  induction inside generalizing inner piece pieces with
  | nil =>
    have hinner : inner = 0 := by
      have heq := hstays.eq_one
      rw [braceDepth_nil] at heq
      omega
    subst hinner
    generalize hnil : ([] : List Token) = us at hcuts
    cases hcuts with
    | last =>
      subst hnil
      exact .closed hcloser
    | comma => simp at hnil
  | cons t inside ih =>
    obtain ⟨hdepth, hstays⟩ := staysInside_cons_iff.1 hstays
    obtain ⟨hkeyword, hfrom⟩ := List.forall_mem_cons.1 hfrom
    by_cases hsplit : t.isPunctuator "," = true ∧ inner = 0
    · -- a comma between two entries
      obtain ⟨ht, rfl⟩ := hsplit
      have hchange := Token.braceChange_of_not_isBrace (Token.isBrace_of_comma ht)
      obtain ⟨pieces', hpieces, hcuts⟩ := (CutsAtCommas.comma_iff ht).1 (by simpa using hcuts)
      obtain ⟨rfl, rfl⟩ := List.cons.inj hpieces
      obtain ⟨piece', pieces'', rfl⟩ := List.exists_cons_of_ne_nil hcuts.ne_nil
      exact .comma ht (ih (by simpa [hchange] using hstays) hfrom (by simpa using hcuts))
    · have hcomma : t.isPunctuator "," = true → (inner : Int) + 1 ≠ 1 := by
        intro ht heq
        exact hsplit ⟨ht, by omega⟩
      obtain ⟨piece', pieces', hpieces, hcuts⟩ := (CutsAtCommas.cons_iff hcomma).1 hcuts
      obtain ⟨rfl, rfl⟩ := List.cons.inj hpieces
      by_cases hopener : t.isPunctuator "\x7b" = true
      · have hchange : ((inner : Int) + 1) + t.braceChange = ((inner + 1 : Nat) : Int) + 1 := by
          rw [Token.braceChange_opener hopener]
          omega
        have hgroup : withoutBraces (t :: piece') = withoutBraces piece' := by
          simp [withoutBraces, Token.isBrace, hopener]
        rw [hchange] at hstays hcuts
        rw [hgroup]
        exact .opening hopener (ih hstays hfrom hcuts)
      · by_cases hcloses : t.isPunctuator "\x7d" = true
        · -- it closes a brace that was opened inside the list
          have hgroup : withoutBraces (t :: piece') = withoutBraces piece' := by
            simp [withoutBraces, Token.isBrace, hcloses]
          cases inner with
          | zero =>
            have hone := hstays.one_le [] inside rfl
            rw [Token.braceChange_closer hcloses] at hone
            simp at hone
          | succ inner =>
            have hchange : (((inner + 1 : Nat) : Int) + 1) + t.braceChange = (inner : Int) + 1 := by
              rw [Token.braceChange_closer hcloses]
              omega
            rw [hchange] at hstays hcuts
            rw [hgroup]
            exact .closing hcloses (ih hstays hfrom hcuts)
        · have hbrace : t.isBrace = false := by
            simp [Token.isBrace, hopener, hcloses]
          have hchange := Token.braceChange_of_not_isBrace hbrace
          have hgroup : withoutBraces (t :: piece') = t :: withoutBraces piece' := by
            simp [withoutBraces, hbrace]
          rw [hchange, Int.add_zero] at hstays hcuts
          rw [hgroup]
          refine .token hkeyword hbrace (fun ht hinner => ?_) (ih hstays hfrom hcuts)
          exact hcomma ht (by omega)

end Lists

/-! ### Clauses -/

variable {rest behind : List Token} {list : List Binding} {bindings : Bindings}

/-- The lists of names. -/
theorem bracedBindings_eq_ok_iff :
    bracedBindings ts = .ok (list, rest) ↔
      ∃ braces, ts = braces ++ rest ∧ BraceList braces list := by
  constructor
  · intro h
    cases ts with
    | nil => cases h
    | cons opener ts =>
      rw [bracedBindings] at h
      split at h
      · next hopener =>
        obtain ⟨group, groups, bindings, hreads, hentries, rfl⟩ := exists_readsList h
        obtain ⟨inside, closer, piece, pieces, rfl, hcloser, hstays, hfrom, hcuts, rfl, rfl⟩ :=
          hreads.exists_inside
        refine ⟨opener :: (inside ++ [closer]), by simp, ?_⟩
        exact .intro hopener hcloser (by simpa using hstays) hfrom (by simpa using hcuts)
          (by simpa using hentries)
      · cases h
  · rintro ⟨braces, rfl, h⟩
    cases h with
    | @intro opener closer inside pieces bindings hopener hcloser hinside hfrom hpieces hentries =>
      obtain ⟨piece, pieces, rfl⟩ := List.exists_cons_of_ne_nil hpieces.ne_nil
      -- the opening brace is taken, and so the list is at depth one
      have hstays : StaysInside ((0 : Nat) + 1) inside := by simpa using hinside
      have hcuts : CutsAtCommas ((0 : Nat) + 1) inside (piece :: pieces) := by simpa using hpieces
      have hreads := readsList_of_staysInside hcloser hstays hfrom hcuts rest
      rw [List.cons_append, bracedBindings, if_pos hopener, List.append_assoc]
      exact hreads.listBindings_eq (by simpa using hentries)

theorem BraceList.exists_cons (h : BraceList ts list) :
    ∃ opener next more, ts = opener :: next :: more ∧ opener.isPunctuator "\x7b" = true := by
  cases h with
  | @intro opener closer inside _ _ hopener =>
    cases inside with
    | nil => exact ⟨opener, closer, [], rfl, hopener⟩
    | cons t inside => exact ⟨opener, t, inside ++ [closer], rfl, hopener⟩

theorem importClause_of_onlyBraced (h : onlyBraced ts = .ok (bindings, behind)) :
    ∃ clause, ts = clause ++ behind ∧ ImportClause clause bindings := by
  unfold onlyBraced at h
  split at h
  · next list behind' hlist =>
    cases h
    obtain ⟨braces, hts, hbraces⟩ := bracedBindings_eq_ok_iff.1 hlist
    exact ⟨braces, hts, .named hbraces⟩
  · cases h

theorem importClause_of_namespaceBindings {star : Token} (hstar : star.isPunctuator "*" = true)
    (h : namespaceBindings ts = .ok (bindings, behind)) :
    ∃ clause, star :: ts = clause ++ behind ∧ ImportClause clause bindings := by
  unfold namespaceBindings at h
  split at h
  · next mark name rest =>
    split at h
    · next hmark =>
      split at h
      · next hname =>
        cases h
        exact ⟨[star, mark, name], rfl, .everything hstar hmark hname⟩
      · cases h
    · cases h
  · split at h <;> cases h
  · cases h

theorem importClause_of_furtherBindings {name comma : Token} (hname : name.isIdentifier = true)
    (hcomma : comma.isPunctuator "," = true)
    (h : furtherBindings name.lexeme ts = .ok (bindings, behind)) :
    ∃ clause, name :: comma :: ts = clause ++ behind ∧ ImportClause clause bindings := by
  unfold furtherBindings at h
  split at h
  · cases h
  · split at h
    · next list behind' hlist =>
      cases h
      obtain ⟨braces, rfl, hbraces⟩ := bracedBindings_eq_ok_iff.1 hlist
      exact ⟨name :: comma :: braces, rfl, .defaultAndNamed hname hcomma hbraces⟩
    · cases h

/-- What is read before `from` is a clause. -/
theorem importClause_of_importBindings (h : importBindings ts = .ok (bindings, behind)) :
    ∃ clause, ts = clause ++ behind ∧ ImportClause clause bindings := by
  unfold importBindings at h
  split at h
  · next first next rest =>
    split at h
    · next hstar => exact importClause_of_namespaceBindings hstar h
    · split at h
      · next hdefault =>
        rw [Bool.and_eq_true] at hdefault
        cases h
        exact ⟨[first], rfl, .defaultOnly hdefault.1⟩
      · split at h
        · next hfurther =>
          rw [Bool.and_eq_true] at hfurther
          exact importClause_of_furtherBindings hfurther.1 hfurther.2 h
        · exact importClause_of_onlyBraced h
  · split at h
    · cases h
    · exact importClause_of_onlyBraced h
  · exact importClause_of_onlyBraced h

/-- A clause before `from` is read. -/
theorem ImportClause.importBindings_eq (h : ImportClause ts bindings) {mark : Token}
    (hmark : mark.isKeyword "from" = true) (rest : List Token) :
    importBindings (ts ++ mark :: rest) = .ok (bindings, mark :: rest) := by
  -- the first token, or the first two, tell the form of the clause
  cases h with
  | @everything star as name hstar has hname =>
    show importBindings (star :: as :: name :: mark :: rest) = _
    rw [importBindings, if_pos hstar, namespaceBindings, if_pos has, if_pos hname]
  | @defaultOnly name hname =>
    show importBindings (name :: mark :: rest) = _
    rw [importBindings, if_neg (by simp [Token.isPunctuator_of_isIdentifier hname]),
      if_pos (by simp [hname, hmark])]
  | @named _ list hlist =>
    obtain ⟨opener, next, more, rfl, hopener⟩ := hlist.exists_cons
    have hread : bracedBindings (opener :: next :: (more ++ mark :: rest))
        = .ok (list, mark :: rest) := bracedBindings_eq_ok_iff.2 ⟨_, rfl, hlist⟩
    have hname := Token.isIdentifier_of_isPunctuator hopener
    show importBindings (opener :: next :: (more ++ mark :: rest)) = _
    rw [importBindings, if_neg (by simp [Token.isPunctuator_eq_false hopener]),
      if_neg (by simp [hname]), if_neg (by simp [hname]), onlyBraced, hread]
  | @defaultAndNamed name comma braces list hname hcomma hlist =>
    obtain ⟨opener, next, more, rfl, hopener⟩ := hlist.exists_cons
    have hread : bracedBindings (opener :: next :: (more ++ mark :: rest))
        = .ok (list, mark :: rest) := bracedBindings_eq_ok_iff.2 ⟨_, rfl, hlist⟩
    show importBindings (name :: comma :: opener :: next :: (more ++ mark :: rest)) = _
    rw [importBindings, if_neg (by simp [Token.isPunctuator_of_isIdentifier hname]),
      if_neg (by simp [Token.isKeyword_of_isPunctuator hcomma]), if_pos (by simp [hname, hcomma]),
      furtherBindings, if_neg (by simp [Token.isPunctuator_eq_false hopener]), hread]

theorem specifierOf_eq_ok_iff {specifier : String} :
    specifierOf ts = .ok specifier ↔ ∃ mark t rest, ts = mark :: t :: rest ∧
      mark.isKeyword "from" = true ∧ t.kind = .stringLiteral ∧ Unquotes t.lexeme specifier := by
  constructor
  · intro h
    unfold specifierOf at h
    split at h
    · next mark rest =>
      split at h
      · next hmark =>
        split at h
        · next t rest =>
          split at h
          · next hkind =>
            cases h
            exact ⟨mark, t, rest, rfl, hmark, hkind, unquotes_iff.2 rfl⟩
          · cases h
        · cases h
      · cases h
    · cases h
  · rintro ⟨mark, t, rest, rfl, hmark, hkind, hspecifier⟩
    rw [specifierOf, if_pos hmark, if_pos hkind, unquotes_iff.1 hspecifier]

/-- The clauses with what follows them. -/
theorem importClause_eq_ok_iff {specifier : String} :
    importClause ts = .ok (bindings, specifier) ↔ ∃ clause mark t rest,
      ts = clause ++ mark :: t :: rest ∧ ImportClause clause bindings ∧
      mark.isKeyword "from" = true ∧ t.kind = .stringLiteral ∧ Unquotes t.lexeme specifier := by
  constructor
  · intro h
    unfold importClause at h
    split at h
    · next bindings' behind hbindings =>
      split at h
      · next specifier' hspecifier =>
        cases h
        obtain ⟨clause, rfl, hclause⟩ := importClause_of_importBindings hbindings
        obtain ⟨mark, t, rest, rfl, hrest⟩ := specifierOf_eq_ok_iff.1 hspecifier
        exact ⟨clause, mark, t, rest, rfl, hclause, hrest⟩
      · cases h
    · cases h
  · rintro ⟨clause, mark, t, rest, rfl, hclause, hmark, hspecifier⟩
    have hread := specifierOf_eq_ok_iff.2 ⟨mark, t, rest, rfl, hmark, hspecifier⟩
    rw [importClause, hclause.importBindings_eq hmark]
    dsimp only
    rw [hread]

/-- **An import is understood just when it belongs to the grammar, and its record holds what the
grammar tells.**  Behind the keyword there are a clause, `from` and a string, and then any tokens.
The record has the bindings of the clause, the string without its quotes, and the range, the place
and the text of the statement. -/
theorem Statement.toImport_eq_ok_iff (s : Statement) (r : ImportRecord) :
    s.toImport = .ok r ↔ ∃ clause mark t rest bindings specifier,
      s.body .imports = clause ++ mark :: t :: rest ∧ ImportClause clause bindings ∧
      mark.isKeyword "from" = true ∧ t.kind = .stringLiteral ∧ Unquotes t.lexeme specifier ∧
      r = ⟨bindings, specifier, s.range, s.loc, s.text⟩ := by
  constructor
  · intro h
    unfold toImport at h
    split at h
    · next bindings specifier hclause =>
      cases h
      obtain ⟨clause, mark, t, rest, hbody, hclause, hmark, hkind, hspecifier⟩ :=
        importClause_eq_ok_iff.1 hclause
      exact ⟨clause, mark, t, rest, bindings, specifier, hbody, hclause, hmark, hkind, hspecifier,
        rfl⟩
    · cases h
  · rintro ⟨clause, mark, t, rest, bindings, specifier, hbody, hclause, hmark, hspecifier⟩
    obtain ⟨hkind, hspecifier, rfl⟩ := hspecifier
    have hread := importClause_eq_ok_iff.2
      ⟨clause, mark, t, rest, hbody, hclause, hmark, hkind, hspecifier⟩
    rw [toImport, hread]

end ImportScan
