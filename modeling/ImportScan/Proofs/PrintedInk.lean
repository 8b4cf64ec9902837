import ImportScan.Proofs.PrintedEntries

/-!
# A printed list is the shortest one

Tokens that are read as some names hold all characters with which these names are printed, whatever
characters are counted but blanks.  Where they hold no character more, they are the printed tokens:
there are no quotes around a name, no braces inside the list and no commas but those between the
entries.

## Main definitions

* `weight` — how many characters of some tokens are of a kind.
* `isInk` — all characters but blanks.
* `Bindings.esText` — the printed clause of an import.

## Main results

* `BraceList.le_weight`, `ImportClause.le_weight` — what is read holds what is printed.
* `BraceList.exists_shownAs`, `ImportClause.exists_shownAs` — **a list or a clause that holds no
  more than the printed one has its tokens**.
-/

namespace ImportScan

open PlainToken (keyword name sign string)

/-- How many characters of some tokens are of a kind. -/
def weight (p : Char → Bool) (ts : List Token) : Nat := (spell (ts.map Token.plain)).countP p

/-- A character that is no blank. -/
def isInk (c : Char) : Bool := !isBlank c

/-- A string is written between quotes. -/
def Token.IsQuoted (t : Token) : Prop := t.kind = .stringLiteral →
  ∃ mark inner, isQuoteMark mark = true ∧
    t.lexeme = String.singleton mark ++ inner ++ String.singleton mark

/-- The clause of a printed import. -/
def Bindings.esText : Bindings → String
  | .everything text => "* as " ++ text
  | .defaultOnly text => text
  | .named list => ImportRecord.braced (list.map Binding.esText)

theorem ImportRecord.esText_eq (r : ImportRecord) :
    r.esText = "import " ++ r.bindings.esText ++ " from " ++ r.quotedSpecifier ++ ";" := by
  unfold ImportRecord.esText Bindings.esText
  cases r.bindings <;> rfl

section

variable {p : Char → Bool} {t : Token} {ts us : List Token} {text : String} {b : Binding}
  {list : List Binding} {bindings : Bindings} {pieces : List (List Token)} {depth : Int}

/-! ### The weight of tokens -/

@[simp] theorem weight_nil : weight p [] = 0 := rfl

@[simp] theorem weight_cons : weight p (t :: ts) = t.lexeme.toList.countP p + weight p ts := by
  rw [weight, List.map_cons, spell_cons, List.countP_append]
  rfl

theorem weight_append : weight p (ts ++ us) = weight p ts + weight p us := by
  rw [weight, List.map_append, spell_append, List.countP_append]
  rfl

theorem le_weight_of_mem (ht : t ∈ ts) : t.lexeme.toList.countP p ≤ weight p ts := by
  obtain ⟨before, after, rfl⟩ := List.append_of_mem ht
  rw [weight_append, weight_cons]
  omega

theorem weight_filter_le (q : Token → Bool) (ts : List Token) :
    weight p (ts.filter q) ≤ weight p ts := by
  induction ts with
  | nil => exact Nat.le_refl _
  | cons t ts ih =>
    cases ht : q t with
    | true =>
      rw [List.filter_cons_of_pos ht, weight_cons, weight_cons]
      omega
    | false =>
      rw [List.filter_cons_of_neg (by simp [ht]), weight_cons]
      omega

/-- Tokens that weigh as much without some of them hold none of these with weight. -/
theorem weight_of_filter_le {q : Token → Bool} (h : weight p ts ≤ weight p (ts.filter q)) :
    ∀ t ∈ ts, q t = false → t.lexeme.toList.countP p = 0 := by
  induction ts with
  | nil => simp
  | cons t ts ih =>
    cases ht : q t with
    | true =>
      rw [List.filter_cons_of_pos ht, weight_cons, weight_cons] at h
      refine List.forall_mem_cons.2 ⟨fun hq => ?_, ih (by omega)⟩
      rw [ht] at hq
      cases hq
    | false =>
      rw [List.filter_cons_of_neg (by simp [ht]), weight_cons] at h
      have hle : weight p (ts.filter q) ≤ weight p ts := weight_filter_le q ts
      exact List.forall_mem_cons.2 ⟨fun _ => by omega, ih (by omega)⟩

theorem countP_lexeme_of_isPunctuator (h : t.isPunctuator text = true) :
    t.lexeme.toList.countP p = text.toList.countP p := by
  have hlexeme : t.lexeme = text := congrArg PlainToken.lexeme (Token.isPunctuator_iff.1 h)
  rw [hlexeme]

theorem countP_lexeme_of_isKeyword (h : t.isKeyword text = true) :
    t.lexeme.toList.countP p = text.toList.countP p := by
  have hlexeme : t.lexeme = text := congrArg PlainToken.lexeme (Token.isKeyword_iff.1 h)
  rw [hlexeme]

/-- A string weighs more than what is between its quotes. -/
theorem countP_quoted {mark : Char} (hmark : p mark = true) (inner : String) :
    (String.singleton mark ++ inner ++ String.singleton mark).toList.countP p
      = inner.toList.countP p + 2 := by
  have hone : (String.singleton mark).toList.countP p = 1 := by simp [hmark]
  rw [String.toList_append, String.toList_append, List.countP_append, List.countP_append, hone]
  omega

/-! ### Names and entries -/

/-- A name is a part of its token. -/
theorem Token.Names.le_countP (h : t.Names text) :
    text.toList.countP p ≤ t.lexeme.toList.countP p := by
  cases h with
  | word => exact Nat.le_refl _
  | string _ hname =>
    generalize t.lexeme = lexeme at hname
    cases hname with
    | quoted =>
      simp only [String.toList_append, List.countP_append]
      omega
    | bare => exact Nat.le_refl _

/-- A token that is no longer than its name is no string, and has the name for its text. -/
theorem Token.Names.word_of_le (h : t.Names text) (ht : t.IsQuoted)
    (hle : t.lexeme.toList.countP isInk ≤ text.toList.countP isInk) :
    t.kind ≠ .stringLiteral ∧ t.lexeme = text := by
  cases h with
  | word hkind => exact ⟨hkind, rfl⟩
  | string hkind hname =>
    -- there would be two quotes more
    exfalso
    obtain ⟨mark, inner, hmark, hlexeme⟩ := ht hkind
    have hinner : text = inner := by
      rw [unquotes_iff.1 hname, hlexeme, stripQuotes_quoted hmark]
    have hink : isInk mark = true := by
      simp only [isQuoteMark, Bool.or_eq_true, beq_iff_eq] at hmark
      rcases hmark with (rfl | rfl) | rfl <;> rfl
    rw [hlexeme, hinner, countP_quoted hink] at hle
    omega

theorem Binding.countP_esText (hp : p ' ' = false) (b : Binding) :
    b.esText.toList.countP p = if b.imported = b.localName then b.localName.toList.countP p
      else b.imported.toList.countP p + "as".toList.countP p + b.localName.toList.countP p := by
  unfold Binding.esText Binding.render
  split
  · rfl
  · simp [List.countP_cons, hp]
    omega

/-- An entry holds what its binding is printed with. -/
theorem Entry.le_weight (h : Entry ts [b]) (hp : p ' ' = false) :
    b.esText.toList.countP p ≤ weight p ts := by
  rw [Binding.countP_esText hp]
  cases h with
  | name hname => simpa using hname.le_countP
  | @renamed t mark other name hname hmark =>
    have hle : name.toList.countP p ≤ t.lexeme.toList.countP p := hname.le_countP
    simp only [weight_cons, weight_nil, countP_lexeme_of_isKeyword hmark]
    split <;> omega

theorem Entry.eq_nil (h : Entry ts (b :: list)) : list = [] := by
  cases h with
  | name => rfl
  | renamed => rfl

/-- An entry that holds no more is the printed one. -/
theorem Entry.shownAs (h : Entry ts [b]) (hts : ∀ t ∈ ts, t.plain.IsName ∧ t.IsQuoted)
    (hle : weight isInk ts ≤ b.esText.toList.countP isInk) : b.ShownAs (ts.map Token.plain) := by
  rw [Binding.countP_esText rfl] at hle
  cases h with
  | @name t name hname =>
    obtain ⟨ht, hquoted⟩ := hts t (by simp)
    rw [if_pos rfl] at hle
    obtain ⟨hkind, hlexeme⟩ := hname.word_of_le hquoted (by simpa using hle)
    exact .alone ht hkind hlexeme rfl
  | @renamed t mark other name hname hmark =>
    obtain ⟨ht, hquoted⟩ := hts t (by simp)
    simp only [weight_cons, weight_nil, countP_lexeme_of_isKeyword hmark] at hle
    have has : "as".toList.countP isInk = 2 := by decide
    split at hle
    · omega
    · next hne =>
      obtain ⟨hkind, hlexeme⟩ := hname.word_of_le hquoted (by omega)
      obtain ⟨loc, rfl⟩ := Token.exists_placed (Token.isKeyword_iff.1 hmark)
      exact .renamed ht hkind (hts other (by simp)).1 hlexeme rfl hne

/-! ### Lists -/

/-- What the entries are printed with, each with a comma. -/
def entriesWeight (p : Char → Bool) : List Binding → Nat
  | [] => 0
  | b :: list => b.esText.toList.countP p + [','].countP p + entriesWeight p list

@[simp] theorem entriesWeight_nil : entriesWeight p [] = 0 := rfl

@[simp] theorem entriesWeight_cons : entriesWeight p (b :: list)
    = b.esText.toList.countP p + [','].countP p + entriesWeight p list := rfl

@[simp] theorem entriesWeight_append (list list' : List Binding) :
    entriesWeight p (list ++ list') = entriesWeight p list + entriesWeight p list' := by
  induction list with
  | nil => simp
  | cons b list ih =>
    rw [List.cons_append, entriesWeight_cons, entriesWeight_cons, ih]
    omega

/-- Behind the last entry there is no comma. -/
theorem countP_intercalate (hp : p ' ' = false) (b : Binding) (list : List Binding) :
    (", ".intercalate ((b :: list).map Binding.esText)).toList.countP p + [','].countP p
      = entriesWeight p (b :: list) := by
  induction list generalizing b with
  | nil => simp
  | cons next list ih =>
    have hnext := ih next
    rw [List.map_cons] at hnext
    rw [List.map_cons, List.map_cons, String.intercalate_cons_cons, entriesWeight_cons, ← hnext]
    simp [List.countP_cons, hp]
    omega

/-- A piece and the comma behind it hold what its entry is printed with. -/
theorem Entry.entriesWeight_le (h : Entry (withoutBraces ts) list) (hp : p ' ' = false) :
    entriesWeight p list ≤ weight p ts + [','].countP p := by
  cases list with
  | nil =>
    rw [entriesWeight_nil]
    omega
  | cons b list =>
    obtain rfl := h.eq_nil
    have hb := h.le_weight hp
    have hbraces : weight p (withoutBraces ts) ≤ weight p ts := weight_filter_le _ ts
    rw [entriesWeight_cons, entriesWeight_nil]
    omega

/-- The pieces of a list hold what its entries are printed with. -/
theorem CutsAtCommas.entriesWeight_le {own : List (List Binding)} (h : CutsAtCommas depth ts pieces)
    (hentries : List.Forall₂ Entry (pieces.map withoutBraces) own) (hp : p ' ' = false) :
    entriesWeight p own.flatten ≤ weight p ts + [','].countP p := by
  induction h generalizing own with
  | last =>
    obtain ⟨list, _, hpiece, hnil, rfl⟩ := List.forall₂_cons_left_iff.1 hentries
    cases hnil
    rw [List.flatten_cons, List.flatten_nil, List.append_nil]
    exact hpiece.entriesWeight_le hp
  | @comma depth piece rest comma pieces _ hcomma _ _ ih =>
    obtain ⟨list, own, hpiece, hpieces, rfl⟩ := List.forall₂_cons_left_iff.1 hentries
    have hfirst : entriesWeight p list ≤ weight p piece + [','].countP p :=
      hpiece.entriesWeight_le hp
    have hmore := ih hpieces
    have hsign : comma.lexeme.toList.countP p = [','].countP p :=
      countP_lexeme_of_isPunctuator hcomma
    rw [List.flatten_cons, entriesWeight_append, weight_append, weight_cons, hsign]
    omega

/-! ### Lists that hold no more -/

theorem Token.countP_isInk_of_isBrace (h : t.isBrace = true) :
    t.lexeme.toList.countP isInk = 1 := by
  rw [Token.isBrace, Bool.or_eq_true] at h
  rcases h with h | h <;> rw [countP_lexeme_of_isPunctuator h] <;> decide

/-- Tokens that weigh no more without braces have none. -/
theorem withoutBraces_of_le (h : weight isInk ts ≤ weight isInk (withoutBraces ts)) :
    ∀ t ∈ ts, t.isBrace = false := by
  intro t ht
  rw [Bool.eq_false_iff]
  intro hbrace
  have hzero := weight_of_filter_le h t ht (by simp [hbrace])
  rw [Token.countP_isInk_of_isBrace hbrace] at hzero
  cases hzero

/-- The token is one that may stand inside an import. -/
structure Token.IsInside (t : Token) : Prop where
  /-- It carries meaning. -/
  isVisible : t.plain.isVisible = true
  /-- It does not end the statement. -/
  isPunctuator : t.isPunctuator ";" = false
  /-- If it is a string, it has quotes. -/
  isQuoted : t.IsQuoted

/-- Inside an import, all tokens of a list but commas and braces can be names. -/
theorem Token.IsInside.isName (h : t.IsInside) (hfrom : t.isKeyword "from" = false)
    (hbrace : t.isBrace = false) (hcomma : t.isPunctuator "," = false) : t.plain.IsName := by
  rw [Token.isBrace, Bool.or_eq_false_iff] at hbrace
  refine ⟨h.isVisible, ?_⟩
  simp only [List.mem_cons, List.not_mem_nil, or_false, ← Token.isKeyword_iff,
    ← Token.isPunctuator_iff, hfrom, h.isPunctuator, hcomma, hbrace.1, hbrace.2]
  decide

/-- Without braces there is no comma in an entry. -/
theorem OneEntry.isPunctuator_eq_false (h : OneEntry 1 ts) (hbraces : ∀ t ∈ ts, t.isBrace = false) :
    ∀ t ∈ ts, t.isPunctuator "," = false := by
  intro t ht
  rw [Bool.eq_false_iff]
  intro hcomma
  obtain ⟨before, after, rfl⟩ := List.append_of_mem ht
  apply h before t after rfl hcomma
  rw [braceDepth_of_forall fun u hu => hbraces u (List.mem_append_left _ hu)]
  rfl

/-- A piece that holds no more than what it binds is a printed entry. -/
theorem exists_shownAs_of_piece (hone : OneEntry 1 ts) (hts : ∀ t ∈ ts, t.IsInside)
    (hfrom : ∀ t ∈ ts, t.isKeyword "from" = false)
    (hentry : Entry (withoutBraces ts) list)
    (hle : weight isInk ts + 1 ≤ entriesWeight isInk list) :
    ∃ b, list = [b] ∧ b.ShownAs (ts.map Token.plain) := by
  cases list with
  | nil =>
    rw [entriesWeight_nil] at hle
    omega
  | cons b list =>
    obtain rfl := hentry.eq_nil
    have hb : b.esText.toList.countP isInk ≤ weight isInk (withoutBraces ts) := hentry.le_weight rfl
    -- the entry and its comma leave no room for a brace
    have hcomma : [','].countP isInk = 1 := by decide
    rw [entriesWeight_cons, entriesWeight_nil, hcomma] at hle
    have hbraces : ∀ t ∈ ts, t.isBrace = false := withoutBraces_of_le (by omega)
    rw [withoutBraces_of_forall hbraces] at hentry
    refine ⟨b, rfl, hentry.shownAs (fun t ht => ?_) (by omega)⟩
    have hnot := hone.isPunctuator_eq_false hbraces t ht
    exact ⟨(hts t ht).isName (hfrom t ht) (hbraces t ht) hnot, (hts t ht).isQuoted⟩

/-- Pieces that hold no more than the printed entries are these entries. -/
theorem exists_entries {own : List (List Binding)} (hcuts : CutsAtCommas 1 ts pieces)
    (hentries : List.Forall₂ Entry (pieces.map withoutBraces) own) (hts : ∀ t ∈ ts, t.IsInside)
    (hfrom : ∀ t ∈ ts, t.isKeyword "from" = false)
    (hle : weight isInk ts + 1 ≤ entriesWeight isInk own.flatten) :
    ∃ entries, List.Forall₂ Binding.ShownAs own.flatten entries ∧
      ts.map Token.plain = joinedTokens entries ∧ entries ≠ [] := by
  have hcomma : [','].countP isInk = 1 := by decide
  generalize hdepth : (1 : Int) = depth at hcuts
  induction hcuts generalizing own with
  | @last depth piece hone =>
    subst hdepth
    obtain ⟨list, _, hentry, hnil, rfl⟩ := List.forall₂_cons_left_iff.1 hentries
    cases hnil
    rw [List.flatten_cons, List.flatten_nil, List.append_nil] at hle ⊢
    obtain ⟨b, rfl, hb⟩ := exists_shownAs_of_piece hone hts hfrom hentry hle
    exact ⟨[piece.map Token.plain], .cons hb .nil, rfl, List.cons_ne_nil _ _⟩
  | @comma depth piece rest comma pieces hone hcomma' _ hrest ih =>
    subst hdepth
    obtain ⟨list, own, hentry, hmore, rfl⟩ := List.forall₂_cons_left_iff.1 hentries
    obtain ⟨hpiece, hbehind⟩ := List.forall_mem_append.1 hts
    obtain ⟨hfrom, hfrom'⟩ := List.forall_mem_append.1 hfrom
    -- neither the piece nor the list behind the comma holds less than it binds
    have hfirst : entriesWeight isInk list ≤ weight isInk piece + [','].countP isInk :=
      hentry.entriesWeight_le rfl
    have hlater : entriesWeight isInk own.flatten ≤ weight isInk rest + [','].countP isInk :=
      hrest.entriesWeight_le hmore rfl
    rw [hcomma] at hfirst hlater
    rw [weight_append, weight_cons, countP_lexeme_of_isPunctuator hcomma', List.flatten_cons,
      entriesWeight_append] at hle
    have hsign : ",".toList.countP isInk = 1 := by decide
    obtain ⟨b, rfl, hb⟩ := exists_shownAs_of_piece hone hpiece hfrom hentry (by omega)
    obtain ⟨entries, hentries, hjoined, hne⟩ := ih hmore (List.forall_mem_cons.1 hbehind).2
      (List.forall_mem_cons.1 hfrom').2 (by omega) rfl
    obtain ⟨next, entries, rfl⟩ := List.exists_cons_of_ne_nil hne
    refine ⟨piece.map Token.plain :: next :: entries, .cons hb hentries, ?_, List.cons_ne_nil _ _⟩
    rw [List.map_append, List.map_cons, hjoined, Token.isPunctuator_iff.1 hcomma', joinedTokens]

/-- Pieces without a name that weigh nothing are none. -/
theorem CutsAtCommas.eq_nil {own : List (List Binding)} (h : CutsAtCommas depth ts pieces)
    (hentries : List.Forall₂ Entry (pieces.map withoutBraces) own) (hown : own.flatten = [])
    (hzero : weight isInk ts = 0) : ts = [] := by
  cases h with
  | last =>
    obtain ⟨list, _, hentry, hnil, rfl⟩ := List.forall₂_cons_left_iff.1 hentries
    cases hnil
    rw [List.flatten_cons, List.flatten_nil, List.append_nil] at hown
    subst hown
    have hbraces : ∀ t ∈ ts, t.isBrace = false := withoutBraces_of_le (by omega)
    rw [withoutBraces_of_forall hbraces] at hentry
    cases hentry
    rfl
  | comma _ hcomma =>
    -- the comma weighs something
    have hsign : ",".toList.countP isInk = 1 := by decide
    rw [weight_append, weight_cons, countP_lexeme_of_isPunctuator hcomma] at hzero
    omega

/-! ### Clauses -/

/-- The weight of a printed list. -/
theorem countP_braced (hp : p ' ' = false) (list : List Binding) :
    (Bindings.named list).esText.toList.countP p + (if list = [] then 0 else [','].countP p)
      = ['\x7b'].countP p + entriesWeight p list + ['\x7d'].countP p := by
  cases list with
  | nil =>
    simp [Bindings.esText, ImportRecord.braced, List.countP_cons, hp]
    omega
  | cons b list =>
    have hentries := countP_intercalate hp b list
    rw [if_neg (List.cons_ne_nil _ _), ← hentries]
    simp [Bindings.esText, ImportRecord.braced, List.countP_cons, hp]
    omega

/-- A list holds what it is printed with. -/
theorem BraceList.le_weight (h : BraceList ts list) (hp : p ' ' = false) :
    (Bindings.named list).esText.toList.countP p ≤ weight p ts := by
  cases h with
  | @intro opener closer inside pieces own hopener hcloser _ _ hcuts hentries =>
    have hle := hcuts.entriesWeight_le hentries hp
    have hprinted := countP_braced hp own.flatten
    rw [weight_cons, weight_append, weight_cons, weight_nil,
      countP_lexeme_of_isPunctuator hopener, countP_lexeme_of_isPunctuator hcloser]
    show _ ≤ ['\x7b'].countP p + (_ + (['\x7d'].countP p + 0))
    split at hprinted
    · next hnil =>
      rw [hnil, entriesWeight_nil] at hprinted
      rw [hnil]
      omega
    · omega

/-- **A list that holds no more than the printed one has its tokens.** -/
theorem BraceList.exists_shownAs (h : BraceList ts list) (hts : ∀ t ∈ ts, t.IsInside)
    (hle : weight isInk ts ≤ (Bindings.named list).esText.toList.countP isInk) :
    ∃ entries, List.Forall₂ Binding.ShownAs list entries ∧
      ts.map Token.plain = listTokens entries := by
  have hcomma : [','].countP isInk = 1 := by decide
  have hbraces : ['\x7b'].countP isInk = 1 ∧ ['\x7d'].countP isInk = 1 := by decide
  cases h with
  | @intro opener closer inside pieces own hopener hcloser _ hfrom hcuts hentries =>
    have hprinted : (Bindings.named own.flatten).esText.toList.countP isInk + _ = _ :=
      countP_braced rfl own.flatten
    rw [weight_cons, weight_append, weight_cons, weight_nil,
      countP_lexeme_of_isPunctuator hopener, countP_lexeme_of_isPunctuator hcloser] at hle
    change ['\x7b'].countP isInk + (_ + (['\x7d'].countP isInk + 0)) ≤ _ at hle
    obtain ⟨entries, hshown, hinside⟩ : ∃ entries,
        List.Forall₂ Binding.ShownAs own.flatten entries ∧
          inside.map Token.plain = joinedTokens entries := by
      -- an empty list leaves no room for a comma
      by_cases hnil : own.flatten = []
      · rw [hnil, if_pos rfl, entriesWeight_nil] at hprinted
        rw [hnil] at hle ⊢
        obtain rfl := hcuts.eq_nil hentries hnil (by omega)
        exact ⟨[], .nil, rfl⟩
      · rw [if_neg hnil] at hprinted
        have hgoes : ∀ t ∈ inside, t.IsInside := fun t ht => hts t (by simp [ht])
        obtain ⟨entries, hshown, hinside, -⟩ :=
          exists_entries hcuts hentries hgoes hfrom (by omega)
        exact ⟨entries, hshown, hinside⟩
    refine ⟨entries, hshown, ?_⟩
    rw [List.map_cons, List.map_append, hinside, Token.isPunctuator_iff.1 hopener, List.map_cons,
      Token.isPunctuator_iff.1 hcloser]
    rfl

/-- A clause that does not go on behind a name holds what it is printed with. -/
theorem ImportClause.le_weight (h : ImportClause ts bindings) (hp : p ' ' = false)
    (hhead : ∀ t ∈ ts.head?, t.isIdentifier = true → ts = [t]) :
    bindings.esText.toList.countP p ≤ weight p ts := by
  cases h with
  | everything hstar hmark =>
    rw [weight_cons, weight_cons, countP_lexeme_of_isPunctuator hstar,
      countP_lexeme_of_isKeyword hmark]
    simp [Bindings.esText, List.countP_cons, hp]
    omega
  | defaultOnly => simp [Bindings.esText]
  | named hlist => exact hlist.le_weight hp
  | defaultAndNamed hname => cases hhead _ rfl hname

/-- A name before a list is printed as a renamed default export, which takes two words more. -/
theorem ImportClause.le_weight_add (h : ImportClause ts bindings) (hp : p ' ' = false) :
    bindings.esText.toList.countP p ≤ weight p ts + "default as".toList.countP p := by
  -- only a default name beside a list is printed longer than it was written
  by_cases hhead : ∀ t ∈ ts.head?, t.isIdentifier = true → ts = [t]
  · have hle := h.le_weight hp hhead
    omega
  · cases h with
    | @defaultAndNamed name comma ts list hname hcomma hlist =>
      have hle := hlist.le_weight hp
      have hlistText := countP_braced hp list
      have htext := countP_braced hp (⟨"default", name.lexeme⟩ :: list)
      have hbinding := Binding.countP_esText hp ⟨"default", name.lexeme⟩
      have hwords : "default as".toList.countP p
          = "default".toList.countP p + "as".toList.countP p := by
        simp [List.countP_cons, hp]
        omega
      rw [if_neg (List.cons_ne_nil _ _), entriesWeight_cons] at htext
      rw [weight_cons, weight_cons, countP_lexeme_of_isPunctuator hcomma, hwords]
      show _ ≤ _ + ([','].countP p + _) + _
      dsimp only at hbinding
      split at hlistText <;> split at hbinding <;> omega
    | everything hstar =>
      have hname := Token.isIdentifier_of_isPunctuator hstar
      simp [hname] at hhead
    | defaultOnly => simp at hhead
    | named hlist =>
      obtain ⟨opener, next, more, rfl, hopener⟩ := hlist.exists_cons
      have hname := Token.isIdentifier_of_isPunctuator hopener
      simp [hname] at hhead

/-- **A clause that holds no more than the printed one has its tokens.** -/
theorem ImportClause.exists_shownAs (h : ImportClause ts bindings)
    (hhead : ∀ t ∈ ts.head?, t.isIdentifier = true → ts = [t]) (hts : ∀ t ∈ ts, t.IsInside)
    (hnames : ∀ t ∈ ts, t.isIdentifier = true → t.plain.Readable)
    (hle : weight isInk ts ≤ bindings.esText.toList.countP isInk) :
    ∃ entries clause, bindings.ShownAs entries clause ∧
      ts.map Token.plain = clause.map Prod.fst := by
  cases h with
  | @everything star mark t hstar hmark hname =>
    have hread := hnames t (by simp) hname
    have hplain := Token.plain_of_isIdentifier hname
    rw [hplain] at hread
    refine ⟨_, _, .everything hread, ?_⟩
    simp [Token.isPunctuator_iff.1 hstar, Token.isKeyword_iff.1 hmark, hplain]
  | @defaultOnly t hname =>
    have hread := hnames t (by simp) hname
    have hplain := Token.plain_of_isIdentifier hname
    rw [hplain] at hread
    exact ⟨_, _, .defaultOnly hread, by simp [hplain]⟩
  | named hlist =>
    obtain ⟨entries, hentries, htokens⟩ := hlist.exists_shownAs hts hle
    exact ⟨entries, _, .named hentries, by rw [htokens, map_fst_spacedList]⟩
  | defaultAndNamed hname => cases hhead _ rfl hname

end

end ImportScan
