import Mathlib.Data.List.TakeWhile
import ImportScan.Proofs.Acceptance

/-!
# Tokens that spell a text

Tokens that are printed one behind the other need not be read back: two words that meet become one,
and so do two runs of blanks.  They are read back if each of them is a token by itself and ends
where the next one starts.

## Main definitions

* `PlainToken` — a token without its place.
* `PlainToken.Readable`, `PlainToken.endsBefore` — a token that is read from its own text, and the
  characters before which it ends.
* `spell`, `Legible` — the text of some tokens, and tokens that are read back from it.
* `Scans` — the tokens as which a text is scanned.

## Main results

* `PlainToken.Readable.scansAs` — a token that ends is scanned in any text as it is by itself.
* `Pass.exists_reaches` — a pass gets through a text that is scanned as tokens whose brackets fit.
* `tokens_of_legible` — **legible tokens with balanced brackets are read back**.
-/

namespace ImportScan

/-! ### Extents in a longer text -/

variable {rest : List Char}

/-- A run that takes all of some characters takes no more, where the next character does not belong
to it. -/
theorem length_takeWhile_append {p : Char → Bool} {cs : List Char}
    (hall : (cs.takeWhile p).length = cs.length) (hrest : rest.head?.all (fun d => !p d) = true) :
    ((cs ++ rest).takeWhile p).length = cs.length := by
  have hcs : cs.takeWhile p = cs := (List.takeWhile_prefix p).eq_of_length hall
  have hstop : rest.takeWhile p = [] := by
    cases rest with
    | nil => rfl
    | cons d rest => simpa [List.takeWhile_cons] using hrest
  rw [List.takeWhile_append_of_pos (List.takeWhile_eq_self_iff.1 hcs), hstop, List.append_nil]

theorem commentExtent?_append {cs : List Char} {n : Nat} (h : commentExtent? cs = some n) :
    commentExtent? (cs ++ rest) = some n := by
  fun_induction commentExtent? cs generalizing n with
  | case1 => cases h
  | case2 cs =>
    cases h
    rfl
  | case3 c cs hne ih =>
    obtain ⟨m, hm, rfl⟩ := Option.map_eq_some_iff.1 h
    rw [List.cons_append, commentExtent?, ih hm]
    · rfl
    · -- the comment would have ended here before
      intro more hc hcs
      cases cs with
      | nil => cases hm
      | cons d cs =>
        cases hcs
        exact hne _ hc rfl

theorem stringExtent?_append {quote : Char} {cs : List Char} {n : Nat}
    (h : stringExtent? quote cs = some n) : stringExtent? quote (cs ++ rest) = some n := by
  fun_induction stringExtent? quote cs generalizing n with
  | case1 => cases h
  | case2 =>
    rw [List.cons_append, stringExtent?.eq_def]
    simpa using h
  | case3 => cases h
  | case4 more hquote ih =>
    obtain ⟨m, hm, rfl⟩ := Option.map_eq_some_iff.1 h
    simp only [List.cons_append, stringExtent?.eq_def quote ('\\' :: _), if_neg hquote, ih hm]
    rfl
  | case5 e more hpair hquote ih =>
    obtain ⟨m, hm, rfl⟩ := Option.map_eq_some_iff.1 h
    have hpair' : ∀ tail, e = '\r' → more ++ rest = '\n' :: tail → False := by
      -- what is escaped is known, since the string goes on behind it
      intro tail he htail
      cases more with
      | nil => cases hm
      | cons d more =>
        cases htail
        exact hpair _ he rfl
    rw [List.cons_append, List.cons_append, stringExtent?.eq_4 _ _ _ _ hpair', if_neg hquote,
      if_pos rfl, ih hm]
    rfl
  | case6 => cases h
  | case7 c cs hquote hslash hline ih =>
    obtain ⟨m, hm, rfl⟩ := Option.map_eq_some_iff.1 h
    rw [List.cons_append, stringExtent?.eq_def]
    simp only [if_neg hquote, if_neg hslash, if_neg hline, ih hm]
    rfl

/-! ### Tokens without a place -/

/-- A token without its place. -/
structure PlainToken where
  /-- The category. -/
  kind : TokenKind
  /-- The text of the token. -/
  lexeme : String
  deriving DecidableEq, Repr, Inhabited

/-- The token without its place. -/
def Token.plain (t : Token) : PlainToken := ⟨t.kind, t.lexeme⟩

namespace PlainToken

/-- The token at a place. -/
def placed (u : PlainToken) (loc : Location) : Token := ⟨u.kind, u.lexeme, loc⟩

/-- The token is what its own text is read as. -/
def Readable (u : PlainToken) : Prop :=
  (Lexer.ofText .ecma u.lexeme.toList).pull.token?.map (fun next => next.1.plain) = some u

instance (u : PlainToken) : Decidable u.Readable := inferInstanceAs (Decidable (_ = _))

/-- Whether the token ends before a character, or before the end of the text.  Only the categories
that a listing needs are told here; a token of any other may go on. -/
def endsBefore (u : PlainToken) (next : Option Char) : Bool :=
  match u.kind with
  | .keyword | .identifier => next.all fun d => !isIdentifierPart d
  | .whitespace => u.lexeme == "\n" || next.all fun d => !isBlank d
  | .comment => next.all isLineEnd
  | .punctuator => next.all isBlank
  | .stringLiteral => true
  | _ => false

end PlainToken

/-! ### Tokens of code in a longer text -/

/-- The text starts with a token of code, of a category and a length, that keeps the mode. -/
def ScansAs (previous : Option Significant) (text : List Char) (kind : TokenKind) (n : Nat) :
    Prop :=
  ∃ c cs hpos, text = c :: cs ∧ scanCode .ecma previous c cs = .ok ⟨kind, n, .stay, hpos⟩

variable {previous : Option Significant} {c : Char} {cs : List Char}

theorem isLineEnd_of_not_isBlank (h : isBlank c = false) : isLineEnd c = false := by
  rw [Bool.eq_false_iff]
  intro hline
  rw [isBlank_of_isLineEnd hline] at h
  cases h

theorem ne_of_not_isBlank {d : Char} (h : isBlank c = false) (hd : isBlank d = true) : c ≠ d := by
  rintro rfl
  rw [hd] at h
  cases h

/-- A token that starts with a blank consists of blanks. -/
theorem kind_of_isBlank {l : Language} {s : Scan} (h : scanCode l previous c cs = .ok s)
    (hc : isBlank c = true) : s.kind = .whitespace := by
  unfold scanCode at h
  split at h
  · cases h
    rfl
  · split at h
    · cases h
      rfl
    · cases h
      rfl

theorem scansAs_lineEnd (hc : isLineEnd c = true) (hpair : ¬ (c = '\r' ∧ cs.head? = some '\n')) :
    ScansAs previous (c :: cs) .whitespace 1 := by
  refine ⟨c, cs, Nat.succ_pos _, rfl, ?_⟩
  rw [scanCode, if_neg (by simpa using hpair), if_pos hc]

theorem scansAs_blanks (hc : isBlank c = true) (hline : isLineEnd c = false) :
    ScansAs previous (c :: cs) .whitespace (blankExtent cs + 1) := by
  refine ⟨c, cs, Nat.succ_pos _, rfl, ?_⟩
  have hreturn : c ≠ '\r' := by
    rintro rfl
    cases hline
  rw [scanCode, if_neg (by simp [hreturn]), if_neg (by simp [hline]), if_pos hc]

/-- Blanks end before a character that is none. -/
theorem scansAs_blanks_append (hc : isBlank c = true) (hline : isLineEnd c = false)
    (hall : blankExtent cs = cs.length) (hrest : rest.head?.all (fun d => !isBlank d) = true) :
    ScansAs previous (c :: (cs ++ rest)) .whitespace (cs.length + 1) := by
  have hstop : rest.head?.all (fun d => !(isBlank d && !isLineEnd d)) = true := by
    cases rest with
    | nil => rfl
    | cons d rest =>
      have hd : isBlank d = false := by simpa using hrest
      simp [hd]
  have hextent : blankExtent (cs ++ rest) = cs.length := length_takeWhile_append hall hstop
  have hscan : ScansAs previous (c :: (cs ++ rest)) .whitespace (blankExtent (cs ++ rest) + 1) :=
    scansAs_blanks hc hline
  rwa [hextent] at hscan

theorem scansAs_lineComment (cs : List Char) :
    ScansAs previous ('/' :: '/' :: cs) .comment (lineExtent ('/' :: cs) + 1) :=
  ⟨'/', '/' :: cs, Nat.succ_pos _, rfl, rfl⟩

/-- A comment that ends with its line ends before a line end. -/
theorem scansAs_lineComment_append (hall : lineExtent ('/' :: cs) = ('/' :: cs).length)
    (hrest : rest.head?.all isLineEnd = true) :
    ScansAs previous ('/' :: '/' :: (cs ++ rest)) .comment (cs.length + 2) := by
  have hstop : rest.head?.all (fun d => !!isLineEnd d) = true := by
    simpa only [Bool.not_not] using hrest
  have hextent : lineExtent (('/' :: cs) ++ rest) = cs.length + 1 :=
    length_takeWhile_append hall hstop
  have hscan : ScansAs previous ('/' :: '/' :: (cs ++ rest)) .comment
      (lineExtent ('/' :: (cs ++ rest)) + 1) := scansAs_lineComment (cs ++ rest)
  rwa [← List.cons_append, hextent] at hscan

theorem scansAs_blockComment {n : Nat} (h : commentExtent? cs = some n) :
    ScansAs previous ('/' :: '*' :: cs) .comment (n + 2) := by
  refine ⟨'/', '*' :: cs, Nat.succ_pos _, rfl, ?_⟩
  rw [scanCode, if_neg (by simp), if_neg (by decide), if_neg (by decide), if_neg (by simp),
    if_pos (by simp), List.tail_cons, h]

theorem scansAs_word (hblank : isBlank c = false) (hc : isIdentifierStart c = true) :
    ScansAs previous (c :: cs) (scanWord .ecma c cs).kind (wordExtent cs + 1) := by
  refine ⟨c, cs, Nat.succ_pos _, rfl, ?_⟩
  have hreturn : c ≠ '\r' := ne_of_not_isBlank hblank (by decide)
  have hslash : c ≠ '/' := by
    rintro rfl
    cases hc
  have hscan : scanCode .ecma previous c cs = .ok (scanWord .ecma c cs) := by
    simp [scanCode, hreturn, isLineEnd_of_not_isBlank hblank, hblank, hslash, hc]
  exact hscan

/-- A word that ends goes no further, and so it is a keyword as before or none. -/
theorem scansAs_word_append (hblank : isBlank c = false) (hc : isIdentifierStart c = true)
    (hall : wordExtent cs = cs.length)
    (hrest : rest.head?.all (fun d => !isIdentifierPart d) = true) :
    ScansAs previous (c :: (cs ++ rest)) (scanWord .ecma c cs).kind (cs.length + 1) := by
  have hextent : wordExtent (cs ++ rest) = cs.length := length_takeWhile_append hall hrest
  have hword : (scanWord .ecma c (cs ++ rest)).kind = (scanWord .ecma c cs).kind := by
    simp [scanWord, hextent, hall]
  have hscan : ScansAs previous (c :: (cs ++ rest)) (scanWord .ecma c (cs ++ rest)).kind
      (wordExtent (cs ++ rest) + 1) := scansAs_word hblank hc
  rwa [hextent, hword] at hscan

theorem scansAs_string {n : Nat} (hc : c = '\x22' ∨ c = '\x27') (h : stringExtent? c cs = some n) :
    ScansAs previous (c :: cs) .stringLiteral (n + 1) := by
  refine ⟨c, cs, Nat.succ_pos _, rfl, ?_⟩
  have hblank : isBlank c = false := by rcases hc with rfl | rfl <;> decide
  have hword : isIdentifierStart c = false := by rcases hc with rfl | rfl <;> decide
  have hnumber : startsNumber c cs = false := by rcases hc with rfl | rfl <;> simp [startsNumber]
  have hreturn : c ≠ '\r' := ne_of_not_isBlank hblank (by decide)
  have hslash : c ≠ '/' := by rcases hc with rfl | rfl <;> decide
  simp [scanCode, hreturn, isLineEnd_of_not_isBlank hblank, hblank, hslash, hword, hnumber, hc, h]

/-! ### Punctuators -/

/-- What the scanner asks of a text before it looks for a punctuator is true of no punctuator but
those that start with a slash, and none of them stands behind a shorter one. -/
theorem punctuators_spec : ∀ p ∈ Language.ecma.punctuators,
    p.toList.all (fun d => !isBlank d) = true ∧
    p.toList.head?.all (fun d => !isIdentifierStart d && d != '\x22' && d != '\x27' &&
      d != templateQuote && !startsNumber d p.toList.tail) = true ∧
    Language.ecma.punctuators.find? (fun q => q.toList.isPrefixOf p.toList) = some p := by
  decide +kernel

theorem isDigit_of_isBlank (h : isBlank c = true) : c.isDigit = false := by
  rw [Bool.eq_false_iff]
  intro hdigit
  have hrange : 48 ≤ c.toNat ∧ c.toNat ≤ 57 := Char.isDigit_iff_toNat.1 hdigit
  rw [isBlank, Bool.or_eq_true, beq_iff_eq] at h
  rcases h with h | rfl
  · obtain ⟨run, hrun, hlo, hhi⟩ := CodePoints.holds_eq_true_imp h
    -- no run of white space reaches into the digits
    have happart : ∀ r ∈ whiteSpaceRuns, r.2 < 48 ∨ 57 < r.1 := by decide
    have hrun := happart run hrun
    omega
  · cases hdigit

/-- A punctuator ends before a blank, since none has a blank in it. -/
theorem find?_punctuators_append {p : String} (hp : p ∈ Language.ecma.punctuators)
    (hrest : rest.head?.all isBlank = true) :
    Language.ecma.punctuators.find? (fun q => q.toList.isPrefixOf (p.toList ++ rest)) = some p := by
  rw [← (punctuators_spec p hp).2.2, ← List.head?_filter, ← List.head?_filter]
  refine congrArg List.head? (List.filter_congr fun q hq => ?_)
  rw [Bool.eq_iff_iff, List.isPrefixOf_iff_prefix, List.isPrefixOf_iff_prefix]
  constructor
  · intro hprefix
    rcases List.prefix_or_prefix_of_prefix hprefix (List.prefix_append p.toList rest) with hle | hle
    · exact hle
    · -- a longer one would go on with the blank
      obtain ⟨more, hmore⟩ := hle
      rw [← hmore] at hprefix ⊢
      cases more with
      | nil => simp
      | cons d more =>
        exfalso
        obtain ⟨behind, hbehind⟩ := hprefix
        rw [List.append_assoc, List.append_cancel_left_eq] at hbehind
        rw [← hbehind] at hrest
        have hblank : isBlank d = true := by simpa using hrest
        have hd := List.all_eq_true.1 (punctuators_spec q hq).1 d (by simp [← hmore])
        rw [hblank] at hd
        cases hd
  · intro hprefix
    exact hprefix.trans (List.prefix_append p.toList rest)

theorem scansAs_punctuator {p : String} (hp : p ∈ Language.ecma.punctuators)
    (hcs : p.toList = c :: cs) (hslash : c ≠ '/') (hrest : rest.head?.all isBlank = true) :
    ScansAs previous (c :: (cs ++ rest)) .punctuator (cs.length + 1) := by
  refine ⟨c, cs ++ rest, Nat.succ_pos _, rfl, ?_⟩
  obtain ⟨hblanks, hfirst, -⟩ := punctuators_spec p hp
  have hfind := find?_punctuators_append hp hrest
  rw [hcs] at hblanks hfirst
  have hblank : isBlank c = false := by simpa using List.all_eq_true.1 hblanks c List.mem_cons_self
  simp only [List.head?_cons, Option.all_some, List.tail_cons, Bool.and_eq_true, bne_iff_ne, ne_eq,
    Bool.not_eq_true'] at hfirst
  obtain ⟨⟨⟨⟨hword, hdouble⟩, hsingle⟩, htemplate⟩, hnumber⟩ := hfirst
  have hreturn : c ≠ '\r' := ne_of_not_isBlank hblank (by decide)
  have hnumber : startsNumber c (cs ++ rest) = false := by
    cases cs with
    | nil =>
      cases rest with
      | nil => exact hnumber
      | cons d rest =>
        simp only [startsNumber, Bool.or_eq_false_iff] at hnumber ⊢
        have hd : isBlank d = true := by simpa using hrest
        exact ⟨hnumber.1, by simp [isDigit_of_isBlank hd]⟩
    | cons d cs => exact hnumber
  -- the first character of a punctuator leaves all other branches behind
  have hscan : scanCode .ecma previous c (cs ++ rest) = scanPunctuator .ecma c (cs ++ rest) := by
    simp [scanCode, scanSign, scanScriptSign, hreturn, isLineEnd_of_not_isBlank hblank, hblank,
      hslash, hword, hnumber, hdouble, hsingle, htemplate]
  rw [hscan, scanPunctuator]
  split
  · next q hq =>
    rw [hcs] at hfind
    obtain rfl : q = p := Option.some.inj (hq.symm.trans hfind)
    simp [hcs]
  · next hnone =>
    rw [hcs] at hfind
    cases hnone.symm.trans hfind

/-- At the start of a text a slash is no punctuator. -/
theorem ne_slash_of_punctuator {s : Scan} (h : scanCode .ecma none c cs = .ok s)
    (hkind : s.kind = .punctuator) : c ≠ '/' := by
  rintro rfl
  -- it starts a comment, or else a regular expression, since nothing stands before it
  unfold scanCode at h
  rw [if_neg (by simp), if_neg (by decide), if_neg (by decide)] at h
  split at h
  · cases h
    cases hkind
  · split at h
    · split at h
      · cases h
        cases hkind
      · cases h
    · rw [if_neg (by decide), if_neg (by decide), if_neg (by simp [startsNumber]),
        if_neg (by decide)] at h
      dsimp only [scanSign, scanScriptSign] at h
      rw [if_neg (by decide), if_pos (by decide)] at h
      split at h
      · cases h
        cases hkind
      · cases h

/-! ### A readable token in a longer text -/

namespace PlainToken

variable {u v : PlainToken}

/-- A readable token is scanned as a whole. -/
theorem Readable.exists_scan (h : u.Readable) : ∃ c cs s, u.lexeme.toList = c :: cs ∧
    scanCode .ecma none c cs = .ok s ∧ s.kind = u.kind ∧ s.length = cs.length + 1 := by
  obtain ⟨⟨t, after⟩, hnext, ht⟩ := Option.map_eq_some_iff.1 h
  rw [Pull.token?_eq_some_iff] at hnext
  obtain ⟨c, cs, s, -, hrest, hscan, rfl, -⟩ := Lexer.pull_eq_token hnext
  have hlexeme : u.lexeme.toList = c :: cs := hrest
  refine ⟨c, cs, s, hlexeme, hscan, congrArg PlainToken.kind ht, ?_⟩
  have hle : s.length ≤ cs.length + 1 := scan_length_le hscan
  have htake : (c :: cs).take s.length = c :: cs := by
    have hkept := congrArg (String.toList ∘ PlainToken.lexeme) ht
    simpa [Token.plain, Lexer.tokenOf, Lexer.ofText, hlexeme] using hkept
  have hlength := congrArg List.length htake
  rw [List.length_take, List.length_cons] at hlength
  omega

/-- **A token that ends is scanned in any text as it is by itself**, whatever stands before it. -/
theorem Readable.scansAs (h : u.Readable) (hends : u.endsBefore rest.head? = true)
    (previous : Option Significant) :
    ScansAs previous (u.lexeme.toList ++ rest) u.kind u.lexeme.toList.length := by
  obtain ⟨c, cs, s, hlexeme, hscan, hkind, hlength⟩ := h.exists_scan
  have htoken := codeToken_of_scanCode hscan
  rw [hlexeme, List.cons_append, List.length_cons]
  rw [hlength, hkind] at htoken
  generalize htransition : s.transition = transition at htoken
  generalize hn : cs.length + 1 = n at htoken
  generalize hk : u.kind = kind at htoken
  simp only [endsBefore, hk] at hends
  -- what starts with a blank would be blanks, and so the scanner goes on to the branches for code
  have hblank : kind ≠ .whitespace → isBlank c = false := by
    intro hne
    rw [Bool.eq_false_iff]
    intro hc
    rw [kind_of_isBlank hscan hc] at hkind
    exact hne (hk.symm.trans hkind.symm)
  cases htoken with
  | lineEndPair hc hcs =>
    obtain ⟨d, rfl⟩ := List.length_eq_one_iff.1 (Nat.succ.inj hn)
    cases hcs
    subst hc
    exact ⟨'\r', '\n' :: rest, Nat.succ_pos _, rfl, rfl⟩
  | lineEnd hc hpair =>
    obtain rfl := List.length_eq_zero_iff.1 (Nat.succ.inj hn)
    refine scansAs_lineEnd hc ?_
    rintro ⟨rfl, hnext⟩
    -- a line feed would belong to the same line end
    have hends : (u.lexeme == "\n" || rest.head?.all fun d => !isBlank d) = true := hends
    rw [show rest.head? = some '\n' from hnext, Bool.or_eq_true, beq_iff_eq] at hends
    rcases hends with hfeed | hnotBlank
    · rw [hfeed] at hlexeme
      cases hlexeme
    · cases hnotBlank
  | blanks hc hline =>
    have hends : (u.lexeme == "\n" || rest.head?.all fun d => !isBlank d) = true := hends
    rcases Bool.or_eq_true_iff.1 hends with hfeed | hnotBlank
    · rw [beq_iff_eq.1 hfeed] at hlexeme
      cases hlexeme
      cases hline
    · rw [← hn]
      exact scansAs_blanks_append hc hline (Nat.succ.inj hn).symm hnotBlank
  | lineComment hc hcs =>
    obtain ⟨cs, rfl⟩ := List.head?_eq_some_iff.1 hcs
    subst hc
    rw [← hn]
    exact scansAs_lineComment_append (Nat.succ.inj hn).symm hends
  | blockComment hc hcs m hm =>
    obtain ⟨cs, rfl⟩ := List.head?_eq_some_iff.1 hcs
    subst hc
    exact scansAs_blockComment (commentExtent?_append hm)
  | keyword hc hword =>
    have hall := Nat.succ.inj hn
    have hkeyword : (scanWord .ecma c cs).kind = .keyword := if_pos hword
    rw [← hkeyword, ← hn]
    exact scansAs_word_append (hblank (by simp)) hc hall.symm hends
  | identifier hc hword =>
    have hall := Nat.succ.inj hn
    have hidentifier : (scanWord .ecma c cs).kind = .identifier :=
      if_neg (Bool.eq_false_iff.1 hword)
    rw [← hidentifier, ← hn]
    exact scansAs_word_append (hblank (by simp)) hc hall.symm hends
  | string hc m hm => exact scansAs_string hc (stringExtent?_append hm)
  | punctuator p hp hcs =>
    have hsign : p.toList = c :: cs := hcs.eq_of_length hn.symm
    rw [← hn]
    exact scansAs_punctuator hp hsign (ne_slash_of_punctuator hscan (hkind.trans hk)) hends
  | directive | number | templateStart | regex => cases hends

theorem Readable.exists_cons (h : u.Readable) :
    ∃ c cs, u.lexeme.toList = c :: cs ∧ (u.kind ≠ .whitespace → isBlank c = false) := by
  obtain ⟨c, cs, s, hlexeme, hscan, hkind, -⟩ := h.exists_scan
  refine ⟨c, cs, hlexeme, fun hne => ?_⟩
  rw [Bool.eq_false_iff]
  intro hc
  exact hne (hkind.symm.trans (kind_of_isBlank hscan hc))

/-! ### Tokens one behind the other -/

end PlainToken

/-- The text of some tokens. -/
def spell (us : List PlainToken) : List Char := us.flatMap fun u => u.lexeme.toList

/-- Every token is one by itself, and each ends where the next one starts, the last one before
`rest`. -/
def Legible : List PlainToken → List Char → Prop
  | [], _ => True
  | u :: us, rest => u.Readable ∧ u.endsBefore (spell us ++ rest).head? = true ∧ Legible us rest

variable {u : PlainToken} {us vs : List PlainToken}

@[simp] theorem spell_nil : spell [] = [] := rfl

@[simp] theorem spell_cons (u : PlainToken) (us : List PlainToken) :
    spell (u :: us) = u.lexeme.toList ++ spell us := List.flatMap_cons

@[simp] theorem spell_append (us vs : List PlainToken) : spell (us ++ vs) = spell us ++ spell vs :=
  List.flatMap_append

theorem legible_append_iff :
    Legible (us ++ vs) rest ↔ Legible us (spell vs ++ rest) ∧ Legible vs rest := by
  induction us with
  | nil => simp [Legible]
  | cons u us ih => simp [Legible, ih, and_assoc]

/-- The token by which a slash is told behind some token, if it was `previous` before it. -/
def PlainToken.behind (u : PlainToken) (previous : Option Significant) : Option Significant :=
  if u.kind.isTrivia then previous else some (u.kind, u.lexeme)

/-- A text of code is scanned as some tokens, up to `rest`. -/
def Scans : Option Significant → List PlainToken → List Char → Prop
  | _, [], _ => True
  | previous, u :: us, rest =>
    ScansAs previous (u.lexeme.toList ++ (spell us ++ rest)) u.kind u.lexeme.toList.length ∧
      Scans (u.behind previous) us rest

theorem Legible.scans (h : Legible us rest) (previous : Option Significant) :
    Scans previous us rest := by
  induction us generalizing previous with
  | nil => trivial
  | cons u us ih =>
    obtain ⟨hu, hends, hus⟩ := h
    exact ⟨hu.scansAs hends previous, ih hus _⟩

/-- A lexer that reads code at the top level and has met no error. -/
structure Lexer.ReadsCode (lx : Lexer) : Prop where
  /-- The text is a script. -/
  language : lx.language = .ecma
  /-- The lexer is in no template. -/
  entered : lx.entered = []
  /-- The lexer can go on. -/
  going : lx.failed = false

/-- A lexer that reads code pulls what is scanned. -/
theorem Lexer.ReadsCode.pull_eq {lx : Lexer} (h : lx.ReadsCode) {kind : TokenKind} {n : Nat}
    (hscans : ScansAs lx.previous lx.rest kind n) :
    lx.pull = .token (lx.tokenOf kind n) (lx.pass kind n) := by
  obtain ⟨c, cs, hpos, htext, hscan⟩ := hscans
  have hmode : lx.mode = .script := by
    simp [Lexer.mode, h.entered, h.language, Language.baseMode]
  rw [Lexer.pull, if_neg (by simp [h.going]), htext, hmode, h.language]
  dsimp only [scan]
  rw [hscan]
  rfl

theorem PlainToken.readable_of_scansAs
    (h : ScansAs none u.lexeme.toList u.kind u.lexeme.toList.length) : u.Readable := by
  have hstart : (Lexer.ofText .ecma u.lexeme.toList).ReadsCode := ⟨rfl, rfl, rfl⟩
  rw [Readable, hstart.pull_eq h]
  simp [Pull.token?, Token.plain, Lexer.tokenOf, Lexer.ofText]

/-- A token that is scanned is pulled. -/
theorem Lexer.ReadsCode.exists_pull {lx : Lexer} (h : lx.ReadsCode)
    (hscans : ScansAs lx.previous lx.rest u.kind u.lexeme.toList.length)
    (hrest : lx.rest = u.lexeme.toList ++ rest) :
    ∃ t after, lx.pull = .token t after ∧ t.plain = u ∧ after.ReadsCode ∧ after.rest = rest ∧
      after.previous = u.behind lx.previous := by
  have htake : lx.rest.take u.lexeme.toList.length = u.lexeme.toList := by
    rw [hrest, List.take_left' rfl]
  refine ⟨_, _, h.pull_eq hscans, ?_, ⟨h.language, h.entered, h.going⟩, ?_, ?_⟩
  · rw [Token.plain, Lexer.tokenOf, htake, String.ofList_toList]
  · rw [Lexer.pass, hrest]
    exact List.drop_left' rfl
  · simp only [Lexer.pass, htake, String.ofList_toList, PlainToken.behind]

/-! ### The pass over them -/

/-- What some tokens do to what is open; their places do not matter. -/
def FlatStack.feedPlain (s : FlatStack) (us : List PlainToken) : Option FlatStack :=
  s.feedAll (us.map fun u => u.placed .start)

theorem FlatStack.feedPlain_cons (s : FlatStack) (u : PlainToken) (us : List PlainToken) :
    s.feedPlain (u :: us) = (s.feed (u.placed .start)).bind fun next => next.feedPlain us := rfl

theorem FlatStack.feedPlain_append (s : FlatStack) (us vs : List PlainToken) :
    s.feedPlain (us ++ vs) = (s.feedPlain us).bind fun next => next.feedPlain vs := by
  rw [feedPlain, List.map_append, feedAll_append]
  rfl

namespace Pass

variable {p : Pass}

/-- A pass takes a token that is scanned and fits. -/
theorem exists_step (hp : p.lexer.ReadsCode)
    (hscans : ScansAs p.lexer.previous p.lexer.rest u.kind u.lexeme.toList.length)
    (hrest : p.lexer.rest = u.lexeme.toList ++ rest) {next : FlatStack}
    (hfeed : p.contexts.openings.feed (u.placed .start) = some next) :
    ∃ q, p.step? = some q ∧ q.lexer.ReadsCode ∧ q.lexer.rest = rest ∧
      q.lexer.previous = u.behind p.lexer.previous ∧ q.contexts.openings = next ∧
      q.tokens.map Token.plain = p.tokens.map Token.plain ++ [u] := by
  obtain ⟨t, after, hpull, ht, hafter, hrest', hprevious⟩ := hp.exists_pull hscans hrest
  -- where a token stands does not matter to the stack
  have hfit : p.contexts.openings.feed t = some next := by
    rw [← hfeed, ← ht]
    rfl
  cases htake : p.take t after with
  | error m =>
    have hmisfit := (misfit_of_take hpull htake).1
    rw [hfit] at hmisfit
    cases hmisfit
  | ok q =>
    obtain ⟨hcontexts, hlexer⟩ := take_spec hpull htake
    refine ⟨q, step?_eq_some_iff.2 ⟨t, after, hpull, htake⟩, ?_, ?_, ?_, ?_, ?_⟩
    · rw [hlexer]
      split
      · exact ⟨hafter.language, by simp [Lexer.leave, hafter.entered], hafter.going⟩
      · exact hafter
    · rw [take_rest htake, hrest']
    · rw [hlexer, ← hprevious]
      split <;> rfl
    · obtain ⟨s, hs, hopenings⟩ | ⟨herror, -⟩ := ContextStack.feedsAlike_atToken p.contexts t
      · cases hcontexts.symm.trans hs
        exact Option.some.inj (hopenings.symm.trans hfit)
      · cases hcontexts.symm.trans herror
    · rw [tokens_of_take htake, List.map_append, ← ht]
      rfl

/-- A pass gets through a text that is scanned as some tokens whose brackets fit. -/
theorem exists_reaches (hp : p.lexer.ReadsCode) (hscans : Scans p.lexer.previous us rest)
    (hrest : p.lexer.rest = spell us ++ rest) {s : FlatStack}
    (hfeed : p.contexts.openings.feedPlain us = some s) :
    ∃ q, Reaches p q ∧ q.lexer.rest = rest ∧ q.contexts.openings = s ∧
      q.tokens.map Token.plain = p.tokens.map Token.plain ++ us := by
  -- behind its first token, the pass stands before the text of the others
  induction us generalizing p with
  | nil =>
    refine ⟨p, .refl, hrest, Option.some.inj hfeed, ?_⟩
    rw [List.append_nil]
  | cons u us ih =>
    obtain ⟨hu, hus⟩ := hscans
    rw [spell_cons, List.append_assoc] at hrest
    rw [← hrest] at hu
    obtain ⟨next, hnext, hfeed⟩ := Option.bind_eq_some_iff.1 hfeed
    obtain ⟨q, hstep, hq, hrest', hprevious, hopenings, htokens⟩ := exists_step hp hu hrest hnext
    rw [← hopenings] at hfeed
    rw [← hprevious] at hus
    obtain ⟨r, hreaches, hend, hs, htokens'⟩ := ih hq hus hrest' hfeed
    refine ⟨r, .head hstep hreaches, hend, hs, ?_⟩
    rw [htokens', htokens, List.append_assoc]
    rfl

end Pass

/-- Tokens as which a text is scanned, with balanced brackets, are the tokens of a pass over it. -/
theorem tokens_of_scans (hscans : Scans none us [])
    (hbalanced : FlatStack.feedPlain [] us = some []) :
    (extract .ecma (spell us)).tokens.map Token.plain = us ∧
      ∃ x, (extract .ecma (spell us)).outcome = .ok x := by
  have hstart : (Pass.ofLexer (.ofText .ecma (spell us))).lexer.ReadsCode := ⟨rfl, rfl, rfl⟩
  obtain ⟨q, hreaches, hrest, hopenings, htokens⟩ :=
    Pass.exists_reaches hstart hscans (List.append_nil _).symm hbalanced
  have hends : q.Ends ⟨q.finish, q.lexer, q.seen.reverse⟩ :=
    .finished (Lexer.pull_eq_finished_iff.2 (.inr hrest))
  have hresult : extract .ecma (spell us) = ⟨q.finish, q.lexer, q.seen.reverse⟩ :=
    (Pass.run_of_reaches hreaches).trans (Pass.run_of_ends hends)
  rw [hresult]
  exact ⟨htokens, Pass.finish_of_nil hopenings⟩

/-- **Legible tokens with balanced brackets are read back** from the text that they spell. -/
theorem tokens_of_legible (hlegible : Legible us [])
    (hbalanced : FlatStack.feedPlain [] us = some []) :
    (extract .ecma (spell us)).tokens.map Token.plain = us ∧
      ∃ x, (extract .ecma (spell us)).outcome = .ok x :=
  tokens_of_scans (hlegible.scans none) hbalanced

end ImportScan
