import Mathlib.Data.List.Induction
import ImportScan.Proofs.LookAhead
import ImportScan.Proofs.PrintedImport

/-!
# Tokens with blanks between them

What stands behind a token matters little for the scanner, and what stands before it only for a
slash.  So tokens that are printed with blanks between them are read back if each of them is a token
behind the one before it.  There is no other way: if a text of such tokens is accepted, and its
tokens with meaning have the texts that were printed, then each of them is one behind the one before
it.

## Main definitions

* `Spaced`, `Spaced.text`, `Spaced.tokens` — tokens with the blanks behind each of them, what they
  spell, and all tokens of that text.
* `Spaced.Scans` — each of the tokens is one behind the one before it.

## Main results

* `ScansAs.before` — a token that is none of blanks or comments is scanned before any gap or comma,
  if it is scanned before something.
* `Spaced.Scans.scans` — such tokens are scanned with the blanks between them.
* `Pass.Reaches.scans` — a pass that has seen no piece of a template has scanned what it has seen.
* `Spaced.scans_of_scans` — **tokens with meaning that are scanned from a spaced text are scanned
  each behind the one before it**.
-/

namespace ImportScan

/-! ### What stands around a token -/

section

variable {l : Language} {previous previous' : Option Significant} {kind : TokenKind} {c d : Char}
  {cs rest w : List Char}

/-- What stands before a token says only whether a slash starts a regular expression. -/
theorem scanCode_congr (h : regexAllowed previous = regexAllowed previous') (c : Char)
    (cs : List Char) : scanCode l previous c cs = scanCode l previous' c cs := by
  have hsign : scanSign l previous c cs = scanSign l previous' c cs := by
    cases l with
    | ecma => simp only [scanSign, scanScriptSign, h]
    | c => rfl
  simp only [scanCode, hsign]

/-- A token of a script that is none of blanks or comments does not go on with what ends tokens. -/
theorem Branch.endsAt_of_isTrivia {s : Scan} (hscan : scanCode .ecma previous c cs = .ok s)
    (hkind : s.kind.isTrivia = false) (d : Char) :
    (branch .ecma previous c cs.head?).endsAt d = true := by
  have htoken := codeToken_of_scanCode hscan
  rw [scanCode_eq] at hscan
  generalize branch .ecma previous c cs.head? = b at hscan
  cases b with
  | lineEnd | blanks | lineComment =>
    cases hscan
    cases hkind
  | directive =>
    -- a script has none
    cases hscan
    generalize htransition : Transition.stay = transition at htoken
    cases htoken with
    | directive _ hl => cases hl
  | _ => rfl

/-- A token of code that is none of blanks or comments is scanned before whatever ends tokens, if it
is scanned before something, and behind whatever says the same of a slash. -/
theorem ScansAs.before (h : ScansAs previous (w ++ rest) kind w.length)
    (hkind : kind.isTrivia = false) (hallowed : regexAllowed previous = regexAllowed previous')
    (hd : EndsTokens d) (rest' : List Char) :
    ScansAs previous' (w ++ d :: rest') kind w.length := by
  obtain ⟨c, cs, hpos, htext, hscan⟩ := h
  cases w with
  | nil => simp at hpos
  | cons c' known =>
    obtain ⟨rfl, rfl⟩ := List.cons.inj htext
    refine ⟨c', known ++ d :: rest', hpos, rfl, ?_⟩
    rw [← scanCode_congr hallowed]
    refine scanCode_of_known hd hscan ?_ (.inr (Branch.endsAt_of_isTrivia hscan hkind d))
    simp

/-- A token of code that is none of blanks or comments starts with no blank. -/
theorem ScansAs.exists_cons (h : ScansAs previous (w ++ rest) kind w.length)
    (hkind : kind.isTrivia = false) : ∃ c cs, w = c :: cs ∧ isBlank c = false := by
  obtain ⟨c, cs, hpos, htext, hscan⟩ := h
  cases w with
  | nil => simp at hpos
  | cons c' known =>
    obtain ⟨rfl, rfl⟩ := List.cons.inj htext
    refine ⟨c', known, rfl, ?_⟩
    rw [Bool.eq_false_iff]
    intro hc
    have hblank := kind_of_isBlank hscan hc
    subst hblank
    cases hkind

end

theorem endsTokens_blank : EndsTokens ' ' := IsGap.endsTokens (.inl rfl)

theorem endsTokens_comma : EndsTokens ',' where
  not_isIdentifierPart := by decide +kernel
  not_isNumberPart := by decide
  notMem_signs := by decide
  notMem_tail := by
    have hall : ∀ l : Language,
        l.punctuators.all (fun p => !p.toList.tail.contains ',') = true := by
      intro l
      cases l <;> decide +kernel
    intro l p hp
    simpa using List.all_eq_true.1 (hall l) p hp

/-! ### Scanned tokens one behind the other -/

section

variable {previous : Option Significant} {us vs : List PlainToken} {rest : List Char}

theorem scans_append_iff :
    Scans previous (us ++ vs) rest ↔ Scans previous us (spell vs ++ rest) ∧
      Scans (us.foldl (fun previous u => u.behind previous) previous) vs rest := by
  induction us generalizing previous with
  | nil => simp [Scans]
  | cons u us ih => simp [Scans, ih, and_assoc]

/-- Blanks and comments say nothing of a slash. -/
theorem foldl_behind_of_not_isVisible (h : ∀ u ∈ us, u.isVisible = false) :
    us.foldl (fun previous u => u.behind previous) previous = previous := by
  induction us with
  | nil => rfl
  | cons u us ih =>
    obtain ⟨hu, hus⟩ := List.forall_mem_cons.1 h
    have hkind : u.kind.isTrivia = true := PlainToken.isVisible_eq_false_iff.1 hu
    rw [List.foldl_cons, PlainToken.behind, if_pos hkind, ih hus]

theorem PlainToken.behind_of_isVisible {u : PlainToken} (h : u.isVisible = true) :
    u.behind previous = some (u.kind, u.lexeme) := by
  rw [PlainToken.behind, if_neg (by simp [isVisible_iff.1 h])]

end

/-! ### Tokens and the blanks behind them -/

/-- Some tokens, each with the blanks behind it. -/
abbrev Spaced := List (PlainToken × List Char)

namespace Spaced

/-- What the tokens and the blanks spell. -/
def text (ws : Spaced) : List Char := ws.flatMap fun w => w.1.lexeme.toList ++ w.2

/-- The blanks behind a token are one token, if there are some. -/
def gapTokens (gap : List Char) : List PlainToken :=
  if gap = [] then [] else [⟨.whitespace, String.ofList gap⟩]

/-- All tokens of the text. -/
def tokens (ws : Spaced) : List PlainToken := ws.flatMap fun w => w.1 :: gapTokens w.2

/-- The tokens have a meaning, and there is nothing but blanks behind them. -/
structure IsRegular (ws : Spaced) : Prop where
  /-- No token is made of blanks, and none is a comment. -/
  isVisible : ∀ w ∈ ws, w.1.isVisible = true
  /-- The blanks do not end the line. -/
  eq_blank : ∀ w ∈ ws, ∀ c ∈ w.2, c = ' '

/-- Each of the tokens is scanned behind the one before it. -/
def Scans : Option Significant → Spaced → Prop
  | _, [] => True
  | previous, (u, gap) :: ws =>
    ScansAs previous (u.lexeme.toList ++ (gap ++ text ws)) u.kind u.lexeme.toList.length ∧
      Scans (some (u.kind, u.lexeme)) ws

variable {u : PlainToken} {gap : List Char} {ws : Spaced} {us : List PlainToken}
  {previous : Option Significant}

@[simp] theorem text_nil : text [] = [] := rfl

@[simp] theorem text_cons :
    text ((u, gap) :: ws) = u.lexeme.toList ++ (gap ++ text ws) := by
  rw [text, List.flatMap_cons, List.append_assoc]
  rfl

theorem text_append (ws ws' : Spaced) : text (ws ++ ws') = text ws ++ ws'.text :=
  List.flatMap_append

theorem tokens_cons : tokens ((u, gap) :: ws) = u :: (gapTokens gap ++ tokens ws) := by
  rw [tokens, List.flatMap_cons, List.cons_append]
  rfl

theorem spell_gapTokens (gap : List Char) : spell (gapTokens gap) = gap := by
  unfold gapTokens
  split
  · next hnil => rw [hnil, spell_nil]
  · simp

theorem spell_tokens (ws : Spaced) : spell (tokens ws) = text ws := by
  induction ws with
  | nil => rfl
  | cons w ws ih =>
    obtain ⟨u, gap⟩ := w
    rw [text_cons, ← ih, tokens_cons, spell_cons, spell_append, spell_gapTokens]

theorem isRegular_cons_iff : IsRegular ((u, gap) :: ws) ↔
    u.isVisible = true ∧ (∀ c ∈ gap, c = ' ') ∧ IsRegular ws := by
  constructor
  · intro h
    obtain ⟨hu, hws⟩ := List.forall_mem_cons.1 h.isVisible
    obtain ⟨hgap, hws'⟩ := List.forall_mem_cons.1 h.eq_blank
    exact ⟨hu, hgap, hws, hws'⟩
  · rintro ⟨hu, hgap, hws⟩
    exact ⟨List.forall_mem_cons.2 ⟨hu, hws.isVisible⟩, List.forall_mem_cons.2 ⟨hgap, hws.eq_blank⟩⟩

theorem isRegular_append_iff {ws' : Spaced} :
    IsRegular (ws ++ ws') ↔ IsRegular ws ∧ IsRegular ws' := by
  constructor
  · intro h
    obtain ⟨hws, hws'⟩ := List.forall_mem_append.1 h.isVisible
    obtain ⟨hgaps, hgaps'⟩ := List.forall_mem_append.1 h.eq_blank
    exact ⟨⟨hws, hgaps⟩, hws', hgaps'⟩
  · rintro ⟨hws, hws'⟩
    exact ⟨List.forall_mem_append.2 ⟨hws.isVisible, hws'.isVisible⟩,
      List.forall_mem_append.2 ⟨hws.eq_blank, hws'.eq_blank⟩⟩

theorem filter_tokens (h : IsRegular ws) :
    (tokens ws).filter PlainToken.isVisible = ws.map Prod.fst := by
  induction ws with
  | nil => rfl
  | cons w ws ih =>
    obtain ⟨u, gap⟩ := w
    obtain ⟨hu, -, hws⟩ := isRegular_cons_iff.1 h
    have hgap : (gapTokens gap).filter PlainToken.isVisible = [] := by
      unfold gapTokens
      split <;> rfl
    rw [tokens_cons, List.filter_cons_of_pos hu, List.filter_append, hgap, List.nil_append, ih hws,
      List.map_cons]

theorem scans_cons_iff_of_readable (hu : u.Readable)
    (hends : u.endsBefore (gap ++ text ws).head? = true) :
    Scans previous ((u, gap) :: ws) ↔ Scans (some (u.kind, u.lexeme)) ws :=
  ⟨And.right, fun h => ⟨hu.scansAs hends previous, h⟩⟩

/-- What is scanned starts with no blank. -/
theorem Scans.head?_text (h : Scans previous ws) (hws : IsRegular ws) :
    (text ws).head?.all (fun d => !isBlank d) = true := by
  cases ws with
  | nil => rfl
  | cons w ws =>
    obtain ⟨u, gap⟩ := w
    have hkind := PlainToken.isVisible_iff.1 (isRegular_cons_iff.1 hws).1
    obtain ⟨c, cs, hlexeme, hc⟩ := h.1.exists_cons hkind
    simp [hlexeme, hc]

/-- Tokens that are scanned each behind the one before it are scanned with the blanks between
them. -/
theorem Scans.scans (h : Scans previous ws) (hws : IsRegular ws) :
    ImportScan.Scans previous (tokens ws) [] := by
  induction ws generalizing previous with
  | nil => trivial
  | cons w ws ih =>
    obtain ⟨u, gap⟩ := w
    obtain ⟨hu, hrest⟩ := h
    obtain ⟨hvisible, hgap, hregular⟩ := isRegular_cons_iff.1 hws
    have htokens := ih hrest hregular
    rw [tokens_cons]
    refine ⟨?_, ?_⟩
    · rwa [spell_append, spell_gapTokens, spell_tokens, List.append_nil]
    · rw [PlainToken.behind_of_isVisible hvisible, scans_append_iff, spell_tokens, List.append_nil]
      -- a gap is one token of blanks, or none
      unfold gapTokens
      split
      · exact ⟨trivial, htokens⟩
      · next hne =>
        obtain ⟨c, more, rfl⟩ := List.exists_cons_of_ne_nil hne
        obtain ⟨rfl, hmore⟩ := List.forall_mem_cons.1 hgap
        have hextent : blankExtent more = more.length := by
          rw [blankExtent, List.takeWhile_eq_self_iff.2]
          intro d hd
          rw [hmore d hd]
          rfl
        have hblanks : ScansAs (some (u.kind, u.lexeme)) (' ' :: (more ++ text ws)) .whitespace
            (more.length + 1) :=
          scansAs_blanks_append rfl rfl hextent (hrest.head?_text hregular)
        refine ⟨⟨?_, trivial⟩, htokens⟩
        simpa using hblanks

/-- **Tokens with meaning that are scanned from a spaced text are scanned each behind the one before
it**: between them there is no room for anything but the blanks. -/
theorem scans_of_scans (hscans : ImportScan.Scans previous us []) (hws : IsRegular ws)
    (hvisible : us.filter PlainToken.isVisible = ws.map Prod.fst)
    (hblank : ∀ u ∈ us, u.isVisible = false → ∀ c ∈ u.lexeme.toList, isBlank c = true)
    (hgap : ∀ c ∈ gap, c = ' ') (htext : spell us = gap ++ text ws) : Scans previous ws := by
  induction ws generalizing us gap previous with
  | nil => trivial
  | cons w ws ih =>
    obtain ⟨u, gap'⟩ := w
    obtain ⟨hu, hgap', hws⟩ := isRegular_cons_iff.1 hws
    obtain ⟨before, behind, rfl, hbefore, -, hbehind⟩ := List.filter_eq_cons_iff.1 hvisible
    have hbefore : ∀ v ∈ before, v.isVisible = false := by simpa using hbefore
    obtain ⟨-, hscan, hscans⟩ := scans_append_iff.1 hscans
    rw [foldl_behind_of_not_isVisible hbefore] at hscan hscans
    rw [PlainToken.behind_of_isVisible hu] at hscans
    obtain ⟨c, cs, hlexeme, hc⟩ := hscan.exists_cons (PlainToken.isVisible_iff.1 hu)
    -- the token is the first that starts with no blank
    have hspell : ∀ d ∈ spell before, isBlank d = true := by
      intro d hd
      obtain ⟨v, hv, hd⟩ := List.mem_flatMap.1 hd
      exact hblank v (List.mem_append_left _ hv) (hbefore v hv) d hd
    have hspaces : ∀ d ∈ gap, isBlank d = true := by
      intro d hd
      rw [hgap d hd]
      rfl
    rw [spell_append, spell_cons, text_cons, hlexeme] at htext
    have hfirst := congrArg (List.takeWhile isBlank) htext
    rw [List.takeWhile_append_of_pos hspell, List.takeWhile_append_of_pos hspaces,
      List.cons_append, List.cons_append, List.takeWhile_cons_of_neg (by simp [hc]),
      List.takeWhile_cons_of_neg (by simp [hc]), List.append_nil, List.append_nil] at hfirst
    rw [hfirst, List.append_cancel_left_eq, List.append_cancel_left_eq] at htext
    rw [List.append_nil, htext] at hscan
    exact ⟨hscan, ih hscans hws hbehind (fun v hv => hblank v (by simp [hv])) hgap' htext⟩

end Spaced

/-! ### What a pass has scanned -/

/-- A token that is no piece of a template is scanned from the text. -/
theorem Lexer.scansAs_of_pull {lx after : Lexer} {t : Token} (hlanguage : lx.language = .ecma)
    (hpull : lx.pull = .token t after) (ht : t.kind ≠ .templateLiteral) :
    ScansAs lx.previous (t.lexeme.toList ++ after.rest) t.kind t.lexeme.toList.length ∧
      after.entered = lx.entered := by
  obtain ⟨hmode, hentered⟩ := (Lexer.moves_of_pull hpull).of_ne ht
  refine ⟨?_, hentered⟩
  rw [Lexer.pull_rest hpull]
  obtain ⟨c, cs, ⟨kind, n, transition, hpos⟩, -, hrest, hscan, rfl, -⟩ := pull_eq_token hpull
  rw [scan_of_isCode hmode, hlanguage] at hscan
  have hkind : kind ≠ .templateLiteral := ht
  obtain ⟨rfl, -⟩ | ⟨-, htemplate, -⟩ := (codeToken_of_scanCode hscan).transition
  · have hlength : (lx.rest.take n).length = n := by
      have hle : n ≤ (c :: cs).length := (codeToken_of_scanCode hscan).length_le
      rw [hrest, List.length_take, Nat.min_eq_left hle]
    rw [hrest]
    refine ⟨c, cs, ?_, rfl, ?_⟩ <;> simpa [tokenOf, hlength]
  · exact absurd htemplate hkind

/-- A lexer that reads code scans what it pulls, and goes on reading code unless that is a piece of
a template. -/
theorem Lexer.ReadsCode.of_pull {lx after : Lexer} {t : Token} (h : lx.ReadsCode)
    (hpull : lx.pull = .token t after) (ht : t.kind ≠ .templateLiteral) :
    ScansAs lx.previous (t.plain.lexeme.toList ++ after.rest) t.plain.kind
        t.plain.lexeme.toList.length ∧
      after.ReadsCode ∧ after.previous = t.plain.behind lx.previous := by
  obtain ⟨hscan, hentered⟩ := Lexer.scansAs_of_pull h.language hpull ht
  refine ⟨hscan, ?_⟩
  obtain ⟨c, cs, s, hgoing, -, -, rfl, rfl⟩ := pull_eq_token hpull
  refine ⟨⟨?_, hentered.trans h.entered, ?_⟩, ?_⟩
  · rw [Lexer.follow_language]
    exact h.language
  · rw [Lexer.follow_failed]
    exact hgoing
  · cases s.transition <;> rfl

/-- The first piece of a template is its quote. -/
theorem Lexer.ReadsCode.of_pull_template {lx after : Lexer} {t : Token} (h : lx.ReadsCode)
    (hpull : lx.pull = .token t after) (ht : t.kind = .templateLiteral) :
    t.lexeme = "\x60" ∧ after.mode = .template := by
  have hmode : lx.mode = .script := by
    simp [Lexer.mode, h.entered, h.language, Language.baseMode]
  obtain ⟨c, cs, s, -, hrest, hscan, rfl, rfl⟩ := pull_eq_token hpull
  rw [hmode, h.language] at hscan
  obtain ⟨-, hkind⟩ | ⟨htransition, -, hlength, hquote, -⟩ :=
    (codeToken_of_scanCode hscan).transition
  · exact absurd ht hkind
  · refine ⟨?_, by simp [htransition, Lexer.mode]⟩
    rw [tokenOf, hlength, hrest, hquote]
    rfl

namespace Pass

variable {p q : Pass} {t u : Token} {ts us : List Token} {lx : Lexer} {text : List Char}

/-- The tokens that a pass has seen spell what its lexer has passed. -/
theorem Reaches.spell_tokens (h : Reaches (ofLexer lx) p) :
    spell (p.tokens.map Token.plain) ++ p.lexer.rest = lx.rest := by
  induction h with
  | refl => rfl
  | @tail q r _ hstep ih =>
    obtain ⟨t, after, hpull, htake⟩ := step?_eq_some_iff.1 hstep
    rw [← ih, tokens_of_take htake, take_rest htake, ← Lexer.pull_rest hpull, List.map_append,
      spell_append]
    simp [Token.plain]

/-- A pass has been wherever some of the tokens that it has seen end. -/
theorem Reaches.exists_prefix (h : Reaches (ofLexer lx) p) (htokens : p.tokens = ts ++ us) :
    ∃ q, Reaches (ofLexer lx) q ∧ q.tokens = ts ∧
      q.lexer.rest = spell (us.map Token.plain) ++ p.lexer.rest := by
  obtain ⟨q, hreaches, hts⟩ : ∃ q, Reaches (ofLexer lx) q ∧ q.tokens = ts := by
    induction us using List.reverseRecOn generalizing p with
    | nil => exact ⟨p, h, by simpa using htokens⟩
    | append_singleton us u ih =>
      rw [← List.append_assoc] at htokens
      obtain ⟨q, after, hreaches, hbefore, -, -⟩ := h.exists_last htokens
      exact ih hreaches hbefore
  refine ⟨q, hreaches, hts, ?_⟩
  have htext := hreaches.spell_tokens.trans h.spell_tokens.symm
  rw [htokens, List.map_append, spell_append, hts, List.append_assoc] at htext
  exact List.append_cancel_left htext

/-- A pass that has seen no piece of a template still reads code, and has scanned what it has
seen. -/
theorem Reaches.scans (h : Reaches (ofLexer (.ofText .ecma text)) p)
    (hcode : ∀ t ∈ p.tokens, t.kind ≠ .templateLiteral) :
    p.lexer.ReadsCode ∧ Scans none (p.tokens.map Token.plain) p.lexer.rest ∧
      p.lexer.previous
        = (p.tokens.map Token.plain).foldl (fun previous u => u.behind previous) none := by
  induction h with
  | refl => exact ⟨⟨rfl, rfl, rfl⟩, trivial, rfl⟩
  | @tail q r _ hstep ih =>
    obtain ⟨t, after, hpull, htake⟩ := step?_eq_some_iff.1 hstep
    have htokens := tokens_of_take htake
    rw [htokens] at hcode ⊢
    obtain ⟨hq, ht⟩ := List.forall_mem_append.1 hcode
    obtain ⟨hreads, hscans, hprevious⟩ := ih hq
    have ht : t.kind ≠ .templateLiteral := by simpa using ht
    obtain ⟨hscan, hafter, hbehind⟩ := hreads.of_pull hpull ht
    obtain ⟨-, hlexer⟩ := take_spec hpull htake
    -- leaving a mode keeps the rest of the lexer
    have hkept : r.lexer.ReadsCode ∧ r.lexer.previous = after.previous := by
      rw [hlexer]
      split
      · exact ⟨⟨hafter.language, by simp [Lexer.leave, hafter.entered], hafter.going⟩, rfl⟩
      · exact ⟨hafter, rfl⟩
    rw [← Lexer.pull_rest hpull] at hscans
    rw [hprevious] at hscan hbehind
    refine ⟨hkept.1, ?_, ?_⟩
    · rw [List.map_append, scans_append_iff, take_rest htake]
      exact ⟨by simpa [Token.plain] using hscans, by simpa using hscan, trivial⟩
    · rw [hkept.2, hbehind, List.map_append, List.foldl_append]
      rfl

/-- The first piece of a template is its quote, and behind it stands another. -/
theorem Reaches.template_first (h : Reaches (ofLexer (.ofText .ecma text)) p)
    (htokens : p.tokens = ts ++ t :: us) (hcode : ∀ v ∈ ts, v.kind ≠ .templateLiteral)
    (ht : t.kind = .templateLiteral) :
    t.lexeme = "\x60" ∧ ∀ u us', us = u :: us' → u.kind = .templateLiteral := by
  -- behind the first template token the lexer is in a template
  have hfirst : ∀ {q : Pass}, Reaches (ofLexer (.ofText .ecma text)) q → q.tokens = ts ++ [t] →
      t.lexeme = "\x60" ∧ q.lexer.mode = .template := by
    intro q hq hqtokens
    obtain ⟨r, after, hr, hrtokens, hpull, htake⟩ := hq.exists_last hqtokens
    rw [← hrtokens] at hcode
    obtain ⟨hquote, hmode⟩ := (hr.scans hcode).1.of_pull_template hpull ht
    have hcloses : (r.contexts.atToken t).closesSubstitution t = false := by
      rw [Bool.eq_false_iff]
      intro hcloses
      cases ht.symm.trans (ContextStack.closesSubstitution_iff.1 hcloses).1
    obtain ⟨-, hlexer⟩ := take_spec hpull htake
    rw [hcloses] at hlexer
    exact ⟨hquote, hlexer ▸ hmode⟩
  have hsplit : p.tokens = (ts ++ [t]) ++ us := by simpa using htokens
  obtain ⟨q, hq, hqtokens, -⟩ := h.exists_prefix hsplit
  refine ⟨(hfirst hq hqtokens).1, ?_⟩
  rintro u us' rfl
  have hsplit : p.tokens = (ts ++ [t] ++ [u]) ++ us' := by simpa using htokens
  obtain ⟨q, hq, hqtokens, -⟩ := h.exists_prefix hsplit
  obtain ⟨r, after, hr, hrtokens, hpull, -⟩ := hq.exists_last hqtokens
  obtain ⟨-, hmode⟩ := hfirst hr hrtokens
  cases Lexer.moves_of_pull hpull with
  | code hcode =>
    rw [hmode] at hcode
    cases hcode
  | openTemplate hcode =>
    rw [hmode] at hcode
    cases hcode
  | openSubstitution _ hstarts => exact Token.kind_of_startsSubstitution hstarts
  | closeTemplate _ hkind => exact hkind
  | templateText _ hkind => exact hkind

end Pass

end ImportScan
