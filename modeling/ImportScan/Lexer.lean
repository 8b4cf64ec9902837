import ImportScan.Lexer.Scan

/-!
# The lexer

A lexer holds the text that is still to be read, the place where it starts and a stack of modes.
Pulling a token from it gives the token and a new lexer.  Opening a template or a substitution enters
a mode, and the closing quote of a template leaves one; a substitution is left on request only, since
the lexer cannot tell the brace that closes it from any other.

## Main definitions

* `Lexer`, `Lexer.ofText` — the state of the scanner, and its start.
* `Lexer.pull` — the next token.
* `Lexer.leave` — leave the current mode.
* `Lexer.read` — all tokens up to the end or the first error, leaving modes where asked to.

## Main results

* `Lexer.pull_rest` — the lexeme and the remaining text make up the text before.
* `Lexer.pull_rest_lt` — a pulled token shortens the remaining text.
-/

namespace ImportScan

/-- The state of the scanner. -/
structure Lexer where
  /-- The language of the text. -/
  language : Language
  /-- What is still to be read. -/
  rest : List Char
  /-- Where the remaining text starts. -/
  loc : Location
  /-- The modes entered since the start, the current one first. -/
  entered : List Mode
  /-- The last token that is neither a blank nor a comment. -/
  previous : Option Significant
  /-- Whether the lexer has met an error, behind which it reads nothing. -/
  failed : Bool
  deriving DecidableEq, Repr, Inhabited

/-- The answer of the lexer to a pull. -/
inductive Pull where
  /-- There is nothing left to read. -/
  | finished
  /-- A token, and the lexer behind it. -/
  | token (t : Token) (after : Lexer)
  /-- An error, and the lexer that has met it. -/
  | fault (e : LexError) (after : Lexer)
  deriving DecidableEq, Repr, Inhabited

namespace Lexer

/-- A lexer at the start of a text. -/
def ofText (l : Language) (text : List Char) : Lexer :=
  { language := l, rest := text, loc := .start, entered := [], previous := none, failed := false }

/-- The current mode. -/
def mode (lx : Lexer) : Mode := lx.entered.head?.getD lx.language.baseMode

/-- The current mode and the number of modes entered. -/
def state (lx : Lexer) : LexerState := ⟨lx.mode, lx.entered.length⟩

/-- Leave the current mode; the first mode is never left. -/
def leave (lx : Lexer) : Lexer := { lx with entered := lx.entered.tail }

/-- Follow a transition. -/
def follow (lx : Lexer) : Transition → Lexer
  | .stay => lx
  | .enter mode => { lx with entered := mode :: lx.entered }
  | .leave => lx.leave

/-- The lexer behind the first `n` characters, which make up a token of a given category. -/
def pass (lx : Lexer) (kind : TokenKind) (n : Nat) : Lexer :=
  let lexeme := lx.rest.take n
  { lx with
    rest := lx.rest.drop n
    loc := lx.loc.advance lexeme
    previous := if kind.isTrivia then lx.previous else some (kind, String.ofList lexeme) }

/-- The token made up of the first `n` characters. -/
def tokenOf (lx : Lexer) (kind : TokenKind) (n : Nat) : Token :=
  ⟨kind, String.ofList (lx.rest.take n), lx.loc⟩

/-- Pull the next token. -/
def pull (lx : Lexer) : Pull :=
  if lx.failed then .finished
  else
    match lx.rest with
    | [] => .finished
    | c :: cs =>
      match scan lx.language lx.mode lx.previous c cs with
      | .ok s => .token (lx.tokenOf s.kind s.length) ((lx.pass s.kind s.length).follow s.transition)
      | .error fault => .fault ⟨fault, lx.loc⟩ { lx with failed := true }

/-! ### What a pull does to the text -/

@[simp] theorem follow_rest (lx : Lexer) (t : Transition) : (lx.follow t).rest = lx.rest := by
  cases t <;> rfl

@[simp] theorem leave_rest (lx : Lexer) : lx.leave.rest = lx.rest := rfl

/-- A pulled token comes from a scan of the text. -/
theorem pull_eq_token {lx after : Lexer} {t : Token} (h : lx.pull = .token t after) :
    ∃ c cs s, lx.failed = false ∧ lx.rest = c :: cs ∧
      scan lx.language lx.mode lx.previous c cs = .ok s ∧
      t = lx.tokenOf s.kind s.length ∧
      after = (lx.pass s.kind s.length).follow s.transition := by
  unfold pull at h
  split at h
  · cases h
  · rename_i hfailed
    split at h
    · cases h
    · rename_i c cs hrest
      split at h
      · rename_i s hs
        cases h
        exact ⟨c, cs, s, by simpa using hfailed, hrest, hs, rfl, rfl⟩
      · cases h

/-- The lexeme of a pulled token and the remaining text make up the text before. -/
theorem pull_rest {lx after : Lexer} {t : Token} (h : lx.pull = .token t after) :
    t.lexeme.toList ++ after.rest = lx.rest := by
  obtain ⟨c, cs, s, -, -, -, rfl, rfl⟩ := pull_eq_token h
  simp [tokenOf, pass]

/-- A pulled token shortens the remaining text. -/
theorem pull_rest_lt {lx after : Lexer} {t : Token} (h : lx.pull = .token t after) :
    after.rest.length < lx.rest.length := by
  obtain ⟨c, cs, s, -, hrest, -, -, rfl⟩ := pull_eq_token h
  have hpos := s.length_pos
  simp only [follow_rest, pass, hrest, List.length_drop, List.length_cons]
  omega

/-! ### Reading on -/

/-- What reading a text to its end gives. -/
structure Reading where
  /-- The tokens, each with the state of the lexer behind it. -/
  tokens : List (Token × LexerState)
  /-- The error that ended the reading, if any. -/
  error : Option LexError
  /-- The lexer at the end. -/
  final : Lexer

/-- Read all tokens up to the end or the first error.  Behind the token number `i` the current mode
is left when `leaves i` holds; the count starts from `i`. -/
def readFrom (leaves : Nat → Bool) (i : Nat) (lx : Lexer) : Reading :=
  match h : lx.pull with
  | .finished => ⟨[], none, lx⟩
  | .fault e after => ⟨[], some e, after⟩
  | .token t after =>
    let next := if leaves i then after.leave else after
    have : next.rest.length < lx.rest.length := by
      have hlt := pull_rest_lt h
      simp only [next]
      split <;> simpa using hlt
    let reading := readFrom leaves (i + 1) next
    { reading with tokens := (t, after.state) :: reading.tokens }
termination_by lx.rest.length

/-- Read all tokens up to the end or the first error. -/
def read (leaves : Nat → Bool) (lx : Lexer) : Reading := lx.readFrom leaves 0

end Lexer

end ImportScan
