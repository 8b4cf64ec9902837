import ImportScan.Language
import ImportScan.Token
import ImportScan.Text.Escape
import ImportScan.Lexer.Extent

/-!
# Recognising one token

`scan` looks at a text that is not empty and says which token starts there, how many characters it
takes and what it does to the stack of modes.

## Main definitions

* `Transition`, `Scan` — what has been recognised.
* `LexFault`, `LexError` — why nothing could be, and where.
* `regexAllowed` — whether a slash starts a regular expression, by the token before it.
* `scanTemplate`, `scanCode`, `scan` — the recognisers.
-/

namespace ImportScan

/-! ### Results -/

/-- What a token does to the stack of modes. -/
inductive Transition where
  /-- The mode stays as it is. -/
  | stay
  /-- A new mode is entered. -/
  | enter (mode : Mode)
  /-- The current mode is left. -/
  | leave
  deriving DecidableEq, Repr, Inhabited

/-- A recognised token: its category, the number of its characters, never zero, and what it does to
the stack of modes. -/
structure Scan where
  /-- The category of the token. -/
  kind : TokenKind
  /-- The number of its characters. -/
  length : Nat
  /-- What it does to the stack of modes. -/
  transition : Transition := .stay
  /-- A token takes at least one character. -/
  length_pos : 0 < length := by omega

/-- Why no token can be recognised. -/
inductive LexFault where
  /-- A block comment does not end. -/
  | openComment
  /-- A string ends neither on its line nor by an escaped line end. -/
  | openString
  /-- A regular expression does not end on its line. -/
  | openRegex
  /-- No token starts with this character. -/
  | strayCharacter (c : Char)
  deriving DecidableEq, Repr, Inhabited

/-- The wording of a fault. -/
def LexFault.message : LexFault → String
  | .openComment => "unterminated comment"
  | .openString => "unterminated string literal"
  | .openRegex => "unterminated regular expression"
  | .strayCharacter c => "unexpected character '" ++ escapeAscii c ++ "'"

/-- A fault and its place. -/
structure LexError where
  /-- What is wrong. -/
  fault : LexFault
  /-- Where the token would have started. -/
  loc : Location
  deriving DecidableEq, Repr, Inhabited

/-- The fault together with its place, as it is shown. -/
def LexError.message (e : LexError) : String := e.fault.message ++ " at " ++ e.loc.text

/-! ### Recognisers -/

/-- A token whose text matters for the next slash: its category and its lexeme. -/
abbrev Significant := TokenKind × String

/-- Whether a slash starts a regular expression: at the beginning, behind a punctuator that does not
close a bracket, behind certain keywords and at the start of a substitution. -/
def regexAllowed : Option Significant → Bool
  | none => true
  | some (.punctuator, sign) => !(sign == ")" || sign == "]" || sign == "\x7d")
  | some (.keyword, word) => Language.regexKeywords.contains word
  | some (.templateLiteral, piece) => piece == "$\x7b"
  | some _ => false

/-- The piece of a template that starts with `c`: the closing quote, the start of a substitution, or
text up to the next of both. -/
def scanTemplate (c : Char) (cs : List Char) : Scan :=
  if hq : c = templateQuote then { kind := .templateLiteral, length := 1, transition := .leave }
  else if hs : opensSubstitution (c :: cs) = true then
    { kind := .templateLiteral, length := 2, transition := .enter .script }
  else
    { kind := .templateLiteral, length := templateExtent (c :: cs),
      length_pos := templateExtent_pos hq (by simpa using hs) }

/-- The word that starts with `c`, a keyword or an identifier. -/
def scanWord (l : Language) (c : Char) (cs : List Char) : Scan :=
  let word := String.ofList (c :: cs.take (wordExtent cs))
  { kind := if l.isKeyword word then .keyword else .identifier, length := wordExtent cs + 1 }

/-- Whether a number starts with `c`: a digit, or a point before a digit. -/
def startsNumber (c : Char) (cs : List Char) : Bool :=
  c.isDigit || (c == '.' && cs.head?.any Char.isDigit)

/-- Whether a number is hexadecimal. -/
def isHexadecimal (c : Char) (cs : List Char) : Bool :=
  c == '0' && (cs.head? == some 'x' || cs.head? == some 'X')

/-- The longest punctuator of the language that the text starts with. -/
def scanPunctuator (l : Language) (c : Char) (cs : List Char) : Except LexFault Scan :=
  match h : l.punctuators.find? fun p => p.toList.isPrefixOf (c :: cs) with
  | some p =>
    .ok { kind := .punctuator, length := p.toList.length,
          length_pos := l.punctuators_ne_empty p (List.mem_of_find?_eq_some h) }
  | none => .error (.strayCharacter c)

/-- What only scripts have: the opening quote of a template, and regular expressions where the token
before allows them.  Anything else must be a punctuator. -/
def scanScriptSign (previous : Option Significant) (c : Char) (cs : List Char) :
    Except LexFault Scan :=
  if c = templateQuote then
    .ok { kind := .templateLiteral, length := 1, transition := .enter .template }
  else if c = '/' && regexAllowed previous then
    match regexExtent? false cs with
    | some n => .ok { kind := .regexpLiteral, length := n + 1, length_pos := Nat.succ_pos n }
    | none => .error .openRegex
  else scanPunctuator .ecma c cs

/-- A sign: the last resort when nothing else starts with `c`. -/
def scanSign (l : Language) (previous : Option Significant) (c : Char) (cs : List Char) :
    Except LexFault Scan :=
  match l with
  | .ecma => scanScriptSign previous c cs
  | .c => scanPunctuator .c c cs

/-- The token of code that starts with `c`. -/
def scanCode (l : Language) (previous : Option Significant) (c : Char) (cs : List Char) :
    Except LexFault Scan :=
  if c = '\r' && cs.head? == some '\n' then .ok { kind := .whitespace, length := 2 }
  else if isLineEnd c then .ok { kind := .whitespace, length := 1 }
  else if isBlank c then .ok { kind := .whitespace, length := blankExtent cs + 1 }
  else if c = '/' && cs.head? == some '/' then
    .ok { kind := .comment, length := lineExtent cs + 1 }
  else if c = '/' && cs.head? == some '*' then
    match commentExtent? cs.tail with
    | some n => .ok { kind := .comment, length := n + 2 }
    | none => .error .openComment
  else if c = '#' && l == .c then .ok { kind := .preprocessor, length := lineExtent cs + 1 }
  else if isIdentifierStart c then .ok (scanWord l c cs)
  else if startsNumber c cs then
    .ok { kind := .numericLiteral, length := numberExtent (isHexadecimal c cs) c cs + 1 }
  else if c = '\x22' || c = '\x27' then
    match stringExtent? c cs with
    | some n => .ok { kind := .stringLiteral, length := n + 1, length_pos := Nat.succ_pos n }
    | none => .error .openString
  else scanSign l previous c cs

/-- The token that starts with `c` in a given mode. -/
def scan (l : Language) (mode : Mode) (previous : Option Significant) (c : Char) (cs : List Char) :
    Except LexFault Scan :=
  match mode with
  | .template => .ok (scanTemplate c cs)
  | _ => scanCode l previous c cs

end ImportScan
