import ImportScan.Text.Location

/-!
# Tokens

A token is a piece of a source with its category and its place.

## Main definitions

* `TokenKind` — the ten categories, with their numbers and names.
* `Token` — a lexeme of some category at some place.
-/

namespace ImportScan

/-- The lexical category of a token. -/
inductive TokenKind where
  /-- A line end, or a run of other blanks. -/
  | whitespace
  /-- A comment of either form. -/
  | comment
  /-- A reserved word. -/
  | keyword
  /-- Any other word. -/
  | identifier
  /-- An operator, a bracket or a separator. -/
  | punctuator
  /-- A number. -/
  | numericLiteral
  /-- A text between quotes. -/
  | stringLiteral
  /-- A regular expression between slashes, with its flags. -/
  | regexpLiteral
  /-- A piece of a template: a delimiter, or the text between two of them. -/
  | templateLiteral
  /-- A preprocessor line. -/
  | preprocessor
  deriving DecidableEq, Repr, Inhabited

namespace TokenKind

/-- All categories in the order of their numbers. -/
def all : List TokenKind :=
  [.whitespace, .comment, .keyword, .identifier, .punctuator, .numericLiteral, .stringLiteral,
    .regexpLiteral, .templateLiteral, .preprocessor]

/-- The number of a category. -/
def id : TokenKind → Nat
  | .whitespace => 0
  | .comment => 1
  | .keyword => 2
  | .identifier => 3
  | .punctuator => 4
  | .numericLiteral => 5
  | .stringLiteral => 6
  | .regexpLiteral => 7
  | .templateLiteral => 8
  | .preprocessor => 9

/-- The name of a category. -/
def name : TokenKind → String
  | .whitespace => "whitespace"
  | .comment => "comment"
  | .keyword => "keyword"
  | .identifier => "identifier"
  | .punctuator => "punctuator"
  | .numericLiteral => "numericLiteral"
  | .stringLiteral => "stringLiteral"
  | .regexpLiteral => "regexpLiteral"
  | .templateLiteral => "templateLiteral"
  | .preprocessor => "preprocessor"

/-- The category with a given name. -/
def ofName? (s : String) : Option TokenKind := all.find? fun k => k.name == s

/-- Whether tokens of this category carry no meaning for a statement. -/
def isTrivia : TokenKind → Bool
  | .whitespace | .comment => true
  | _ => false

end TokenKind

/-- A piece of a source. -/
structure Token where
  /-- The category. -/
  kind : TokenKind
  /-- The text of the token. -/
  lexeme : String
  /-- Where the token starts. -/
  loc : Location
  deriving DecidableEq, Repr, Inhabited

namespace Token

/-- The number of bytes of the lexeme. -/
def bytes (t : Token) : Nat := stringBytes t.lexeme

/-- The offset behind the last byte of the token. -/
def stop (t : Token) : Nat := t.loc.offset + t.bytes

/-- Whether the token has a given category and text. -/
def is (t : Token) (kind : TokenKind) (lexeme : String) : Bool :=
  t.kind == kind && t.lexeme == lexeme

/-- Whether the token is a given keyword. -/
def isKeyword (t : Token) (word : String) : Bool := t.is .keyword word

/-- Whether the token is a given punctuator. -/
def isPunctuator (t : Token) (sign : String) : Bool := t.is .punctuator sign

/-- Whether the token is an identifier. -/
def isIdentifier (t : Token) : Bool := t.kind == .identifier

/-- Whether the token ends a line. -/
def isLineTerminator (t : Token) : Bool :=
  t.kind == .whitespace &&
    (t.lexeme == "\n" || t.lexeme == "\r\n" || t.lexeme == "\r" || t.lexeme == "\u2028" ||
      t.lexeme == "\u2029")

end Token

end ImportScan
