import ImportScan.Token

/-!
# Statements

An import or export statement starts with its keyword and ends with the next semicolon or line end.
The collector finds the statements of a stream of tokens.

## Main definitions

* `Statement` — a finished statement, with all its tokens.
* `OpenStatement` — a statement that the end of the stream cut off.
* `Collector` — the tokens of the statement that is being collected.
* `Collector.feed`, `Collector.finish` — the next token, and the end of the stream.
-/

namespace ImportScan

/-- The two kinds of statements, by the keyword they start with. -/
inductive StatementKind where
  /-- A statement that starts with `import`. -/
  | imports
  /-- A statement that starts with `export`. -/
  | exports
  deriving DecidableEq, Repr, Inhabited

namespace StatementKind

/-- The keyword that starts the statement. -/
def keyword : StatementKind → String
  | .imports => "import"
  | .exports => "export"

/-- The kind with a given keyword. -/
def ofKeyword? : String → Option StatementKind
  | "import" => some .imports
  | "export" => some .exports
  | _ => none

/-- The kind of the statement that a token starts. -/
def ofToken? (t : Token) : Option StatementKind :=
  if t.isKeyword StatementKind.imports.keyword then some .imports
  else if t.isKeyword StatementKind.exports.keyword then some .exports
  else none

end StatementKind

/-- A finished statement. -/
structure Statement where
  /-- The kind. -/
  kind : StatementKind
  /-- All tokens, blanks and comments included. -/
  tokens : List Token
  /-- The offsets of the statement, its terminator included. -/
  range : Span
  /-- Where it starts. -/
  loc : Location
  deriving DecidableEq, Repr, Inhabited

namespace Statement

/-- The tokens that carry meaning. -/
def significant (s : Statement) : List Token := s.tokens.filter fun t => !t.kind.isTrivia

/-- Whether the keyword `from` occurs. -/
def hasFrom (s : Statement) : Bool := s.tokens.any fun t => t.isKeyword "from"

/-- The text of the statement. -/
def text (s : Statement) : String := String.join (s.tokens.map Token.lexeme)

end Statement

/-- A statement that the end of the stream cut off. -/
structure OpenStatement where
  /-- The kind. -/
  kind : StatementKind
  /-- Where it starts. -/
  loc : Location
  deriving DecidableEq, Repr, Inhabited

/-- Whether a token ends a statement. -/
def Token.endsStatement (t : Token) : Bool := t.isPunctuator ";" || t.isLineTerminator

/-- The state of the search for statements. -/
inductive Collector where
  /-- No statement has started. -/
  | idle
  /-- A statement has started with the token `first`; `more` are the tokens since, latest first. -/
  | collecting (kind : StatementKind) (first : Token) (more : List Token)
  deriving DecidableEq, Repr, Inhabited

namespace Collector

/-- Whether a statement has started and not ended. -/
def isCollecting : Collector → Bool
  | .idle => false
  | .collecting .. => true

/-- The statement that starts with `first`, goes on with `middle` and ends with `last`. -/
def statement (kind : StatementKind) (first : Token) (middle : List Token) (last : Token) :
    Statement :=
  { kind, tokens := first :: (middle ++ [last]), range := ⟨first.loc.offset, last.stop⟩,
    loc := first.loc }

/-- Feed the next token, which may start a statement or end one. -/
def feed (c : Collector) (t : Token) : Collector × Option Statement :=
  match c with
  | .idle =>
    match StatementKind.ofToken? t with
    | some kind => (.collecting kind t [], none)
    | none => (.idle, none)
  | .collecting kind first more =>
    if t.endsStatement then (.idle, some (statement kind first more.reverse t))
    else (.collecting kind first (t :: more), none)

/-- The stream ends: the statement that is still open, if any. -/
def finish (c : Collector) : Collector × Option OpenStatement :=
  match c with
  | .idle => (.idle, none)
  | .collecting kind first _ => (.idle, some ⟨kind, first.loc⟩)

end Collector

end ImportScan
