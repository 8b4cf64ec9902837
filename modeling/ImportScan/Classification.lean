import ImportScan.Statement
import ImportScan.Record

/-!
# Reading statements

A finished statement is turned into a record by its significant tokens alone.

## Main definitions

* `StatementFault`, `Malformed` — why a statement cannot be understood.
* `Statement.toImport` — the record of an import statement.
* `Statement.toExport` — the record of an export statement.
-/

namespace ImportScan

/-! ### Faults -/

/-- Why a statement cannot be understood. -/
inductive StatementFault where
  /-- A star and `as` are not followed by a name. -/
  | missingNamespaceName
  /-- A star is not followed by `as`. -/
  | missingAs
  /-- A default name and a star stand together. -/
  | combinedWithNamespace
  /-- Nothing that could be imported follows the keyword. -/
  | missingBindings
  /-- The list of names does not end. -/
  | unbalancedBraces
  /-- An entry of the list of names is neither a name nor two names with `as` between them. -/
  | invalidEntry (lexemes : List String)
  /-- The names are not followed by `from`. -/
  | missingFrom
  /-- No string follows `from`. -/
  | missingSpecifier
  /-- Nothing follows the keyword of an export. -/
  | missingDeclaration
  /-- An export names nothing. -/
  | missingExportedName
  /-- The text ends inside the statement. -/
  | unterminated
  deriving DecidableEq, Repr, Inhabited

/-- A text between grave accents. -/
def inAccents (s : String) : String := "\x60" ++ s ++ "\x60"

/-- The wording of a fault. -/
def StatementFault.message : StatementFault → String
  | .missingNamespaceName => "expected a namespace name after " ++ inAccents "as"
  | .missingAs => "expected " ++ inAccents "as" ++ " after " ++ inAccents "*"
  | .combinedWithNamespace => "a default import combined with a namespace import is not supported"
  | .missingBindings =>
    "expected " ++ inAccents "\x7b" ++ ", " ++ inAccents "*" ++ " or a binding name after " ++
      inAccents "import"
  | .unbalancedBraces => "unbalanced braces in named import"
  | .invalidEntry lexemes => "invalid import specifier " ++ inAccents (" ".intercalate lexemes)
  | .missingFrom => "expected " ++ inAccents "from"
  | .missingSpecifier => "expected a string specifier after " ++ inAccents "from"
  | .missingDeclaration => "expected a declaration after " ++ inAccents "export"
  | .missingExportedName => "expected an exported name"
  | .unterminated => "statement not terminated before end of input"

/-- A statement that cannot be understood. -/
structure Malformed where
  /-- The kind of the statement. -/
  kind : StatementKind
  /-- What is wrong with it. -/
  fault : StatementFault
  /-- Where it starts. -/
  loc : Location
  deriving DecidableEq, Repr, Inhabited

/-- The whole complaint, as it is shown. -/
def Malformed.message (m : Malformed) : String :=
  "malformed " ++ m.kind.keyword ++ " statement: " ++ m.fault.message

/-! ### Quotes -/

/-- Whether a character can stand at both ends of a quoted text. -/
def isQuoteMark (c : Char) : Bool := c == '\x27' || c == '\x22' || c == '\x60'

/-- A text without the pair of quotes around it, if there is one. -/
def stripQuotes (s : String) : String :=
  match s.toList with
  | c :: d :: rest =>
    if isQuoteMark c && (d :: rest).getLast? == some c then String.ofList (d :: rest).dropLast else s
  | _ => s

/-- The name that a token stands for: a string names what is between its quotes. -/
def Token.bindingName (t : Token) : String :=
  if t.kind = .stringLiteral then stripQuotes t.lexeme else t.lexeme

/-! ### Imports -/

/-- The bindings of one entry of a list: none when it is empty. -/
def entryBindings (entry : List Token) : Except StatementFault (List Binding) :=
  match entry with
  | [] => .ok []
  | [name] => .ok [⟨name.bindingName, name.bindingName⟩]
  | [name, mark, other] =>
    if mark.isKeyword "as" then .ok [⟨name.bindingName, other.lexeme⟩]
    else .error (.invalidEntry (entry.map Token.lexeme))
  | _ => .error (.invalidEntry (entry.map Token.lexeme))

/-- Read a list of names up to the brace that closes it, and give what follows.  `inner` counts the
braces opened inside the list, `entry` holds the tokens of the current entry and `done` the bindings
of the entries before it, both latest first. -/
def listBindings (inner : Nat) (entry : List Token) (done : List Binding) :
    List Token → Except StatementFault (List Binding × List Token)
  | [] => .error .unbalancedBraces
  | t :: rest =>
    if t.isKeyword "from" then .error .unbalancedBraces
    else if t.isPunctuator "\x7b" then listBindings (inner + 1) entry done rest
    else if t.isPunctuator "\x7d" then
      match inner with
      | 0 =>
        match entryBindings entry.reverse with
        | .ok bindings => .ok (done.reverse ++ bindings, rest)
        | .error fault => .error fault
      | inner + 1 => listBindings inner entry done rest
    else if t.isPunctuator "," && inner == 0 then
      match entryBindings entry.reverse with
      | .ok bindings => listBindings inner [] (bindings.reverse ++ done) rest
      | .error fault => .error fault
    else listBindings inner (t :: entry) done rest

/-- Read a list of names between braces, and give what follows. -/
def bracedBindings : List Token → Except StatementFault (List Binding × List Token)
  | t :: rest =>
    if t.isPunctuator "\x7b" then listBindings 0 [] [] rest else .error .missingBindings
  | [] => .error .missingBindings

/-- Read what stands between a star and `from`, and give what follows. -/
def namespaceBindings : List Token → Except StatementFault (Bindings × List Token)
  | mark :: name :: rest =>
    if mark.isKeyword "as" then
      if name.isIdentifier then .ok (.everything name.lexeme, rest) else .error .missingNamespaceName
    else .error .missingAs
  | [mark] => if mark.isKeyword "as" then .error .missingNamespaceName else .error .missingAs
  | [] => .error .missingAs

/-- Read what stands behind a default name and a comma, and give what follows. -/
def furtherBindings (name : String) (rest : List Token) :
    Except StatementFault (Bindings × List Token) :=
  if rest.head?.any fun t => t.isPunctuator "*" then .error .combinedWithNamespace
  else
    match bracedBindings rest with
    | .ok (list, behind) => .ok (.named (⟨"default", name⟩ :: list), behind)
    | .error fault => .error fault

/-- Read a list of names and nothing else, and give what follows. -/
def onlyBraced (head : List Token) : Except StatementFault (Bindings × List Token) :=
  match bracedBindings head with
  | .ok (list, behind) => .ok (.named list, behind)
  | .error fault => .error fault

/-- Read all that stands between the keyword and `from`, and give what follows. -/
def importBindings (head : List Token) : Except StatementFault (Bindings × List Token) :=
  match head with
  | first :: next :: rest =>
    if first.isPunctuator "*" then namespaceBindings (next :: rest)
    else if first.isIdentifier && next.isKeyword "from" then
      .ok (.defaultOnly first.lexeme, next :: rest)
    else if first.isIdentifier && next.isPunctuator "," then furtherBindings first.lexeme rest
    else onlyBraced head
  | [first] => if first.isPunctuator "*" then namespaceBindings [] else onlyBraced head
  | [] => onlyBraced head

/-- Read `from` and the specifier behind it. -/
def specifierOf : List Token → Except StatementFault String
  | mark :: rest =>
    if mark.isKeyword "from" then
      match rest with
      | t :: _ =>
        if t.kind = .stringLiteral then .ok (stripQuotes t.lexeme) else .error .missingSpecifier
      | [] => .error .missingSpecifier
    else .error .missingFrom
  | [] => .error .missingFrom

/-- The bindings and the specifier of an import. -/
def importClause (head : List Token) : Except StatementFault (Bindings × String) :=
  match importBindings head with
  | .ok (bindings, behind) =>
    match specifierOf behind with
    | .ok specifier => .ok (bindings, specifier)
    | .error fault => .error fault
  | .error fault => .error fault

namespace Statement

/-- The significant tokens behind the leading keyword. -/
def body (s : Statement) (kind : StatementKind) : List Token :=
  match s.significant with
  | first :: rest => if first.isKeyword kind.keyword then rest else first :: rest
  | [] => []

/-- The record of an import statement. -/
def toImport (s : Statement) : Except Malformed ImportRecord :=
  match importClause (s.body .imports) with
  | .ok (bindings, specifier) => .ok ⟨bindings, specifier, s.range, s.loc, s.text⟩
  | .error fault => .error ⟨.imports, fault, s.loc⟩

/-! ### Exports -/

/-- Whether a token can name what is exported. -/
def namesExport (t : Token) : Bool := t.isIdentifier || t.isKeyword "default"

/-- The form of an export statement whose first significant token behind the keyword is given. -/
def exportKind (s : Statement) (first : Token) : ExportKind :=
  if first.isKeyword "default" then .default
  else if s.hasFrom then .reExport
  else .named

/-- The exported name: the first one behind the keyword, or a star that passes everything on. -/
def exportedName? (kind : ExportKind) (first : Token) (rest : List Token) : Option String :=
  match (first :: rest).find? namesExport with
  | some t => some t.lexeme
  | none => if kind = .reExport && first.isPunctuator "*" then some "*" else none

/-- The record of an export statement. -/
def toExport (s : Statement) : Except Malformed ExportRecord :=
  match s.body .exports with
  | [] => .error ⟨.exports, .missingDeclaration, s.loc⟩
  | first :: rest =>
    if first.isPunctuator ";" then .error ⟨.exports, .missingDeclaration, s.loc⟩
    else
      match exportedName? (s.exportKind first) first rest with
      | some name => .ok ⟨s.exportKind first, first.lexeme, name, s.range, s.loc, s.text⟩
      | none => .error ⟨.exports, .missingExportedName, s.loc⟩

end Statement

end ImportScan
