/-!
# Languages

The scanner knows two families of languages, which differ in their keywords, their punctuators and in
whether they have templates, regular expressions and preprocessor lines.

## Main definitions

* `Language` — the two families, with their keywords and punctuators.
* `Language.ofExtension` — the family of a file, by the extension of its name.
* `Mode` — what the scanner is reading: code of either family or the text of a template.
* `LexerState` — the mode, and how many modes have been entered.
-/

namespace ImportScan

/-- A family of languages. -/
inductive Language where
  /-- Scripts with import and export statements. -/
  | ecma
  /-- Sources and headers with preprocessor lines. -/
  | c
  deriving DecidableEq, Repr, Inhabited

/-- What the scanner is reading. -/
inductive Mode where
  /-- Script code, at top level or inside a substitution. -/
  | script
  /-- The literal text of a template. -/
  | template
  /-- Code with preprocessor lines. -/
  | c
  deriving DecidableEq, Repr, Inhabited

namespace Mode

/-- The name of a mode. -/
def name : Mode → String
  | .script => "JS"
  | .template => "TEMPLATE"
  | .c => "C"

/-- Whether the scanner is reading code. -/
def isCode : Mode → Bool
  | .template => false
  | _ => true

end Mode

/-- The mode of the scanner and the number of modes entered since the start. -/
structure LexerState where
  /-- The current mode. -/
  mode : Mode
  /-- How many modes lie above the first one. -/
  depth : Nat
  deriving DecidableEq, Repr, Inhabited

namespace Language

/-- The name of a language. -/
def name : Language → String
  | .ecma => "ecma"
  | .c => "c"

/-- The language with a given name. -/
def ofName? : String → Option Language
  | "ecma" => some .ecma
  | "c" => some .c
  | _ => none

/-- The language of a file with this extension; anything unknown is taken for a script. -/
def ofExtension : Option String → Language
  | some ext => if ext == "c" || ext == "h" || ext == "C" || ext == "H" then .c else .ecma
  | none => .ecma

/-- The mode in which the scanner starts. -/
def baseMode : Language → Mode
  | .ecma => .script
  | .c => .c

/-- The reserved words. -/
def keywords : Language → List String
  | .ecma =>
    ["as", "async", "await", "break", "case", "catch", "class", "const", "continue", "debugger",
      "default", "delete", "do", "else", "enum", "export", "extends", "false", "finally", "for",
      "from", "function", "if", "implements", "import", "in", "instanceof", "interface", "let",
      "new", "null", "package", "private", "protected", "public", "return", "static", "super",
      "switch", "this", "throw", "true", "try", "typeof", "var", "void", "while", "with", "yield"]
  | .c =>
    ["_Bool", "auto", "break", "case", "char", "const", "continue", "default", "do", "double",
      "else", "enum", "extern", "float", "for", "goto", "if", "inline", "int", "long", "register",
      "restrict", "return", "short", "signed", "sizeof", "static", "struct", "switch", "typedef",
      "union", "unsigned", "void", "volatile", "while"]

/-- The keywords after which a slash starts a regular expression. -/
def regexKeywords : List String :=
  ["await", "case", "delete", "do", "else", "in", "instanceof", "new", "return", "throw", "typeof",
    "void", "yield"]

/-- The punctuators, longest first. -/
def punctuators : Language → List String
  | .ecma =>
    [">>>=", "...", "===", "!==", "**=", "<<=", ">>=", ">>>", "&&=", "||=", "??=", "=>", "==", "!=",
      "<=", ">=", "&&", "||", "??", "?.", "++", "--", "+=", "-=", "*=", "/=", "%=", "&=", "|=", "^=",
      "**", "<<", ">>", "\x7b", "\x7d", "(", ")", "[", "]", ";", ",", "<", ">", "+", "-", "*", "/",
      "%", "&", "|", "^", "!", "~", "?", ":", "=", ".", "@", "#"]
  | .c =>
    ["<<=", ">>=", "...", "->", "++", "--", "<<", ">>", "<=", ">=", "==", "!=", "&&", "||", "+=",
      "-=", "*=", "/=", "%=", "&=", "|=", "^=", "##", "\x7b", "\x7d", "(", ")", "[", "]", ";", ",",
      "<", ">", "+", "-", "*", "/", "%", "&", "|", "^", "!", "~", "?", ":", "=", ".", "#"]

/-- Whether a word is reserved. -/
def isKeyword (l : Language) (word : String) : Bool := l.keywords.contains word

theorem ofName?_name (l : Language) : ofName? l.name = some l := by cases l <;> rfl

theorem punctuators_ne_empty (l : Language) : ∀ p ∈ l.punctuators, 0 < p.toList.length := by
  cases l <;> decide

end Language

end ImportScan
