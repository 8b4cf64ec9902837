import ImportScan.Json.Token
import ImportScan.Text.Padding

/-!
# JSON values

## Main definitions

* `JsonValue` — the values that are written; numbers are natural.
* `JsonValue.pretty` — a value as a text, each member on a line of its own.
* `JsonValue.tokens` — the tokens of that text.
-/

namespace ImportScan

/-- A JSON value. -/
inductive JsonValue where
  /-- Nothing. -/
  | null
  /-- A truth value. -/
  | bool (b : Bool)
  /-- A natural number. -/
  | number (n : Nat)
  /-- A string. -/
  | string (s : String)
  /-- An array. -/
  | array (items : List JsonValue)
  /-- An object, its members in order. -/
  | object (members : List (String × JsonValue))
  deriving Repr, Inhabited

namespace JsonValue

/-! ### Strings -/

/-- Two lower-case hexadecimal digits. -/
def twoHexDigits (n : Nat) : String := (if n < 16 then "0" else "") ++ hexDigits n

/-- A character inside a string. -/
def escapeJson (c : Char) : String :=
  if c = '\x22' then "\\\""
  else if c = '\\' then "\\\\"
  else if c = '\x08' then "\\b"
  else if c = '\x0c' then "\\f"
  else if c = '\n' then "\\n"
  else if c = '\r' then "\\r"
  else if c = '\t' then "\\t"
  else if c.toNat < 0x20 then "\\u00" ++ twoHexDigits c.toNat
  else String.singleton c

/-- A string between its quotes. -/
def quote (s : String) : String := "\"" ++ String.join (s.toList.map escapeJson) ++ "\""

/-! ### Text -/

/-- The start of a line at some depth. -/
def newLine (depth : Nat) : String := "\n" ++ blanks (2 * depth)

/-- Lines between two brackets, nothing between them when there are none. -/
def bracketed (opener closer : String) (depth : Nat) (lines : List String) : String :=
  if lines.isEmpty then opener ++ closer
  else
    opener ++ newLine (depth + 1) ++ ("," ++ newLine (depth + 1)).intercalate lines ++
      newLine depth ++ closer

mutual

/-- The text of a value at some depth. -/
def write (depth : Nat) : JsonValue → String
  | null => "null"
  | bool b => if b then "true" else "false"
  | number n => toString n
  | string s => quote s
  | array items => bracketed "[" "]" depth (writeItems (depth + 1) items)
  | object members => bracketed "\x7b" "\x7d" depth (writeMembers (depth + 1) members)

/-- The texts of the items of an array. -/
def writeItems (depth : Nat) : List JsonValue → List String
  | [] => []
  | v :: rest => write depth v :: writeItems depth rest

/-- The texts of the members of an object. -/
def writeMembers (depth : Nat) : List (String × JsonValue) → List String
  | [] => []
  | (name, v) :: rest => (quote name ++ ": " ++ write depth v) :: writeMembers depth rest

end

/-- The text of a value: two blanks for every depth, and each member on a line of its own. -/
def pretty (v : JsonValue) : String := v.write 0

/-! ### Tokens -/

/-- Some lists of tokens with commas between them. -/
def commaSeparated : List (List JsonToken) → List JsonToken
  | [] => []
  | [ts] => ts
  | ts :: rest => ts ++ .comma :: commaSeparated rest

mutual

/-- The tokens of a value. -/
def tokens : JsonValue → List JsonToken
  | null => [.null]
  | bool b => [.bool b]
  | number _ => [.number true]
  | string s => [.string (some s)]
  | array items => .openBracket :: (commaSeparated (itemTokens items) ++ [.closeBracket])
  | object members => .openBrace :: (commaSeparated (memberTokens members) ++ [.closeBrace])

/-- The tokens of each item of an array. -/
def itemTokens : List JsonValue → List (List JsonToken)
  | [] => []
  | v :: rest => tokens v :: itemTokens rest

/-- The tokens of each member of an object. -/
def memberTokens : List (String × JsonValue) → List (List JsonToken)
  | [] => []
  | (name, v) :: rest => (.string (some name) :: .colon :: tokens v) :: memberTokens rest

end

end JsonValue

end ImportScan
