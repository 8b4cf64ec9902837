import ImportScan.Config
import ImportScan.Json.Value

/-!
# Configurations as JSON

A configuration is written as an object and read from one, or from an array with the values in the
order of the fields.  Fields that are left out have their values in the default configuration, and
members with other names are passed over.  Reading stops at the first token that does not fit, and
tells whether the text is not JSON there or the value is not the one that is needed.

## Main definitions

* `Config.toJson` — the object that is written.
* `JsonFault` — the two reasons why reading fails.
* `ConfigField`, `ConfigDraft` — the fields, and those read so far.
* `Config.ofTokens`, `Config.parse` — reading.
-/

namespace ImportScan

/-! ### Writing -/

/-- The configuration as an object; the language is left out when there is none. -/
def Config.toJson (c : Config) : JsonValue :=
  let language := match c.language with
    | some l => [("language", JsonValue.string l.name)]
    | none => []
  .object <|
    [("entry", .string c.entry),
      ("extractable", .string c.extractable),
      ("ignores", .array (c.ignores.map .string)),
      ("followImports", .bool c.followImports),
      ("onBalanceMismatch", .string c.onBalanceMismatch.name)] ++ language

/-- The text of the default configuration. -/
def Config.defaultText : String := Config.default.toJson.pretty

/-! ### Faults -/

/-- Why a configuration cannot be read. -/
inductive JsonFault where
  /-- The text is not JSON. -/
  | notJson
  /-- A value is not the one that is needed. -/
  | unfit
  deriving DecidableEq, Repr, Inhabited

/-- The tokens that remain, with what has been read before them. -/
abbrev JsonRead (α : Type) := Except JsonFault (α × List JsonToken)

/-- The fault when a value of another kind is needed: numbers and strings that stand in its place are
read first. -/
def wrongKind : List JsonToken → JsonFault
  | .null :: _ => .unfit
  | .bool _ :: _ => .unfit
  | .number inRange :: _ => if inRange then .unfit else .notJson
  | .string s :: _ => if s.isSome then .unfit else .notJson
  | .openBracket :: _ => .unfit
  | .openBrace :: _ => .unfit
  | _ => .notJson

/-! ### Values -/

/-- Read a string. -/
def readString : List JsonToken → JsonRead String
  | .string (some s) :: rest => .ok (s, rest)
  | ts => .error (wrongKind ts)

/-- Read a truth value. -/
def readBool : List JsonToken → JsonRead Bool
  | .bool b :: rest => .ok (b, rest)
  | ts => .error (wrongKind ts)

/-- Read the items of an array of strings behind the first one, up to its end. -/
def readMoreStrings : List JsonToken → JsonRead (List String)
  | .closeBracket :: rest => .ok ([], rest)
  | .comma :: .string (some s) :: rest =>
    match readMoreStrings rest with
    | .ok (more, rest) => .ok (s :: more, rest)
    | .error fault => .error fault
  | .comma :: .closeBracket :: _ => .error .notJson
  | .comma :: rest => .error (wrongKind rest)
  | _ => .error .notJson

/-- Read an array of strings. -/
def readStrings : List JsonToken → JsonRead (List String)
  | .openBracket :: .closeBracket :: rest => .ok ([], rest)
  | .openBracket :: .string (some s) :: rest =>
    match readMoreStrings rest with
    | .ok (more, rest) => .ok (s :: more, rest)
    | .error fault => .error fault
  | .openBracket :: rest => .error (wrongKind rest)
  | ts => .error (wrongKind ts)

/-- Read one of some named values: its name, or an object with that name and nothing else. -/
def readChoice {α : Type} (ofName? : String → Option α) : List JsonToken → JsonRead α
  | .string (some name) :: rest =>
    match ofName? name with
    | some a => .ok (a, rest)
    | none => .error .unfit
  | .openBrace :: .string (some name) :: rest =>
    match ofName? name with
    | none => .error .unfit
    | some a =>
      match rest with
      | .colon :: .null :: .closeBrace :: rest => .ok (a, rest)
      | .colon :: .null :: _ => .error .notJson
      | .colon :: rest => .error (wrongKind rest)
      | _ => .error .notJson
  | .openBrace :: rest => .error (wrongKind rest)
  | _ => .error .notJson

/-- Read one of some named values, or nothing. -/
def readOptional {α : Type} (ofName? : String → Option α) : List JsonToken → JsonRead (Option α)
  | .null :: rest => .ok (none, rest)
  | ts =>
    match readChoice ofName? ts with
    | .ok (a, rest) => .ok (some a, rest)
    | .error fault => .error fault

/-! ### Passing over values -/

/-- What may follow inside the arrays and objects that are being passed over. -/
inductive Awaited where
  /-- A value. -/
  | value
  /-- The first item of an array, or its end. -/
  | firstItem
  /-- The name of the first member of an object, or its end. -/
  | firstName
  /-- The name of a further member. -/
  | name
  /-- The colon behind a name. -/
  | colon
  /-- A comma, or the end of the array or object. -/
  | separator
  deriving DecidableEq, Repr, Inhabited

/-- Pass over a value.  The list tells for each array or object around, the innermost first, whether it
is an object. -/
def skipFrom (outer : List Bool) (awaited : Awaited) :
    List JsonToken → Except JsonFault (List JsonToken)
  | [] => .error .notJson
  | t :: rest =>
    let behindValue (outer : List Bool) :=
      if outer.isEmpty then .ok rest else skipFrom outer .separator rest
    match awaited, t, outer with
    | .firstItem, .closeBracket, _ :: outer => behindValue outer
    | .firstName, .closeBrace, _ :: outer => behindValue outer
    | .separator, .closeBracket, false :: outer => behindValue outer
    | .separator, .closeBrace, true :: outer => behindValue outer
    | .separator, .comma, true :: outer => skipFrom (true :: outer) .name rest
    | .separator, .comma, false :: outer => skipFrom (false :: outer) .value rest
    | .firstName, .string _, _ => skipFrom outer .colon rest
    | .name, .string _, _ => skipFrom outer .colon rest
    | .colon, .colon, _ => skipFrom outer .value rest
    | .value, .openBracket, _ => skipFrom (false :: outer) .firstItem rest
    | .firstItem, .openBracket, _ => skipFrom (false :: outer) .firstItem rest
    | .value, .openBrace, _ => skipFrom (true :: outer) .firstName rest
    | .firstItem, .openBrace, _ => skipFrom (true :: outer) .firstName rest
    | .value, .null, _ => behindValue outer
    | .firstItem, .null, _ => behindValue outer
    | .value, .bool _, _ => behindValue outer
    | .firstItem, .bool _, _ => behindValue outer
    | .value, .number _, _ => behindValue outer
    | .firstItem, .number _, _ => behindValue outer
    | .value, .string _, _ => behindValue outer
    | .firstItem, .string _, _ => behindValue outer
    | _, _, _ => .error .notJson

/-- Pass over a value. -/
def skipValue (ts : List JsonToken) : Except JsonFault (List JsonToken) := skipFrom [] .value ts

/-! ### Fields -/

/-- The fields of a configuration. -/
inductive ConfigField where
  /-- The file to start from. -/
  | entry
  /-- The regular expression for specifiers. -/
  | extractable
  /-- The globs. -/
  | ignores
  /-- Whether imports are followed. -/
  | followImports
  /-- What a bracket mismatch does. -/
  | onBalanceMismatch
  /-- The language. -/
  | language
  deriving DecidableEq, Repr, Inhabited

namespace ConfigField

/-- All fields in order. -/
def all : List ConfigField :=
  [.entry, .extractable, .ignores, .followImports, .onBalanceMismatch, .language]

/-- The name of a field. -/
def name : ConfigField → String
  | .entry => "entry"
  | .extractable => "extractable"
  | .ignores => "ignores"
  | .followImports => "followImports"
  | .onBalanceMismatch => "onBalanceMismatch"
  | .language => "language"

/-- The field with a given name. -/
def ofName? (s : String) : Option ConfigField := all.find? fun f => f.name == s

theorem ofName?_name (f : ConfigField) : ofName? f.name = some f := by cases f <;> rfl

end ConfigField

/-- The fields that have been read. -/
structure ConfigDraft where
  /-- The file to start from. -/
  entry : Option String
  /-- The regular expression for specifiers. -/
  extractable : Option String
  /-- The globs. -/
  ignores : Option (List String)
  /-- Whether imports are followed. -/
  followImports : Option Bool
  /-- What a bracket mismatch does. -/
  onBalanceMismatch : Option BalancePolicy
  /-- The language, which may be given as none. -/
  language : Option (Option Language)
  deriving DecidableEq, Repr, Inhabited

namespace ConfigDraft

/-- Nothing has been read. -/
def empty : ConfigDraft := ⟨none, none, none, none, none, none⟩

/-- Whether a field has been read. -/
def has (d : ConfigDraft) : ConfigField → Bool
  | .entry => d.entry.isSome
  | .extractable => d.extractable.isSome
  | .ignores => d.ignores.isSome
  | .followImports => d.followImports.isSome
  | .onBalanceMismatch => d.onBalanceMismatch.isSome
  | .language => d.language.isSome

/-- The configuration, with the fields left out at their defaults. -/
def config (d : ConfigDraft) : Config :=
  { entry := d.entry.getD Config.default.entry
    extractable := d.extractable.getD Config.default.extractable
    ignores := d.ignores.getD Config.default.ignores
    followImports := d.followImports.getD Config.default.followImports
    onBalanceMismatch := d.onBalanceMismatch.getD Config.default.onBalanceMismatch
    language := d.language.getD Config.default.language }

/-- Change what has been read by a value that is read now. -/
def fill {α : Type} (set : α → ConfigDraft) : JsonRead α → JsonRead ConfigDraft
  | .ok (a, rest) => .ok (set a, rest)
  | .error fault => .error fault

/-- Read the value of a field. -/
def read (d : ConfigDraft) (f : ConfigField) (ts : List JsonToken) : JsonRead ConfigDraft :=
  match f with
  | .entry => fill (fun a => { d with entry := some a }) (readString ts)
  | .extractable => fill (fun a => { d with extractable := some a }) (readString ts)
  | .ignores => fill (fun a => { d with ignores := some a }) (readStrings ts)
  | .followImports => fill (fun a => { d with followImports := some a }) (readBool ts)
  | .onBalanceMismatch =>
    fill (fun a => { d with onBalanceMismatch := some a }) (readChoice BalancePolicy.ofName? ts)
  | .language => fill (fun a => { d with language := some a }) (readOptional Language.ofName? ts)

/-- Read the colon and the value of a member with a given name.  No field may occur twice. -/
def readMember (d : ConfigDraft) (name : String) (ts : List JsonToken) : JsonRead ConfigDraft :=
  match ConfigField.ofName? name, ts with
  | some f, .colon :: rest => if d.has f then .error .unfit else d.read f rest
  | some f, _ => if d.has f then .error .unfit else .error .notJson
  | none, .colon :: rest =>
    match skipValue rest with
    | .ok rest => .ok (d, rest)
    | .error fault => .error fault
  | none, _ => .error .notJson

/-- Read the members of an object behind the first one, up to its end; `fuel` bounds their number. -/
def readMoreMembers : Nat → ConfigDraft → List JsonToken → JsonRead ConfigDraft
  | _, d, .closeBrace :: rest => .ok (d, rest)
  | fuel + 1, d, .comma :: .string (some name) :: rest =>
    match d.readMember name rest with
    | .ok (d, rest) => readMoreMembers fuel d rest
    | .error fault => .error fault
  | _, _, _ => .error .notJson

/-- Read the members of an object. -/
def readMembers (d : ConfigDraft) : List JsonToken → JsonRead ConfigDraft
  | .closeBrace :: rest => .ok (d, rest)
  | .string (some name) :: rest =>
    match d.readMember name rest with
    | .ok (d, behind) => readMoreMembers behind.length d behind
    | .error fault => .error fault
  | _ => .error .notJson

/-- Read the items of an array behind the first one as the values of some fields, up to its end. -/
def readMoreItems (d : ConfigDraft) : List ConfigField → List JsonToken → JsonRead ConfigDraft
  | _, .closeBracket :: rest => .ok (d, rest)
  | _ :: _, .comma :: .closeBracket :: _ => .error .notJson
  | f :: fields, .comma :: rest =>
    match d.read f rest with
    | .ok (d, rest) => d.readMoreItems fields rest
    | .error fault => .error fault
  | _, _ => .error .notJson

/-- Read the items of an array as the values of the fields in order. -/
def readItems (d : ConfigDraft) : List JsonToken → JsonRead ConfigDraft
  | .closeBracket :: rest => .ok (d, rest)
  | ts =>
    match ConfigField.all with
    | [] => .error .notJson
    | f :: fields =>
      match d.read f ts with
      | .ok (d, rest) => d.readMoreItems fields rest
      | .error fault => .error fault

end ConfigDraft

/-! ### Reading -/

/-- Read an object or an array. -/
def readDraft : List JsonToken → JsonRead ConfigDraft
  | .openBrace :: rest => ConfigDraft.empty.readMembers rest
  | .openBracket :: rest => ConfigDraft.empty.readItems rest
  | ts => .error (wrongKind ts)

/-- Read a configuration from the tokens of a text, behind which nothing may follow. -/
def Config.ofTokens (ts : List JsonToken) : Except JsonFault Config :=
  match readDraft ts with
  | .ok (d, []) => .ok d.config
  | .ok (_, _ :: _) => .error .notJson
  | .error fault => .error fault

/-- Read a configuration from a text. -/
def Config.parse (s : String) : Except JsonFault Config := Config.ofTokens (jsonTokens s)

end ImportScan
