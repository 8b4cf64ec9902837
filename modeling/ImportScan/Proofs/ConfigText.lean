import ImportScan.Config.Json
import ImportScan.Proofs.JsonText

/-!
# Writing and reading configurations

A configuration is read back from the text that is written for it.  More than that, it is read back
from every object with its fields, in any order, with blanks and escapes of any kind, and among
members with other names, whose values may be any JSON; and the fields that are left out have their
values in the default configuration.

## Main definitions

* `IsJson` — the tokens of a value, which may be one that is never written.
* `Config.valueAt`, `Config.keep` — the value of a field, and a configuration of which only some
  fields are kept.
* `ConfigMember`, `objectTokens` — the members of an object, and the tokens of that object.

## Main results

* `IsJson.skipValue` — a value is passed over, whatever it is.
* `ConfigDraft.readMembers_eq` — the fields among the members are what is read.
* `Config.parse_pretty` — a configuration is read back from its own text.
* `Config.parse_fields` — **a configuration is read back, with defaults for what is left out**.
-/

namespace ImportScan

open JsonValue

/-! ### Values that are passed over -/

/-- The tokens of a value: numbers may have any size, and the escapes in strings need not make up
characters. -/
inductive IsJson : List JsonToken → Prop where
  /-- Nothing. -/
  | null : IsJson [.null]
  /-- A truth value. -/
  | bool (b : Bool) : IsJson [.bool b]
  /-- A number. -/
  | number (inRange : Bool) : IsJson [.number inRange]
  /-- A string. -/
  | string (s : Option String) : IsJson [.string s]
  /-- An array. -/
  | array (items : List (List JsonToken)) (h : ∀ ts ∈ items, IsJson ts) :
    IsJson (.openBracket :: (commaSeparated items ++ [.closeBracket]))
  /-- An object. -/
  | object (members : List (Option String × List JsonToken)) (h : ∀ m ∈ members, IsJson m.2) :
    IsJson (.openBrace ::
      (commaSeparated (members.map fun m => .string m.1 :: .colon :: m.2) ++ [.closeBrace]))

theorem commaSeparated_cons (ts : List JsonToken) (more : List (List JsonToken)) :
    commaSeparated (ts :: more) = ts ++ more.flatMap (.comma :: ·) := by
  induction more generalizing ts with
  | nil => simp [commaSeparated]
  | cons next more ih => rw [commaSeparated, ih, List.flatMap_cons, List.cons_append]; simp

/-- What is awaited behind a value: nothing, or more of what is around it. -/
def behindValue (outer : List Bool) (rest : List JsonToken) : Except JsonFault (List JsonToken) :=
  if outer.isEmpty then .ok rest else skipFrom outer .separator rest

/-- The tokens are passed over where a value may stand. -/
def Skips (ts : List JsonToken) : Prop :=
  ∀ outer rest, skipFrom outer .value (ts ++ rest) = behindValue outer rest

variable {ts rest : List JsonToken}

theorem IsJson.skipFrom_firstItem (h : IsJson ts) (outer : List Bool) (rest : List JsonToken) :
    skipFrom outer .firstItem (ts ++ rest) = skipFrom outer .value (ts ++ rest) := by
  cases h <;> (rw [List.cons_append, skipFrom, skipFrom])

/-- The items behind the first one, and the end of the array. -/
theorem skipFrom_moreItems (items : List (List JsonToken)) (hitems : ∀ ts ∈ items, Skips ts)
    (outer : List Bool) (rest : List JsonToken) :
    skipFrom (false :: outer) .separator (items.flatMap (.comma :: ·) ++ .closeBracket :: rest)
      = behindValue outer rest := by
  induction items with
  | nil => rw [List.flatMap_nil, List.nil_append, skipFrom]; rfl
  | cons ts items ih =>
    obtain ⟨hts, hitems⟩ := List.forall_mem_cons.1 hitems
    rw [List.flatMap_cons, List.cons_append, List.cons_append, List.append_assoc, skipFrom, hts,
      ← ih hitems]
    rfl

/-- The members behind the first one, and the end of the object. -/
theorem skipFrom_moreMembers (members : List (Option String × List JsonToken))
    (hmembers : ∀ m ∈ members, Skips m.2) (outer : List Bool) (rest : List JsonToken) :
    skipFrom (true :: outer) .separator
        ((members.map fun m => .string m.1 :: .colon :: m.2).flatMap (.comma :: ·) ++
          .closeBrace :: rest)
      = behindValue outer rest := by
  induction members with
  | nil => rw [List.map_nil, List.flatMap_nil, List.nil_append, skipFrom]; rfl
  | cons m members ih =>
    obtain ⟨hm, hmembers⟩ := List.forall_mem_cons.1 hmembers
    rw [List.map_cons, List.flatMap_cons]
    simp only [List.cons_append, List.append_assoc]
    rw [skipFrom, skipFrom, skipFrom, hm, ← ih hmembers]
    rfl

/-- A value is passed over, whatever is around it. -/
theorem IsJson.skips (h : IsJson ts) : Skips ts := by
  induction h with
  | null => intro outer rest; rw [List.cons_append, skipFrom]; rfl
  | bool b => intro outer rest; rw [List.cons_append, skipFrom]; rfl
  | number inRange => intro outer rest; rw [List.cons_append, skipFrom]; rfl
  | string s => intro outer rest; rw [List.cons_append, skipFrom]; rfl
  | array items h ih =>
    intro outer rest
    rw [List.cons_append, List.append_assoc, skipFrom, List.singleton_append]
    cases items with
    | nil => rw [commaSeparated, List.nil_append, skipFrom]; rfl
    | cons ts items =>
      -- only the first value has no comma in front of it
      obtain ⟨hts, hitems⟩ := List.forall_mem_cons.1 ih
      rw [commaSeparated_cons, List.append_assoc, (h ts List.mem_cons_self).skipFrom_firstItem, hts]
      exact skipFrom_moreItems items hitems outer rest
  | object members h ih =>
    intro outer rest
    rw [List.cons_append, List.append_assoc, skipFrom, List.singleton_append]
    cases members with
    | nil => rw [List.map_nil, commaSeparated, List.nil_append, skipFrom]; rfl
    | cons m members =>
      obtain ⟨hm, hmembers⟩ := List.forall_mem_cons.1 ih
      rw [List.map_cons, commaSeparated_cons]
      simp only [List.cons_append, List.append_assoc]
      rw [skipFrom, skipFrom, hm]
      exact skipFrom_moreMembers members hmembers outer rest

theorem IsJson.skipValue (h : IsJson ts) (rest : List JsonToken) :
    skipValue (ts ++ rest) = .ok rest := h.skips [] rest

/-! ### The values of the fields -/

namespace Config

/-- The value of a field. -/
def valueAt (c : Config) : ConfigField → JsonValue
  | .entry => .string c.entry
  | .extractable => .string c.extractable
  | .ignores => .array (c.ignores.map .string)
  | .followImports => .bool c.followImports
  | .onBalanceMismatch => .string c.onBalanceMismatch.name
  | .language =>
    match c.language with
    | some l => .string l.name
    | none => .null

/-- The configuration with the given fields, and with defaults for all others. -/
def keep (c : Config) (fields : List ConfigField) : Config :=
  { entry := if .entry ∈ fields then c.entry else Config.default.entry
    extractable := if .extractable ∈ fields then c.extractable else Config.default.extractable
    ignores := if .ignores ∈ fields then c.ignores else Config.default.ignores
    followImports :=
      if .followImports ∈ fields then c.followImports else Config.default.followImports
    onBalanceMismatch :=
      if .onBalanceMismatch ∈ fields then c.onBalanceMismatch
      else Config.default.onBalanceMismatch
    language := if .language ∈ fields then c.language else Config.default.language }

end Config

/-- The items of an array of strings, behind the first one. -/
theorem readMoreStrings_eq (ss : List String) (rest : List JsonToken) :
    readMoreStrings ((itemTokens (ss.map .string)).flatMap (.comma :: ·) ++ .closeBracket :: rest)
      = .ok (ss, rest) := by
  induction ss with
  | nil => rfl
  | cons s ss ih =>
    rw [List.map_cons, itemTokens, tokens, List.flatMap_cons]
    simp only [List.cons_append, List.nil_append]
    rw [readMoreStrings, ih]

theorem readStrings_eq (ss : List String) (rest : List JsonToken) :
    readStrings ((JsonValue.array (ss.map .string)).tokens ++ rest) = .ok (ss, rest) := by
  cases ss with
  | nil => rfl
  | cons s ss =>
    rw [tokens, List.map_cons, itemTokens, tokens, commaSeparated_cons]
    simp only [List.cons_append, List.nil_append, List.append_assoc]
    rw [readStrings, readMoreStrings_eq]

namespace ConfigDraft

variable {c : Config} {fields : List ConfigField} {f : ConfigField}

/-- What has been read of a configuration when these fields have been read. -/
def ofFields (c : Config) (fields : List ConfigField) : ConfigDraft :=
  { entry := if .entry ∈ fields then some c.entry else none
    extractable := if .extractable ∈ fields then some c.extractable else none
    ignores := if .ignores ∈ fields then some c.ignores else none
    followImports := if .followImports ∈ fields then some c.followImports else none
    onBalanceMismatch := if .onBalanceMismatch ∈ fields then some c.onBalanceMismatch else none
    language := if .language ∈ fields then some c.language else none }

@[simp] theorem ofFields_nil : ofFields c [] = empty := rfl

theorem has_ofFields : (ofFields c fields).has f = decide (f ∈ fields) := by
  cases f <;> simp only [has, ofFields] <;> split <;> simp_all

theorem config_ofFields : (ofFields c fields).config = c.keep fields := by
  simp only [config, ofFields, Config.keep, Config.mk.injEq]
  refine ⟨?_, ?_, ?_, ?_, ?_, ?_⟩ <;> split <;> rfl

/-- The value of a field is read. -/
theorem read_valueAt (c : Config) (fields : List ConfigField) (f : ConfigField)
    (rest : List JsonToken) :
    (ofFields c fields).read f ((c.valueAt f).tokens ++ rest)
      = .ok (ofFields c (fields ++ [f]), rest) := by
  have hchoice := BalancePolicy.ofName?_name c.onBalanceMismatch
  cases f with
  | entry => simp [read, Config.valueAt, tokens, readString, fill, ofFields]
  | extractable => simp [read, Config.valueAt, tokens, readString, fill, ofFields]
  | ignores => simp [read, Config.valueAt, readStrings_eq, fill, ofFields]
  | followImports => simp [read, Config.valueAt, tokens, readBool, fill, ofFields]
  | onBalanceMismatch =>
    simp [read, Config.valueAt, tokens, readChoice, hchoice, fill, ofFields]
  | language =>
    cases hlanguage : c.language with
    | none => simp [read, Config.valueAt, hlanguage, tokens, readOptional, fill, ofFields]
    | some l =>
      simp [read, Config.valueAt, hlanguage, tokens, readOptional, readChoice,
        Language.ofName?_name l, fill, ofFields]

end ConfigDraft

/-! ### Members -/

/-- A member of an object: a field of a configuration, or any value with another name. -/
inductive ConfigMember where
  /-- A field. -/
  | field (f : ConfigField)
  /-- A value with the name of no field. -/
  | other (name : String) (value : List JsonToken) (hname : ConfigField.ofName? name = none)
    (hvalue : IsJson value)

namespace ConfigMember

/-- The field, if it is one. -/
def field? : ConfigMember → Option ConfigField
  | .field f => some f
  | .other .. => none

/-- The name of the member. -/
def name : ConfigMember → String
  | .field f => f.name
  | .other name .. => name

/-- The value of the member, that in the configuration if it is a field. -/
def value (c : Config) : ConfigMember → List JsonToken
  | .field f => (c.valueAt f).tokens
  | .other _ value .. => value

/-- The name and the value of the member. -/
def tokens (c : Config) (m : ConfigMember) : List JsonToken :=
  .string (some m.name) :: .colon :: m.value c

/-- The fields among some members. -/
def fieldsIn (members : List ConfigMember) : List ConfigField := members.filterMap field?

@[simp] theorem fieldsIn_nil : fieldsIn [] = [] := rfl

theorem fieldsIn_cons (m : ConfigMember) (members : List ConfigMember) :
    fieldsIn (m :: members) = m.field?.toList ++ fieldsIn members := by
  cases m <;> rfl

theorem fieldsIn_map_field (fields : List ConfigField) : fieldsIn (fields.map .field) = fields := by
  rw [fieldsIn, List.filterMap_map]
  exact List.filterMap_some

end ConfigMember

/-- The tokens of an object with some members, the fields as they are in the configuration. -/
def objectTokens (c : Config) (members : List ConfigMember) : List JsonToken :=
  .openBrace :: (commaSeparated (members.map (·.tokens c)) ++ [.closeBrace])

namespace ConfigDraft

variable {c : Config} {before : List ConfigField}

/-- A field is read, unless it has been read before, and other members are passed over. -/
theorem readMember_eq {m : ConfigMember} (hnew : ∀ f ∈ m.field?, f ∉ before)
    (rest : List JsonToken) :
    (ofFields c before).readMember m.name (.colon :: (m.value c ++ rest))
      = .ok (ofFields c (before ++ m.field?.toList), rest) := by
  cases m with
  | field f =>
    have hhas : (ofFields c before).has f = false := by
      rw [has_ofFields, decide_eq_false (hnew f rfl)]
    simp only [readMember, ConfigMember.name, ConfigField.ofName?_name, hhas,
      if_neg Bool.false_ne_true]
    exact read_valueAt c before f rest
  | other name value hname hvalue =>
    simp [readMember, ConfigMember.name, hname, ConfigMember.value, hvalue.skipValue,
      ConfigMember.field?]

/-- The members behind some that have been read, and the end of the object. -/
theorem readMoreMembers_eq {members : List ConfigMember}
    (hnodup : (before ++ ConfigMember.fieldsIn members).Nodup) {fuel : Nat}
    (hfuel : members.length ≤ fuel) (rest : List JsonToken) :
    (ofFields c before).readMoreMembers fuel
        ((members.map (·.tokens c)).flatMap (.comma :: ·) ++ .closeBrace :: rest)
      = .ok (ofFields c (before ++ ConfigMember.fieldsIn members), rest) := by
  induction members generalizing before fuel with
  | nil => cases fuel <;> simp [readMoreMembers]
  | cons m members ih =>
    rw [ConfigMember.fieldsIn_cons, ← List.append_assoc] at hnodup ⊢
    -- a field that has been read before would be refused
    have hnew : ∀ f ∈ m.field?, f ∉ before := by
      intro f hf hmem
      have hne := (List.nodup_append.1 (List.nodup_append.1 hnodup).1).2.2
      exact hne f hmem f (Option.mem_toList.2 hf) rfl
    cases fuel with
    | zero => simp at hfuel
    | succ fuel =>
      have htokens :
          ((m :: members).map (·.tokens c)).flatMap (.comma :: ·) ++ .closeBrace :: rest
            = .comma :: .string (some m.name) :: .colon :: (m.value c ++
                ((members.map (·.tokens c)).flatMap (.comma :: ·) ++ .closeBrace :: rest)) := by
        simp [ConfigMember.tokens]
      rw [htokens, readMoreMembers, readMember_eq hnew]
      exact ih hnodup (Nat.le_of_succ_le_succ hfuel)

theorem length_le_flatMap (members : List ConfigMember) :
    members.length ≤ ((members.map (·.tokens c)).flatMap (.comma :: ·)).length := by
  induction members with
  | nil => exact Nat.zero_le _
  | cons m members ih =>
    rw [List.map_cons, List.flatMap_cons, List.length_append, List.length_cons, List.length_cons]
    omega

/-- The members of an object: the fields among them are read. -/
theorem readMembers_eq {members : List ConfigMember}
    (hnodup : (ConfigMember.fieldsIn members).Nodup) (rest : List JsonToken) :
    empty.readMembers (commaSeparated (members.map (·.tokens c)) ++ .closeBrace :: rest)
      = .ok (ofFields c (ConfigMember.fieldsIn members), rest) := by
  rw [← ofFields_nil (c := c)]
  cases members with
  | nil => rfl
  | cons m members =>
    have hfuel : members.length ≤
        ((members.map (·.tokens c)).flatMap (.comma :: ·) ++ .closeBrace :: rest).length := by
      rw [List.length_append]
      exact Nat.le_add_right_of_le (length_le_flatMap members)
    rw [ConfigMember.fieldsIn_cons] at hnodup ⊢
    rw [List.map_cons, commaSeparated_cons, ConfigMember.tokens]
    simp only [List.cons_append, List.append_assoc]
    rw [readMembers, readMember_eq (fun _ _ => List.not_mem_nil)]
    exact readMoreMembers_eq hnodup hfuel rest

end ConfigDraft

/-! ### Texts -/

/-- A text without natural numbers has the tokens that are there when the values of numbers are
told. -/
theorem jsonTokensFrom_of_jsonLexemesFrom {fuel : Nat} {cs : List Char} {ts : List JsonToken}
    (h : jsonLexemesFrom fuel cs = ts.map .token) : jsonTokensFrom fuel cs = ts := by
  -- a lexeme that is a token is the token that was read
  have hof : ∀ t u text, JsonLexeme.of t text = .token u → t = u := by
    intro t u text heq
    rw [JsonLexeme.of] at heq
    split at heq
    · cases heq
    · exact JsonLexeme.token.inj heq
  fun_induction jsonTokensFrom fuel cs generalizing ts with
  | case1 fuel =>
    rw [jsonLexemesFrom] at h
    exact (List.map_eq_nil_iff.1 h.symm).symm
  | case2 c cs =>
    rw [jsonLexemesFrom] at h
    exact (List.map_inj_right (l := [JsonToken.bad]) fun _ _ => JsonLexeme.token.inj).1 h
  | case3 fuel c cs hblank ih =>
    rw [jsonLexemesFrom, if_pos hblank] at h
    exact ih h
  | case4 fuel c cs hblank t rest hread ih =>
    rw [jsonLexemesFrom, if_neg hblank, hread] at h
    obtain ⟨u, us, rfl, hu, hus⟩ := List.map_eq_cons_iff.1 h.symm
    rw [hof _ _ _ hu.symm, ih hus.symm]
  | case5 fuel c cs hblank hread =>
    rw [jsonLexemesFrom, if_neg hblank, hread] at h
    exact (List.map_inj_right (l := [JsonToken.bad]) fun _ _ => JsonLexeme.token.inj).1 h

namespace Config

variable {c : Config}

theorem parse_of_objectTokens {members : List ConfigMember} {text : String}
    (hnodup : (ConfigMember.fieldsIn members).Nodup)
    (htext : jsonTokens text = objectTokens c members) :
    parse text = .ok (c.keep (ConfigMember.fieldsIn members)) := by
  rw [parse, htext, ofTokens, objectTokens, readDraft, ConfigDraft.readMembers_eq hnodup]
  exact congrArg Except.ok ConfigDraft.config_ofFields

/-- The fields that are written: the language only if there is one. -/
def written (c : Config) : List ConfigField :=
  [.entry, .extractable, .ignores, .followImports, .onBalanceMismatch] ++
    (c.language.map fun _ => .language).toList

theorem nodup_written : c.written.Nodup := by
  cases hlanguage : c.language <;> simp [written, hlanguage]

theorem keep_written : c.keep c.written = c := by
  obtain ⟨entry, extractable, ignores, followImports, onBalanceMismatch, language⟩ := c
  cases language <;> rfl

theorem furtherItems_strings (ss : List String) :
    furtherItems (ss.map .string)
      = ((itemTokens (ss.map .string)).flatMap (.comma :: ·) ++ [.closeBracket] :
          List JsonToken).map .token := by
  induction ss with
  | nil => rfl
  | cons s ss ih =>
    rw [List.map_cons, furtherItems, ih]
    rfl

theorem lexemes_strings (ss : List String) :
    (JsonValue.array (ss.map .string)).lexemes
      = (JsonValue.array (ss.map .string)).tokens.map .token := by
  cases ss with
  | nil => rfl
  | cons s ss =>
    rw [List.map_cons, lexemes, furtherItems_strings, JsonValue.tokens, itemTokens,
      commaSeparated_cons]
    rfl

theorem lexemes_toJson :
    c.toJson.lexemes = (objectTokens c (c.written.map .field)).map .token := by
  have hignores := lexemes_strings c.ignores
  cases hlanguage : c.language <;>
    simp [toJson, written, hlanguage, lexemes, furtherMembers, hignores, objectTokens,
      commaSeparated, ConfigMember.tokens, ConfigMember.name, ConfigField.name, ConfigMember.value,
      valueAt, JsonValue.tokens]

theorem jsonTokens_pretty : jsonTokens c.toJson.pretty = objectTokens c (c.written.map .field) := by
  have hblank : ∀ ch ∈ "".toList, isJsonBlank ch = true := by simp
  have hlexemes := jsonLexemes_pretty c.toJson hblank
  rw [String.append_empty, lexemes_toJson] at hlexemes
  exact jsonTokensFrom_of_jsonLexemesFrom hlexemes

/-- A configuration is read back from the text that is written for it. -/
theorem parse_pretty (c : Config) : parse c.toJson.pretty = .ok c := by
  have hfields := ConfigMember.fieldsIn_map_field c.written
  rw [parse_of_objectTokens (hfields.symm ▸ nodup_written) jsonTokens_pretty, hfields,
    keep_written]

/-- **A configuration is read back, with defaults for what is left out.**  It is read back from the
text that is written for it.  It is also read back from every text of an object with fields of the
configuration, each at most once and in any order, and with values of other names; the fields that
are left out have their values in the default configuration. -/
theorem parse_fields (c : Config) :
    parse c.toJson.pretty = .ok c ∧
      ∀ (members : List ConfigMember) (text : String),
        (ConfigMember.fieldsIn members).Nodup → jsonTokens text = objectTokens c members →
        parse text = .ok (c.keep (ConfigMember.fieldsIn members)) :=
  ⟨parse_pretty c, fun _ _ hnodup htext => parse_of_objectTokens hnodup htext⟩

/-- Two fields in another order, the name of one with an escape, and a member between them. -/
theorem parse_fields_escaped :
    parse "\x7b\"l\\u0061nguage\": \"ecma\", \"entry \": [1, -2.5e400], \"ignores\":[\"a/*\"]\x7d"
      = .ok { Config.default with ignores := ["a/*"], language := some .ecma } :=
  (parse_fields ⟨"a.js", "b", ["a/*"], false, .skipFile, some .ecma⟩).2
    [.field .language,
      .other "entry " _ rfl (.array [[.number true], [.number false]] <|
        List.forall_mem_cons.2 ⟨.number true, List.forall_mem_singleton.2 (.number false)⟩),
      .field .ignores]
    _ (by simp [ConfigMember.fieldsIn_cons, ConfigMember.field?]) (by decide +kernel)

end Config

end ImportScan
