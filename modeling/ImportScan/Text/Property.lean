import ImportScan.Text.Category
import ImportScan.Text.Script
import ImportScan.Text.DisplayWidth
import ImportScan.Text.Blank

/-!
# Properties of characters

A property of characters is asked for by its name, or by the name of a family of properties and a
value.  Names may be written with any case, and with blanks, hyphens and low lines between their parts.

## Main definitions

* `Property`, `Property.holds` — the properties.
* `plainName` — a name without what may vary in it.
* `Property.named?` — the properties that a name stands for.
* `Property.valued?` — the properties with a value, of the family with a name.
-/

namespace ImportScan

/-- A property that a character may have. -/
inductive Property where
  /-- Any character has it. -/
  | any
  /-- The character is one of ASCII. -/
  | ascii
  /-- The code point stands for something. -/
  | assigned
  /-- The character is alphabetic. -/
  | alphabetic
  /-- The character is white space. -/
  | whiteSpace
  /-- The character is written as a capital. -/
  | uppercase
  /-- The character is written as a small letter. -/
  | lowercase
  /-- The character is a hexadecimal digit of ASCII. -/
  | asciiHexDigit
  /-- The character is a hexadecimal digit, which may have full width. -/
  | hexDigit
  /-- The character can be shown as an emoji. -/
  | emoji
  /-- The character belongs to a category. -/
  | category (category : Category)
  /-- The character belongs to a script. -/
  | script (script : Script)
  deriving DecidableEq, Repr, Inhabited

namespace Property

/-! ### Membership -/

/-- The runs of capitals among numbers and symbols. -/
def capitalSignRuns : CodePoints :=
  [(0x2160, 0x216F), (0x24B6, 0x24CF), (0x1F130, 0x1F149), (0x1F150, 0x1F169), (0x1F170, 0x1F189)]

/-- The runs of small letters among letters that modify others, numbers, symbols and marks. -/
def smallSignRuns : CodePoints :=
  [(0xAA, 0xAA), (0xBA, 0xBA), (0x2B0, 0x2B8), (0x2C0, 0x2C1), (0x2E0, 0x2E4), (0x345, 0x345),
   (0x37A, 0x37A), (0x10FC, 0x10FC), (0x1D2C, 0x1D6A), (0x1D78, 0x1D78), (0x1D9B, 0x1DBF),
   (0x2071, 0x2071), (0x207F, 0x207F), (0x2090, 0x209C), (0x2170, 0x217F), (0x24D0, 0x24E9),
   (0x2C7C, 0x2C7D), (0xA69C, 0xA69D), (0xA770, 0xA770), (0xA7F1, 0xA7F4), (0xA7F8, 0xA7F9),
   (0xAB5C, 0xAB5F), (0xAB69, 0xAB69), (0x10780, 0x10780), (0x10783, 0x10785), (0x10787, 0x107B0),
   (0x107B2, 0x107BA), (0x1E030, 0x1E06D)]

/-- The runs of hexadecimal digits. -/
def hexDigitRuns : CodePoints :=
  [(0x30, 0x39), (0x41, 0x46), (0x61, 0x66), (0xFF10, 0xFF19), (0xFF21, 0xFF26), (0xFF41, 0xFF46)]

/-- Whether a character has a property. -/
def holds (c : Char) : Property → Bool
  | any => true
  | ascii => c.toNat < 0x80
  | assigned => !Category.unassigned.holds c
  | alphabetic => isAlphabetic c
  | whiteSpace => isWhiteSpace c
  | uppercase => isCapital c || capitalSignRuns.holds c
  | lowercase => isSmall c || smallSignRuns.holds c
  | asciiHexDigit => c.toNat < 0x80 && hexDigitRuns.holds c
  | hexDigit => hexDigitRuns.holds c
  | emoji => canBeEmoji c || isIndicator c || isSkinTone c
  | category k => k.holds c
  | script s => s.holds c

/-! ### Names -/

/-- A name without what may vary in it: in small letters of ASCII, without separators, and without an
"is" in front. -/
def plainName (name : String) : String :=
  let starts := (name.toList.take 2).map Char.toLower == ['i', 's']
  let rest := if starts then name.toList.drop 2 else name.toList
  let plain := (rest.filter fun c => c.toNat < 0x80 && c != ' ' && c != '_' && c != '-').map Char.toLower
  if starts && plain == ['c'] then "isc" else String.ofList plain

/-- The property with a name of its own. -/
def single? : String → Option Property
  | "any" => some any
  | "ascii" => some ascii
  | "assigned" => some assigned
  | "alphabetic" | "alpha" => some alphabetic
  | "whitespace" | "wspace" | "space" => some whiteSpace
  | "uppercase" | "upper" => some uppercase
  | "lowercase" | "lower" => some lowercase
  | "asciihexdigit" | "ahex" => some asciiHexDigit
  | "hexdigit" | "hex" => some hexDigit
  | "emoji" => some emoji
  | _ => none

/-- The categories with a name, as properties. -/
def categories? (name : String) : Option (List Property) :=
  match Category.named name with
  | [] => none
  | found => some (found.map category)

/-- The properties that a name stands for, of which a character should have one: a property with that
name, categories, or a script. -/
def named? (name : String) : Option (List Property) :=
  let plain := plainName name
  ((single? plain).map fun p => [p]).or <|
    (categories? plain).or ((Script.named? plain).map fun s => [script s])

/-- The properties with a value, of the family with a name: the categories, or the scripts. -/
def valued? (family value : String) : Option (List Property) :=
  let plain := plainName value
  match plainName family with
  | "generalcategory" | "gc" =>
    match plain with
    | "any" => some [any]
    | "ascii" => some [ascii]
    | "assigned" => some [assigned]
    | _ => categories? plain
  | "script" | "sc" => (Script.named? plain).map fun s => [script s]
  | _ => none

end Property

end ImportScan
