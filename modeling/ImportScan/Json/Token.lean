import ImportScan.Text.Escape

/-!
# The tokens of a JSON text

A text is read from the left into tokens.  What is no token ends the list with a mark, so that a
reader meets the mark only after all that precedes it.

## Main definitions

* `JsonToken` — the tokens.
* `readJsonString?`, `readJsonNumber?` — the two tokens of variable length.
* `jsonTokens` — the tokens of a text.
-/

namespace ImportScan

/-- A token of a JSON text. -/
inductive JsonToken where
  /-- An object starts. -/
  | openBrace
  /-- An object ends. -/
  | closeBrace
  /-- An array starts. -/
  | openBracket
  /-- An array ends. -/
  | closeBracket
  /-- Between a name and its value. -/
  | colon
  /-- Between members. -/
  | comma
  /-- The value `null`. -/
  | null
  /-- A truth value. -/
  | bool (b : Bool)
  /-- A number, and whether it is small enough for a binary floating point number. -/
  | number (inRange : Bool)
  /-- A string; `none` when its escapes do not make up characters. -/
  | string (s : Option String)
  /-- No token. -/
  | bad
  deriving DecidableEq, Repr, Inhabited

/-! ### Strings -/

/-- The characters with an escape of one letter. -/
def jsonEscape? : Char → Option Char
  | '\x22' => some '\x22'
  | '\\' => some '\\'
  | '/' => some '/'
  | 'b' => some '\x08'
  | 'f' => some '\x0c'
  | 'n' => some '\n'
  | 'r' => some '\r'
  | 't' => some '\t'
  | _ => none

/-- Read a string behind its opening quote, into characters and escaped code units. -/
def readUnits? : List Char → Option (List (Char ⊕ Nat) × List Char)
  | [] => none
  | '\x22' :: rest => some ([], rest)
  | '\\' :: 'u' :: a :: b :: c :: d :: rest =>
    match hexNumber? [a, b, c, d], readUnits? rest with
    | some n, some (units, behind) => some (.inr n :: units, behind)
    | _, _ => none
  | '\\' :: e :: rest =>
    match jsonEscape? e, readUnits? rest with
    | some c, some (units, behind) => some (.inl c :: units, behind)
    | _, _ => none
  | c :: rest =>
    if c.toNat < 0x20 then none
    else (readUnits? rest).map fun r => (.inl c :: r.1, r.2)

/-- Whether a code unit is the first half of a pair. -/
def isLeadUnit (n : Nat) : Bool := 0xD800 ≤ n && n ≤ 0xDBFF

/-- Whether a code unit is the second half of a pair. -/
def isTrailUnit (n : Nat) : Bool := 0xDC00 ≤ n && n ≤ 0xDFFF

/-- The character of a pair of code units. -/
def unitPair (lead trail : Nat) : Char :=
  Char.ofNat (0x10000 + (lead - 0xD800) * 0x400 + (trail - 0xDC00))

/-- Put code units together; both halves of a pair must be there. -/
def joinUnits? : List (Char ⊕ Nat) → Option (List Char)
  | [] => some []
  | .inl c :: rest => (joinUnits? rest).map (c :: ·)
  | .inr n :: .inr m :: rest =>
    if isLeadUnit n then
      if isTrailUnit m then (joinUnits? rest).map (unitPair n m :: ·) else none
    else if isTrailUnit n then none
    else (joinUnits? (.inr m :: rest)).map (Char.ofNat n :: ·)
  | .inr n :: rest =>
    if isLeadUnit n || isTrailUnit n then none else (joinUnits? rest).map (Char.ofNat n :: ·)

/-- Read a string behind its opening quote. -/
def readJsonString? (cs : List Char) : Option (JsonToken × List Char) :=
  (readUnits? cs).map fun r => (.string ((joinUnits? r.1).map String.ofList), r.2)

/-! ### Numbers -/

/-- A number as it is written: its digits, how many of them follow the point, and its exponent. -/
structure JsonNumber where
  /-- All digits. -/
  digits : List Char
  /-- How many of them follow the point. -/
  decimals : Nat
  /-- The exponent. -/
  exponent : Int
  deriving DecidableEq, Repr, Inhabited

/-- The value of some decimal digits. -/
def digitsValue (digits : List Char) : Nat :=
  digits.foldl (fun n c => 10 * n + (c.toNat - '0'.toNat)) 0

/-- The least number that rounds to no finite binary floating point number of 64 bits. -/
def floatLimit : Nat := Nat.pow 2 1024 - Nat.pow 2 970

/-- Whether the number is below the limit.  Numbers with many digits more or less than the limit are
decided by their length. -/
def JsonNumber.inRange (n : JsonNumber) : Bool :=
  let mantissa := digitsValue n.digits
  let exponent := n.exponent - n.decimals
  let length : Int := (Nat.toDigits 10 mantissa).length + exponent
  if mantissa = 0 || length ≤ 308 then true
  else if 309 < length then false
  else if 0 ≤ exponent then mantissa * Nat.pow 10 exponent.toNat < floatLimit
  else mantissa < floatLimit * Nat.pow 10 (-exponent).toNat

/-- Split off the digits at the start. -/
def splitDigits (cs : List Char) : List Char × List Char :=
  (cs.takeWhile Char.isDigit, cs.dropWhile Char.isDigit)

/-- Read the digits before the point: a zero alone, or digits that do not start with one. -/
def readInteger? (cs : List Char) : Option (List Char × List Char) :=
  match splitDigits cs with
  | ([], _) => none
  | ('0' :: _ :: _, _) => none
  | r => some r

/-- Read the point and the digits behind it, if there is a point. -/
def readDecimals? : List Char → Option (List Char × List Char)
  | '.' :: cs =>
    match splitDigits cs with
    | ([], _) => none
    | r => some r
  | cs => some ([], cs)

/-- Read the digits of an exponent. -/
def readExponentDigits? (negative : Bool) (cs : List Char) : Option (Int × List Char) :=
  match splitDigits cs with
  | ([], _) => none
  | (digits, rest) =>
    some (if negative then -(digitsValue digits : Int) else digitsValue digits, rest)

/-- Read the exponent, if there is one. -/
def readExponent? : List Char → Option (Int × List Char)
  | 'e' :: cs | 'E' :: cs =>
    match cs with
    | '+' :: cs => readExponentDigits? false cs
    | '-' :: cs => readExponentDigits? true cs
    | cs => readExponentDigits? false cs
  | cs => some (0, cs)

/-- Read a number. -/
def readJsonNumber? (cs : List Char) : Option (JsonToken × List Char) :=
  let unsigned := if cs.head? == some '-' then cs.tail else cs
  match readInteger? unsigned with
  | none => none
  | some (whole, rest) =>
    match readDecimals? rest with
    | none => none
    | some (decimals, rest) =>
      (readExponent? rest).map fun r =>
        (.number (JsonNumber.inRange ⟨whole ++ decimals, decimals.length, r.1⟩), r.2)

/-! ### All tokens -/

/-- Read a given word. -/
def readWord? (word : String) (t : JsonToken) (cs : List Char) : Option (JsonToken × List Char) :=
  if word.toList.isPrefixOf cs then some (t, cs.drop word.toList.length) else none

/-- Read the token that starts with `c`. -/
def readJsonToken? (c : Char) (cs : List Char) : Option (JsonToken × List Char) :=
  match c with
  | '{' => some (.openBrace, cs)
  | '}' => some (.closeBrace, cs)
  | '[' => some (.openBracket, cs)
  | ']' => some (.closeBracket, cs)
  | ':' => some (.colon, cs)
  | ',' => some (.comma, cs)
  | '\x22' => readJsonString? cs
  | 'n' => readWord? "null" .null (c :: cs)
  | 't' => readWord? "true" (.bool true) (c :: cs)
  | 'f' => readWord? "false" (.bool false) (c :: cs)
  | _ => if c == '-' || c.isDigit then readJsonNumber? (c :: cs) else none

/-- Whether a character separates tokens. -/
def isJsonBlank (c : Char) : Bool := c == ' ' || c == '\t' || c == '\n' || c == '\r'

/-- The tokens of a text; `fuel` bounds the number of steps, each of which takes a character. -/
def jsonTokensFrom : Nat → List Char → List JsonToken
  | _, [] => []
  | 0, _ :: _ => [.bad]
  | fuel + 1, c :: cs =>
    if isJsonBlank c then jsonTokensFrom fuel cs
    else
      match readJsonToken? c cs with
      | some (t, rest) => t :: jsonTokensFrom fuel rest
      | none => [.bad]

/-- The tokens of a text, up to the end or to what is no token. -/
def jsonTokens (s : String) : List JsonToken := jsonTokensFrom s.toList.length s.toList

end ImportScan
