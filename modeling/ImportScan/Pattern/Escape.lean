import ImportScan.Pattern
import ImportScan.Text.Escape

/-!
# Escapes of regular expressions

A backslash in a regular expression takes the meaning from a sign, or gives one to a letter: it stands
for a character, for a set of them, or for a condition.

## Main definitions

* `RegexEscape` — what an escape stands for.
* `readEscape?` — what follows a backslash.
-/

namespace ImportScan

/-- What an escape stands for. -/
inductive RegexEscape where
  /-- A character. -/
  | char (c : Char)
  /-- A set of characters. -/
  | set (s : CharSet)
  /-- The start of the text. -/
  | textStart
  /-- The end of the text. -/
  | textEnd
  /-- A condition on words. -/
  | word (e : WordEdge)
  deriving DecidableEq, Repr, Inhabited

/-! ### Characters -/

/-- The character with some hexadecimal digits, at least one. -/
def hexChar? (digits : List Char) : Option Char :=
  if digits.isEmpty then none
  else
    match hexNumber? digits with
    | some n => if h : n.isValidChar then some (Char.ofNatAux n h) else none
    | none => none

/-- Read up to a closing brace. -/
def readBraced? (cs : List Char) : Option (List Char × List Char) :=
  match cs.dropWhile (· != '\x7d') with
  | _ :: behind => some (cs.takeWhile (· != '\x7d'), behind)
  | [] => none

/-- Read a character by its code point: digits in braces, or `width` digits. -/
def readHex? (width : Nat) : List Char → Option (Char × List Char)
  | '\x7b' :: cs =>
    match readBraced? cs with
    | some (digits, behind) => (hexChar? digits).map fun c => (c, behind)
    | none => none
  | cs => if cs.length < width then none else (hexChar? (cs.take width)).map fun c => (c, cs.drop width)

/-- Whether a character can be escaped to stand for itself: ASCII without letters, digits and the angle
brackets. -/
def standsForItself (c : Char) : Bool :=
  c.toNat < 0x80 && !c.isAlphanum && c != '<' && c != '>'

/-- The control characters that have an escape of one letter. -/
def controlEscape? : Char → Option Char
  | 'a' => some '\x07'
  | 'f' => some '\x0c'
  | 't' => some '\t'
  | 'n' => some '\n'
  | 'r' => some '\r'
  | 'v' => some '\x0b'
  | _ => none

/-- The number of digits behind the letter of an escape by code point. -/
def hexWidth? : Char → Option Nat
  | 'x' => some 2
  | 'u' => some 4
  | 'U' => some 8
  | _ => none

/-! ### Sets -/

/-- The sets of characters that have an escape of one letter. -/
def setEscape? : Char → Option CharSet
  | 'd' => some .digits
  | 'D' => some (.complement .digits)
  | 's' => some .spaces
  | 'S' => some (.complement .spaces)
  | 'w' => some .words
  | 'W' => some (.complement .words)
  | _ => none

/-- Split a text around the first place where `sign` stands in it. -/
def splitAround (sign : List Char) : List Char → Option (List Char × List Char)
  | [] => none
  | c :: cs =>
    if sign.isPrefixOf (c :: cs) then some ([], (c :: cs).drop sign.length)
    else (splitAround sign cs).map fun r => (c :: r.1, r.2)

/-- The set that stands in the braces of a property: a name, or the name of a family and a value.  The
sign between them can ask for the other characters. -/
def propertySet? (negated : Bool) (text : List Char) : Option CharSet :=
  let valued (negated : Bool) (r : List Char × List Char) :=
    (Property.valued? (String.ofList r.1) (String.ofList r.2)).map fun ps =>
      CharSet.bracketed negated (.ofProperties ps)
  match splitAround ['!', '='] text, splitAround [':'] text, splitAround ['='] text with
  | some r, _, _ => valued (!negated) r
  | none, some r, _ => valued negated r
  | none, none, some r => valued negated r
  | none, none, none =>
    (Property.named? (String.ofList text)).map fun ps => .bracketed negated (.ofProperties ps)

/-- Read a property: one letter, or more in braces. -/
def readProperty? (negated : Bool) : List Char → Option (CharSet × List Char)
  | [] => none
  | '\x7b' :: cs =>
    match readBraced? cs with
    | some (text, behind) => (propertySet? negated text).map fun s => (s, behind)
    | none => none
  | c :: cs =>
    (Property.named? (String.singleton c)).map fun ps => (.bracketed negated (.ofProperties ps), cs)

/-! ### Conditions -/

/-- The condition with a name in braces. -/
def WordEdge.ofName? : String → Option WordEdge
  | "start" => some .start
  | "end" => some .stop
  | "start-half" => some .free
  | "end-half" => some .done
  | _ => none

/-- Read what follows the escape of a word's edge: a brace and a letter or a hyphen start the name of
some other condition. -/
def readWordEdge? (cs : List Char) : Option (WordEdge × List Char) :=
  match cs with
  | '\x7b' :: c :: rest =>
    if c.isAlpha || c == '-' then
      match readBraced? (c :: rest) with
      | some (name, behind) => (WordEdge.ofName? (String.ofList name)).map fun e => (e, behind)
      | none => none
    else some (.either, cs)
  | '\x7b' :: [] => none
  | _ => some (.either, cs)

/-- The other conditions that have an escape of one character. -/
def edgeEscape? : Char → Option RegexEscape
  | 'A' => some .textStart
  | 'z' => some .textEnd
  | 'B' => some (.word .neither)
  | '<' => some (.word .start)
  | '>' => some (.word .stop)
  | _ => none

/-! ### All escapes -/

/-- The escapes of one character. -/
def shortEscape? (c : Char) : Option RegexEscape :=
  if standsForItself c then some (.char c)
  else
    ((controlEscape? c).map RegexEscape.char).or
      (((setEscape? c).map RegexEscape.set).or (edgeEscape? c))

/-- Read what follows a backslash. -/
def readEscape? : List Char → Option (RegexEscape × List Char)
  | [] => none
  | c :: cs =>
    match c, hexWidth? c with
    | _, some width => (readHex? width cs).map fun r => (.char r.1, r.2)
    | 'p', none => (readProperty? false cs).map fun r => (.set r.1, r.2)
    | 'P', none => (readProperty? true cs).map fun r => (.set r.1, r.2)
    | 'b', none => (readWordEdge? cs).map fun r => (.word r.1, r.2)
    | c, none => (shortEscape? c).map fun e => (e, cs)

end ImportScan
