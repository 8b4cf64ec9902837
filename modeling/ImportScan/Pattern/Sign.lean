import ImportScan.Pattern.Enclosed

/-!
# The signs of a regular expression

A regular expression is first split into signs: characters and sets of them, conditions, repetitions,
bars, and the brackets and marks of groups.

## Main definitions

* `RegexOption`, `RegexSwitches` — what groups can switch on and off.
* `RegexSign` — the signs.
* `readCount?` — what follows an opening brace.
* `readGroup?` — what follows an opening parenthesis.
* `regexSigns?` — all signs of a regular expression.
-/

namespace ImportScan

/-! ### Options -/

/-- What a group can switch on or off. -/
inductive RegexOption where
  /-- Disregard case. -/
  | fold
  /-- Let the anchors see lines. -/
  | lines
  /-- Let the dot stand for a line feed too. -/
  | dotAll
  /-- Let lines also end with a carriage return. -/
  | returns
  /-- Let repetitions prefer to be short, on which it does not depend whether a text matches. -/
  | lazy
  /-- Know all characters, and not just those of ASCII. -/
  | wide
  /-- Pass over white space and comments. -/
  | verbose
  deriving DecidableEq, Repr, Inhabited

namespace RegexOption

/-- The option that a letter stands for. -/
def ofLetter? : Char → Option RegexOption
  | 'i' => some fold
  | 'm' => some lines
  | 's' => some dotAll
  | 'R' => some returns
  | 'U' => some lazy
  | 'u' => some wide
  | 'x' => some verbose
  | _ => none

end RegexOption

/-- Options that a group switches, each on or off. -/
abbrev RegexSwitches := List (RegexOption × Bool)

/-! ### Signs -/

/-- A sign of a regular expression. -/
inductive RegexSign where
  /-- A character. -/
  | char (c : Char)
  /-- One character of a set. -/
  | set (s : CharSet)
  /-- The dot. -/
  | dot
  /-- The start of the text, or of a line. -/
  | caret
  /-- The end of the text, or of a line. -/
  | dollar
  /-- The start of the text. -/
  | textStart
  /-- The end of the text. -/
  | textEnd
  /-- A condition on words. -/
  | word (e : WordEdge)
  /-- What precedes is repeated. -/
  | times (least : Nat) (most : Option Nat)
  /-- A group starts, which may have a name and switch options. -/
  | opening (name : Option String) (switches : RegexSwitches)
  /-- Options are switched for the rest of the group. -/
  | switch (switches : RegexSwitches)
  /-- A group ends. -/
  | closing
  /-- Another way to match follows. -/
  | bar
  deriving DecidableEq, Repr, Inhabited

/-- The sign that an escape stands for. -/
def RegexEscape.sign : RegexEscape → RegexSign
  | .char c => .char c
  | .set s => .set s
  | .textStart => .textStart
  | .textEnd => .textEnd
  | .word e => .word e

/-! ### Repetitions -/

/-- The largest number of repetitions that can be written. -/
def maxCount : Nat := 4294967295

/-- Read a number, with white space around it. -/
def readNumber (cs : List Char) : Option Nat × List Char :=
  let cs := cs.dropWhile isWhiteSpace
  let digits := cs.takeWhile Char.isDigit
  let n := digits.foldl (fun n c => 10 * n + (c.toNat - '0'.toNat)) 0
  let number := if digits.isEmpty || maxCount < n then none else some n
  (number, (cs.dropWhile Char.isDigit).dropWhile isWhiteSpace)

/-- Read what follows an opening brace: a number, a lower bound, or two bounds. -/
def readCount? (cs : List Char) : Option ((Nat × Option Nat) × List Char) :=
  match readNumber cs with
  | (some least, '\x7d' :: rest) => some ((least, some least), rest)
  | (some least, ',' :: '\x7d' :: rest) => some ((least, none), rest)
  | (some least, ',' :: rest) =>
    match readNumber rest with
    | (some most, '\x7d' :: rest) =>
      if least ≤ most then some ((least, some most), rest) else none
    | _ => none
  | _ => none

/-- Drop the mark of a repetition that prefers to be short: whether a text matches does not depend on
it. -/
def dropLazy : List Char → List Char
  | '?' :: rest => rest
  | cs => cs

/-! ### Groups -/

/-- Whether the name of a group can start with this character. -/
def startsGroupName (c : Char) : Bool := c == '_' || isAlphabetic c

/-- Whether the name of a group can go on with this character. -/
def isGroupNamePart (c : Char) : Bool :=
  c == '_' || c == '.' || c == '[' || c == ']' || isAlphabetic c || isNumeric c

/-- Read the name of a group, up to its closing angle bracket. -/
def readGroupName? (cs : List Char) : Option (String × List Char) :=
  let name := cs.takeWhile (· != '>')
  match name, cs.dropWhile (· != '>') with
  | c :: more, _ :: rest =>
    if startsGroupName c && more.all isGroupNamePart then some (String.ofList name, rest) else none
  | _, _ => none

/-- Read the letters of options, up to the sign behind them.  A hyphen, of which there is at most one,
switches off what follows; no option may be switched twice. -/
def readSwitches? (on : Bool) (switches : RegexSwitches) :
    List Char → Option (RegexSwitches × Char × List Char)
  | [] => none
  | c :: cs =>
    if c == ':' || c == ')' then some (switches, c, cs)
    else if c == '-' then
      if on && !(cs.head?.any fun d => d == ':' || d == ')') then readSwitches? false switches cs
      else none
    else
      match RegexOption.ofLetter? c with
      | some o =>
        if (switches.lookup o).isNone then readSwitches? on (switches ++ [(o, on)]) cs else none
      | none => none

/-- Read what follows an opening parenthesis. -/
def readGroup? : List Char → Option (RegexSign × List Char)
  | '?' :: 'P' :: '<' :: cs => (readGroupName? cs).map fun r => (.opening (some r.1) [], r.2)
  | '?' :: '<' :: cs => (readGroupName? cs).map fun r => (.opening (some r.1) [], r.2)
  | '?' :: cs =>
    match readSwitches? true [] cs with
    | some (s, ':', rest) => some (.opening none s, rest)
    | some (s, _, rest) => if s.isEmpty then none else some (.switch s, rest)
    | none => none
  | cs => some (.opening none [], cs)

/-! ### All signs -/

/-- Read the sign that starts with the character `c`. -/
def readSign? (verbose : Bool) (c : Char) (cs : List Char) : Option (RegexSign × List Char) :=
  match c with
  | '\\' => (readEscape? cs).map fun r => (r.1.sign, r.2)
  | '[' => (readSet? verbose cs).map fun r => (.set r.1, r.2)
  | '\x7b' =>
    (readCount? (skipBlanks verbose cs)).map fun r =>
      (.times r.1.1 r.1.2, dropLazy (skipBlanks verbose r.2))
  | '*' => some (.times 0 none, dropLazy cs)
  | '+' => some (.times 1 none, dropLazy cs)
  | '?' => some (.times 0 (some 1), dropLazy cs)
  | '(' => readGroup? (skipBlanks verbose cs)
  | ')' => some (.closing, cs)
  | '|' => some (.bar, cs)
  | '.' => some (.dot, cs)
  | '^' => some (.caret, cs)
  | '$' => some (.dollar, cs)
  | c => some (.char c, cs)

/-- Whether white space is passed over behind a sign, here and in the groups around. -/
def RegexSign.room (verbose : Bool) (outer : List Bool) : RegexSign → Bool × List Bool
  | opening _ s => ((s.lookup .verbose).getD verbose, verbose :: outer)
  | switch s => ((s.lookup .verbose).getD verbose, outer)
  | closing => (outer.head?.getD verbose, outer.tail)
  | _ => (verbose, outer)

/-- Read all signs; `fuel` bounds their number, and `outer` says for each group around whether white
space is passed over in it, the innermost first. -/
def readSigns? : Nat → Bool → List Bool → List Char → Option (List RegexSign)
  | 0, _, _, _ => none
  | fuel + 1, verbose, outer, cs =>
    match skipBlanks verbose cs with
    | [] => some []
    | c :: cs =>
      match readSign? verbose c cs with
      | some (sign, rest) =>
        let (verbose, outer) := sign.room verbose outer
        (readSigns? fuel verbose outer rest).map (sign :: ·)
      | none => none

/-- All signs of a regular expression, or `none` when it is not one. -/
def regexSigns? (s : String) : Option (List RegexSign) :=
  readSigns? (s.toList.length + 1) false [] s.toList

end ImportScan
