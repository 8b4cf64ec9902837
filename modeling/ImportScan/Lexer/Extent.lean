import ImportScan.Text.Blank
import ImportScan.Text.Word

/-!
# How far a token reaches

For every kind of token that is longer than one character there is a function that counts the
characters it takes.  All of them look at the characters behind the ones already recognised, and
count only those.

## Main definitions

* `blankExtent`, `lineExtent`, `wordExtent`, `numberExtent` — runs of characters of one class.
* `commentExtent?` — up to the end of a block comment.
* `stringExtent?` — up to the closing quote.
* `regexExtent?` — up to the closing slash, with the flags behind it.
* `templateExtent` — up to the next delimiter of a template.

Those that end in a question mark are `none` when the end is missing.
-/

namespace ImportScan

/-! ### Runs -/

/-- How many blanks follow on the same line. -/
def blankExtent (cs : List Char) : Nat := (cs.takeWhile fun c => isBlank c && !isLineEnd c).length

/-- How many characters follow on the same line. -/
def lineExtent (cs : List Char) : Nat := (cs.takeWhile fun c => !isLineEnd c).length

/-- How many characters of an identifier follow. -/
def wordExtent (cs : List Char) : Nat := (cs.takeWhile isIdentifierPart).length

/-- Whether a character can stand in a number whatever precedes it. -/
def isNumberPart (c : Char) : Bool := c.isAlphanum || c == '_' || c == '.'

/-- How many characters of a number follow the character `last`.  A sign belongs to the number right
behind the mark of an exponent, unless the number is hexadecimal. -/
def numberExtent (hex : Bool) (last : Char) : List Char → Nat
  | [] => 0
  | c :: cs =>
    if isNumberPart c || ((c == '+' || c == '-') && (last == 'e' || last == 'E') && !hex) then
      numberExtent hex c cs + 1
    else 0

/-! ### Comments -/

/-- How many characters it takes to the end of a block comment, its two closing characters
included. -/
def commentExtent? : List Char → Option Nat
  | [] => none
  | '*' :: '/' :: _ => some 2
  | _ :: cs => (commentExtent? cs).map (· + 1)

/-! ### Strings -/

/-- How many characters it takes to the closing quote, the quote included.  A backslash takes the
next character with it, and a carriage return and a line feed together; a bare line end leaves the
string open. -/
def stringExtent? (quote : Char) : List Char → Option Nat
  | [] => none
  | c :: cs =>
    if c = quote then some 1
    else if c = '\\' then
      match cs with
      | [] => none
      | '\r' :: '\n' :: rest => (stringExtent? quote rest).map (· + 3)
      | _ :: rest => (stringExtent? quote rest).map (· + 2)
    else if isLineEnd c then none
    else (stringExtent? quote cs).map (· + 1)

/-! ### Regular expressions -/

/-- How many characters it takes to the closing slash of a regular expression and to the end of its
flags.  A slash inside a class does not close it; a line end leaves it open, escaped or not. -/
def regexExtent? (inClass : Bool) : List Char → Option Nat
  | [] => none
  | c :: cs =>
    if c = '\\' then
      match cs with
      | [] => none
      | e :: rest => if isLineEnd e then none else (regexExtent? inClass rest).map (· + 2)
    else if c = '[' then (regexExtent? true cs).map (· + 1)
    else if c = ']' then (regexExtent? false cs).map (· + 1)
    else if c = '/' && !inClass then some (wordExtent cs + 1)
    else if isLineEnd c then none
    else (regexExtent? inClass cs).map (· + 1)

/-! ### Templates -/

/-- The character that opens and closes a template. -/
def templateQuote : Char := '\x60'

/-- Whether a substitution starts here: a dollar sign and an opening brace. -/
def opensSubstitution : List Char → Bool
  | '$' :: '{' :: _ => true
  | _ => false

/-- How many characters it takes to the next closing quote or substitution, or to the end of the
text.  A backslash takes the next character with it. -/
def templateExtent : List Char → Nat
  | [] => 0
  | c :: cs =>
    if c = '\\' then
      match cs with
      | [] => 1
      | _ :: rest => templateExtent rest + 2
    else if c = templateQuote || opensSubstitution (c :: cs) then 0
    else templateExtent cs + 1

/-- A template text that does not start with a delimiter is not empty. -/
theorem templateExtent_pos {c : Char} {cs : List Char} (hq : c ≠ templateQuote)
    (hs : opensSubstitution (c :: cs) = false) : 0 < templateExtent (c :: cs) := by
  unfold templateExtent
  split
  · split <;> omega
  · simp [hq, hs]

end ImportScan
