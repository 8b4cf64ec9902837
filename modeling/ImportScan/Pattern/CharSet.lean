import ImportScan.Text.CaseFold
import ImportScan.Text.Property

/-!
# Sets of characters in patterns

## Main definitions

* `CaseRule` — which characters count as one when case is disregarded.
* `CharSet` — a set of characters, as patterns write it.
* `CharSet.holds`, `CharSet.member` — membership under a rule of case.
* `CharSet.named?` — the sets with a name.
* `CharSet.narrow?` — a set within ASCII.
-/

namespace ImportScan

/-! ### Case -/

/-- Which characters count as one. -/
inductive CaseRule where
  /-- Each character counts for itself. -/
  | exact
  /-- The capitals of ASCII count as their small letters. -/
  | ascii
  /-- All characters that differ only in case count as one. -/
  | full
  deriving DecidableEq, Repr, Inhabited

/-- The characters that count as a given one. -/
def CaseRule.variants : CaseRule → Char → List Char
  | .exact, c => [c]
  | .ascii, c => [c, c.toLower, c.toUpper]
  | .full, c => c :: caseVariants c

/-- A membership test that takes a character for all its variants. -/
def CaseRule.test (rule : CaseRule) (test : Char → Bool) (c : Char) : Bool :=
  (rule.variants c).any test

/-! ### Sets -/

/-- How two sets are combined. -/
inductive SetOperation where
  /-- What is in both. -/
  | intersection
  /-- What is in the first only. -/
  | difference
  /-- What is in one of them only. -/
  | symmetricDifference
  deriving DecidableEq, Repr, Inhabited

/-- What an operation makes of two memberships. -/
def SetOperation.apply : SetOperation → Bool → Bool → Bool
  | .intersection, a, b => a && b
  | .difference, a, b => a && !b
  | .symmetricDifference, a, b => a != b

/-- A set of characters. -/
inductive CharSet where
  /-- No character. -/
  | none
  /-- The characters from `first` to `last`. -/
  | range (first last : Char)
  /-- The decimal digits. -/
  | digits
  /-- The word characters. -/
  | words
  /-- White space. -/
  | spaces
  /-- The characters with a property. -/
  | property (p : Property)
  /-- All characters that are not in a set. -/
  | complement (s : CharSet)
  /-- The characters of two sets. -/
  | union (s t : CharSet)
  /-- Two sets combined. -/
  | combine (operation : SetOperation) (s t : CharSet)
  /-- A set in brackets: it, or its complement. -/
  | bracketed (negated : Bool) (s : CharSet)
  deriving DecidableEq, Repr, Inhabited

namespace CharSet

/-- The set of one character. -/
def single (c : Char) : CharSet := .range c c

/-- The set of some characters. -/
def ofList (cs : List Char) : CharSet := cs.foldl (fun s c => .union s (single c)) .none

/-- Whether a character is in the set.  When case is disregarded, a set in brackets is first extended
by the variants of its members and then, if so marked, complemented. -/
def holds (rule : CaseRule) : CharSet → Char → Bool
  | none, _ => false
  | range first last, c => first ≤ c && c ≤ last
  | digits, c => isDecimalDigit c
  | words, c => isWordChar c
  | spaces, c => isWhiteSpace c
  | property p, c => p.holds c
  | complement s, c => !s.holds rule c
  | union s t, c => s.holds rule c || t.holds rule c
  | combine operation s t, c =>
    operation.apply (rule.test (s.holds rule) c) (rule.test (t.holds rule) c)
  | bracketed negated s, c => rule.test (s.holds rule) c != negated

/-- Whether a character matches the set, as such or by one of its variants. -/
def member (rule : CaseRule) (s : CharSet) (c : Char) : Bool := rule.test (s.holds rule) c

/-- The union of some ranges. -/
def ofRanges (ranges : List (Char × Char)) : CharSet :=
  ranges.foldl (fun s r => .union s (.range r.1 r.2)) .none

/-- The sets of ASCII characters with a name. -/
def named? : String → Option CharSet
  | "alnum" => some (ofRanges [('0', '9'), ('A', 'Z'), ('a', 'z')])
  | "alpha" => some (ofRanges [('A', 'Z'), ('a', 'z')])
  | "ascii" => some (ofRanges [('\x00', '\x7f')])
  | "blank" => some (ofRanges [('\t', '\t'), (' ', ' ')])
  | "cntrl" => some (ofRanges [('\x00', '\x1f'), ('\x7f', '\x7f')])
  | "digit" => some (ofRanges [('0', '9')])
  | "graph" => some (ofRanges [('!', '~')])
  | "lower" => some (ofRanges [('a', 'z')])
  | "print" => some (ofRanges [(' ', '~')])
  | "punct" => some (ofRanges [('!', '/'), (':', '@'), ('[', '\x60'), ('\x7b', '~')])
  | "space" => some (ofRanges [('\t', '\r'), (' ', ' ')])
  | "upper" => some (ofRanges [('A', 'Z')])
  | "word" => some (ofRanges [('0', '9'), ('A', 'Z'), ('_', '_'), ('a', 'z')])
  | "xdigit" => some (ofRanges [('0', '9'), ('A', 'F'), ('a', 'f')])
  | _ => Option.none

/-- The characters with one of some properties. -/
def ofProperties (ps : List Property) : CharSet := ps.foldl (fun s p => .union s (.property p)) .none

/-! ### Sets within ASCII -/

/-- The set that is meant where patterns know ASCII only: digits, words and white space shrink to
it, and no other character may be written. -/
def narrow? : CharSet → Option CharSet
  | none => some none
  | range first last => if last.toNat < 0x80 then some (range first last) else Option.none
  | digits => some (range '0' '9')
  | words => some (ofRanges [('0', '9'), ('A', 'Z'), ('_', '_'), ('a', 'z')])
  | spaces => some (ofRanges [('\t', '\r'), (' ', ' ')])
  | property _ => Option.none
  | complement s => s.narrow?.map complement
  | union s t =>
    match s.narrow?, t.narrow? with
    | some s, some t => some (union s t)
    | _, _ => Option.none
  | combine operation s t =>
    match s.narrow?, t.narrow? with
    | some s, some t => some (combine operation s t)
    | _, _ => Option.none
  | bracketed negated s => s.narrow?.map (bracketed negated)

/-- Whether a set has members beyond ASCII, given that it was written within it: then it has them
all. -/
def isOpen (rule : CaseRule) (s : CharSet) : Bool := s.holds rule '\x80'

end CharSet

end ImportScan
