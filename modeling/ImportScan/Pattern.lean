import ImportScan.Pattern.CharSet

/-!
# Patterns

A pattern describes texts.  It is matched by following all its ways through a text at once: a mask
says at which positions of the text some way through the pattern has arrived.

## Main definitions

* `WordEdge`, `Edge` — conditions on a position.
* `Pattern` — the patterns.
* `Mask` — a set of positions in a text.
* `Pattern.reach` — the positions where a pattern can end, given those where it starts.
* `Pattern.matchesWhole`, `Pattern.occursIn` — the two uses of it.
-/

namespace ImportScan

/-! ### Conditions -/

/-- A condition on the words at a position in a text. -/
inductive WordEdge where
  /-- A word starts or ends here. -/
  | either
  /-- No word starts or ends here. -/
  | neither
  /-- A word starts here. -/
  | start
  /-- A word ends here. -/
  | stop
  /-- No word comes before. -/
  | free
  /-- No word comes behind. -/
  | done
  deriving DecidableEq, Repr, Inhabited

/-- Whether a condition holds between two characters, given for each whether it belongs to a word. -/
def WordEdge.holds : WordEdge → Bool → Bool → Bool
  | either, left, right => left != right
  | neither, left, right => left == right
  | start, left, right => !left && right
  | stop, left, right => left && !right
  | free, left, _ => !left
  | done, _, right => !right

/-- A condition on a position in a text. -/
inductive Edge where
  /-- The text starts here. -/
  | textStart
  /-- The text ends here. -/
  | textEnd
  /-- A line starts here; lines may also end with a carriage return. -/
  | lineStart (returns : Bool)
  /-- A line ends here; lines may also end with a carriage return. -/
  | lineEnd (returns : Bool)
  /-- Words lie in some way around here; they may be words of ASCII only. -/
  | word (wide : Bool) (e : WordEdge)
  deriving DecidableEq, Repr, Inhabited

/-- Whether a character belongs to a word, or to a word of ASCII. -/
def isWordPart (wide : Bool) (c : Char) : Bool :=
  if wide then isWordChar c else c.isAlphanum || c == '_'

/-- Whether a condition holds between two characters, either of which may be missing.  There is no line
end within a carriage return and a line feed. -/
def Edge.holds (e : Edge) (before after : Option Char) : Bool :=
  match e with
  | .textStart => before.isNone
  | .textEnd => after.isNone
  | .lineStart returns =>
    before.isNone || before == some '\n' ||
      (returns && before == some '\r' && after != some '\n')
  | .lineEnd returns =>
    after.isNone || (after == some '\n' && !(returns && before == some '\r')) ||
      (returns && after == some '\r')
  | .word wide e => e.holds (before.any (isWordPart wide)) (after.any (isWordPart wide))

/-! ### Patterns -/

/-- A description of texts. -/
inductive Pattern where
  /-- The empty text. -/
  | empty
  /-- One character of a set, under a rule of case. -/
  | one (rule : CaseRule) (s : CharSet)
  /-- The empty text, where a condition holds. -/
  | edge (e : Edge)
  /-- One pattern after the other. -/
  | seq (p q : Pattern)
  /-- Either of two patterns. -/
  | alt (p q : Pattern)
  /-- A pattern several times: at least `least` times and, if so given, at most `most` times. -/
  | times (p : Pattern) (least : Nat) (most : Option Nat)
  deriving DecidableEq, Repr, Inhabited

/-! ### Masks -/

/-- A set of positions of a text: one truth value for the place before every character, and one for
the end. -/
abbrev Mask := List Bool

namespace Mask

/-- All positions. -/
def full (text : List Char) : Mask := true :: text.map fun _ => true

/-- The first position only. -/
def first (text : List Char) : Mask := true :: text.map fun _ => false

/-- The positions of two sets. -/
def union (m n : Mask) : Mask := List.zipWith or m n

/-- Go past one character that passes a test. -/
def advance (test : Char → Bool) (text : List Char) (m : Mask) : Mask :=
  false :: List.zipWith (fun c b => b && test c) text m

/-- Keep the positions where a condition holds. -/
def restrict (e : Edge) (text : List Char) (m : Mask) : Mask :=
  let before := none :: text.map some
  let after := text.map some ++ [none]
  List.zipWith (fun b sides => b && e.holds sides.1 sides.2) m (before.zip after)

/-- Take a step exactly `n` times; from no position there is nowhere to go. -/
def iterate (step : Mask → Mask) : Nat → Mask → Mask
  | 0, m => m
  | n + 1, m => if m.any id then iterate step n (step m) else m

/-- Take a step up to `n` times, or until nothing new is found. -/
def saturate (step : Mask → Mask) : Nat → Mask → Mask
  | 0, m => m
  | n + 1, m =>
    let next := m.union (step m)
    if next == m then m else saturate step n next

end Mask

/-! ### Matching -/

namespace Pattern

/-- The positions where the pattern can end when it starts at one of the given positions.  Without an
upper bound a pattern need not be repeated more often than the text has positions. -/
def reach (text : List Char) : Pattern → Mask → Mask
  | empty, m => m
  | one rule s, m => m.advance (s.member rule) text
  | edge e, m => m.restrict e text
  | seq p q, m => q.reach text (p.reach text m)
  | alt p q, m => (p.reach text m).union (q.reach text m)
  | times p least most, m =>
    let further := (most.map (· - least)).getD m.length
    Mask.saturate (p.reach text) further (Mask.iterate (p.reach text) least m)

/-- Whether the pattern describes a text from its start to its end. -/
def matchesWhole (p : Pattern) (text : List Char) : Bool :=
  (p.reach text (Mask.first text)).getLast?.getD false

/-- Whether the pattern describes some part of a text. -/
def occursIn (p : Pattern) (text : List Char) : Bool := (p.reach text (Mask.full text)).any id

/-- Any number of repetitions. -/
def many (p : Pattern) : Pattern := .times p 0 none

/-- Any character at all. -/
def anyChar : Pattern := .one .exact (.complement .none)

/-- Some patterns one after the other. -/
def sequence (ps : List Pattern) : Pattern := ps.foldr .seq .empty

end Pattern

end ImportScan
