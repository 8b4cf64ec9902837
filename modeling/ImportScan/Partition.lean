import ImportScan.Text.Location

/-!
# Partition

A text is cut at the ranges of its imports into segments that make up the whole text.

## Main definitions

* `slice?` — the characters between two offsets.
* `Segment` — a piece of a text.
* `partition?` — the segments of a text, given the ranges of its imports.
-/

namespace ImportScan

/-! ### Slices -/

/-- What follows the first `n` bytes, or `none` when they do not end between two characters. -/
def dropBytes? : Nat → List Char → Option (List Char)
  | 0, cs => some cs
  | _ + 1, [] => none
  | n + 1, c :: cs => if c.utf8Size ≤ n + 1 then dropBytes? (n + 1 - c.utf8Size) cs else none

/-- The first `n` bytes, or `none` when they do not end between two characters. -/
def takeBytes? : Nat → List Char → Option (List Char)
  | 0, _ => some []
  | _ + 1, [] => none
  | n + 1, c :: cs =>
    if c.utf8Size ≤ n + 1 then (takeBytes? (n + 1 - c.utf8Size) cs).map (c :: ·) else none

/-- The characters of a span, or `none` when an end of it is not between two characters. -/
def slice? (text : List Char) (s : Span) : Option (List Char) :=
  (dropBytes? s.start text).bind (takeBytes? s.length)

/-! ### Segments -/

/-- What a segment holds. -/
inductive SegmentKind where
  /-- An import statement. -/
  | imports
  /-- Anything else. -/
  | text
  deriving DecidableEq, Repr, Inhabited

/-- The name of what a segment holds. -/
def SegmentKind.name : SegmentKind → String
  | .imports => "import"
  | .text => "text"

/-- A piece of a text. -/
structure Segment where
  /-- What it holds. -/
  kind : SegmentKind
  /-- Its offsets. -/
  range : Span
  /-- Its text. -/
  text : String
  deriving DecidableEq, Repr, Inhabited

/-- The number of bytes of a segment. -/
def Segment.length (s : Segment) : Nat := s.range.length

/-- The text that some segments make up. -/
def reassemble (segments : List Segment) : String := String.join (segments.map Segment.text)

/-! ### Cutting -/

/-- Whether one cut comes before another: by its start, then by its end. -/
def Span.precedes (s t : Span) : Bool := s.start < t.start || (s.start == t.start && s.stop ≤ t.stop)

/-- The cuts that some ranges ask for: those that are not empty, held within the text and sorted. -/
def cutsOf (bytes : Nat) (ranges : List Span) : List Span :=
  let within := (ranges.filter fun r => !r.isEmpty).map fun r =>
    (⟨min r.start bytes, min r.stop bytes⟩ : Span)
  within.mergeSort Span.precedes

/-- The pieces between `cursor` and the end of the text, without their texts and without the empty
ones.  What a cut has in common with an earlier one belongs to the earlier one. -/
def piecesFrom (bytes cursor : Nat) : List Span → List (SegmentKind × Span)
  | [] => if cursor < bytes then [(.text, ⟨cursor, bytes⟩)] else []
  | cut :: cuts =>
    let start := max cut.start cursor
    if cut.stop ≤ start then piecesFrom bytes cursor cuts
    else
      let gap := if cursor < start then [(.text, ⟨cursor, start⟩)] else []
      gap ++ (.imports, ⟨start, cut.stop⟩) :: piecesFrom bytes cut.stop cuts

/-- A piece with its text. -/
def segment? (text : List Char) (piece : SegmentKind × Span) : Option Segment :=
  (slice? text piece.2).map fun cs => ⟨piece.1, piece.2, String.ofList cs⟩

/-- The segments of a text, given the ranges of its imports; `none` when a cut falls inside a
character. -/
def partition? (text : List Char) (ranges : List Span) : Option (List Segment) :=
  (piecesFrom (byteLength text) 0 (cutsOf (byteLength text) ranges)).mapM (segment? text)

end ImportScan
