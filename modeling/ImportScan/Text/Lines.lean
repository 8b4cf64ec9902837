import ImportScan.Text.Blank

/-!
# Lines of a text

A line end is a line feed, a carriage return, both in this order, or one of the two separators of
lines and paragraphs.

## Main definitions

* `afterLine` — what follows the first line end.
* `sourceLine` — the text of one line, without its end.
-/

namespace ImportScan

/-- What follows the first line end, or `none` when the text has none. -/
def afterLine : List Char → Option (List Char)
  | [] => none
  | '\r' :: '\n' :: rest => some rest
  | c :: rest => if isLineEnd c then some rest else afterLine rest

/-- The text before the first line end. -/
def firstLine (text : List Char) : List Char := text.takeWhile fun c => !isLineEnd c

/-- The line that `n` line ends precede, empty when the text ends before it. -/
def lineAfter : Nat → List Char → List Char
  | 0, text => firstLine text
  | n + 1, text =>
    match afterLine text with
    | none => []
    | some rest => lineAfter n rest

/-- The text of a line, counted from one; line zero is taken for the first. -/
def sourceLine (text : List Char) (line : Nat) : List Char := lineAfter (line - 1) text

example : sourceLine ['a', '\r', 'b', '\u2028', 'c', '\r', '\n', 'd'] 4 = ['d'] := by decide

example : sourceLine ['a', '\n'] 5 = [] := by decide

end ImportScan
