import ImportScan.Text.CodePoints

/-!
# White space and line ends

## Main definitions

* `isWhiteSpace` — the Unicode property White_Space.
* `isLineEnd` — the four characters that end a line of a source.
* `isBlank` — what separates tokens: white space and the byte order mark.

## Main results

* `isBlank_of_isLineEnd` — a line end is blank.
-/

namespace ImportScan

/-- The runs of white space. -/
def whiteSpaceRuns : CodePoints :=
  [(0x9, 0xD), (0x20, 0x20), (0x85, 0x85), (0xA0, 0xA0), (0x1680, 0x1680), (0x2000, 0x200A),
   (0x2028, 0x2029), (0x202F, 0x202F), (0x205F, 0x205F), (0x3000, 0x3000)]

/-- Whether a character is white space. -/
def isWhiteSpace (c : Char) : Bool := whiteSpaceRuns.holds c

/-- Whether a character ends a line: line feed, carriage return, and the line and paragraph
separators. -/
def isLineEnd (c : Char) : Bool :=
  c == '\n' || c == '\r' || c == '\u2028' || c == '\u2029'

/-- Whether a character separates tokens: white space, or a byte order mark. -/
def isBlank (c : Char) : Bool := isWhiteSpace c || c == '\uFEFF'

theorem isLineEnd_iff {c : Char} :
    isLineEnd c = true ↔ c = '\n' ∨ c = '\r' ∨ c = '\u2028' ∨ c = '\u2029' := by
  simp [isLineEnd, or_assoc]

theorem isBlank_of_isLineEnd {c : Char} (h : isLineEnd c = true) : isBlank c = true := by
  rcases isLineEnd_iff.1 h with rfl | rfl | rfl | rfl <;> decide

end ImportScan
