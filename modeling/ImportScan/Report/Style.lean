/-!
# Styled text

Output is a list of pieces, some of which have a style.  A terminal shows a style between two escape
sequences; without colours only the texts remain.

## Main definitions

* `Style`, `Style.code` — a style, and the escape sequence that starts it.
* `Piece`, `Piece.render` — a piece of output, with or without colours.
* `render` — the whole output.
-/

namespace ImportScan

/-- The colours in use. -/
inductive Colour where
  /-- For errors. -/
  | red
  /-- For success. -/
  | green
  /-- For warnings. -/
  | yellow
  /-- For what frames a message. -/
  | blue
  /-- For names. -/
  | cyan
  deriving DecidableEq, Repr, Inhabited

/-- The number of a colour of the text. -/
def Colour.code : Colour → String
  | .red => "31"
  | .green => "32"
  | .yellow => "33"
  | .blue => "34"
  | .cyan => "36"

/-- How a piece of output looks. -/
inductive Style where
  /-- A colour. -/
  | coloured (c : Colour)
  /-- Strong. -/
  | bold
  /-- Faint. -/
  | dimmed
  /-- Strong and coloured. -/
  | boldColoured (c : Colour)
  /-- Faint and coloured. -/
  | dimmedColoured (c : Colour)
  deriving DecidableEq, Repr, Inhabited

/-- The character that starts an escape sequence. -/
def escapeChar : Char := '\x1b'

/-- The escape sequence with some numbers. -/
def escapeSequence (numbers : String) : String := String.singleton escapeChar ++ "[" ++ numbers ++ "m"

/-- The numbers of a style. -/
def Style.numbers : Style → String
  | .coloured c => c.code
  | .bold => "1"
  | .dimmed => "2"
  | .boldColoured c => "1;" ++ c.code
  | .dimmedColoured c => "2;" ++ c.code

/-- The escape sequence that starts a style. -/
def Style.code (s : Style) : String := escapeSequence s.numbers

/-- The escape sequence that ends every style. -/
def resetCode : String := escapeSequence "0"

/-- A piece of output. -/
structure Piece where
  /-- The style, if any. -/
  style : Option Style
  /-- The text. -/
  text : String
  deriving DecidableEq, Repr, Inhabited

/-- A piece without a style. -/
def plain (s : String) : Piece := ⟨none, s⟩

/-- A piece with a style. -/
def Style.piece (style : Style) (s : String) : Piece := ⟨some style, s⟩

/-- Take up a style again behind every place where the text itself ends all styles. -/
def resume (code : List Char) : List Char → List Char
  | '\x1b' :: '[' :: '0' :: 'm' :: rest => '\x1b' :: '[' :: '0' :: 'm' :: (code ++ resume code rest)
  | c :: rest => c :: resume code rest
  | [] => []

/-- A piece as it is written, with or without colours. -/
def Piece.render (colours : Bool) (p : Piece) : String :=
  match p.style with
  | some style =>
    if colours then
      style.code ++ String.ofList (resume style.code.toList p.text.toList) ++ resetCode
    else p.text
  | none => p.text

/-- Some pieces of output in a row. -/
abbrev Pieces := List Piece

/-- The output as it is written, with or without colours. -/
def render (colours : Bool) (pieces : Pieces) : String :=
  String.join (pieces.map (Piece.render colours))

/-- Without colours only the texts remain. -/
theorem render_false (pieces : Pieces) : render false pieces = String.join (pieces.map Piece.text) := by
  have h : Piece.render false = Piece.text := by
    funext p
    unfold Piece.render
    cases p.style <;> rfl
  rw [render, h]

end ImportScan
