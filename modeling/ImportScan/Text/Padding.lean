/-!
# Padding

Columns are filled with blanks up to a width counted in characters.  A text that is longer stays as
it is.

## Main definitions

* `blanks` — some blanks.
* `padRight`, `padLeft` — a text flush left, and flush right.
-/

namespace ImportScan

/-- A number of blanks. -/
def blanks (n : Nat) : String := String.ofList (List.replicate n ' ')

/-- A text at the left of a column. -/
def padRight (width : Nat) (s : String) : String := s ++ blanks (width - s.length)

/-- A text at the right of a column. -/
def padLeft (width : Nat) (s : String) : String := blanks (width - s.length) ++ s

end ImportScan
