import ImportScan.Text.Blank

/-!
# Places in a text

A place is given by its line, its column and its offset.  Lines and columns count from one and a
column counts characters; an offset counts the bytes of the UTF-8 encoding and starts from zero.

## Main definitions

* `byteLength` — the number of bytes of a list of characters.
* `Location`, `Location.advance` — a place, and the place after some text has been passed.
* `Span` — a range of offsets.

## Main results

* `byteLength_append` — lengths add up.
* `Location.advance_append` — passing a text in two parts, unless the cut splits a line end of two
  characters.
-/

namespace ImportScan

/-! ### Bytes -/

/-- The number of bytes that some characters take in UTF-8. -/
def byteLength : List Char → Nat
  | [] => 0
  | c :: cs => c.utf8Size + byteLength cs

@[simp] theorem byteLength_nil : byteLength [] = 0 := rfl

@[simp] theorem byteLength_cons (c : Char) (cs : List Char) :
    byteLength (c :: cs) = c.utf8Size + byteLength cs := rfl

@[simp] theorem byteLength_append (cs ds : List Char) :
    byteLength (cs ++ ds) = byteLength cs + byteLength ds := by
  induction cs with
  | nil => simp
  | cons c cs ih => simp [ih, Nat.add_assoc]

/-- The number of bytes of a string. -/
def stringBytes (s : String) : Nat := byteLength s.toList

/-! ### Locations -/

/-- A place in a text. -/
structure Location where
  /-- The line, counted from one. -/
  line : Nat
  /-- The column in characters, counted from one. -/
  column : Nat
  /-- The offset in bytes, counted from zero. -/
  offset : Nat
  deriving DecidableEq, Repr, Inhabited

namespace Location

/-- Where a text starts. -/
def start : Location := ⟨1, 1, 0⟩

/-- The line and the column, as they are shown. -/
def text (loc : Location) : String := toString loc.line ++ ":" ++ toString loc.column

/-- Whether a line ends with the character `c` when `rest` follows it.  A carriage return before a
line feed leaves the line end to the line feed. -/
def endsLine (c : Char) (rest : List Char) : Bool :=
  isLineEnd c && !(c == '\r' && rest.head? == some '\n')

/-- The place behind the character `c`, when `rest` follows it. -/
def step (loc : Location) (c : Char) (rest : List Char) : Location :=
  if endsLine c rest then ⟨loc.line + 1, 1, loc.offset + c.utf8Size⟩
  else ⟨loc.line, loc.column + 1, loc.offset + c.utf8Size⟩

/-- The place behind some characters. -/
def advance (loc : Location) : List Char → Location
  | [] => loc
  | c :: cs => (loc.step c cs).advance cs

@[simp] theorem advance_nil (loc : Location) : loc.advance [] = loc := rfl

@[simp] theorem advance_cons (loc : Location) (c : Char) (cs : List Char) :
    loc.advance (c :: cs) = (loc.step c cs).advance cs := rfl

@[simp] theorem step_offset (loc : Location) (c : Char) (rest : List Char) :
    (loc.step c rest).offset = loc.offset + c.utf8Size := by
  unfold step; split <;> rfl

@[simp] theorem advance_offset (cs : List Char) (loc : Location) :
    (loc.advance cs).offset = loc.offset + byteLength cs := by
  induction cs generalizing loc with
  | nil => rfl
  | cons c cs ih => rw [advance_cons, ih, step_offset, byteLength_cons, Nat.add_assoc]

/-- Passing a text in two parts ends where passing it at once does, provided that the cut does not
fall between a carriage return and a line feed. -/
theorem advance_append (cs ds : List Char) (loc : Location)
    (h : ¬ (cs.getLast? = some '\r' ∧ ds.head? = some '\n')) :
    loc.advance (cs ++ ds) = (loc.advance cs).advance ds := by
  induction cs generalizing loc with
  | nil => rfl
  | cons c cs ih =>
    cases cs with
    | nil =>
      -- what follows matters to a return only, and only if it is a line feed
      have hstep : loc.step c ds = loc.step c [] := by
        simp only [List.getLast?_singleton, Option.some.injEq] at h
        unfold step endsLine
        by_cases hc : c = '\r'
        · have hd : ds.head? ≠ some '\n' := fun hd => h ⟨hc, hd⟩
          simp [hd]
        · simp [hc]
      simp [hstep]
    | cons d cs =>
      have hlast : ¬ ((d :: cs).getLast? = some '\r' ∧ ds.head? = some '\n') := by
        simpa [List.getLast?_cons_cons] using h
      exact ih _ hlast

end Location

/-! ### Spans -/

/-- A range of offsets: from `start` on, up to `stop` and not including it. -/
structure Span where
  /-- The first offset. -/
  start : Nat
  /-- The offset behind the last one. -/
  stop : Nat
  deriving DecidableEq, Repr, Inhabited

namespace Span

/-- Whether no offset lies in the span. -/
def isEmpty (s : Span) : Bool := s.stop ≤ s.start

/-- The number of bytes between the two ends. -/
def length (s : Span) : Nat := s.stop - s.start

end Span

end ImportScan
