import ImportScan.Pattern.Sign
import ImportScan.Pattern.Room

/-!
# Regular expressions

The signs of a regular expression are put together to a pattern.  Groups nest; options that a group
switches hold to its end.

## Main definitions

* `RegexOptions` — the options in force.
* `OpenGroup` — a group that is being read.
* `Regex` — a regular expression, as a pattern.
* `Regex.ofString?` — reading it.
* `Regex.isMatch` — whether it matches some part of a text.
-/

namespace ImportScan

/-! ### Options -/

/-- The options in force: those that are on. -/
abbrev RegexOptions := List RegexOption

namespace RegexOptions

/-- The options at the start. -/
def initial : RegexOptions := [.wide]

/-- The options behind some switches. -/
def switch (on : RegexOptions) (switches : RegexSwitches) : RegexOptions :=
  switches.foldl (fun on s => if s.2 then s.1 :: on else on.filter (· != s.1)) on

/-- Which characters count as one. -/
def caseRule (on : RegexOptions) : CaseRule :=
  if !on.contains .fold then .exact else if on.contains .wide then .full else .ascii

/-- One given character.  Where only ASCII is known, other characters may still be written. -/
def one (on : RegexOptions) (c : Char) : Pattern := .one on.caseRule (.single c)

/-- One character of a set, unless it is beyond what is known. -/
def oneOf? (on : RegexOptions) (s : CharSet) : Option Pattern :=
  if on.contains .wide then some (.one on.caseRule s)
  else
    match s.narrow? with
    | some s => if s.isOpen on.caseRule then none else some (.one on.caseRule s)
    | none => none

/-- What the dot stands for. -/
def dot (on : RegexOptions) : CharSet :=
  if on.contains .dotAll then .complement .none
  else if on.contains .returns then .complement (.ofList ['\r', '\n'])
  else .complement (.single '\n')

/-- The condition of the caret. -/
def caret (on : RegexOptions) : Edge :=
  if on.contains .lines then .lineStart (on.contains .returns) else .textStart

/-- The condition of the dollar sign. -/
def dollar (on : RegexOptions) : Edge :=
  if on.contains .lines then .lineEnd (on.contains .returns) else .textEnd

end RegexOptions

/-! ### Groups -/

/-- A group that is being read. -/
structure OpenGroup where
  /-- The options in force. -/
  options : RegexOptions
  /-- The ways to match that are complete, latest first. -/
  ways : List Pattern
  /-- The parts of the current way, latest first; `none` stands for a switch of options, which cannot
  be repeated. -/
  parts : List (Option Pattern)
  deriving DecidableEq, Repr, Inhabited

namespace OpenGroup

/-- A group starts. -/
def start (options : RegexOptions) : OpenGroup := ⟨options, [], []⟩

/-- Add a part. -/
def add (g : OpenGroup) (p : Pattern) : OpenGroup := { g with parts := some p :: g.parts }

/-- The current way. -/
def way (g : OpenGroup) : Pattern := .sequence (g.parts.filterMap id).reverse

/-- The whole group: its first way, or any other. -/
def pattern (g : OpenGroup) : Pattern := g.ways.foldl (fun p q => .alt q p) g.way

end OpenGroup

/-- Put a sign into the innermost group of some groups. -/
def placeSign? (sign : RegexSign) (g : OpenGroup) (outer : List OpenGroup) :
    Option (OpenGroup × List OpenGroup) :=
  match sign with
  | .char c => some (g.add (g.options.one c), outer)
  | .set s => (g.options.oneOf? s).map fun p => (g.add p, outer)
  | .dot => (g.options.oneOf? g.options.dot).map fun p => (g.add p, outer)
  | .caret => some (g.add (.edge g.options.caret), outer)
  | .dollar => some (g.add (.edge g.options.dollar), outer)
  | .textStart => some (g.add (.edge .textStart), outer)
  | .textEnd => some (g.add (.edge .textEnd), outer)
  | .word e => some (g.add (.edge (.word (g.options.contains .wide) e)), outer)
  | .times least most =>
    match g.parts with
    | some p :: before => some ({ g with parts := some (.times p least most) :: before }, outer)
    | _ => none
  | .opening _ switches => some (.start (g.options.switch switches), g :: outer)
  | .switch switches =>
    some ({ g with options := g.options.switch switches, parts := none :: g.parts }, outer)
  | .closing =>
    match outer with
    | next :: outer => some (next.add g.pattern, outer)
    | [] => none
  | .bar => some ({ g with ways := g.way :: g.ways, parts := [] }, outer)

/-- Put signs together; all groups must be closed at the end. -/
def placeSigns? (g : OpenGroup) (outer : List OpenGroup) : List RegexSign → Option Pattern
  | [] => if outer.isEmpty then some g.pattern else none
  | sign :: rest =>
    match placeSign? sign g outer with
    | some (g, outer) => placeSigns? g outer rest
    | none => none

/-- The name that a sign gives to a group. -/
def RegexSign.name? : RegexSign → Option String
  | .opening name _ => name
  | _ => none

/-! ### Regular expressions -/

/-- A regular expression. -/
structure Regex where
  /-- What it matches. -/
  pattern : Pattern
  deriving DecidableEq, Repr, Inhabited

namespace Regex

/-- Read a regular expression.  No two groups may have the same name, and the room is limited. -/
def ofString? (s : String) : Option Regex :=
  match regexSigns? s with
  | some signs =>
    if (signs.filterMap RegexSign.name?).Nodup then
      match placeSigns? (.start .initial) [] signs with
      | some p => if p.room ≤ roomLimit then some ⟨p⟩ else none
      | none => none
    else none
  | none => none

/-- Whether the regular expression matches some part of a text. -/
def isMatch (r : Regex) (s : String) : Bool := r.pattern.occursIn s.toList

end Regex

end ImportScan
