/-!
# Terminals

## Main definitions

* `Environment` — what the surroundings say about colours and times.
* `Environment.colours`, `Environment.timing` — whether output is coloured, and whether times are shown.
-/

namespace ImportScan

/-- What the surroundings say about output. -/
structure Environment where
  /-- The variable `CLICOLOR`. -/
  clicolor : Option String
  /-- The variable `CLICOLOR_FORCE`. -/
  clicolorForce : Option String
  /-- The variable `NO_COLOR`. -/
  noColor : Option String
  /-- The variable that hides times. -/
  timingHidden : Option String
  /-- Whether the standard output is a terminal. -/
  isTerminal : Bool
  deriving DecidableEq, Repr, Inhabited

/-- The variable that hides times. -/
def timingVariable : String := "MODSPLIT_DISABLE_TIMING"

namespace Environment

/-- Whether a variable is set to anything but zero. -/
def isOn (value : Option String) : Option Bool := value.map (· != "0")

/-- Whether output is coloured.  Colours can be forced; else they can be forbidden; else a terminal gets
them unless it is told not to. -/
def colours (e : Environment) : Bool :=
  if isOn e.clicolorForce = some true then true
  else if e.noColor.isSome then false
  else (isOn e.clicolor).getD true && e.isTerminal

/-- Whether times are shown. -/
def timing (e : Environment) : Bool := e.timingHidden.isNone

end Environment

end ImportScan
