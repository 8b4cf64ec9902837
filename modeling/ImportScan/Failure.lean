/-!
# Failures

## Main definitions

* `Failure` — what stops the program, with its causes.
-/

namespace ImportScan

/-- What stops the program. -/
structure Failure where
  /-- The complaint. -/
  message : String
  /-- Its causes, the nearest one first. -/
  causes : List String
  deriving DecidableEq, Repr, Inhabited

namespace Failure

/-- The complaint followed by its causes. -/
def chain (f : Failure) : List String := f.message :: f.causes

/-- The failure told by a complaint followed by its causes. -/
def ofChain? : List String → Option Failure
  | [] => none
  | message :: causes => some ⟨message, causes⟩

end Failure

end ImportScan
