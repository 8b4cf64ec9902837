import ImportScan.Path
import ImportScan.Text.Location

/-!
# The worklist

The files of a run wait in a queue.  Every path enters it once, in its form without detours; the
imports of a file are scheduled when they name files that exist.

## Main definitions

* `ImportPolicy` — which imports are followed.
* `Worklist` — the paths scheduled so far, and those that still wait.
* `Worklist.schedule`, `Worklist.next` — add a path, and take the next one.
* `Worklist.resolve` — schedule the imports of a file.
-/

namespace ImportScan

/-- Which imports are followed. -/
structure ImportPolicy where
  /-- Whether a specifier names a file to follow. -/
  extractable : String → Bool
  /-- Whether a path is left out. -/
  ignored : Path → Bool
  /-- Whether imports are followed at all. -/
  follow : Bool

/-- An import that names a file which does not exist. -/
structure UnresolvedSpecifier where
  /-- The specifier. -/
  specifier : String
  /-- The path it names. -/
  resolved : Path
  /-- Where the import starts. -/
  loc : Location
  deriving DecidableEq, Repr, Inhabited

/-- The complaint, as it is shown. -/
def UnresolvedSpecifier.message (u : UnresolvedSpecifier) : String :=
  "cannot resolve '" ++ u.specifier ++ "' (no file at " ++ u.resolved.toString ++ ")"

/-- What became of the imports of a file. -/
structure Resolution where
  /-- The paths that were scheduled, in order. -/
  enqueued : List Path
  /-- The imports that name no file, in order. -/
  unresolved : List UnresolvedSpecifier
  deriving DecidableEq, Repr, Inhabited

/-- The paths of a run. -/
structure Worklist where
  /-- All paths scheduled so far, in order. -/
  scheduled : List Path
  /-- Those among them that still wait, in order. -/
  queue : List Path
  deriving DecidableEq, Repr, Inhabited

/-- A specifier together with the place of its import. -/
abbrev PlacedSpecifier := String × Location

namespace Worklist

/-- Nothing is scheduled. -/
def empty : Worklist := ⟨[], []⟩

/-- Whether a path has been scheduled. -/
def isScheduled (w : Worklist) (p : Path) : Bool := w.scheduled.contains p

/-- Add a path at the end. -/
def enqueue (w : Worklist) (p : Path) : Worklist := ⟨w.scheduled ++ [p], w.queue ++ [p]⟩

/-- Schedule a path, unless it has been scheduled before; the path in the form in which it has been
scheduled now, if so. -/
def schedule (w : Worklist) (p : Path) : Worklist × Option Path :=
  if w.isScheduled p.collapse then (w, none) else (w.enqueue p.collapse, some p.collapse)

/-- Take the next path. -/
def next (w : Worklist) : Option (Path × Worklist) :=
  match w.queue with
  | [] => none
  | p :: rest => some (p, { w with queue := rest })

/-- The number of paths that wait. -/
def pending (w : Worklist) : Nat := w.queue.length

/-- Look at one import of a file: it may be passed over, be unresolved or be scheduled. -/
def resolveOne (policy : ImportPolicy) (doesExist : Path → Bool) (importer : Path)
    (state : Worklist × Resolution) (s : PlacedSpecifier) : Worklist × Resolution :=
  let (w, r) := state
  let path := importer.resolve s.1
  if !policy.extractable s.1 then state
  else if policy.ignored path || w.isScheduled path then state
  else if !doesExist path then
    (w, { r with unresolved := r.unresolved ++ [⟨s.1, path, s.2⟩] })
  else (w.enqueue path, { r with enqueued := r.enqueued ++ [path] })

/-- Schedule the imports of a file. -/
def resolve (policy : ImportPolicy) (doesExist : Path → Bool) (importer : Path)
    (specifiers : List PlacedSpecifier) (w : Worklist) : Worklist × Resolution :=
  if policy.follow then specifiers.foldl (resolveOne policy doesExist importer) (w, ⟨[], []⟩)
  else (w, ⟨[], []⟩)

end Worklist

end ImportScan
