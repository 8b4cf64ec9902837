import ImportScan.Pattern

/-!
# Globs

A glob describes paths: a question mark stands for any character, a star for any text, two stars for
any folders, and brackets for one character of a set.

## Main definitions

* `GlobFault`, `GlobError` — why a text is not a glob, and where.
* `Glob`, `Glob.ofString` — a glob, and reading it.
* `Glob.accepts` — whether a text fits.
-/

namespace ImportScan

/-- Why a text is not a glob. -/
inductive GlobFault where
  /-- More than two stars stand in a row. -/
  | wildcards
  /-- Two stars are only a part of a component. -/
  | recursive
  /-- Brackets do not close. -/
  | brackets
  deriving DecidableEq, Repr, Inhabited

/-- The wording of a fault. -/
def GlobFault.message : GlobFault → String
  | .wildcards =>
    "wildcards are either regular \x60*\x60 or recursive \x60**\x60"
  | .recursive => "recursive wildcards must form a single path component"
  | .brackets => "invalid range pattern"

/-- A fault and the character at which it was found. -/
structure GlobError where
  /-- The position, counted in characters from zero. -/
  position : Nat
  /-- What is wrong. -/
  fault : GlobFault
  deriving DecidableEq, Repr, Inhabited

/-- The fault with its place, as it is shown. -/
def GlobError.message (e : GlobError) : String :=
  "Pattern syntax error near position " ++ toString e.position ++ ": " ++ e.fault.message

/-- A part of a glob. -/
inductive GlobPart where
  /-- One given character. -/
  | char (c : Char)
  /-- Any character. -/
  | anyChar
  /-- Any text. -/
  | anyText
  /-- Any folders, each with its slash. -/
  | anyFolders
  /-- One character of a set, or one that is not in it. -/
  | oneOf (negated : Bool) (s : CharSet)
  deriving DecidableEq, Repr, Inhabited

/-- A glob, by its parts. -/
abbrev Glob := List GlobPart

namespace Glob

/-- The set that stands between brackets: single characters, and ranges with a hyphen. -/
def bracketSet : List Char → CharSet
  | a :: '-' :: b :: rest => .union (.range a b) (bracketSet rest)
  | a :: rest => .union (.single a) (bracketSet rest)
  | [] => .none

/-- Split a text at the first closing bracket behind its first character. -/
def splitBracket : List Char → Option (List Char × List Char)
  | [] => none
  | first :: rest =>
    match rest.dropWhile (· != ']') with
    | _ :: behind => some (first :: rest.takeWhile (· != ']'), behind)
    | [] => none

/-- Read what follows an opening bracket. -/
def bracketPart? : List Char → Option (GlobPart × List Char)
  | '!' :: rest => (splitBracket rest).map fun s => (.oneOf true (bracketSet s.1), s.2)
  | cs => (splitBracket cs).map fun s => (.oneOf false (bracketSet s.1), s.2)

/-- Add any folders to the parts so far, the latest first.  Behind other parts, folders in a row count
once. -/
def addFolders (parts : List GlobPart) : List GlobPart :=
  if parts.head? = some .anyFolders && 1 < parts.length then parts else .anyFolders :: parts

/-- The parts of a glob.  `position` is the place of the first of the remaining characters, `before`
the character in front of it, and `parts` are the parts so far, the latest first. -/
def read (position : Nat) (before : Option Char) (parts : List GlobPart) :
    List Char → Except GlobError Glob
  | [] => .ok parts.reverse
  | '*' :: '*' :: '*' :: _ => .error ⟨position + 2, .wildcards⟩
  | '*' :: '*' :: rest =>
    if before.all (· == '/') then
      match rest with
      | [] => .ok (addFolders parts).reverse
      | '/' :: rest => read (position + 3) (some '/') (addFolders parts) rest
      | _ :: _ => .error ⟨position + 2, .recursive⟩
    else .error ⟨position - 1, .recursive⟩
  | '*' :: rest => read (position + 1) (some '*') (.anyText :: parts) rest
  | '?' :: rest => read (position + 1) (some '?') (.anyChar :: parts) rest
  | '[' :: rest =>
    match bracketPart? rest with
    | some (part, behind) =>
      if behind.length < rest.length then
        read (position + 1 + (rest.length - behind.length)) (some ']') (part :: parts) behind
      else .error ⟨position, .brackets⟩
    | none => .error ⟨position, .brackets⟩
  | c :: rest => read (position + 1) (some c) (.char c :: parts) rest
termination_by cs => cs.length
decreasing_by all_goals simp_all <;> omega

/-- Read a glob. -/
def ofString (s : String) : Except GlobError Glob := read 0 none [] s.toList

/-- What a part describes.  Folders are nothing, or any text that ends with a slash, or all that is
left. -/
def partPattern : GlobPart → Pattern
  | .char c => .one .exact (.single c)
  | .anyChar => .anyChar
  | .anyText => .many .anyChar
  | .anyFolders =>
    .alt .empty (.seq (.many .anyChar) (.alt (.one .exact (.single '/')) (.edge .textEnd)))
  | .oneOf negated s => .one .exact (.bracketed negated s)

/-- What the glob describes. -/
def pattern (g : Glob) : Pattern := .sequence (g.map partPattern)

/-- Whether a text fits the glob. -/
def accepts (g : Glob) (s : String) : Bool := g.pattern.matchesWhole s.toList

end Glob

end ImportScan
