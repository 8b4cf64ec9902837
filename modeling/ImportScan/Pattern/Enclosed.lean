import ImportScan.Pattern.Escape

/-!
# Sets in square brackets

A set in square brackets lists characters, ranges, escapes, sets with a name and further sets in
brackets; operations combine what stands before them with what follows.

## Main definitions

* `skipBlanks` — pass over white space and comments.
* `readItem?` — a member or a range.
* `OpenSet` — a set that is being read.
* `readSet?` — what follows an opening square bracket.
-/

namespace ImportScan

/-! ### Blanks and comments -/

/-- Pass over white space and comments.  A comment goes from a number sign to the end of its line. -/
def skipNotes : Bool → List Char → List Char
  | _, [] => []
  | true, c :: cs => skipNotes (c != '\n') cs
  | false, c :: cs =>
    if isWhiteSpace c then skipNotes false cs
    else if c == '#' then skipNotes true cs
    else c :: cs

/-- Pass over white space and comments, where an expression may have them. -/
def skipBlanks (verbose : Bool) (cs : List Char) : List Char :=
  if verbose then skipNotes false cs else cs

/-! ### Members -/

/-- Read one member of a set: a character, or a set with an escape of its own. -/
def readMember? : List Char → Option ((Char ⊕ CharSet) × List Char)
  | [] => none
  | '\\' :: cs =>
    match readEscape? cs with
    | some (.char c, rest) => some (.inl c, rest)
    | some (.set s, rest) => some (.inr s, rest)
    | _ => none
  | c :: cs => some (.inl c, cs)

/-- What stands behind a hyphen that makes a range of what is around it. -/
def rangeEnd? (verbose : Bool) : List Char → Option (List Char)
  | '-' :: cs =>
    match skipBlanks verbose cs with
    | [] => none
    | c :: rest => if c != ']' && c != '-' then some (c :: rest) else none
  | _ => none

/-- Read a member of a set or a range. -/
def readItem? (verbose : Bool) (cs : List Char) : Option (CharSet × List Char) :=
  match readMember? cs with
  | some (first, rest) =>
    match first, rangeEnd? verbose (skipBlanks verbose rest) with
    | .inl a, none => some (.single a, rest)
    | .inr s, none => some (s, rest)
    | .inl a, some behind =>
      match readMember? behind with
      | some (.inl b, rest) => if a ≤ b then some (.range a b, rest) else none
      | _ => none
    | .inr _, some _ => none
  | none => none

/-- Read a set with a name, behind its bracket and colon. -/
def readNamed? (cs : List Char) : Option (CharSet × List Char) :=
  let negated := cs.head? == some '^'
  let body := if negated then cs.tail else cs
  match body.dropWhile (· != ':') with
  | ':' :: ']' :: rest =>
    (CharSet.named? (String.ofList (body.takeWhile (· != ':')))).map fun s =>
      (.bracketed negated s, rest)
  | _ => none

/-! ### Whole sets -/

/-- A set in brackets that is being read. -/
structure OpenSet where
  /-- Whether it is marked for complementing. -/
  negated : Bool
  /-- What stands before the last operation, and that operation. -/
  left : Option (SetOperation × CharSet)
  /-- The members since. -/
  members : CharSet
  deriving DecidableEq, Repr, Inhabited

namespace OpenSet

/-- Add members. -/
def add (o : OpenSet) (s : CharSet) : OpenSet := { o with members := .union o.members s }

/-- All that has been read of the set. -/
def value (o : OpenSet) : CharSet :=
  match o.left with
  | some (operation, s) => .combine operation s o.members
  | none => o.members

/-- An operation follows. -/
def operate (o : OpenSet) (operation : SetOperation) : OpenSet :=
  { o with left := some (operation, o.value), members := .none }

/-- The set, when its bracket closes. -/
def close (o : OpenSet) : CharSet := .bracketed o.negated o.value

/-- Read what may stand at the start of a set only: the mark for complementing, hyphens, and a closing
bracket that is a member. -/
def start (verbose : Bool) (cs : List Char) : OpenSet × List Char :=
  let cs := skipBlanks verbose cs
  let negated := cs.head? == some '^'
  let body := if negated then skipBlanks verbose cs.tail else cs
  let hyphens := body.takeWhile (· == '-')
  let rest := body.dropWhile (· == '-')
  let set : OpenSet := ⟨negated, none, .ofList hyphens⟩
  match hyphens, rest with
  | [], ']' :: behind => (set.add (.single ']'), behind)
  | _, _ => (set, rest)

end OpenSet

/-- Read a set to its end.  `outer` are the sets around it, the innermost first; `fuel` bounds the
number of steps, each of which takes a character. -/
def readSetFrom? (verbose : Bool) :
    Nat → List OpenSet → OpenSet → List Char → Option (CharSet × List Char)
  | 0, _, _, _ => none
  | fuel + 1, outer, current, cs =>
    match skipBlanks verbose cs with
    | [] => none
    | '[' :: rest =>
      let named := match rest with
        | ':' :: behind => readNamed? behind
        | _ => none
      match named with
      | some (s, behind) => readSetFrom? verbose fuel outer (current.add s) behind
      | none =>
        let (inner, behind) := OpenSet.start verbose rest
        readSetFrom? verbose fuel (current :: outer) inner behind
    | ']' :: rest =>
      match outer with
      | [] => some (current.close, rest)
      | next :: outer => readSetFrom? verbose fuel outer (next.add current.close) rest
    | '&' :: '&' :: rest => readSetFrom? verbose fuel outer (current.operate .intersection) rest
    | '-' :: '-' :: rest => readSetFrom? verbose fuel outer (current.operate .difference) rest
    | '~' :: '~' :: rest => readSetFrom? verbose fuel outer (current.operate .symmetricDifference) rest
    | c :: rest =>
      match readItem? verbose (c :: rest) with
      | some (s, rest) => readSetFrom? verbose fuel outer (current.add s) rest
      | none => none

/-- Read what follows an opening square bracket. -/
def readSet? (verbose : Bool) (cs : List Char) : Option (CharSet × List Char) :=
  let (set, rest) := OpenSet.start verbose cs
  readSetFrom? verbose (rest.length + 1) [] set rest

end ImportScan
