import ImportScan.Language
import ImportScan.Text.Utf8

/-!
# Paths

A path is read by its components: the root, the folder itself, the folder above, and names.  Empty
components do not count, and neither does the folder itself unless a relative path starts with it.

A system gives its files names made of bytes, which need not be UTF-8.  Such a name can be passed on
and compared; to be shown it becomes a text, and then two of them may look alike.

## Main definitions

* `FileName` — the names of files and folders.
* `PathPart`, `Path` — the components, and the paths.
* `Path.ofString`, `Path.toString` — reading a path, and how it is shown.
* `Path.bytes`, `Path.isText` — what the system is told, and whether it is a text.
* `Path.collapse` — a path without detours.
* `Path.join`, `Path.parent`, `Path.resolve` — relative places.
* `Path.extension` — the extension of the last name.

## Main results

* `Path.join_absolute` — an absolute path does not depend on where it is joined to.
-/

namespace ImportScan

/-! ### Names -/

/-- A name whose bytes are those of no text. -/
structure RawName where
  /-- The bytes. -/
  bytes : List UInt8
  /-- They are not UTF-8. -/
  notText : isUtf8 bytes = false
  deriving DecidableEq, Repr

/-- The name of a folder or a file. -/
inductive FileName where
  /-- A text. -/
  | text (s : String)
  /-- Bytes that are no text. -/
  | raw (r : RawName)
  deriving DecidableEq, Repr, Inhabited

instance : Coe String FileName := ⟨.text⟩

namespace FileName

/-- The bytes of a name. -/
def bytes : FileName → List UInt8
  | text s => textBytes s.toList
  | raw r => r.bytes

/-- The name as it is shown. -/
def shown : FileName → String
  | text s => s
  | raw r => shownBytes r.bytes

/-- Whether the name is a text. -/
def isText : FileName → Bool
  | text _ => true
  | raw _ => false

end FileName

/-- What follows the last mark in a list, unless the mark is its first element. -/
def behindLast? {α : Type} [BEq α] (mark : α) (l : List α) : Option (List α) :=
  match l.reverse.dropWhile (· != mark) with
  | _ :: _ :: _ => some (l.reverse.takeWhile (· != mark)).reverse
  | _ => none

/-- What follows the last dot of a name, if it is a text, unless the dot is the first character. -/
def FileName.extension : FileName → Option String
  | text s => (behindLast? '.' s.toList).map String.ofList
  | raw r => (behindLast? 0x2e r.bytes).bind ofUtf8?

/-! ### Components -/

/-- A component of a path other than its root. -/
inductive PathPart where
  /-- The folder itself. -/
  | here
  /-- The folder above. -/
  | up
  /-- A folder or a file in the folder. -/
  | name (n : FileName)
  deriving DecidableEq, Repr, Inhabited

namespace PathPart

/-- The name of a component, where the folder itself and the one above have names of their own. -/
def fileName : PathPart → FileName
  | here => "."
  | up => ".."
  | name n => n

/-- A component as it is shown. -/
def text (part : PathPart) : String := part.fileName.shown

/-- The component with a given text. -/
def ofText (s : String) : PathPart :=
  if s = "." then here else if s = ".." then up else name s

end PathPart

/-- A path by its components. -/
structure Path where
  /-- Whether it starts from the root. -/
  absolute : Bool
  /-- The components behind the root. -/
  parts : List PathPart
  deriving DecidableEq, Repr, Inhabited

namespace Path

/-! ### Reading and writing -/

/-- The texts between the slashes of a text. -/
def splitSlashes : List Char → List (List Char)
  | [] => [[]]
  | '/' :: cs => [] :: splitSlashes cs
  | c :: cs =>
    match splitSlashes cs with
    | first :: rest => (c :: first) :: rest
    | [] => [[c]]

/-- Drop every mention of the folder itself. -/
def withoutHere (parts : List PathPart) : List PathPart := parts.filter (· != .here)

/-- Drop every mention of the folder itself but the first component of a relative path. -/
def tidy (absolute : Bool) (parts : List PathPart) : List PathPart :=
  match absolute, parts with
  | false, .here :: rest => .here :: withoutHere rest
  | _, parts => withoutHere parts

/-- Read a path. -/
def ofString (s : String) : Path :=
  let absolute := s.toList.head? == some '/'
  let texts := (splitSlashes s.toList).filter fun cs => !cs.isEmpty
  ⟨absolute, tidy absolute (texts.map fun cs => PathPart.ofText (String.ofList cs))⟩

/-- The path as it is shown. -/
def toString (p : Path) : String :=
  (if p.absolute then "/" else "") ++ "/".intercalate (p.parts.map PathPart.text)

instance : ToString Path := ⟨toString⟩

/-- The bytes of a path. -/
def bytes (p : Path) : List UInt8 :=
  (if p.absolute then [0x2f] else []) ++
    [0x2f].intercalate (p.parts.map fun part => part.fileName.bytes)

/-- Whether the path is a text. -/
def isText (p : Path) : Bool := p.parts.all fun part => part.fileName.isText

/-! ### Paths without detours -/

/-- Go on from the place reached by some components, the last one first. -/
def follow (absolute : Bool) (done : List PathPart) : PathPart → List PathPart
  | .here => done
  | .up =>
    match done with
    | .name _ :: before => before
    | _ => if absolute then done else .up :: done
  | .name n => .name n :: done

/-- The components of the place that some components lead to, from the place that `done` leads to. -/
def collapseFrom (absolute : Bool) (done parts : List PathPart) : List PathPart :=
  parts.foldl (follow absolute) done

/-- The path without detours: a name that is left again is dropped, and nothing lies above the root.
The place a relative path starts from is written as the folder itself. -/
def collapse (p : Path) : Path :=
  let parts := (collapseFrom p.absolute [] p.parts).reverse
  if parts.isEmpty && !p.absolute then ⟨false, [.here]⟩ else ⟨p.absolute, parts⟩

/-! ### Relative places -/

/-- The place that `q` names when read at the place `p`. -/
def join (p q : Path) : Path :=
  if q.absolute then q
  else if p.parts.isEmpty && !p.absolute then q
  else ⟨p.absolute, p.parts ++ withoutHere q.parts⟩

/-- The folder that holds what the path names.  A path without components has none, and the empty path
stands for it. -/
def parent (p : Path) : Path := if p.parts.isEmpty then ⟨false, []⟩ else ⟨p.absolute, p.parts.dropLast⟩

/-- The file that a specifier names in a file of the given path. -/
def resolve (importer : Path) (specifier : String) : Path :=
  (importer.parent.join (ofString specifier)).collapse

theorem join_absolute (p : Path) {q : Path} (h : q.absolute = true) : p.join q = q := by
  simp [join, h]

/-! ### Extensions -/

/-- The extension of the last name of the path. -/
def extension (p : Path) : Option String :=
  match p.parts.getLast? with
  | some (.name n) => n.extension
  | _ => none

/-- The language of the file that the path names. -/
def language (p : Path) : Language := .ofExtension p.extension

end Path

end ImportScan
