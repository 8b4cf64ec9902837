import ImportScan.Path

/-!
# Sources

A run reads its files from a source.  There are only finitely many of them, so that a run comes to its
end.

## Main definitions

* `ReadFault` — why a file cannot be read from a disk.
* `LoadFault` — why a source has no text for a path.
* `Source`, `Source.ofTexts` — a source, and the one made of some texts.
-/

namespace ImportScan

/-- Why a file cannot be read. -/
inductive ReadFault where
  /-- There is no such file. -/
  | notFound
  /-- A folder has that name. -/
  | isFolder
  /-- A file stands where a folder is needed. -/
  | notFolder
  /-- A name is too long. -/
  | nameTooLong
  /-- The path holds a character that no name can have. -/
  | nulCharacter
  /-- The bytes are not UTF-8. -/
  | notText
  /-- Any other reason. -/
  | other (message : String)
  deriving DecidableEq, Repr, Inhabited

/-- The wording of a reason. -/
def ReadFault.message : ReadFault → String
  | .notFound => "No such file or directory (os error 2)"
  | .isFolder => "Is a directory (os error 21)"
  | .notFolder => "Not a directory (os error 20)"
  | .nameTooLong => "File name too long (os error 36)"
  | .nulCharacter => "file name contained an unexpected NUL byte"
  | .notText => "stream did not contain valid UTF-8"
  | .other message => message

/-- Why a source has no text for a path. -/
inductive LoadFault where
  /-- The source has no such file. -/
  | missing (p : Path)
  /-- The file cannot be read. -/
  | unreadable (p : Path) (cause : ReadFault)
  deriving DecidableEq, Repr, Inhabited

/-- The complaint and its causes, as they are shown. -/
def LoadFault.chain : LoadFault → List String
  | .missing p => ["No such file: " ++ p.toString]
  | .unreadable p cause => ["Failed to read file: " ++ p.toString, cause.message]

/-- Where the files of a run come from. -/
structure Source where
  /-- Whether there is a file with a path. -/
  doesExist : Path → Bool
  /-- The text of a file. -/
  load : Path → Except LoadFault String
  /-- There are files under finitely many paths only. -/
  finite : ∃ files : List Path, ∀ p, doesExist p = true → p ∈ files

namespace Source

/-- The text with a given path.  Of two texts with one path the later one counts. -/
def textOf? (texts : List (Path × String)) (p : Path) : Option String :=
  (texts.reverse.find? fun t => t.1 == p).map Prod.snd

/-- The source made of some texts. -/
def ofTexts (texts : List (Path × String)) : Source :=
  { doesExist := (texts.map Prod.fst).contains
    load := fun p =>
      match textOf? texts p with
      | some text => .ok text
      | none => .error (.missing p)
    finite := ⟨texts.map Prod.fst, fun _ h => List.contains_iff_mem.1 h⟩ }

end Source

end ImportScan
