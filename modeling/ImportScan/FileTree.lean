import ImportScan.Source

/-!
# File trees

A file tree is a file system with finitely many files, the names of which are texts.  Places in it are
given by the names on the way from its root; paths lead from a folder to places.

## Main definitions

* `Place`, `Content`, `FileTree` — places, what a file holds, and the trees.
* `FileTree.isFolder`, `FileTree.file?` — what is at a place.
* `FileTree.locate`, `FileTree.isThere`, `FileTree.read` — where a path leads, whether it leads anywhere,
  and the text there.
* `FileTree.source` — the tree as a source, seen from a folder.

## Main results

* `FileTree.locate_parts` — a path that leads to a place is made of names of the tree.
* `FileTree.finite` — there are finitely many paths that lead to a place.
-/

namespace ImportScan

/-- A place: the names on the way from the root. -/
abbrev Place := List String

/-- The text of a place, as an absolute path. -/
def placeText (place : Place) : String := "/" ++ "/".intercalate place

/-- What a file holds. -/
inductive Content where
  /-- A text. -/
  | text (s : String)
  /-- Bytes that are no text. -/
  | binary (size : Nat)
  deriving DecidableEq, Repr, Inhabited

/-- The number of bytes. -/
def Content.size : Content → Nat
  | text s => s.utf8ByteSize
  | binary size => size

/-- The text, if it is one. -/
def Content.text? : Content → Option String
  | text s => some s
  | binary _ => none

/-- A file system. -/
structure FileTree where
  /-- The files with their places. -/
  files : List (Place × Content)
  /-- The folders, apart from those that hold a file or another folder. -/
  folders : List Place
  deriving DecidableEq, Repr, Inhabited

namespace FileTree

/-! ### What is at a place -/

/-- Whether a place lies on the way to another one. -/
def leadsTo (place other : Place) : Bool := place.isPrefixOf other

/-- Whether there is a folder. -/
def isFolder (t : FileTree) (place : Place) : Bool :=
  place.isEmpty || t.folders.any (leadsTo place) ||
    t.files.any fun f => leadsTo place f.1 && place != f.1

/-- The file at a place. -/
def file? (t : FileTree) (place : Place) : Option Content :=
  (t.files.find? fun f => f.1 == place).map Prod.snd

/-- Whether there is a folder or a file. -/
def holds (t : FileTree) (place : Place) : Bool := t.isFolder place || (t.file? place).isSome

/-- Write a text to a file, which need not be there yet. -/
def write (t : FileTree) (place : Place) (s : String) : FileTree :=
  { t with files := t.files.filter (fun f => f.1 != place) ++ [(place, .text s)] }

/-! ### Folders on the way -/

theorem leadsTo_iff {place other : Place} : leadsTo place other = true ↔ place <+: other :=
  List.isPrefixOf_iff_prefix

/-- On the way to a folder there are only folders. -/
theorem isFolder_above {t : FileTree} {folder place : Place} (hfolder : t.isFolder folder = true)
    (h : place <+: folder) : t.isFolder place = true := by
  unfold isFolder at hfolder ⊢
  simp only [Bool.or_eq_true, List.any_eq_true, Bool.and_eq_true, leadsTo_iff, List.isEmpty_iff,
    bne_iff_ne] at hfolder ⊢
  rcases hfolder with (rfl | ⟨f, hf, hway⟩) | ⟨f, hf, hway, hne⟩
  · exact .inl (.inl (List.prefix_nil.1 h))
  · exact .inl (.inr ⟨f, hf, h.trans hway⟩)
  · refine .inr ⟨f, hf, h.trans hway, ?_⟩
    rintro rfl
    exact hne (hway.eq_of_length (Nat.le_antisymm hway.length_le h.length_le))

/-- Where there is a file, there are folders on the way to it. -/
theorem isFolder_of_file? {t : FileTree} {place above : Place}
    (hfile : (t.file? place).isSome = true) (h : above <+: place) (hne : above ≠ place) :
    t.isFolder above = true := by
  obtain ⟨content, hcontent⟩ := Option.isSome_iff_exists.1 hfile
  obtain ⟨f, hf, -⟩ := Option.map_eq_some_iff.1 hcontent
  have hplace := List.find?_some hf
  have hmem := List.mem_of_find?_eq_some hf
  unfold isFolder
  simp only [Bool.or_eq_true, List.any_eq_true, Bool.and_eq_true, leadsTo_iff, bne_iff_ne]
  rw [← eq_of_beq hplace] at h hne
  exact .inr ⟨f, hmem, h, hne⟩

theorem isFolder_of_holds {t : FileTree} {folder : Place} {s : String}
    (h : t.holds (folder ++ [s]) = true) : t.isFolder folder = true := by
  rcases Bool.or_eq_true_iff.1 h with hfolder | hfile
  · exact isFolder_above hfolder (List.prefix_append ..)
  · exact isFolder_of_file? hfile (List.prefix_append ..) (by simp)

/-! ### Paths -/

/-- The greatest number of bytes of a name. -/
def nameLimit : Nat := 255

/-- The greatest number of bytes of a path. -/
def pathLimit : Nat := 4095

/-- Go on from a place that is there. -/
def walk (t : FileTree) (place : Place) : List PathPart → Except ReadFault Place
  | [] => .ok place
  | part :: rest =>
    if t.isFolder place then
      match part with
      | .here => walk t place rest
      | .up => walk t place.dropLast rest
      | .name n =>
        if nameLimit < n.bytes.length then .error .nameTooLong
        else
          match n with
          | .text s =>
            if t.holds (place ++ [s]) then walk t (place ++ [s]) rest else .error .notFound
          | .raw _ => .error .notFound
    else .error .notFolder

/-- Where a path leads from a folder. -/
def locate (t : FileTree) (folder : Place) (p : Path) : Except ReadFault Place :=
  if p.bytes.contains 0 then .error .nulCharacter
  else if pathLimit < p.bytes.length then .error .nameTooLong
  else t.walk (if p.absolute then [] else folder) p.parts

/-- Whether a path leads somewhere. -/
def isThere (t : FileTree) (folder : Place) (p : Path) : Bool := (t.locate folder p).isOk

/-- A name that is not too long is found in a folder if and only if something has it there. -/
theorem isThere_name (t : FileTree) (folder : Place) {s : String}
    (hsize : (textBytes s.toList).length ≤ nameLimit) (hnul : (textBytes s.toList).contains 0 = false) :
    t.isThere folder ⟨false, [.name s]⟩ = t.holds (folder ++ [s]) := by
  have hbytes : Path.bytes ⟨false, [.name s]⟩ = textBytes s.toList := by
    simp [Path.bytes, List.intercalate, PathPart.fileName, FileName.bytes]
  have hlimit : nameLimit ≤ pathLimit := by decide
  have hname : ¬ nameLimit < (FileName.text s).bytes.length := Nat.not_lt.2 hsize
  rw [isThere, locate, hbytes, hnul, if_neg Bool.false_ne_true,
    if_neg (Nat.not_lt.2 (Nat.le_trans hsize hlimit)), walk]
  dsimp only
  rw [if_neg hname]
  cases hholds : t.holds (folder ++ [s]) with
  | true =>
    rw [if_neg Bool.false_ne_true, if_pos (isFolder_of_holds hholds), if_pos hholds]
    rfl
  | false =>
    rw [if_neg Bool.false_ne_true]
    cases t.isFolder folder with
    | true => rw [if_pos rfl, if_neg (by simp [hholds])]; rfl
    | false => rfl

/-- The text that a file holds. -/
def textAt (t : FileTree) (place : Place) : Except ReadFault String :=
  match t.file? place with
  | some (.text s) => .ok s
  | some (.binary _) => .error .notText
  | none => .error .isFolder

/-- Read the file that a path names. -/
def read (t : FileTree) (folder : Place) (p : Path) : Except ReadFault String :=
  match t.locate folder p with
  | .ok place => t.textAt place
  | .error fault => .error fault

/-- Whether a path names a file. -/
def isFile (t : FileTree) (folder : Place) (p : Path) : Bool :=
  match t.locate folder p with
  | .ok place => (t.file? place).isSome
  | .error _ => false

/-! ### Finitely many paths -/

/-- The names in use. -/
def names (t : FileTree) : List String := t.files.flatMap Prod.fst ++ t.folders.flatten

/-- The components of which paths that lead somewhere are made. -/
def parts (t : FileTree) : List PathPart := .here :: .up :: t.names.map fun s => .name (.text s)

theorem mem_names_of_leadsTo {place other : Place} {s : String}
    (h : leadsTo (place ++ [s]) other = true) : s ∈ other := by
  obtain ⟨rest, hrest⟩ := List.isPrefixOf_iff_prefix.1 h
  rw [← hrest]
  simp

theorem mem_names_of_holds {t : FileTree} {place : Place} {s : String}
    (h : t.holds (place ++ [s]) = true) : s ∈ t.names := by
  have hne : (place ++ [s]).isEmpty = false := by simp
  unfold holds isFolder file? at h
  simp only [hne, Bool.false_or, Bool.or_eq_true, List.any_eq_true, Bool.and_eq_true,
    Option.isSome_map] at h
  unfold names
  rw [List.mem_append, List.mem_flatMap, List.mem_flatten]
  rcases h with (⟨folder, hf, hl⟩ | ⟨file, hf, hl, -⟩) | h
  · exact Or.inr ⟨folder, hf, mem_names_of_leadsTo hl⟩
  · exact Or.inl ⟨file, hf, mem_names_of_leadsTo hl⟩
  · obtain ⟨file, hfile⟩ := Option.isSome_iff_exists.1 h
    have hplace := List.find?_some hfile
    refine Or.inl ⟨file, List.mem_of_find?_eq_some hfile, ?_⟩
    rw [eq_of_beq hplace]
    simp

/-- A path that leads to a place is made of names of the tree. -/
theorem walk_parts {t : FileTree} {ps : List PathPart} :
    ∀ {place target : Place}, t.walk place ps = .ok target → ∀ part ∈ ps, part ∈ t.parts := by
  induction ps with
  | nil => intro _ _ _ part h; simp at h
  | cons p ps ih =>
    intro place target h part hpart
    -- in every branch that goes on, the component has been met or is a name of the tree
    unfold walk at h
    split at h
    · split at h
      · rcases List.mem_cons.1 hpart with rfl | hpart
        · simp [parts]
        · exact ih h part hpart
      · rcases List.mem_cons.1 hpart with rfl | hpart
        · simp [parts]
        · exact ih h part hpart
      · split at h
        · cases h
        · split at h
          · split at h
            · next s _ hs =>
              rcases List.mem_cons.1 hpart with rfl | hpart
              · simp [parts, mem_names_of_holds hs]
              · exact ih h part hpart
            · cases h
          · cases h
    · cases h

/-- A path that leads to a place is made of names of the tree. -/
theorem locate_parts {t : FileTree} {folder place : Place} {p : Path}
    (h : t.locate folder p = .ok place) : ∀ part ∈ p.parts, part ∈ t.parts := by
  unfold locate at h
  split at h
  · cases h
  · split at h
    · cases h
    · exact walk_parts h

theorem length_le_length_intercalate (names : List (List UInt8)) :
    names.length ≤ ([0x2f].intercalate names).length + 1 := by
  induction names with
  | nil => simp
  | cons a rest ih =>
    cases rest with
    | nil => simp
    | cons b rest =>
      simp only [List.intercalate_cons_cons, List.length_append, List.length_cons,
        List.length_nil] at ih ⊢
      omega

/-- A path that leads to a place is short. -/
theorem length_parts_le {t : FileTree} {folder place : Place} {p : Path}
    (h : t.locate folder p = .ok place) : p.parts.length ≤ pathLimit + 1 := by
  unfold locate at h
  split at h
  · cases h
  · split at h
    · cases h
    · next hlimit =>
      have hsize := length_le_length_intercalate (p.parts.map fun part => part.fileName.bytes)
      unfold Path.bytes at hlimit
      rw [List.length_append] at hlimit
      rw [List.length_map] at hsize
      omega

/-- There are finitely many lists up to some length. -/
theorem exists_lists {α : Type} (alphabet : List α) (n : Nat) :
    ∃ lists : List (List α), ∀ l, l.length ≤ n → (∀ x ∈ l, x ∈ alphabet) → l ∈ lists := by
  induction n with
  | zero =>
    refine ⟨[[]], fun l hl _ => ?_⟩
    rw [List.eq_nil_of_length_eq_zero (Nat.le_zero.1 hl)]
    exact List.mem_singleton.2 rfl
  | succ n ih =>
    obtain ⟨lists, h⟩ := ih
    -- every list is empty, or a letter in front of a shorter one
    refine ⟨[] :: alphabet.flatMap fun x => lists.map (x :: ·), fun l hl hx => ?_⟩
    cases l with
    | nil => exact List.mem_cons_self
    | cons x l =>
      refine List.mem_cons_of_mem _ (List.mem_flatMap.2 ⟨x, hx x List.mem_cons_self, ?_⟩)
      refine List.mem_map.2 ⟨l, h l ?_ fun y hy => hx y (List.mem_cons_of_mem _ hy), rfl⟩
      exact Nat.le_of_succ_le_succ hl

/-- There are finitely many paths that lead to a file. -/
theorem finite (t : FileTree) (folder : Place) :
    ∃ paths : List Path, ∀ p, t.isFile folder p = true → p ∈ paths := by
  obtain ⟨lists, h⟩ := exists_lists t.parts (pathLimit + 1)
  refine ⟨lists.map (Path.mk true) ++ lists.map (Path.mk false), fun p hp => ?_⟩
  unfold isFile at hp
  split at hp
  · rename_i place hplace
    have hmem := h p.parts (length_parts_le hplace) (locate_parts hplace)
    obtain ⟨absolute, parts⟩ := p
    rw [List.mem_append, List.mem_map, List.mem_map]
    cases absolute
    · exact Or.inr ⟨parts, hmem, rfl⟩
    · exact Or.inl ⟨parts, hmem, rfl⟩
  · cases hp

/-- The tree as a source, seen from a folder. -/
def source (t : FileTree) (folder : Place) : Source :=
  { doesExist := t.isFile folder
    load := fun p =>
      match t.read folder p with
      | .ok text => .ok text
      | .error cause => .error (.unreadable p cause)
    finite := t.finite folder }

end FileTree

end ImportScan
