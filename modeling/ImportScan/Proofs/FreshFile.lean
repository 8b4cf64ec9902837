import ImportScan.Config.Search
import ImportScan.Proofs.Detour

/-!
# A file that is added to a tree

A file is added to a folder under a name that nothing has there yet.  Whoever looks at a place that
is not the place of the new file finds there what was there before, and a path without detours that
does not pass through the new file leads where it led before.

A path may name a place by names that are no texts; no tree has anything there.

## Main definitions

* `Path.arrival` — the place that a path names, whatever is there.
* `Place.names` — the names on the way to a place of a tree.
* `FileTree.Admits` — a file can be added to a folder under a name.

## Main results

* `FileTree.Admits.files_write`, `FileTree.Admits.isFolder_write`, `FileTree.Admits.file?_write` —
  what adding the file changes.
* `FileTree.Admits.read_write`, `FileTree.Admits.isFile_write` — **a path that does not pass through
  the new file is read as before, and one that does not name it names a file if and only if it did
  before**.
* `FileTree.admits_of_findConfig` — a folder without a configuration in force admits one.
-/

namespace ImportScan

/-! ### Where paths lead -/

namespace Path

/-- The place one component further. -/
def arrivalStep (place : List FileName) : PathPart → List FileName
  | .here => place
  | .up => place.dropLast
  | .name n => place ++ [n]

/-- The place that some components name, from a place on. -/
def arrivalFrom (place : List FileName) (parts : List PathPart) : List FileName :=
  parts.foldl arrivalStep place

/-- The place that a path names when it is read in a folder, whatever is there. -/
def arrival (folder : List FileName) (p : Path) : List FileName :=
  arrivalFrom (if p.absolute then [] else folder) p.parts

theorem arrivalFrom_names (place names : List FileName) :
    arrivalFrom place (names.map .name) = place ++ names := by
  induction names generalizing place with
  | nil => exact (List.append_nil place).symm
  | cons n names ih => exact (ih (place ++ [n])).trans (List.append_assoc ..)

theorem arrivalFrom_append (place : List FileName) (parts parts' : List PathPart) :
    arrivalFrom place (parts ++ parts') = arrivalFrom (arrivalFrom place parts) parts' :=
  List.foldl_append

theorem getLast?_arrival (folder : List FileName) {p : Path} {n : FileName}
    (h : p.parts.getLast? = some (.name n)) : (p.arrival folder).getLast? = some n := by
  obtain ⟨parts, hparts⟩ := List.getLast?_eq_some_iff.1 h
  rw [arrival, hparts, arrivalFrom_append]
  exact List.getLast?_concat

end Path

namespace Place

/-- The names on the way to a place. -/
def names (place : Place) : List FileName := place.map .text

theorem names_inj {place place' : Place} : place.names = place'.names ↔ place = place' :=
  List.map_inj_right fun _ _ => FileName.text.inj

theorem names_prefix_iff {place place' : Place} :
    place.names <+: place'.names ↔ place <+: place' := by
  constructor
  · intro h
    obtain ⟨above, habove, heq⟩ := List.prefix_map_iff.1 h
    rwa [names_inj.1 heq]
  · exact fun h => h.map _

theorem names_concat (place : Place) (s : String) :
    names (place ++ [s]) = place.names ++ [.text s] :=
  List.map_append

end Place

namespace FileTree

variable {t : FileTree} {folder place : Place} {name text : String}

/-- A path that can be followed leads to the place that it names. -/
theorem walk_eq_arrivalFrom {parts : List PathPart} {start target : Place}
    (h : t.walk start parts = .ok target) :
    target.names = Path.arrivalFrom start.names parts := by
  induction parts generalizing start with
  | nil => cases h; rfl
  | cons part parts ih =>
    unfold walk at h
    split at h
    · -- a name is entered only where it is there, and then it is the next one on the way
      cases part with
      | here => exact ih h
      | up =>
        have hup : Place.names start.dropLast = start.names.dropLast := List.map_dropLast
        exact (ih h).trans (by rw [hup]; rfl)
      | name n =>
        dsimp only at h
        split at h
        · cases h
        cases n with
        | raw r => cases h
        | text s =>
          dsimp only at h
          split at h
          · exact (ih h).trans (by rw [Place.names_concat]; rfl)
          · cases h
    · cases h

theorem locate_eq_arrival {p : Path} {target : Place} (h : t.locate folder p = .ok target) :
    target.names = p.arrival folder.names := by
  unfold locate at h
  split at h
  · cases h
  split at h
  · cases h
  have hstart : Place.names (if p.absolute then [] else folder)
      = if p.absolute then [] else folder.names := by split <;> rfl
  rw [Path.arrival, ← hstart]
  exact walk_eq_arrivalFrom h

theorem exists_file?_of_isFile {p : Path} (h : t.isFile folder p = true) :
    ∃ target : Place, target.names = p.arrival folder.names ∧ (t.file? target).isSome = true := by
  unfold isFile at h
  split at h
  · next target htarget => exact ⟨target, locate_eq_arrival htarget, h⟩
  · cases h

/-! ### Adding a file -/

/-- A file can be added to a folder under a name: nothing has it there. -/
structure Admits (t : FileTree) (folder : Place) (name : String) : Prop where
  /-- The folder is there. -/
  isFolder : t.isFolder folder = true
  /-- Nothing has the name. -/
  isFree : t.holds (folder ++ [name]) = false

namespace Admits

variable (h : t.Admits folder name)

include h

theorem isFolder_eq_false : t.isFolder (folder ++ [name]) = false :=
  (Bool.or_eq_false_iff.1 h.isFree).1

theorem file?_eq_none : t.file? (folder ++ [name]) = none :=
  Option.isSome_eq_false_iff.1 (Bool.or_eq_false_iff.1 h.isFree).2 |> Option.isNone_iff_eq_none.1

/-- Below a name that nothing has there is no file either. -/
theorem file?_eq_none_below (hbelow : folder ++ [name] <+: place) : t.file? place = none := by
  by_cases heq : folder ++ [name] = place
  · exact heq ▸ h.file?_eq_none
  · cases hfile : t.file? place with
    | none => rfl
    | some content =>
      have hfolder := isFolder_of_file? (Option.isSome_iff_exists.2 ⟨content, hfile⟩) hbelow heq
      exact absurd (h.isFolder_eq_false.symm.trans hfolder) Bool.false_ne_true

/-- The other files stay as they are. -/
theorem files_write (text : String) :
    (t.write (folder ++ [name]) text).files = t.files ++ [(folder ++ [name], .text text)] := by
  have hkept : t.files.filter (fun f => f.1 != folder ++ [name]) = t.files := by
    refine List.filter_eq_self.2 fun f hf => bne_iff_ne.2 fun heq => ?_
    have hnone := Option.map_eq_none_iff.1 h.file?_eq_none
    exact List.find?_eq_none.1 hnone f hf (beq_iff_eq.2 heq)
  show t.files.filter _ ++ _ = _
  rw [hkept]

/-- No folder comes with the file. -/
theorem isFolder_write (text : String) (place : Place) :
    (t.write (folder ++ [name]) text).isFolder place = t.isFolder place := by
  rw [Bool.eq_iff_iff]
  have hfiles := h.files_write text
  constructor
  · intro hplace
    by_cases hnew : place <+: folder
    · exact isFolder_above h.isFolder hnew
    · -- a folder that is not on the way to the new file is so by what was there before
      have hnot : ¬ (place <+: folder ++ [name] ∧ place ≠ folder ++ [name]) := by
        rintro ⟨hway, hne⟩
        rcases List.prefix_concat_iff.1 hway with heq | hway
        · exact hne heq
        · exact hnew hway
      unfold FileTree.isFolder at hplace ⊢
      rw [hfiles, List.any_append] at hplace
      simpa [leadsTo_iff, bne_iff_ne, hnot, write] using hplace
  · intro hplace
    unfold FileTree.isFolder at hplace ⊢
    rw [hfiles, List.any_append, ← Bool.or_assoc]
    exact Bool.or_eq_true_iff.2 (.inl hplace)

/-- At every other place there is the file that was there. -/
theorem file?_write (text : String) (hne : place ≠ folder ++ [name]) :
    (t.write (folder ++ [name]) text).file? place = t.file? place := by
  have hother : (folder ++ [name] == place) = false := beq_eq_false_iff_ne.2 fun heq => hne heq.symm
  unfold file?
  rw [h.files_write, List.find?_append]
  simp [hother]

theorem file?_write_self (text : String) :
    (t.write (folder ++ [name]) text).file? (folder ++ [name]) = some (.text text) := by
  have hnone := Option.map_eq_none_iff.1 h.file?_eq_none
  unfold file?
  rw [h.files_write, List.find?_append, hnone]
  simp

theorem holds_write (text : String) (hne : place ≠ folder ++ [name]) :
    (t.write (folder ++ [name]) text).holds place = t.holds place := by
  rw [holds, holds, h.isFolder_write, h.file?_write text hne]

theorem holds_write_self (text : String) :
    (t.write (folder ++ [name]) text).holds (folder ++ [name]) = true := by
  rw [holds, h.file?_write_self, Option.isSome_some, Bool.or_true]

/-! ### Following paths beside it -/

/-- Names lead where they led, unless the new file is on their way. -/
theorem walk_names_write (text : String) {names : List FileName} (start : Place)
    (haway : ¬ Place.names (folder ++ [name]) <+: start.names ++ names) :
    (t.write (folder ++ [name]) text).walk start (names.map .name)
      = t.walk start (names.map .name) := by
  induction names generalizing start with
  | nil => rfl
  | cons n names ih =>
    cases n with
    | raw r => rw [List.map_cons, walk, walk, h.isFolder_write]
    | text s =>
      have hrest : Place.names (start ++ [s]) ++ names = start.names ++ .text s :: names := by
        rw [Place.names_concat]
        exact List.append_assoc ..
      have hne : start ++ [s] ≠ folder ++ [name] := fun heq =>
        haway (heq ▸ hrest ▸ List.prefix_append ..)
      have hwalk := ih (start ++ [s]) (hrest.symm ▸ haway)
      rw [List.map_cons, walk, walk, h.isFolder_write, h.holds_write text hne, hwalk]

/-- The way upwards leads where it led. -/
theorem walk_ups_write (text : String) (ups : Nat) {parts : List PathPart} (start : Place)
    (hparts : ∀ above : Place, above.names = Path.arrivalFrom start.names (.replicate ups .up) →
      (t.write (folder ++ [name]) text).walk above parts = t.walk above parts) :
    (t.write (folder ++ [name]) text).walk start (.replicate ups .up ++ parts)
      = t.walk start (.replicate ups .up ++ parts) := by
  induction ups generalizing start with
  | zero => exact hparts start rfl
  | succ ups ih =>
    have hup : Place.names start.dropLast = start.names.dropLast := List.map_dropLast
    rw [List.replicate_succ, List.cons_append, walk, walk, h.isFolder_write,
      ih start.dropLast fun above habove => hparts above (habove.trans (by rw [hup]; rfl))]

/-- A path without detours that does not pass through the new file leads where it led. -/
theorem locate_write (text : String) {p : Path} (hdirect : p.IsDirect)
    (haway : ¬ Place.names (folder ++ [name]) <+: p.arrival folder.names) :
    (t.write (folder ++ [name]) text).locate folder p = t.locate folder p := by
  have hwalk : (t.write (folder ++ [name]) text).walk (if p.absolute then [] else folder) p.parts
      = t.walk (if p.absolute then [] else folder) p.parts := by
    cases hdirect with
    | here => rw [walk, walk, h.isFolder_write]; rfl
    | fromRoot names =>
      refine h.walk_names_write text [] ?_
      rwa [Path.arrival, Path.arrivalFrom_names] at haway
    | relative ups names =>
      refine h.walk_ups_write text ups folder fun above habove => h.walk_names_write text above ?_
      rwa [habove, ← Path.arrivalFrom_names (Path.arrivalFrom _ _), ← Path.arrivalFrom_append]
  rw [locate, locate, hwalk]

/-- **A path that does not pass through the new file is read as before.** -/
theorem read_write (text : String) {p : Path} (hdirect : p.IsDirect)
    (haway : ¬ Place.names (folder ++ [name]) <+: p.arrival folder.names) :
    (t.write (folder ++ [name]) text).read folder p = t.read folder p := by
  rw [read, read, h.locate_write text hdirect haway]
  cases hlocate : t.locate folder p with
  | error fault => rfl
  | ok target =>
    have hne : target ≠ folder ++ [name] := by
      rintro rfl
      exact haway (locate_eq_arrival hlocate ▸ List.prefix_refl _)
    show textAt _ target = textAt t target
    rw [textAt, textAt, h.file?_write text hne]

/-- A path that names a file does not pass through a name that is free. -/
theorem arrival_elsewhere {p : Path} (hfile : t.isFile folder p = true) :
    ¬ Place.names (folder ++ [name]) <+: p.arrival folder.names := by
  obtain ⟨target, htarget, hsome⟩ := exists_file?_of_isFile hfile
  rw [← htarget, Place.names_prefix_iff]
  exact fun hbelow => absurd hsome (by simp [h.file?_eq_none_below hbelow])

/-- **A path that does not name the new file names a file if and only if it did before.** -/
theorem isFile_write (text : String) {p : Path} (hdirect : p.IsDirect)
    (hne : p.arrival folder.names ≠ Place.names (folder ++ [name])) :
    (t.write (folder ++ [name]) text).isFile folder p = t.isFile folder p := by
  have hother {target : Place} (htarget : target.names = p.arrival folder.names) :
      (t.write (folder ++ [name]) text).file? target = t.file? target := by
    refine h.file?_write text ?_
    rintro rfl
    exact hne htarget.symm
  by_cases hbelow : Place.names (folder ++ [name]) <+: p.arrival folder.names
  · -- nothing lies below a name that is free, and nothing below a file
    have hbefore : t.isFile folder p = false :=
      Bool.eq_false_iff.2 fun hfile => h.arrival_elsewhere hfile hbelow
    have hbehind : (t.write (folder ++ [name]) text).isFile folder p = false := by
      refine Bool.eq_false_iff.2 fun hfile => ?_
      obtain ⟨target, htarget, hsome⟩ := exists_file?_of_isFile hfile
      rw [← htarget, Place.names_prefix_iff] at hbelow
      exact absurd hsome (by simp [hother htarget, h.file?_eq_none_below hbelow])
    rw [hbefore, hbehind]
  · rw [isFile, isFile, h.locate_write text hdirect hbelow]
    cases hlocate : t.locate folder p with
    | error fault => rfl
    | ok target => exact congrArg Option.isSome (hother (locate_eq_arrival hlocate))

end Admits

/-! ### Configurations -/

/-- A folder with a configuration is where the search ends. -/
theorem findConfig_of_holds (h : t.holds (folder ++ [configFileName]) = true) :
    t.findConfig folder = some folder := by
  have hsearch : t.search folder = .found := by
    rw [search_eq, h]
    rfl
  unfold findConfig
  cases hnames : folder.reverse with
  | nil =>
    rw [List.reverse_eq_nil_iff] at hnames
    subst hnames
    rw [searchUp, hsearch]
  | cons last above =>
    have hfolder : (last :: above).reverse = folder := by rw [← hnames, List.reverse_reverse]
    rw [searchUp, hfolder, hsearch]

theorem admits_of_findConfig (hfolder : t.isFolder folder = true) (h : t.findConfig folder = none) :
    t.Admits folder configFileName := by
  refine ⟨hfolder, Bool.eq_false_iff.2 fun hconfig => ?_⟩
  cases h.symm.trans (findConfig_of_holds hconfig)

end FileTree

end ImportScan
