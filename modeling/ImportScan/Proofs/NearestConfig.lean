import Mathlib.Data.List.Induction
import Mathlib.Data.List.Infix
import ImportScan.Config.Search

/-!
# The nearest configuration

The search for a configuration goes upwards, looks for one before it looks for a repository, and
ends at the first of both.  So a configuration is found beside the repository, but never above it,
and nothing above the repository makes a difference.

## Main definitions

* `FileTree.hasConfig`, `FileTree.hasRepository` — what a folder holds.
* `Place.Between` — the folders on the way from a folder down to another one.
* `FileTree.IsNearest` — the deepest folder on the way that holds a configuration.

## Main results

* `FileTree.findConfig_eq_some_iff` — what the search finds, told by the folders on the way.
* `FileTree.findConfig_nearest` — **the nearest configuration is found, unless the repository comes
  first**.
-/

namespace ImportScan

/-! ### The way to a folder -/

namespace Place

/-- The place lies on the way from one place down to another; the one above is left out. -/
structure Between (high low place : Place) : Prop where
  /-- It lies below the one. -/
  below : high <+: place
  /-- It is not the one itself. -/
  ne : place ≠ high
  /-- It lies above the other, or is the other. -/
  above : place <+: low

variable {high low place : Place} {name : String}

theorem not_between_self : ¬ Between low low place := fun h =>
  h.ne (h.above.eq_of_length (Nat.le_antisymm h.above.length_le h.below.length_le))

/-- What lies on the way to a place in a folder lies on the way to the folder, or is the place. -/
theorem between_concat_iff (h : high <+: low) :
    Between high (low ++ [name]) place ↔ Between high low place ∨ place = low ++ [name] := by
  constructor
  · rintro ⟨hbelow, hne, habove⟩
    rcases List.prefix_concat_iff.1 habove with heq | hway
    · exact .inr heq
    · exact .inl ⟨hbelow, hne, hway⟩
  · rintro (hway | rfl)
    · exact ⟨hway.below, hway.ne, hway.above.trans (List.prefix_append _ _)⟩
    · refine ⟨h.trans (List.prefix_append _ _), ?_, List.prefix_refl _⟩
      rintro rfl
      have hlength := h.length_le
      rw [List.length_append, List.length_singleton] at hlength
      omega

end Place

namespace FileTree

open Place

variable {t : FileTree} {folder found place repository : Place}

/-! ### The search -/

/-- Whether a folder holds a configuration. -/
def hasConfig (t : FileTree) (place : Place) : Bool := t.holds (place ++ [configFileName])

/-- Whether a folder holds a repository. -/
def hasRepository (t : FileTree) (place : Place) : Bool := t.holds (place ++ [repositoryName])

theorem search_eq_found_iff : t.search place = .found ↔ t.hasConfig place = true := by
  rw [search_eq]
  unfold Search.ofNames hasConfig
  split
  · next hconfig => simp [hconfig]
  · next hconfig => split <;> simp [hconfig]

theorem search_eq_goesOn_iff :
    t.search place = .goesOn ↔ t.hasConfig place = false ∧ t.hasRepository place = false := by
  rw [search_eq]
  unfold Search.ofNames hasConfig hasRepository
  split
  · next hconfig => simp [hconfig]
  · next hconfig => split <;> simp_all

theorem findConfig_nil :
    t.findConfig [] = if t.search [] = .found then some [] else none := by
  rw [findConfig, List.reverse_nil, searchUp]
  cases t.search [] <;> rfl

/-- The search in a folder, and in the one above it if there is nothing. -/
theorem findConfig_concat (above : Place) (name : String) :
    t.findConfig (above ++ [name]) =
      match t.search (above ++ [name]) with
      | .found => some (above ++ [name])
      | .ended => none
      | .goesOn => t.findConfig above := by
  have hnames : (above ++ [name]).reverse = name :: above.reverse := by simp
  rw [findConfig, hnames, searchUp, ← hnames, List.reverse_reverse]
  rfl

/-- What the search finds holds a configuration, and it goes on in all folders below. -/
theorem findConfig_eq_some_iff : t.findConfig folder = some found ↔
    found <+: folder ∧ t.search found = .found ∧
      ∀ place, Between found folder place → t.search place = .goesOn := by
  induction folder using List.reverseRecOn with
  | nil =>
    rw [findConfig_nil]
    constructor
    · intro h
      split at h
      · next hfound =>
        cases h
        exact ⟨List.prefix_refl _, hfound, fun place hway => absurd hway not_between_self⟩
      · cases h
    · rintro ⟨hbelow, hfound, -⟩
      obtain rfl := List.prefix_nil.1 hbelow
      rw [if_pos hfound]
  | append_singleton above name ih =>
    -- the folder itself lies on the way to it from anywhere above
    have hself : found <+: above ++ [name] → found ≠ above ++ [name] →
        Between found (above ++ [name]) (above ++ [name]) := fun hbelow hne =>
      ⟨hbelow, hne.symm, List.prefix_refl _⟩
    rw [findConfig_concat]
    cases hsearch : t.search (above ++ [name]) with
    | found =>
      dsimp only
      rw [Option.some.injEq]
      constructor
      · rintro rfl
        exact ⟨List.prefix_refl _, hsearch, fun place hway => absurd hway not_between_self⟩
      · rintro ⟨hbelow, -, hgoes⟩
        by_contra hne
        cases hsearch.symm.trans (hgoes _ (hself hbelow (Ne.symm hne)))
    | ended =>
      simp only [reduceCtorEq, false_iff, not_and]
      intro hbelow hfound hgoes
      have hne : found ≠ above ++ [name] := by
        rintro rfl
        cases hsearch.symm.trans hfound
      cases hsearch.symm.trans (hgoes _ (hself hbelow hne))
    | goesOn =>
      dsimp only
      rw [ih]
      constructor
      · rintro ⟨hbelow, hfound, hgoes⟩
        refine ⟨hbelow.trans (List.prefix_append _ _), hfound, fun place hway => ?_⟩
        rcases (between_concat_iff hbelow).1 hway with hway | rfl
        · exact hgoes place hway
        · exact hsearch
      · rintro ⟨hbelow, hfound, hgoes⟩
        have hbelow : found <+: above := by
          rcases List.prefix_concat_iff.1 hbelow with rfl | hbelow
          · cases hsearch.symm.trans hfound
          · exact hbelow
        refine ⟨hbelow, hfound, fun place hway => ?_⟩
        exact hgoes place ((between_concat_iff hbelow).2 (.inl hway))

/-! ### The nearest configuration -/

/-- The deepest folder with a configuration, among a folder and those above it. -/
structure IsNearest (t : FileTree) (folder found : Place) : Prop where
  /-- It is the folder, or lies above it. -/
  above : found <+: folder
  /-- It holds a configuration. -/
  hasConfig : t.hasConfig found = true
  /-- No folder below it on the way does. -/
  deepest : ∀ place, Between found folder place → t.hasConfig place = false

/-- The nearest configuration is found, unless there is a repository on the way to it. -/
theorem findConfig_eq_some_iff_isNearest : t.findConfig folder = some found ↔
    t.IsNearest folder found ∧
      ∀ place, Between found folder place → t.hasRepository place = false := by
  rw [findConfig_eq_some_iff, search_eq_found_iff]
  constructor
  · rintro ⟨habove, hconfig, hgoes⟩
    have hgoes := fun place hway => search_eq_goesOn_iff.1 (hgoes place hway)
    exact ⟨⟨habove, hconfig, fun place hway => (hgoes place hway).1⟩,
      fun place hway => (hgoes place hway).2⟩
  · rintro ⟨⟨habove, hconfig, hdeepest⟩, hfree⟩
    exact ⟨habove, hconfig, fun place hway =>
      search_eq_goesOn_iff.2 ⟨hdeepest place hway, hfree place hway⟩⟩

/-- No configuration above a repository is found. -/
theorem prefix_of_findConfig (h : t.findConfig folder = some found)
    (hrepository : t.hasRepository repository = true) (hway : repository <+: folder) :
    repository <+: found := by
  obtain ⟨hnearest, hfree⟩ := findConfig_eq_some_iff_isNearest.1 h
  rcases List.prefix_or_prefix_of_prefix hway hnearest.above with hle | hle
  · exact hle
  · by_cases heq : repository = found
    · exact heq ▸ List.prefix_refl _
    · cases hrepository.symm.trans (hfree repository ⟨hle, heq, hway⟩)

/-- Two trees are the same to the search if they hold the same from a repository downwards. -/
def SameBelow (t t' : FileTree) (repository folder : Place) : Prop :=
  ∀ place, repository <+: place → place <+: folder →
    t.hasConfig place = t'.hasConfig place ∧ t.hasRepository place = t'.hasRepository place

theorem SameBelow.symm {t' : FileTree} (h : t.SameBelow t' repository folder) :
    t'.SameBelow t repository folder := fun place hbelow habove =>
  ⟨(h place hbelow habove).1.symm, (h place hbelow habove).2.symm⟩

theorem SameBelow.findConfig {t' : FileTree} (h : t.SameBelow t' repository folder)
    (hrepository : t.hasRepository repository = true) (hway : repository <+: folder)
    (hfound : t.findConfig folder = some found) : t'.findConfig folder = some found := by
  have hbelow := prefix_of_findConfig hfound hrepository hway
  rw [findConfig_eq_some_iff_isNearest] at hfound ⊢
  obtain ⟨⟨habove, hconfig, hdeepest⟩, hfree⟩ := hfound
  refine ⟨⟨habove, (h found hbelow habove).1 ▸ hconfig, fun place hplace => ?_⟩,
    fun place hplace => ?_⟩
  · rw [← (h place (hbelow.trans hplace.below) hplace.above).1]
    exact hdeepest place hplace
  · rw [← (h place (hbelow.trans hplace.below) hplace.above).2]
    exact hfree place hplace

/-- **The nearest configuration is found, unless the repository comes first.**  The search finds the
deepest folder with a configuration, among the one where it starts and those above, if none of the
folders below on the way holds a repository; it finds nothing if one of them does, or if there is no
configuration.  So for a repository in the folder or above it, the configuration beside it is found
if nothing is nearer, none above it ever is, and whatever else lies above it makes no difference. -/
theorem findConfig_nearest (t : FileTree) (folder : Place) :
    (∀ found, t.findConfig folder = some found ↔ t.IsNearest folder found ∧
      ∀ place, Between found folder place → t.hasRepository place = false) ∧
    (t.findConfig folder = none ↔ ∀ found, t.IsNearest folder found →
      ∃ place, Between found folder place ∧ t.hasRepository place = true) ∧
    ∀ repository, repository <+: folder → t.hasRepository repository = true →
      (t.IsNearest folder repository →
        (∀ place, Between repository folder place → t.hasRepository place = false) →
        t.findConfig folder = some repository) ∧
      (∀ found, t.findConfig folder = some found → repository <+: found) ∧
      ∀ t' : FileTree, t.SameBelow t' repository folder →
        t'.findConfig folder = t.findConfig folder := by
  refine ⟨fun found => findConfig_eq_some_iff_isNearest, ?_,
    fun repository hway hrepository => ⟨fun hnearest hfree => ?_, fun found hfound => ?_,
      fun t' hsame => ?_⟩⟩
  · rw [Option.eq_none_iff_forall_ne_some]
    refine forall_congr' fun found => ?_
    rw [ne_eq, findConfig_eq_some_iff_isNearest, not_and]
    refine imp_congr_right fun _ => ?_
    simp only [not_forall, Bool.not_eq_false, exists_prop]
  · exact findConfig_eq_some_iff_isNearest.2 ⟨hnearest, hfree⟩
  · exact prefix_of_findConfig hfound hrepository hway
  · -- above the repository nothing is looked at
    have hrepository' : t'.hasRepository repository = true :=
      (hsame repository (List.prefix_refl _) hway).2 ▸ hrepository
    refine Option.ext fun found => ⟨fun h => ?_, fun h => ?_⟩
    · exact hsame.symm.findConfig hrepository' hway h
    · exact hsame.findConfig hrepository hway h

/-- A configuration above the repository is not found, and one beside it is. -/
theorem findConfig_nearest_beside :
    ∃ (above beside : FileTree) (folder repository : Place), repository <+: folder ∧
      (above.hasRepository repository = true ∧ above.hasConfig [] = true ∧
        above.findConfig folder = none) ∧
      beside.hasRepository repository = true ∧ beside.IsNearest folder repository ∧
      beside.findConfig folder = some repository := by
  let above : FileTree :=
    ⟨[([".modsplitrc.json"], .text ""), (["r", ".git", "HEAD"], .text "")], [["r", "a", "b"]]⟩
  let beside : FileTree := above.write ["r", ".modsplitrc.json"] ""
  let folder : Place := ["r", "a", "b"]
  -- the folders on the way are few enough to look at all of them
  have honWay : ∀ {P : Place → Prop}, (∀ place ∈ folder.inits, P place) →
      ∀ place, place <+: folder → P place := fun h place hway =>
    h place ((List.mem_inits _ _).2 hway)
  have habove : above.findConfig folder = none := by
    refine (findConfig_nearest above folder).2.1.2 fun found hnearest => ?_
    have hfound : above.hasConfig found = true → found = [] :=
      honWay (P := fun found => above.hasConfig found = true → found = []) (by decide) found
        hnearest.above
    obtain rfl := hfound hnearest.hasConfig
    exact ⟨["r"], ⟨List.nil_prefix, by decide, by decide⟩, by decide⟩
  have hfree : ∀ place, Between ["r"] folder place →
      beside.hasConfig place = false ∧ beside.hasRepository place = false := fun place hway =>
    honWay (P := fun place => ["r"] <+: place → place ≠ ["r"] →
      beside.hasConfig place = false ∧ beside.hasRepository place = false) (by decide) place
      hway.above hway.below hway.ne
  have hnearest : beside.IsNearest folder ["r"] :=
    ⟨by decide, by decide, fun place hway => (hfree place hway).1⟩
  have hbeside := ((findConfig_nearest beside folder).2.2 ["r"] (by decide) (by decide)).1 hnearest
    fun place hway => (hfree place hway).2
  exact ⟨above, beside, folder, ["r"], by decide, ⟨by decide, by decide, habove⟩, by decide,
    hnearest, hbeside⟩

end FileTree

end ImportScan
