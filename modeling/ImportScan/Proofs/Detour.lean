import ImportScan.Path

/-!
# Paths without detours

A path is brought into a form without detours before it is compared with others.  That form leads
from the root by names only, or upwards first and by names then, or it is the place itself.

## Main definitions

* `Path.IsDirect` — the paths without detours.

## Main results

* `Path.isDirect_collapse`, `Path.IsDirect.collapse_eq` — the form is one without detours, and a
  path without detours is its own form.
* `Path.collapse_collapse` — taking the form twice changes nothing.
* `Path.getLast?_parts_collapse` — a path that ends with a name keeps it.
-/

namespace ImportScan

namespace Path

variable {absolute : Bool} {done : List PathPart}

/-- The path has no detours. -/
inductive IsDirect : Path → Prop where
  /-- It is the place itself. -/
  | here : IsDirect ⟨false, [.here]⟩
  /-- It leads from the root by names. -/
  | fromRoot (names : List FileName) : IsDirect ⟨true, names.map .name⟩
  /-- It leads upwards, then by names. -/
  | relative (ups : Nat) (names : List FileName) (somewhere : 0 < ups + names.length) :
    IsDirect ⟨false, List.replicate ups .up ++ names.map .name⟩

/-! ### Going on from a place -/

theorem collapseFrom_append (parts parts' : List PathPart) :
    collapseFrom absolute done (parts ++ parts')
      = collapseFrom absolute (collapseFrom absolute done parts) parts' :=
  List.foldl_append

theorem collapseFrom_names (names : List FileName) :
    collapseFrom absolute done (names.map .name) = (names.map PathPart.name).reverse ++ done := by
  induction names generalizing done with
  | nil => rfl
  | cons s names ih =>
    rw [List.map_cons, List.reverse_cons, List.append_assoc]
    exact ih

theorem collapseFrom_ups (n ups : Nat) :
    collapseFrom false (List.replicate ups .up) (List.replicate n .up)
      = List.replicate (ups + n) .up := by
  induction n generalizing ups with
  | zero => rfl
  | succ n ih =>
    have hfollow : follow false (List.replicate ups .up) .up = List.replicate (ups + 1) .up := by
      cases ups <;> rfl
    calc collapseFrom false (List.replicate ups .up) (List.replicate (n + 1) .up)
        = collapseFrom false (follow false (List.replicate ups .up) .up)
            (List.replicate n .up) := rfl
      _ = List.replicate (ups + 1 + n) .up := by rw [hfollow, ih]
      _ = List.replicate (ups + (n + 1)) .up := by rw [Nat.add_right_comm, Nat.add_assoc]

/-- The components of a place, the last one first: names, and behind them the way upwards, which
there is none of from the root. -/
def IsTrail (absolute : Bool) (done : List PathPart) : Prop :=
  ∃ (names : List FileName) (ups : Nat),
    done = names.map .name ++ List.replicate ups .up ∧ (absolute = true → ups = 0)

theorem IsTrail.follow (h : IsTrail absolute done) (part : PathPart) :
    IsTrail absolute (follow absolute done part) := by
  obtain ⟨names, ups, rfl, hups⟩ := h
  cases part with
  | here => exact ⟨names, ups, rfl, hups⟩
  | name s => exact ⟨s :: names, ups, rfl, hups⟩
  | up =>
    cases names with
    | cons s names => exact ⟨names, ups, rfl, hups⟩
    | nil =>
      cases absolute with
      | true =>
        -- there is nothing above the root
        rw [hups rfl]
        exact ⟨[], 0, rfl, fun _ => rfl⟩
      | false =>
        refine ⟨[], ups + 1, ?_, by simp⟩
        cases ups <;> rfl

theorem IsTrail.collapseFrom (h : IsTrail absolute done) (parts : List PathPart) :
    IsTrail absolute (collapseFrom absolute done parts) := by
  induction parts generalizing done with
  | nil => exact h
  | cons part parts ih => exact ih (h.follow part)

/-! ### The form without detours -/

variable {p : Path}

theorem isDirect_collapse (p : Path) : p.collapse.IsDirect := by
  have hstart : IsTrail p.absolute [] := ⟨[], 0, rfl, fun _ => rfl⟩
  obtain ⟨names, ups, htrail, hups⟩ := hstart.collapseFrom p.parts
  have hparts : (collapseFrom p.absolute [] p.parts).reverse
      = List.replicate ups .up ++ names.reverse.map .name := by
    rw [htrail, List.reverse_append, List.reverse_replicate, List.map_reverse]
  unfold collapse
  dsimp only
  rw [hparts]
  cases habsolute : p.absolute with
  | true =>
    rw [hups habsolute, Bool.not_true, Bool.and_false, if_neg Bool.false_ne_true]
    exact .fromRoot names.reverse
  | false =>
    rw [Bool.not_false, Bool.and_true]
    split
    · exact .here
    · next hne =>
      -- with neither a step upwards nor a name there would be no component
      refine .relative ups names.reverse (Nat.pos_of_ne_zero fun hzero => hne ?_)
      obtain ⟨rfl, hnames⟩ := Nat.add_eq_zero_iff.1 hzero
      rw [List.eq_nil_of_length_eq_zero hnames]
      rfl

theorem IsDirect.collapse_eq (h : p.IsDirect) : p.collapse = p := by
  cases h with
  | here => rfl
  | fromRoot names =>
    rw [collapse, collapseFrom_names, List.append_nil, List.reverse_reverse]
    simp
  | relative ups names somewhere =>
    have hups : collapseFrom false [] (List.replicate ups .up) = List.replicate ups .up := by
      rw [← List.replicate_zero (a := PathPart.up), collapseFrom_ups, Nat.zero_add]
    have hparts : (collapseFrom false [] (List.replicate ups .up ++ names.map .name)).reverse
        = List.replicate ups .up ++ names.map .name := by
      rw [collapseFrom_append, hups, collapseFrom_names, List.reverse_append, List.reverse_reverse,
        List.reverse_replicate]
    have hne : (List.replicate ups PathPart.up ++ names.map PathPart.name).isEmpty = false := by
      rw [List.isEmpty_eq_false_iff, ← List.length_pos_iff]
      simpa using somewhere
    rw [collapse]
    dsimp only
    rw [hparts, hne]
    rfl

theorem collapse_collapse (p : Path) : p.collapse.collapse = p.collapse :=
  p.isDirect_collapse.collapse_eq

theorem isDirect_resolve (importer : Path) (specifier : String) :
    (importer.resolve specifier).IsDirect :=
  (importer.parent.join (ofString specifier)).isDirect_collapse

theorem collapse_resolve (importer : Path) (specifier : String) :
    (importer.resolve specifier).collapse = importer.resolve specifier :=
  (importer.isDirect_resolve specifier).collapse_eq

/-- A path that ends with a name keeps it. -/
theorem getLast?_parts_collapse {s : String} (h : p.parts.getLast? = some (.name s)) :
    p.collapse.parts.getLast? = some (.name s) := by
  obtain ⟨parts, hparts⟩ := List.getLast?_eq_some_iff.1 h
  have hlast : (collapseFrom p.absolute [] p.parts).reverse
      = (collapseFrom p.absolute [] parts).reverse ++ [.name s] := by
    rw [hparts, collapseFrom_append, ← List.reverse_cons]
    rfl
  unfold collapse
  dsimp only
  rw [hlast, if_neg (by simp)]
  exact List.getLast?_concat

end Path

end ImportScan
