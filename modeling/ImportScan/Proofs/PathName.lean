import ImportScan.Path

/-!
# Paths and their names

A path is shown by its name.  The name of a path that is a text and has no detours can be read back,
so that two of them with one name are one path.  The bytes of a name tell it, but two names that are no
texts may be shown alike.

## Main definitions

* `PathPart.IsPlain`, `Path.IsPlain` — components that can stand between two slashes, and a path
  made of them.
* `Path.IsCanonical` — a path that can be read back from its name.

## Main results

* `FileName.eq_of_bytes` — **the bytes of a name tell it**, and how it is shown.
* `Path.ofString_toString` — **a canonical path is read back from its name**.
* `Path.IsPlain.collapse`, `Path.IsPlain.resolve` — paths without detours are canonical, and so are
  the files that specifiers name.
* `Path.IsCanonical.toString_inj` — two canonical paths with one name are the same.
-/

namespace ImportScan

/-! ### Names -/

namespace FileName

theorem isText_eq (n : FileName) : n.isText = isUtf8 n.bytes := by
  cases n with
  | text s => exact (isUtf8_textBytes s.toList).symm
  | raw r => exact r.notText.symm

theorem shown_eq (n : FileName) : n.shown = shownBytes n.bytes := by
  cases n with
  | text s => rw [bytes, shownBytes_textBytes, String.ofList_toList, shown]
  | raw r => rfl

/-- **The bytes of a name tell it.** -/
theorem eq_of_bytes {n n' : FileName} (h : n.bytes = n'.bytes) : n = n' := by
  -- the bytes tell whether the name is a text, and how it is shown
  have htext : n.isText = n'.isText := by rw [isText_eq, isText_eq, h]
  have hshown : n.shown = n'.shown := by rw [shown_eq, shown_eq, h]
  cases n with
  | text s =>
    cases n' with
    | text s' => exact congrArg text hshown
    | raw r' => cases htext
  | raw r =>
    cases n' with
    | text s' => cases htext
    | raw r' =>
      obtain ⟨bs, hbs⟩ := r
      obtain ⟨bs', hbs'⟩ := r'
      obtain rfl : bs = bs' := h
      rfl

end FileName

/-! ### Components -/

/-- The component is a text that can be read back when it stands between two slashes. -/
def PathPart.IsPlain : PathPart → Prop
  | .here => True
  | .up => True
  | .name (.text s) => s ≠ "" ∧ '/' ∉ s.toList ∧ s ≠ "." ∧ s ≠ ".."
  | .name (.raw _) => False

namespace PathPart

variable {part : PathPart}

theorem IsPlain.text_ne_nil (h : part.IsPlain) : part.text.toList ≠ [] := by
  cases part with
  | here => decide
  | up => decide
  | name n =>
    cases n with
    | text s => simpa [text, fileName, FileName.shown] using h.1
    | raw r => exact h.elim

theorem IsPlain.slash_notMem (h : part.IsPlain) : '/' ∉ part.text.toList := by
  cases part with
  | here => decide
  | up => decide
  | name n =>
    cases n with
    | text s => exact h.2.1
    | raw r => exact h.elim

theorem IsPlain.ofText_text (h : part.IsPlain) : ofText part.text = part := by
  cases part with
  | here => rfl
  | up => rfl
  | name n =>
    cases n with
    | text s =>
      obtain ⟨-, -, hhere, hup⟩ := h
      exact (if_neg hhere).trans (if_neg hup)
    | raw r => exact h.elim

theorem IsPlain.isText (h : part.IsPlain) : part.fileName.isText = true := by
  cases part with
  | here => rfl
  | up => rfl
  | name n =>
    cases n with
    | text s => rfl
    | raw r => exact h.elim

theorem isPlain_ofText {cs : List Char} (hne : cs ≠ []) (hslash : '/' ∉ cs) :
    (ofText (String.ofList cs)).IsPlain := by
  unfold ofText
  split
  · trivial
  · next hhere =>
    split
    · trivial
    · next hup => exact ⟨by simpa using hne, by simpa using hslash, hhere, hup⟩

end PathPart

namespace Path

/-! ### Texts between slashes -/

variable {cs : List Char} {css : List (List Char)}

theorem splitSlashes_ne_nil (cs : List Char) : splitSlashes cs ≠ [] := by
  fun_induction splitSlashes cs <;> simp

theorem splitSlashes_of_notMem (h : '/' ∉ cs) : splitSlashes cs = [cs] := by
  induction cs with
  | nil => rfl
  | cons c cs ih =>
    obtain ⟨hc, hcs⟩ := not_or.1 (mt List.mem_cons.2 h)
    rw [splitSlashes.eq_3 c cs fun heq => hc heq.symm, ih hcs]

theorem splitSlashes_append (h : '/' ∉ cs) (rest : List Char) :
    splitSlashes (cs ++ '/' :: rest) = cs :: splitSlashes rest := by
  induction cs with
  | nil => rfl
  | cons c cs ih =>
    obtain ⟨hc, hcs⟩ := not_or.1 (mt List.mem_cons.2 h)
    rw [List.cons_append, splitSlashes.eq_3 c _ fun heq => hc heq.symm, ih hcs]

/-- Texts without slashes are found again between the slashes that join them. -/
theorem splitSlashes_intercalate (hne : css ≠ []) (h : ∀ cs ∈ css, '/' ∉ cs) :
    splitSlashes (['/'].intercalate css) = css := by
  induction css with
  | nil => exact absurd rfl hne
  | cons cs css ih =>
    obtain ⟨hcs, hcss⟩ := List.forall_mem_cons.1 h
    cases css with
    | nil =>
      have hone : ['/'].intercalate [cs] = cs := by simp [List.intercalate]
      rw [hone, splitSlashes_of_notMem hcs]
    | cons ds css =>
      have hmore : ['/'].intercalate (cs :: ds :: css)
          = cs ++ '/' :: ['/'].intercalate (ds :: css) := by
        simp [List.intercalate]
      rw [hmore, splitSlashes_append hcs, ih (List.cons_ne_nil _ _) hcss]

theorem slash_notMem_of_mem_splitSlashes {text : List Char} (h : cs ∈ splitSlashes text) :
    '/' ∉ cs := by
  fun_induction splitSlashes text generalizing cs with
  | case1 =>
    rw [List.mem_singleton.1 h]
    exact List.not_mem_nil
  | case2 text ih =>
    rcases List.mem_cons.1 h with rfl | h
    · exact List.not_mem_nil
    · exact ih h
  | case3 c text hc first rest hsplit ih =>
    rw [hsplit] at ih
    rcases List.mem_cons.1 h with rfl | h
    · have hfirst := ih List.mem_cons_self
      rintro (_ | ⟨_, hmem⟩)
      · exact hc rfl
      · exact hfirst hmem
    · exact ih (List.mem_cons_of_mem _ h)
  | case4 c text hc hsplit => exact absurd hsplit (splitSlashes_ne_nil text)

/-! ### Paths that are read back -/

variable {p q : Path}

/-- All components of the path can be read back. -/
def IsPlain (p : Path) : Prop := ∀ part ∈ p.parts, part.IsPlain

/-- The path can be read back from its name: its components can, none of them is dropped, and the
name is not empty. -/
structure IsCanonical (p : Path) : Prop where
  plain : p.IsPlain
  tidy_parts : tidy p.absolute p.parts = p.parts
  named : p.absolute = false → p.parts ≠ []

theorem IsPlain.isText (h : p.IsPlain) : p.isText = true :=
  List.all_eq_true.2 fun part hpart => (h part hpart).isText

/-- The texts of the components are those between the slashes of the name. -/
theorem IsPlain.filter_splitSlashes (h : p.IsPlain) :
    (splitSlashes (['/'].intercalate (p.parts.map fun part => part.text.toList))).filter
        (fun cs => !cs.isEmpty)
      = p.parts.map fun part => part.text.toList := by
  by_cases hnil : p.parts = []
  · rw [hnil]
    rfl
  · rw [splitSlashes_intercalate (by simpa using hnil)]
    · refine List.filter_eq_self.2 fun cs hcs => ?_
      obtain ⟨part, hpart, rfl⟩ := List.mem_map.1 hcs
      simpa using (h part hpart).text_ne_nil
    · intro cs hcs
      obtain ⟨part, hpart, rfl⟩ := List.mem_map.1 hcs
      exact (h part hpart).slash_notMem

theorem IsPlain.map_ofText (h : p.IsPlain) :
    (p.parts.map fun part => part.text.toList).map
      (fun cs => PathPart.ofText (String.ofList cs)) = p.parts := by
  rw [List.map_map]
  refine (List.map_congr_left fun part hpart => ?_).trans (List.map_id _)
  show PathPart.ofText (String.ofList part.text.toList) = part
  rw [String.ofList_toList, (h part hpart).ofText_text]

theorem toList_toString (p : Path) : p.toString.toList = (if p.absolute then ['/'] else []) ++
    ['/'].intercalate (p.parts.map fun part => part.text.toList) := by
  have hmap : (p.parts.map PathPart.text).map String.toList
      = p.parts.map fun part => part.text.toList := by
    rw [List.map_map]
    rfl
  rw [toString, String.toList_append, String.toList_intercalate, hmap]
  cases p.absolute <;> rfl

/-- **A canonical path is read back from its name.** -/
theorem ofString_toString (h : p.IsCanonical) : ofString p.toString = p := by
  have hfilter := h.plain.filter_splitSlashes
  have hmap := h.plain.map_ofText
  have htidy := h.tidy_parts
  have hnamed := h.named
  have hplain := h.plain
  have hlist := p.toList_toString
  obtain ⟨absolute, parts⟩ := p
  unfold ofString
  rw [hlist]
  cases absolute with
  | true =>
    have hsplit : splitSlashes ('/' :: ['/'].intercalate (parts.map fun part => part.text.toList))
        = [] :: splitSlashes (['/'].intercalate (parts.map fun part => part.text.toList)) := rfl
    simp only [if_true, List.singleton_append, hsplit]
    rw [List.filter_cons_of_neg (by simp), hfilter, hmap]
    exact congrArg _ htidy
  | false =>
    -- the name starts with the first component, which holds no slash
    have hhead : ((['/'].intercalate (parts.map fun part => part.text.toList)).head? == some '/')
        = false := by
      obtain ⟨part, rest, rfl⟩ := List.exists_cons_of_ne_nil (hnamed rfl)
      have hpart := hplain part List.mem_cons_self
      obtain ⟨c, cs, hcs⟩ := List.exists_cons_of_ne_nil hpart.text_ne_nil
      have hslash := hpart.slash_notMem
      rw [hcs] at hslash
      have hc : c ≠ '/' := fun hc => hslash (hc ▸ List.mem_cons_self)
      cases rest with
      | nil => simpa [List.intercalate, hcs] using hc
      | cons part' rest => simpa [List.intercalate, hcs] using hc
    simp only [Bool.false_eq_true, if_false, List.nil_append, hhead]
    rw [hfilter, hmap]
    exact congrArg _ htidy

/-- Two canonical paths with one name are the same. -/
theorem IsCanonical.toString_inj (hp : p.IsCanonical) (hq : q.IsCanonical)
    (h : p.toString = q.toString) : p = q := by
  rw [← ofString_toString hp, h, ofString_toString hq]

/-! ### Paths that are canonical -/

theorem mem_of_mem_tidy {absolute : Bool} {parts : List PathPart} {part : PathPart}
    (h : part ∈ tidy absolute parts) : part ∈ parts := by
  unfold tidy at h
  split at h
  · rcases List.mem_cons.1 h with rfl | h
    · exact List.mem_cons_self
    · exact List.mem_cons_of_mem _ (List.mem_filter.1 h).1
  · exact (List.mem_filter.1 h).1

/-- Every path that is read is made of plain components. -/
theorem isPlain_ofString (s : String) : (ofString s).IsPlain := by
  intro part hpart
  obtain ⟨cs, hcs, rfl⟩ := List.mem_map.1 (mem_of_mem_tidy hpart)
  obtain ⟨hsplit, hne⟩ := List.mem_filter.1 hcs
  exact PathPart.isPlain_ofText (by simpa using hne) (slash_notMem_of_mem_splitSlashes hsplit)

/-- Going on from some place adds no component but those on the way. -/
theorem mem_of_mem_collapseFrom {absolute : Bool} {done parts : List PathPart} {part : PathPart}
    (h : part ∈ collapseFrom absolute done parts) : part ∈ done ∨ part ∈ parts ∧ part ≠ .here := by
  induction parts generalizing done with
  | nil => exact .inl h
  | cons next parts ih =>
    -- one component adds at most itself
    have hfollow : part ∈ follow absolute done next → part ∈ done ∨ part = next ∧ part ≠ .here := by
      intro hmem
      unfold follow at hmem
      split at hmem
      · exact .inl hmem
      · split at hmem
        · exact .inl (List.mem_cons_of_mem _ hmem)
        · split at hmem
          · exact .inl hmem
          · rcases List.mem_cons.1 hmem with rfl | hmem
            · exact .inr ⟨rfl, by simp⟩
            · exact .inl hmem
      · rcases List.mem_cons.1 hmem with rfl | hmem
        · exact .inr ⟨rfl, by simp⟩
        · exact .inl hmem
    rcases ih h with hdone | ⟨hparts, hne⟩
    · rcases hfollow hdone with hdone | ⟨rfl, hne⟩
      · exact .inl hdone
      · exact .inr ⟨List.mem_cons_self, hne⟩
    · exact .inr ⟨List.mem_cons_of_mem _ hparts, hne⟩

theorem tidy_eq_self {absolute : Bool} {parts : List PathPart} (h : .here ∉ parts) :
    tidy absolute parts = parts := by
  have hwithout : withoutHere parts = parts := by
    refine List.filter_eq_self.2 fun part hpart => ?_
    simp only [bne_iff_ne, ne_eq]
    rintro rfl
    exact h hpart
  unfold tidy
  split
  · exact absurd List.mem_cons_self h
  · exact hwithout

/-- A path without detours is canonical. -/
theorem IsPlain.collapse (h : p.IsPlain) : p.collapse.IsCanonical := by
  have hmem : ∀ part ∈ (collapseFrom p.absolute [] p.parts).reverse,
      part ∈ p.parts ∧ part ≠ .here := by
    intro part hpart
    exact (mem_of_mem_collapseFrom (List.mem_reverse.1 hpart)).resolve_left List.not_mem_nil
  unfold Path.collapse
  dsimp only
  split
  · -- the place that the path starts from
    exact ⟨by simp [IsPlain, PathPart.IsPlain], rfl, by simp⟩
  · next hne =>
    refine ⟨fun part hpart => h part (hmem part hpart).1, ?_, fun hrelative hnil => ?_⟩
    · exact tidy_eq_self fun hhere => (hmem _ hhere).2 rfl
    · -- a relative path with nothing left is the place it starts from
      have hrelative : p.absolute = false := hrelative
      have hnil : (collapseFrom p.absolute [] p.parts).reverse = [] := hnil
      rw [hnil, hrelative] at hne
      exact hne rfl

/-- The files that specifiers name have canonical paths. -/
theorem IsPlain.resolve (h : p.IsPlain) (specifier : String) :
    (p.resolve specifier).IsCanonical := by
  have hparent : p.parent.IsPlain := by
    unfold parent
    split
    · simp [IsPlain]
    · exact fun part hpart => h part ((List.dropLast_sublist _).subset hpart)
  refine IsPlain.collapse ?_
  have hread := isPlain_ofString specifier
  unfold join
  split
  · exact hread
  · split
    · exact hread
    · intro part hpart
      rcases List.mem_append.1 hpart with hpart | hpart
      · exact hparent part hpart
      · exact hread part (List.mem_filter.1 hpart).1

end Path

end ImportScan
