import ImportScan.Proofs.ImportGrammar
import ImportScan.Proofs.PrintedImport

/-!
# Lists as they are printed

An entry of a list is printed as a name, or as two names with `as` between them.  Any tokens can be
these names that neither end the statement or the list, nor divide it.  However the names have been
found, the printed tokens are a list of the grammar with the printed entries.

## Main definitions

* `PlainToken.IsName` — a token that can stand in a list, and neither ends nor divides it.
* `Binding.ShownAs`, `joinedTokens`, `listTokens` — the tokens as which an entry and a list are
  printed.

## Main results

* `Token.exists_placed`, `exists_placed_cons` — tokens at places, from their kinds and texts.
* `Binding.ShownAs.entry` — a printed entry is read as its names.
* `braceList_of_entries` — **the printed tokens are a list with the printed entries**.
-/

namespace ImportScan

open PlainToken (keyword name sign string)

/-! ### Tokens at places -/

theorem Token.exists_placed {t : Token} {u : PlainToken} (h : t.plain = u) :
    ∃ loc, t = u.placed loc := by
  refine ⟨t.loc, ?_⟩
  rw [← h]
  rfl

theorem Token.isKeyword_iff {t : Token} {word : String} :
    t.isKeyword word = true ↔ t.plain = keyword word := by
  simp [isKeyword, is, plain, keyword]

theorem Token.isPunctuator_iff {t : Token} {text : String} :
    t.isPunctuator text = true ↔ t.plain = sign text := by
  simp [isPunctuator, is, plain, sign]

theorem Token.plain_of_isIdentifier {t : Token} (h : t.isIdentifier = true) :
    t.plain = name t.lexeme := by
  rw [Token.isIdentifier, beq_iff_eq] at h
  rw [Token.plain, h]
  rfl

theorem exists_placed_cons {ts : List Token} {u : PlainToken} {us : List PlainToken}
    (h : ts.map Token.plain = u :: us) :
    ∃ loc ts', ts = u.placed loc :: ts' ∧ ts'.map Token.plain = us := by
  obtain ⟨t, ts', rfl, ht, hts'⟩ := List.map_eq_cons_iff.1 h
  obtain ⟨loc, rfl⟩ := Token.exists_placed ht
  exact ⟨loc, ts', rfl, hts'⟩

theorem exists_placed_singleton {ts : List Token} {u : PlainToken}
    (h : ts.map Token.plain = [u]) : ∃ loc, ts = [u.placed loc] := by
  obtain ⟨loc, ts', rfl, hts'⟩ := exists_placed_cons h
  rw [List.map_eq_nil_iff.1 hts']
  exact ⟨loc, rfl⟩

theorem map_plain_filter (ts : List Token) :
    (ts.filter fun t => !t.kind.isTrivia).map Token.plain
      = (ts.map Token.plain).filter PlainToken.isVisible := by
  rw [List.filter_map]
  rfl

/-! ### Names and entries -/

/-- A token that can stand in a list as a name: it carries meaning, it does not end the statement or
the names, and it neither opens nor closes nor divides a list. -/
structure PlainToken.IsName (u : PlainToken) : Prop where
  /-- It carries meaning. -/
  isVisible : u.isVisible = true
  /-- It is none of the tokens that a list is made of. -/
  notMem_signs : u ∉ [keyword "from", sign "\x7b", sign "\x7d", sign ",", sign ";"]

instance (u : PlainToken) : Decidable u.IsName :=
  decidable_of_iff (u.isVisible = true ∧
    u ∉ [keyword "from", sign "\x7b", sign "\x7d", sign ",", sign ";"])
    ⟨fun h => ⟨h.1, h.2⟩, fun h => ⟨h.isVisible, h.notMem_signs⟩⟩

/-- The tokens as which an entry is printed: a name alone, or two with `as` between them.  The name
on the exporting side stands there as it is, and so it is no string. -/
inductive Binding.ShownAs (b : Binding) : List PlainToken → Prop where
  | alone {u : PlainToken} (hu : u.IsName) (hstring : u.kind ≠ .stringLiteral)
      (himported : u.lexeme = b.imported) (hsame : b.imported = b.localName) : b.ShownAs [u]
  | renamed {u v : PlainToken} (hu : u.IsName) (hstring : u.kind ≠ .stringLiteral) (hv : v.IsName)
      (himported : u.lexeme = b.imported) (hlocal : v.lexeme = b.localName)
      (hne : b.imported ≠ b.localName) : b.ShownAs [u, keyword "as", v]

/-- The tokens of some entries, with commas between them. -/
def joinedTokens : List (List PlainToken) → List PlainToken
  | [] => []
  | [e] => e
  | e :: next :: entries => e ++ sign "," :: joinedTokens (next :: entries)

/-- The tokens of a list. -/
def listTokens (entries : List (List PlainToken)) : List PlainToken :=
  sign "\x7b" :: (joinedTokens entries ++ [sign "\x7d"])

section

variable {ts inside : List Token} {b : Binding} {e : List PlainToken} {list : List Binding}
  {entries : List (List PlainToken)}

theorem PlainToken.IsName.ne {u v : PlainToken} (hu : u.IsName)
    (hv : v ∈ [keyword "from", sign "\x7b", sign "\x7d", sign ",", sign ";"]) : u ≠ v := by
  rintro rfl
  exact hu.notMem_signs hv

/-- Each token of an entry is a name or `as`. -/
theorem Binding.ShownAs.isName (he : b.ShownAs e) : ∀ u ∈ e, u.IsName := by
  have has : (keyword "as").IsName := ⟨rfl, by decide⟩
  cases he with
  | alone hu => simpa using hu
  | renamed hu _ hv =>
    intro w hw
    simp only [List.mem_cons, List.not_mem_nil, or_false] at hw
    rcases hw with rfl | rfl | rfl
    · exact hu
    · exact has
    · exact hv

/-- Each token of some entries is a name or `as`. -/
theorem isName_of_mem (h : List.Forall₂ Binding.ShownAs list entries) (he : e ∈ entries)
    {u : PlainToken} (hu : u ∈ e) : u.IsName := by
  induction h with
  | nil => cases he
  | cons hb _ ih =>
    rcases List.mem_cons.1 he with rfl | he
    · exact hb.isName u hu
    · exact ih he

theorem mem_joinedTokens {u : PlainToken} (hu : u ∈ joinedTokens entries) :
    u = sign "," ∨ ∃ e ∈ entries, u ∈ e := by
  fun_induction joinedTokens entries with
  | case1 => cases hu
  | case2 e => exact .inr ⟨e, by simp, hu⟩
  | case3 e next entries ih =>
    rcases List.mem_append.1 hu with hu | hu
    · exact .inr ⟨e, by simp, hu⟩
    · rcases List.mem_cons.1 hu with rfl | hu
      · exact .inl rfl
      · exact (ih hu).imp_right fun ⟨e', he', hu⟩ => ⟨e', List.mem_cons_of_mem e he', hu⟩

/-! ### The grammar -/

theorem oneEntry_of_forall {depth : Int} (h : ∀ t ∈ ts, t.isPunctuator "," = false) :
    OneEntry depth ts := by
  intro before comma after hts hcomma
  have hnot := h comma (by simp [hts])
  rw [hcomma] at hnot
  cases hnot

theorem braceDepth_of_forall (h : ∀ t ∈ ts, t.isBrace = false) : braceDepth ts = 0 := by
  induction ts with
  | nil => rfl
  | cons t ts ih =>
    obtain ⟨ht, hts⟩ := List.forall_mem_cons.1 h
    rw [braceDepth_cons, Token.braceChange_of_not_isBrace ht, ih hts]
    rfl

theorem withoutBraces_of_forall (h : ∀ t ∈ ts, t.isBrace = false) : withoutBraces ts = ts := by
  apply List.filter_eq_self.2
  intro t ht
  rw [h t ht]
  rfl

theorem staysInside_of_forall (h : ∀ t ∈ ts, t.isBrace = false) : StaysInside 1 ts := by
  constructor
  · rintro before after rfl
    rw [braceDepth_of_forall fun t ht => h t (List.mem_append_left _ ht)]
    omega
  · rw [braceDepth_of_forall h]
    omega

/-- An entry is read as its names. -/
theorem Binding.ShownAs.entry (he : b.ShownAs e) (hts : ts.map Token.plain = e) : Entry ts [b] := by
  obtain ⟨imported, localName⟩ := b
  cases he with
  | alone hu hstring himported hsame =>
    obtain ⟨loc, rfl⟩ := exists_placed_singleton hts
    obtain rfl : imported = localName := hsame
    subst himported
    exact .name (.word hstring)
  | renamed hu hstring hv himported hlocal hne =>
    obtain ⟨loc, _, rfl, hmark⟩ := exists_placed_cons hts
    obtain ⟨loc', _, rfl, hother⟩ := exists_placed_cons hmark
    obtain ⟨loc'', rfl⟩ := exists_placed_singleton hother
    subst himported hlocal
    exact .renamed (.word hstring) rfl

/-- No token of an entry is a brace, a comma or `from`. -/
theorem Binding.ShownAs.of_mem (he : b.ShownAs e) (hts : ts.map Token.plain = e) {t : Token}
    (ht : t ∈ ts) :
    t.isBrace = false ∧ t.isPunctuator "," = false ∧ t.isKeyword "from" = false := by
  have hname : t.plain.IsName := by
    apply he.isName
    rw [← hts]
    exact List.mem_map_of_mem ht
  have hsign : ∀ text, sign text ∈ [keyword "from", sign "\x7b", sign "\x7d", sign ",", sign ";"] →
      t.isPunctuator text = false := by
    intro text htext
    rw [Bool.eq_false_iff, ne_eq, Token.isPunctuator_iff]
    exact hname.ne htext
  refine ⟨?_, hsign "," (by decide), ?_⟩
  · rw [Token.isBrace, hsign _ (by decide), hsign _ (by decide)]
    rfl
  · rw [Bool.eq_false_iff, ne_eq, Token.isKeyword_iff]
    exact hname.ne (by decide)

/-- The commas cut a list into its entries. -/
theorem exists_pieces_of_entries (h : List.Forall₂ Binding.ShownAs (b :: list) entries)
    (hinside : inside.map Token.plain = joinedTokens entries) :
    (∀ t ∈ inside, t.isBrace = false ∧ t.isKeyword "from" = false) ∧
      ∃ pieces, CutsAtCommas 1 inside pieces ∧
        List.Forall₂ Entry (pieces.map withoutBraces) ((b :: list).map fun b => [b]) := by
  have hpiece : ∀ {b : Binding} {e : List PlainToken} {ts : List Token}, b.ShownAs e →
      ts.map Token.plain = e → OneEntry 1 ts ∧ (∀ t ∈ ts, t.isBrace = false) ∧
        Entry (withoutBraces ts) [b] := by
    intro b e ts he hts
    have hbraces : ∀ t ∈ ts, t.isBrace = false := fun t ht => (he.of_mem hts ht).1
    refine ⟨oneEntry_of_forall fun t ht => (he.of_mem hts ht).2.1, hbraces, ?_⟩
    rw [withoutBraces_of_forall hbraces]
    exact he.entry hts
  -- the first comma ends the first entry, and behind it stands the list of the others
  induction list generalizing b entries inside with
  | nil =>
    obtain ⟨e, rest, hb, hrest, rfl⟩ := List.forall₂_cons_left_iff.1 h
    cases hrest
    obtain ⟨hone, -, hentry⟩ := hpiece hb hinside
    refine ⟨fun t ht => ?_, [inside], .last hone, .cons hentry .nil⟩
    obtain ⟨hbrace, -, hfrom⟩ := hb.of_mem hinside ht
    exact ⟨hbrace, hfrom⟩
  | cons next list ih =>
    obtain ⟨e, rest, hb, hrest, rfl⟩ := List.forall₂_cons_left_iff.1 h
    obtain ⟨e', rest', -, -, rfl⟩ := List.forall₂_cons_left_iff.1 hrest
    rw [joinedTokens] at hinside
    obtain ⟨piece, behind, rfl, hfirst, hmore⟩ := List.map_eq_append_iff.1 hinside
    obtain ⟨loc, behind, rfl, hbehind⟩ := exists_placed_cons hmore
    obtain ⟨hone, hbraces, hentry⟩ := hpiece hb hfirst
    obtain ⟨hall, pieces, hcuts, hentries⟩ := ih hrest hbehind
    refine ⟨?_, piece :: pieces, .comma hone rfl ?_ hcuts, .cons hentry hentries⟩
    · intro t ht
      rcases List.mem_append.1 ht with ht | ht
      · obtain ⟨hbrace, -, hfrom⟩ := hb.of_mem hfirst ht
        exact ⟨hbrace, hfrom⟩
      · rcases List.mem_cons.1 ht with rfl | ht
        · exact ⟨rfl, rfl⟩
        · exact hall t ht
    · rw [braceDepth_of_forall hbraces]
      rfl

/-- The tokens of a list are a list with the printed bindings. -/
theorem braceList_of_entries (h : List.Forall₂ Binding.ShownAs list entries)
    (hts : ts.map Token.plain = listTokens entries) : BraceList ts list := by
  obtain ⟨loc, _, rfl, hmore⟩ := exists_placed_cons hts
  obtain ⟨inside, _, rfl, hinside, hcloser⟩ := List.map_eq_append_iff.1 hmore
  obtain ⟨loc', rfl⟩ := exists_placed_singleton hcloser
  cases list with
  | nil =>
    cases h
    obtain rfl := List.map_eq_nil_iff.1 hinside
    -- an empty list is one entry without a name
    exact .intro rfl rfl (staysInside_of_forall (by simp)) (by simp) (.last (oneEntry_nil 1))
      (.cons .empty .nil)
  | cons b list =>
    obtain ⟨hall, pieces, hcuts, hentries⟩ := exists_pieces_of_entries h hinside
    have hlist : ((b :: list).map fun b => [b]).flatten = b :: list := by
      rw [← List.flatMap_def, List.flatMap_singleton']
    rw [← hlist]
    exact .intro rfl rfl (staysInside_of_forall fun t ht => (hall t ht).1)
      (fun t ht => (hall t ht).2) hcuts hentries

end

end ImportScan
