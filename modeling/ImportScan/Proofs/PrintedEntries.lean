import ImportScan.Proofs.OneLine
import ImportScan.Proofs.SpacedTokens

/-!
# Lists of any names as they are printed

Any token can stand in a list where a name is expected, and a string stands for what is between its
quotes.  Printing takes the names as they are, without quotes.  What is printed is scanned again as
the same tokens if each name is one token, behind a comma or `as` and before a blank.

## Main definitions

* `Bindings.ShownAs` — the tokens as which a clause is printed, with the blanks between them.
* `ImportRecord.spaced` — those of the printed statement.
* `PlainToken.StandsBehind`, `EntryStands` — names that are tokens by themselves.

## Main results

* `ImportRecord.text_spaced` — the tokens and the blanks are the printed text.
* `ImportRecord.scans_spaced_iff` — **the printed text is scanned as these tokens just when every
  name and the specifier is a token by itself**.
-/

namespace ImportScan

open PlainToken (blank keyword name sign string)

/-! ### The blanks between them -/

/-- Tokens with single blanks between them, and some blanks behind the last one. -/
def spacedBefore (gap : List Char) : List PlainToken → Spaced
  | [] => []
  | [u] => [(u, gap)]
  | u :: v :: us => (u, [' ']) :: spacedBefore gap (v :: us)

/-- Entries with commas right behind them, and blanks behind the commas and the last entry. -/
def spacedEntries : List (List PlainToken) → Spaced
  | [] => []
  | [e] => spacedBefore [' '] e
  | e :: next :: entries =>
    spacedBefore [] e ++ (sign ",", [' ']) :: spacedEntries (next :: entries)

/-- A list.  Without entries there are two blanks between the braces. -/
def spacedList (entries : List (List PlainToken)) : Spaced :=
  (sign "\x7b", if entries = [] then [' ', ' '] else [' ']) ::
    (spacedEntries entries ++ [(sign "\x7d", [' '])])

/-- The tokens as which a clause is printed, with the blanks between them, and the entries among
them. -/
inductive Bindings.ShownAs : Bindings → List (List PlainToken) → Spaced → Prop where
  | everything {text : String} (htext : (name text).Readable) : ShownAs (.everything text) []
      [(sign "*", [' ']), (keyword "as", [' ']), (name text, [' '])]
  | defaultOnly {text : String} (htext : (name text).Readable) : ShownAs (.defaultOnly text) []
      [(name text, [' '])]
  | named {list : List Binding} {entries : List (List PlainToken)}
      (h : List.Forall₂ Binding.ShownAs list entries) :
      ShownAs (.named list) entries (spacedList entries)

/-- The tokens as which an import is printed, with the blanks between them. -/
def ImportRecord.spaced (r : ImportRecord) (clause : Spaced) : Spaced :=
  (keyword "import", [' ']) ::
    (clause ++ [(keyword "from", [' ']), (string r.quotedSpecifier, []), (sign ";", [])])

section

variable {b : Binding} {e : List PlainToken} {list : List Binding}
  {entries : List (List PlainToken)} {bindings : Bindings} {clause : Spaced} {r : ImportRecord}

theorem Binding.ShownAs.text_spacedBefore (h : b.ShownAs e) (gap : List Char) :
    Spaced.text (spacedBefore gap e) = b.esText.toList ++ gap := by
  unfold Binding.esText Binding.render
  cases h with
  | alone _ _ himported hsame => simp [spacedBefore, himported, hsame]
  | renamed _ _ _ himported hlocal hne =>
    simp [spacedBefore, himported, hlocal, hne, keyword]

theorem text_spacedEntries (h : List.Forall₂ Binding.ShownAs list entries) :
    Spaced.text (spacedEntries entries)
      = (", ".intercalate (list.map Binding.esText)).toList ++
        if entries = [] then [] else [' '] := by
  induction h with
  | nil => rfl
  | @cons b e list entries hb h ih =>
    cases h with
    | nil => simpa [spacedEntries] using hb.text_spacedBefore [' ']
    | @cons next e' list entries _ _ =>
      rw [List.map_cons] at ih
      rw [spacedEntries, Spaced.text_append, Spaced.text_cons, ih, hb.text_spacedBefore,
        List.map_cons, List.map_cons, String.intercalate_cons_cons]
      simp [sign]

/-- The tokens and the blanks are the printed text. -/
theorem ImportRecord.text_spaced (h : r.bindings.ShownAs entries clause) :
    Spaced.text (r.spaced clause) = r.esText.toList := by
  unfold ImportRecord.spaced ImportRecord.esText
  rw [Spaced.text_cons, Spaced.text_append]
  generalize r.bindings = bindings at h
  cases h with
  | everything => simp [sign, keyword, name, string]
  | defaultOnly => simp [sign, keyword, name, string]
  | @named list _ h =>
    rw [spacedList, Spaced.text_cons, Spaced.text_append, text_spacedEntries h]
    cases h with
    | nil => simp [sign, keyword, string, ImportRecord.braced]
    | cons => simp [sign, keyword, string, ImportRecord.braced]

theorem map_fst_spacedBefore (gap : List Char) (us : List PlainToken) :
    (spacedBefore gap us).map Prod.fst = us := by
  fun_induction spacedBefore gap us with
  | case1 => rfl
  | case2 u => rfl
  | case3 u v us ih => rw [List.map_cons, ih]

theorem map_fst_spacedEntries (entries : List (List PlainToken)) :
    (spacedEntries entries).map Prod.fst = joinedTokens entries := by
  fun_induction spacedEntries entries with
  | case1 => rfl
  | case2 e => exact map_fst_spacedBefore _ e
  | case3 e next entries ih =>
    rw [List.map_append, List.map_cons, ih, map_fst_spacedBefore, joinedTokens]

theorem map_fst_spacedList (entries : List (List PlainToken)) :
    (spacedList entries).map Prod.fst = listTokens entries := by
  rw [spacedList, List.map_cons, List.map_append, map_fst_spacedEntries]
  rfl

/-! ### Names that are tokens by themselves -/

/-- Behind another token and before a blank, the token is scanned from its own text. -/
def PlainToken.StandsBehind (u : PlainToken) (previous : Significant) : Prop :=
  ScansAs (some previous) (u.lexeme.toList ++ [' ']) u.kind u.lexeme.toList.length

/-- The names of an entry are tokens by themselves, the first one behind a comma and the second one
behind `as`. -/
inductive EntryStands : List PlainToken → Prop where
  | alone {u : PlainToken} (hu : u.StandsBehind (.punctuator, ",")) : EntryStands [u]
  | renamed {u v : PlainToken} (hu : u.StandsBehind (.punctuator, ","))
      (hv : v.StandsBehind (.keyword, "as")) : EntryStands [u, keyword "as", v]

/-- Before a blank or a comma, it does not matter what follows. -/
theorem PlainToken.standsBehind_iff {u : PlainToken} (hu : u.isVisible = true)
    {previous : Option Significant} {p : Significant}
    (hallowed : regexAllowed previous = regexAllowed (some p)) {d : Char} (hd : d = ' ' ∨ d = ',')
    (rest : List Char) :
    ScansAs previous (u.lexeme.toList ++ d :: rest) u.kind u.lexeme.toList.length ↔
      u.StandsBehind p := by
  have hkind : u.kind.isTrivia = false := isVisible_iff.1 hu
  have hends : EndsTokens d := by
    rcases hd with rfl | rfl
    · exact endsTokens_blank
    · exact endsTokens_comma
  exact ⟨fun h => h.before hkind hallowed endsTokens_blank [],
    fun h => h.before hkind hallowed.symm hends rest⟩

/-- The tokens of an entry are scanned, before a blank or a comma, if its names are tokens by
themselves. -/
theorem Binding.ShownAs.scans_iff (he : b.ShownAs e) {previous : Option Significant}
    (hallowed : regexAllowed previous = true) {gap gap' : List Char} {u : PlainToken} {ws : Spaced}
    {d : Char} {rest : List Char} (hd : d = ' ' ∨ d = ',')
    (hrest : gap ++ Spaced.text ((u, gap') :: ws) = d :: rest) (hu : u.Readable)
    (hends : u.endsBefore (gap' ++ Spaced.text ws).head? = true) :
    Spaced.Scans previous (spacedBefore gap e ++ (u, gap') :: ws) ↔
      EntryStands e ∧ Spaced.Scans (some (u.kind, u.lexeme)) ws := by
  -- behind a comma the next token is read as behind the opener
  have hcomma : regexAllowed previous = regexAllowed (some (.punctuator, ",")) := hallowed
  cases he with
  | @alone v hv =>
    show Spaced.Scans previous ((v, gap) :: (u, gap') :: ws) ↔ _
    rw [Spaced.Scans, hrest, PlainToken.standsBehind_iff hv.isVisible hcomma hd,
      Spaced.scans_cons_iff_of_readable hu hends]
    refine and_congr_left' ⟨.alone, fun h => ?_⟩
    cases h with
    | alone hv => exact hv
  | @renamed v w hv _ hw =>
    have has : (keyword "as").Readable := rfl
    have hblank : (keyword "as").endsBefore
        ([' '] ++ Spaced.text ((w, gap) :: (u, gap') :: ws)).head? = true := rfl
    show Spaced.Scans previous ((v, [' ']) :: (keyword "as", [' ']) :: (w, gap) :: (u, gap') :: ws)
      ↔ _
    rw [Spaced.Scans, List.singleton_append,
      PlainToken.standsBehind_iff hv.isVisible hcomma (.inl rfl),
      Spaced.scans_cons_iff_of_readable has hblank, Spaced.Scans, hrest,
      PlainToken.standsBehind_iff hw.isVisible rfl hd,
      Spaced.scans_cons_iff_of_readable hu hends, ← and_assoc]
    refine and_congr_left' ⟨fun h => .renamed h.1 h.2, fun h => ?_⟩
    cases h with
    | renamed hv hw => exact ⟨hv, hw⟩

/-- The tokens of a list are scanned, up to the brace that closes it, if all its names are tokens by
themselves. -/
theorem scans_spacedEntries_iff (h : List.Forall₂ Binding.ShownAs list entries)
    {previous : Option Significant} (hallowed : regexAllowed previous = true) (ws : Spaced) :
    Spaced.Scans previous (spacedEntries entries ++ (sign "\x7d", [' ']) :: ws) ↔
      (∀ e ∈ entries, EntryStands e) ∧ Spaced.Scans (some (.punctuator, "\x7d")) ws := by
  have hbrace : (sign "\x7d").Readable := rfl
  have hsign : (sign ",").Readable := rfl
  induction h generalizing previous with
  | nil =>
    show Spaced.Scans previous ((sign "\x7d", [' ']) :: ws) ↔ _
    rw [Spaced.scans_cons_iff_of_readable hbrace rfl]
    simp [sign]
  | @cons b e list entries hb h ih =>
    cases h with
    | nil =>
      rw [spacedEntries, hb.scans_iff hallowed (.inl rfl) rfl hbrace rfl]
      simp [sign]
    | @cons next e' list entries _ _ =>
      -- behind a comma a slash starts a regular expression again
      have hcomma : regexAllowed (some (.punctuator, ",")) = true := rfl
      rw [spacedEntries, List.append_assoc, List.cons_append,
        hb.scans_iff hallowed (.inr rfl) rfl hsign rfl]
      rw [List.forall_mem_cons, and_assoc]
      exact and_congr_right' (ih hcomma)

/-- A string is told from its own characters. -/
theorem PlainToken.readable_of_string {u : PlainToken} (hkind : u.kind = .stringLiteral)
    {previous : Option Significant} {rest : List Char}
    (h : ScansAs previous (u.lexeme.toList ++ rest) u.kind u.lexeme.toList.length) :
    u.Readable := by
  obtain ⟨c, cs, hpos, htext, hscan⟩ := h
  have htoken := codeToken_of_scanCode hscan
  dsimp only at htoken
  apply readable_of_scansAs
  generalize hn : u.lexeme.toList.length = n at htoken ⊢
  rw [hkind] at htoken ⊢
  cases htoken with
  | string hc m hm =>
    cases hlexeme : u.lexeme.toList with
    | nil => simp [hlexeme] at hn
    | cons c' known =>
      rw [hlexeme] at htext hn
      obtain ⟨rfl, rfl⟩ := List.cons.inj htext
      obtain rfl := Nat.succ.inj hn
      -- the literal ends with its mark, so that it is one by itself
      have hself : stringExtent? c' (known ++ []) = some known.length :=
        stringExtent?_of_known hm (Nat.le_refl _)
      rw [List.append_nil] at hself
      exact scansAs_string hc hself

/-- **The printed text is scanned as the tokens of the import just when every listed name and the
specifier is a token by itself.** -/
theorem ImportRecord.scans_spaced_iff (h : r.bindings.ShownAs entries clause) :
    Spaced.Scans none (r.spaced clause) ↔
      (∀ e ∈ entries, EntryStands e) ∧ (string r.quotedSpecifier).Readable := by
  have hfrom : (keyword "from").Readable := rfl
  have himport : (keyword "import").Readable := rfl
  have hsemicolon : (sign ";").Readable := rfl
  -- the end of the statement depends on the specifier only
  have hspecifier : ∀ previous, Spaced.Scans previous
      [(keyword "from", [' ']), (string r.quotedSpecifier, []), (sign ";", [])] ↔
        (string r.quotedSpecifier).Readable := by
    intro previous
    rw [Spaced.scans_cons_iff_of_readable hfrom rfl, Spaced.Scans,
      Spaced.scans_cons_iff_of_readable hsemicolon rfl]
    constructor
    · intro hscans
      exact PlainToken.readable_of_string rfl hscans.1
    · intro hread
      exact ⟨hread.scansAs rfl _, trivial⟩
  rw [ImportRecord.spaced]
  generalize r.bindings = bindings at h
  cases h with
  | @everything text htext =>
    have hstar : (sign "*").Readable := rfl
    have has : (keyword "as").Readable := rfl
    rw [List.cons_append, List.cons_append, List.cons_append, List.nil_append,
      Spaced.scans_cons_iff_of_readable himport rfl, Spaced.scans_cons_iff_of_readable hstar rfl,
      Spaced.scans_cons_iff_of_readable has rfl, Spaced.scans_cons_iff_of_readable htext rfl,
      hspecifier]
    simp
  | @defaultOnly text htext =>
    rw [List.cons_append, List.nil_append, Spaced.scans_cons_iff_of_readable himport rfl,
      Spaced.scans_cons_iff_of_readable htext rfl, hspecifier]
    simp
  | @named list _ h =>
    have hopener : (sign "\x7b").Readable := rfl
    have hallowed : regexAllowed (some (.punctuator, "\x7b")) = true := rfl
    have hblank : ∀ rest : List Char, (sign "\x7b").endsBefore
        ((if entries = [] then [' ', ' '] else [' ']) ++ rest).head? = true := by
      intro rest
      split <;> rfl
    rw [spacedList, List.cons_append, List.append_assoc, List.singleton_append,
      Spaced.scans_cons_iff_of_readable himport rfl,
      Spaced.scans_cons_iff_of_readable hopener (hblank _)]
    exact (scans_spacedEntries_iff h hallowed _).trans (and_congr_right' (hspecifier _))

end

end ImportScan
