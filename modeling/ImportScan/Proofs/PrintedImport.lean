import ImportScan.Proofs.Spelling

/-!
# Imports that are printed

An import is printed as a statement, token by token.  Where its names and its specifier are single
tokens, these tokens are legible.  Their brackets are balanced, and no token but the last ends a
statement.

## Main definitions

* `ImportRecord.IsPrintable` — an import whose names and specifier are single tokens.
* `ImportRecord.plainTokens` — the tokens of its statement.

## Main results

* `ImportRecord.spell_plainTokens` — the tokens spell the statement.
* `ImportRecord.IsPrintable.legible` — **they are legible**.
* `ImportRecord.balanced` — their brackets are balanced.
-/

namespace ImportScan

/-! ### The tokens of a statement -/

namespace PlainToken

/-- The blank between two words. -/
def blank : PlainToken := ⟨.whitespace, " "⟩

/-- A line feed. -/
def lineFeed : PlainToken := ⟨.whitespace, "\n"⟩

/-- A reserved word. -/
def keyword (text : String) : PlainToken := ⟨.keyword, text⟩

/-- A name. -/
def name (text : String) : PlainToken := ⟨.identifier, text⟩

/-- A punctuator. -/
def sign (text : String) : PlainToken := ⟨.punctuator, text⟩

/-- A text between quotes. -/
def string (text : String) : PlainToken := ⟨.stringLiteral, text⟩

/-- Whether the token carries meaning. -/
def isVisible (u : PlainToken) : Bool := !u.kind.isTrivia

theorem isVisible_iff {u : PlainToken} : u.isVisible = true ↔ u.kind.isTrivia = false := by
  rw [isVisible, Bool.not_eq_true']

theorem isVisible_eq_false_iff {u : PlainToken} :
    u.isVisible = false ↔ u.kind.isTrivia = true := by
  rw [isVisible, Bool.not_eq_false']

end PlainToken

open PlainToken (blank lineFeed keyword name sign string)

/-- A name on the exporting side.  The only reserved word among them is `default`. -/
def importedToken (text : String) : PlainToken :=
  if text = "default" then keyword text else name text

/-- The tokens of an entry of a list. -/
def Binding.plainTokens (b : Binding) : List PlainToken :=
  if b.imported = b.localName then [name b.localName]
  else [importedToken b.imported, blank, keyword "as", blank, name b.localName]

/-- The tokens of some entries, with commas between them. -/
def entryTokens : List Binding → List PlainToken
  | [] => []
  | [b] => b.plainTokens
  | b :: next :: list => b.plainTokens ++ sign "," :: blank :: entryTokens (next :: list)

/-- The tokens between `import` and `from`.  The two blanks of a list without entries are one
token. -/
def Bindings.plainTokens : Bindings → List PlainToken
  | .everything text => [sign "*", blank, keyword "as", blank, name text]
  | .defaultOnly text => [name text]
  | .named [] => [sign "\x7b", ⟨.whitespace, "  "⟩, sign "\x7d"]
  | .named (b :: list) =>
    sign "\x7b" :: blank :: (entryTokens (b :: list) ++ [blank, sign "\x7d"])

namespace ImportRecord

/-- The tokens between the first and the last one. -/
def innerTokens (r : ImportRecord) : List PlainToken :=
  blank :: (r.bindings.plainTokens ++ [blank, keyword "from", blank, string r.quotedSpecifier])

/-- The tokens of the statement as which an import is printed. -/
def plainTokens (r : ImportRecord) : List PlainToken :=
  keyword "import" :: (r.innerTokens ++ [sign ";"])

end ImportRecord

/-! ### What they spell -/

@[simp] theorem lexeme_importedToken (text : String) : (importedToken text).lexeme = text := by
  unfold importedToken
  split <;> rfl

theorem Binding.spell_plainTokens (b : Binding) : spell b.plainTokens = b.esText.toList := by
  unfold plainTokens esText render
  by_cases hsame : b.imported = b.localName
  · simp [hsame, name]
  · simp [hsame, name, blank, keyword]

theorem spell_entryTokens (list : List Binding) :
    spell (entryTokens list) = (", ".intercalate (list.map Binding.esText)).toList := by
  fun_induction entryTokens list with
  | case1 => rfl
  | case2 b => simpa using b.spell_plainTokens
  | case3 b next list ih =>
    rw [List.map_cons] at ih
    rw [List.map_cons, List.map_cons, String.intercalate_cons_cons, spell_append, spell_cons,
      spell_cons, ih, b.spell_plainTokens]
    simp [sign, blank]

/-- The tokens of a statement spell it. -/
theorem ImportRecord.spell_plainTokens (r : ImportRecord) :
    spell r.plainTokens = r.esText.toList := by
  unfold plainTokens innerTokens esText
  cases r.bindings with
  | everything text => simp [Bindings.plainTokens, keyword, name, sign, blank, string]
  | defaultOnly text => simp [Bindings.plainTokens, keyword, name, sign, blank, string]
  | named list =>
    cases list with
    | nil => simp [Bindings.plainTokens, braced, keyword, sign, blank, string]
    | cons b list =>
      have hentries := spell_entryTokens (b :: list)
      simp [Bindings.plainTokens, braced, keyword, sign, blank, string, hentries]

/-! ### What can be printed -/

/-- Both names are single tokens.  Only the name on the exporting side may be `default`. -/
structure Binding.IsPrintable (b : Binding) : Prop where
  /-- The name on the importing side. -/
  localName : (name b.localName).Readable
  /-- The name on the exporting side. -/
  imported : (name b.imported).Readable ∨ b.imported = "default"

/-- All names are single tokens. -/
def Bindings.IsPrintable : Bindings → Prop
  | .everything text => (name text).Readable
  | .defaultOnly text => (name text).Readable
  | .named list => ∀ b ∈ list, b.IsPrintable

/-- All names are single tokens, and so is the specifier between its quotes. -/
structure ImportRecord.IsPrintable (r : ImportRecord) : Prop where
  /-- The names. -/
  bindings : r.bindings.IsPrintable
  /-- The specifier. -/
  specifier : (string r.quotedSpecifier).Readable

instance (b : Binding) : Decidable b.IsPrintable :=
  decidable_of_iff ((name b.localName).Readable ∧
    ((name b.imported).Readable ∨ b.imported = "default"))
    ⟨fun h => ⟨h.1, h.2⟩, fun h => ⟨h.localName, h.imported⟩⟩

instance : (bindings : Bindings) → Decidable bindings.IsPrintable
  | .everything text => inferInstanceAs (Decidable (name text).Readable)
  | .defaultOnly text => inferInstanceAs (Decidable (name text).Readable)
  | .named list => inferInstanceAs (Decidable (∀ b ∈ list, b.IsPrintable))

instance (r : ImportRecord) : Decidable r.IsPrintable :=
  decidable_of_iff (r.bindings.IsPrintable ∧ (string r.quotedSpecifier).Readable)
    ⟨fun h => ⟨h.1, h.2⟩, fun h => ⟨h.bindings, h.specifier⟩⟩

theorem Binding.IsPrintable.readable_importedToken {b : Binding} (h : b.IsPrintable) :
    (importedToken b.imported).Readable := by
  unfold importedToken
  by_cases hdefault : b.imported = "default"
  · rw [if_pos hdefault, hdefault]
    rfl
  · rw [if_neg hdefault]
    exact h.imported.resolve_right hdefault

/-! ### Printed tokens are legible -/

section Legible

variable {rest : List Char} {us : List PlainToken} {b : Binding} {list : List Binding}

/-- A blank ends where something visible starts. -/
theorem legible_blank (hvisible : ∃ u us', us = u :: us' ∧ u.kind ≠ .whitespace)
    (h : Legible us rest) : Legible (blank :: us) rest := by
  obtain ⟨u, us', rfl, hkind⟩ := hvisible
  refine ⟨rfl, ?_, h⟩
  obtain ⟨c, cs, hlexeme, hfirst⟩ := h.1.exists_cons
  have hblank := hfirst hkind
  rw [spell_cons, hlexeme]
  simp [PlainToken.endsBefore, blank, hblank]

/-- An entry starts with one of its names. -/
theorem Binding.exists_plainTokens (b : Binding) :
    ∃ u us, b.plainTokens = u :: us ∧ u.kind ≠ .whitespace := by
  unfold plainTokens
  split
  · exact ⟨_, _, rfl, by simp [name]⟩
  · refine ⟨_, _, rfl, ?_⟩
    unfold importedToken
    split
    · simp [keyword]
    · simp [name]

theorem exists_entryTokens (b : Binding) (list : List Binding) :
    ∃ u us, entryTokens (b :: list) = u :: us ∧ u.kind ≠ .whitespace := by
  obtain ⟨u, us, hb, hkind⟩ := b.exists_plainTokens
  cases list with
  | nil => exact ⟨u, us, hb, hkind⟩
  | cons next list => exact ⟨u, _, by rw [entryTokens, hb, List.cons_append], hkind⟩

/-- An entry is legible before a comma and before a blank. -/
theorem Binding.IsPrintable.legible (h : b.IsPrintable) {d : Char}
    (hd : isIdentifierPart d = false) (rest : List Char) : Legible b.plainTokens (d :: rest) := by
  -- the name on the importing side comes last in both forms
  have hlocal : Legible [name b.localName] (d :: rest) := by
    refine ⟨h.localName, ?_, trivial⟩
    simp [PlainToken.endsBefore, name, hd]
  unfold Binding.plainTokens
  by_cases hsame : b.imported = b.localName
  · rwa [if_pos hsame]
  · rw [if_neg hsame]
    refine ⟨h.readable_importedToken, ?_, ?_⟩
    · unfold importedToken
      split <;> rfl
    · apply legible_blank ⟨_, _, rfl, by simp [keyword]⟩
      refine ⟨rfl, rfl, ?_⟩
      exact legible_blank ⟨_, _, rfl, by simp [name]⟩ hlocal

/-- The entries of a list are legible before the blank behind them. -/
theorem legible_entryTokens (h : ∀ b ∈ list, b.IsPrintable) (rest : List Char) :
    Legible (entryTokens list) (' ' :: rest) := by
  fun_induction entryTokens list with
  | case1 => trivial
  | case2 b => exact (h b (by simp)).legible (by decide) rest
  | case3 b next list ih =>
    obtain ⟨hb, hlist⟩ := List.forall_mem_cons.1 h
    rw [legible_append_iff]
    refine ⟨hb.legible (by decide) _, rfl, rfl, ?_⟩
    exact legible_blank (exists_entryTokens next list) (ih hlist)

theorem Bindings.IsPrintable.legible {bindings : Bindings} (h : bindings.IsPrintable)
    (rest : List Char) : Legible bindings.plainTokens (' ' :: rest) := by
  cases bindings with
  | everything text =>
    refine ⟨rfl, rfl, ?_⟩
    apply legible_blank ⟨_, _, rfl, by simp [keyword]⟩
    refine ⟨rfl, rfl, ?_⟩
    exact legible_blank ⟨_, _, rfl, by simp [name]⟩ ⟨h, rfl, trivial⟩
  | defaultOnly text => exact ⟨h, rfl, trivial⟩
  | named list =>
    have hcloser : Legible [sign "\x7d"] (' ' :: rest) := ⟨rfl, rfl, trivial⟩
    cases list with
    | nil => exact ⟨rfl, rfl, rfl, rfl, hcloser⟩
    | cons b list =>
      have hentries : Legible (entryTokens (b :: list) ++ [blank, sign "\x7d"]) (' ' :: rest) := by
        rw [legible_append_iff]
        exact ⟨legible_entryTokens h _, legible_blank ⟨_, _, rfl, by simp [sign]⟩ hcloser⟩
      -- the first token of the entries is none that the blank could join
      obtain ⟨u, us, hfirst, hkind⟩ := exists_entryTokens b list
      refine ⟨rfl, rfl, legible_blank ⟨u, us ++ [blank, sign "\x7d"], ?_, hkind⟩ hentries⟩
      rw [hfirst, List.cons_append]

theorem Bindings.exists_plainTokens (bindings : Bindings) :
    ∃ u us, bindings.plainTokens = u :: us ∧ u.kind ≠ .whitespace := by
  cases bindings with
  | everything text => exact ⟨_, _, rfl, by simp [sign]⟩
  | defaultOnly text => exact ⟨_, _, rfl, by simp [name]⟩
  | named list =>
    cases list with
    | nil => exact ⟨_, _, rfl, by simp [sign]⟩
    | cons b list => exact ⟨_, _, rfl, by simp [sign]⟩

/-- The tokens of a statement are legible before the line feed behind it. -/
theorem ImportRecord.IsPrintable.legible {r : ImportRecord} (h : r.IsPrintable)
    (rest : List Char) : Legible r.plainTokens ('\n' :: rest) := by
  have hend : Legible [blank, keyword "from", blank, string r.quotedSpecifier, sign ";"]
      ('\n' :: rest) := by
    apply legible_blank ⟨_, _, rfl, by simp [keyword]⟩
    refine ⟨rfl, rfl, ?_⟩
    apply legible_blank ⟨_, _, rfl, by simp [string]⟩
    exact ⟨h.specifier, rfl, rfl, rfl, trivial⟩
  obtain ⟨u, us, hfirst, hkind⟩ := r.bindings.exists_plainTokens
  refine ⟨rfl, rfl, ?_⟩
  rw [ImportRecord.innerTokens, List.cons_append, List.append_assoc]
  apply legible_blank ⟨u, _, by rw [hfirst, List.cons_append], hkind⟩
  rw [legible_append_iff]
  exact ⟨h.bindings.legible _, hend⟩

end Legible

/-! ### The brackets of a statement -/

/-- What stands between the braces of a list: blanks, commas, names and two reserved words. -/
def PlainToken.IsInner (u : PlainToken) : Prop :=
  u ∈ [blank, sign ",", keyword "as", keyword "default"] ∨ u.kind = .identifier

/-- The token neither opens nor closes anything. -/
def PlainToken.IsNeutral (u : PlainToken) : Prop :=
  ∀ s : FlatStack, s.feed (u.placed .start) = some s

theorem FlatStack.feedPlain_of_isNeutral {us : List PlainToken} (h : ∀ u ∈ us, u.IsNeutral)
    (s : FlatStack) : s.feedPlain us = some s := by
  induction us with
  | nil => rfl
  | cons u us ih =>
    obtain ⟨hu, hus⟩ := List.forall_mem_cons.1 h
    show (s.feed (u.placed .start)).bind (fun next => next.feedPlain us) = some s
    rw [hu s]
    exact ih hus

theorem PlainToken.isNeutral_of_ne {u : PlainToken} (hsign : u.kind ≠ .punctuator)
    (htemplate : u.kind ≠ .templateLiteral) : u.IsNeutral := by
  intro s
  refine FlatStack.feed_of_neither (Token.opening?_of_ne ?_ hsign) (Token.closing?_of_ne hsign)
  simp [Token.startsSubstitution, Token.is, placed, htemplate]

theorem PlainToken.IsInner.isNeutral {u : PlainToken} (h : u.IsInner) : u.IsNeutral := by
  rcases h with h | h
  · simp only [List.mem_cons, List.not_mem_nil, or_false] at h
    rcases h with rfl | rfl | rfl | rfl
    · exact isNeutral_of_ne (by simp [blank]) (by simp [blank])
    · exact fun s => rfl
    · exact isNeutral_of_ne (by simp [keyword]) (by simp [keyword])
    · exact isNeutral_of_ne (by simp [keyword]) (by simp [keyword])
  · exact isNeutral_of_ne (by simp [h]) (by simp [h])

theorem Binding.isInner_plainTokens (b : Binding) : ∀ u ∈ b.plainTokens, u.IsInner := by
  have hname : ∀ text, (name text).IsInner := fun text => .inr rfl
  have himported : (importedToken b.imported).IsInner := by
    unfold importedToken
    by_cases hdefault : b.imported = "default"
    · rw [if_pos hdefault, hdefault]
      exact .inl (by simp)
    · rw [if_neg hdefault]
      exact hname _
  unfold plainTokens
  split
  · simpa using hname _
  · intro u hu
    simp only [List.mem_cons, List.not_mem_nil, or_false] at hu
    rcases hu with rfl | rfl | rfl | rfl | rfl
    · exact himported
    · exact .inl (by simp)
    · exact .inl (by simp)
    · exact .inl (by simp)
    · exact hname _

theorem isInner_entryTokens (list : List Binding) : ∀ u ∈ entryTokens list, u.IsInner := by
  fun_induction entryTokens list with
  | case1 => simp
  | case2 b => exact b.isInner_plainTokens
  | case3 b next list ih =>
    intro u hu
    rcases List.mem_append.1 hu with hu | hu
    · exact b.isInner_plainTokens u hu
    · rcases List.mem_cons.1 hu with rfl | hu
      · exact .inl (by simp)
      · rcases List.mem_cons.1 hu with rfl | hu
        · exact .inl (by simp)
        · exact ih u hu

theorem Bindings.balanced (bindings : Bindings) (s : FlatStack) :
    s.feedPlain bindings.plainTokens = some s := by
  cases bindings with
  | everything text => rfl
  | defaultOnly text => rfl
  | named list =>
    cases list with
    | nil => rfl
    | cons b list =>
      -- nothing between the braces touches the one that is open
      have hentries := FlatStack.feedPlain_of_isNeutral
        (fun u hu => (isInner_entryTokens (b :: list) u hu).isNeutral) (.bracket .curly :: s)
      show FlatStack.feedPlain (.bracket .curly :: s)
        (entryTokens (b :: list) ++ [blank, sign "\x7d"]) = some s
      rw [FlatStack.feedPlain_append, hentries]
      rfl

theorem ImportRecord.balanced (r : ImportRecord) (s : FlatStack) :
    s.feedPlain r.plainTokens = some s := by
  show s.feedPlain (r.bindings.plainTokens ++
    [blank, keyword "from", blank, string r.quotedSpecifier] ++ [sign ";"]) = some s
  rw [List.append_assoc, FlatStack.feedPlain_append, r.bindings.balanced]
  rfl

/-! ### Where the statement ends -/

theorem PlainToken.IsInner.endsStatement_eq_false {u : PlainToken} (h : u.IsInner)
    (loc : Location) : (u.placed loc).endsStatement = false := by
  rcases h with h | h
  · simp only [List.mem_cons, List.not_mem_nil, or_false] at h
    rcases h with rfl | rfl | rfl | rfl <;> rfl
  · simp [placed, Token.endsStatement, Token.isPunctuator, Token.isLineTerminator, Token.is, h]

theorem Bindings.endsStatement_eq_false (bindings : Bindings) (loc : Location) :
    ∀ u ∈ bindings.plainTokens, (u.placed loc).endsStatement = false := by
  cases bindings with
  | everything text =>
    intro u hu
    simp only [plainTokens, List.mem_cons, List.not_mem_nil, or_false] at hu
    rcases hu with rfl | rfl | rfl | rfl | rfl <;> rfl
  | defaultOnly text =>
    intro u hu
    rw [List.mem_singleton.1 hu]
    rfl
  | named list =>
    cases list with
    | nil =>
      intro u hu
      simp only [plainTokens, List.mem_cons, List.not_mem_nil, or_false] at hu
      rcases hu with rfl | rfl | rfl <;> rfl
    | cons b list =>
      intro u hu
      simp only [plainTokens, List.mem_cons, List.mem_append, List.not_mem_nil, or_false] at hu
      rcases hu with rfl | rfl | hu | rfl | rfl
      · rfl
      · rfl
      · exact (isInner_entryTokens _ u hu).endsStatement_eq_false loc
      · rfl
      · rfl

/-- No token before the last one ends the statement. -/
theorem ImportRecord.endsStatement_eq_false (r : ImportRecord) (loc : Location) :
    ∀ u ∈ r.innerTokens, (u.placed loc).endsStatement = false := by
  intro u hu
  simp only [innerTokens, List.mem_cons, List.mem_append, List.not_mem_nil, or_false] at hu
  rcases hu with rfl | hu | rfl | rfl | rfl | rfl
  · rfl
  · exact r.bindings.endsStatement_eq_false loc u hu
  · rfl
  · rfl
  · rfl
  · rfl

end ImportScan
