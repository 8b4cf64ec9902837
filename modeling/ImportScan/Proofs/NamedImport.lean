import ImportScan.Proofs.OneLine
import ImportScan.Proofs.OpenList

/-!
# Named imports

A named import lists names, each with or without another one that it gets.  A listed name may be any
word, even a reserved one, or a string.  Written on one line, such an import is read back with all
its bindings, unless one of the listed names is `from`: at this word the reader stops, and it
complains about braces that are balanced.

## Main definitions

* `ListedName`, `NamedImport` — a listed name, and an import with a list of them.
* `NamedImport.plainTokens`, `NamedImport.IsWrittenAs` — its tokens, and the texts of it.
* `NamedImport.Binds` — the bindings that it stands for.

## Main results

* `listBindings_insideTokens`, `listBindings_insideTokens_from` — how the tokens of a list are read,
  without `from` among its names and with it.
* `NamedImport.IsWritable.toImport` — what a statement with the tokens of a named import is read as.
* `extract_namedImport` — **a named import gives one record with its bindings, unless it lists
  `from`**.
-/

namespace ImportScan

open PlainToken (keyword name sign string)

/-! ### Listed names -/

/-- A name in a list, and the name that it gets if it gets another one. -/
structure ListedName where
  /-- What is listed. -/
  name : PlainToken
  /-- The name behind `as`. -/
  newName? : Option String
  deriving DecidableEq, Repr, Inhabited

namespace ListedName

/-- The tokens of a listed name. -/
def plainTokens (g : ListedName) : List PlainToken :=
  match g.newName? with
  | none => [g.name]
  | some text => [g.name, keyword "as", PlainToken.name text]

/-- The listed name is `from`. -/
def IsFrom (g : ListedName) : Prop := g.name = keyword "from"

instance (g : ListedName) : Decidable g.IsFrom := inferInstanceAs (Decidable (_ = _))

/-- The listed name is a word or a string, and the name that it gets is an identifier. -/
structure IsWritable (g : ListedName) : Prop where
  /-- The listed name is a token by itself. -/
  readable : g.name.Readable
  /-- It is a word or a string. -/
  kind : g.name.kind = .identifier ∨ g.name.kind = .keyword ∨ g.name.kind = .stringLiteral
  /-- The name that it gets. -/
  newName : ∀ text ∈ g.newName?, (PlainToken.name text).Readable

instance (g : ListedName) : Decidable g.IsWritable :=
  decidable_of_iff (g.name.Readable ∧
    (g.name.kind = .identifier ∨ g.name.kind = .keyword ∨ g.name.kind = .stringLiteral) ∧
    ∀ text ∈ g.newName?, (PlainToken.name text).Readable)
    ⟨fun h => ⟨h.1, h.2.1, h.2.2⟩, fun h => ⟨h.readable, h.kind, h.newName⟩⟩

/-- The binding of a listed name: the imported name has no quotes, and it keeps its name if it gets
no other. -/
structure Binds (g : ListedName) (b : Binding) : Prop where
  /-- The name on the exporting side. -/
  imported : (g.name.placed .start).Names b.imported
  /-- The name on the importing side. -/
  localName : b.localName = g.newName?.getD b.imported

end ListedName

/-! ### Imports -/

/-- An import with a list of names. -/
structure NamedImport where
  /-- The name in front of the list. -/
  defaultName? : Option String
  /-- The listed names. -/
  list : List ListedName
  /-- Whether a comma follows the last one. -/
  trailingComma : Bool
  /-- The specifier without its quotes. -/
  specifier : String
  deriving DecidableEq, Repr, Inhabited

/-- The comma behind the last name, if there is one. -/
def trailingTokens (trailingComma : Bool) : List PlainToken :=
  if trailingComma then [sign ","] else []

/-- The tokens between the braces. -/
def insideTokens (trailingComma : Bool) : List ListedName → List PlainToken
  | [] => trailingTokens trailingComma
  | [g] => g.plainTokens ++ trailingTokens trailingComma
  | g :: next :: list => g.plainTokens ++ sign "," :: insideTokens trailingComma (next :: list)

namespace NamedImport

/-- The tokens in front of the list. -/
def defaultTokens (n : NamedImport) : List PlainToken :=
  match n.defaultName? with
  | none => []
  | some text => [name text, sign ","]

/-- The specifier between its quotes. -/
def quotedSpecifier (n : NamedImport) : String := "'" ++ n.specifier ++ "'"

/-- The tokens between the first and the last one. -/
def innerTokens (n : NamedImport) : List PlainToken :=
  n.defaultTokens ++ sign "\x7b" :: (insideTokens n.trailingComma n.list ++
    [sign "\x7d", keyword "from", string n.quotedSpecifier])

/-- All tokens with meaning. -/
def plainTokens (n : NamedImport) : List PlainToken :=
  keyword "import" :: (n.innerTokens ++ [sign ";"])

/-- The text is the import on one line, with blanks between its tokens. -/
def IsWrittenAs (n : NamedImport) (text : List Char) : Prop :=
  ∃ us, WrittenAs n.plainTokens us ∧ spell us = text

/-- All names and the specifier are single tokens. -/
structure IsWritable (n : NamedImport) : Prop where
  /-- The name in front of the list. -/
  defaultName : ∀ text ∈ n.defaultName?, (name text).Readable
  /-- The listed names. -/
  list : ∀ g ∈ n.list, g.IsWritable
  /-- The specifier. -/
  specifier : (string n.quotedSpecifier).Readable

instance (n : NamedImport) : Decidable n.IsWritable :=
  decidable_of_iff ((∀ text ∈ n.defaultName?, (name text).Readable) ∧
    (∀ g ∈ n.list, g.IsWritable) ∧ (string n.quotedSpecifier).Readable)
    ⟨fun h => ⟨h.1, h.2.1, h.2.2⟩, fun h => ⟨h.defaultName, h.list, h.specifier⟩⟩

/-- The name in front of the list stands for the default export. -/
def defaultBindings (n : NamedImport) : List Binding :=
  (n.defaultName?.map fun text => ⟨"default", text⟩).toList

/-- The bindings of the import: that of the name in front of the list, and those of the listed names
in their order. -/
def Binds (n : NamedImport) (bindings : List Binding) : Prop :=
  ∃ list, List.Forall₂ ListedName.Binds n.list list ∧ bindings = n.defaultBindings ++ list

end NamedImport

/-! ### Written imports -/

namespace ListedName

variable {g : ListedName}

/-- A listed name has only one binding. -/
theorem Binds.unique {b b' : Binding} (h : g.Binds b) (h' : g.Binds b') : b = b' := by
  obtain ⟨imported, localName⟩ := b
  obtain ⟨imported', localName'⟩ := b'
  obtain rfl : imported = imported' :=
    (Token.names_iff.1 h.imported).trans (Token.names_iff.1 h'.imported).symm
  obtain rfl : localName = localName' := h.localName.trans h'.localName.symm
  rfl

theorem IsWritable.isItem (h : g.IsWritable) : ∀ u ∈ g.plainTokens, u.IsItem := by
  have hname : g.name.IsItem := by
    refine ⟨h.readable, ?_⟩
    rcases h.kind with hkind | hkind | hkind <;> simp [hkind]
  have hnew := h.newName
  unfold plainTokens
  cases hnewName : g.newName? with
  | none => simpa using hname
  | some text =>
    have htext : (PlainToken.name text).IsItem := ⟨hnew text hnewName, .inr (.inl rfl)⟩
    have hmark : (keyword "as").IsItem := ⟨rfl, .inl rfl⟩
    simpa using ⟨hname, hmark, htext⟩

theorem IsWritable.kind_ne (h : g.IsWritable) : ∀ u ∈ g.plainTokens, u.kind ≠ .punctuator := by
  have hname : g.name.kind ≠ .punctuator := by
    rcases h.kind with hkind | hkind | hkind <;> simp [hkind]
  unfold plainTokens
  cases g.newName? with
  | none => simpa using hname
  | some text => simpa [keyword, PlainToken.name] using hname

end ListedName

/-- Between the braces there are tokens of listed names, and commas. -/
theorem mem_insideTokens {trailingComma : Bool} {list : List ListedName} {u : PlainToken}
    (hu : u ∈ insideTokens trailingComma list) :
    u = sign "," ∨ ∃ g ∈ list, u ∈ g.plainTokens := by
  have htrailing : u ∈ trailingTokens trailingComma → u = sign "," := by
    unfold trailingTokens
    split <;> simp
  fun_induction insideTokens trailingComma list with
  | case1 => exact .inl (htrailing hu)
  | case2 g =>
    rcases List.mem_append.1 hu with hu | hu
    · exact .inr ⟨g, by simp, hu⟩
    · exact .inl (htrailing hu)
  | case3 g next list ih =>
    rcases List.mem_append.1 hu with hu | hu
    · exact .inr ⟨g, by simp, hu⟩
    · rcases List.mem_cons.1 hu with rfl | hu
      · exact .inl rfl
      · exact (ih hu).imp_right fun ⟨g', hg', hu⟩ => ⟨g', List.mem_cons_of_mem g hg', hu⟩

namespace NamedImport

variable {n : NamedImport}

/-- An import has only one list of bindings. -/
theorem Binds.unique {bindings bindings' : List Binding} (h : n.Binds bindings)
    (h' : n.Binds bindings') : bindings = bindings' := by
  obtain ⟨list, hlist, rfl⟩ := h
  obtain ⟨list', hlist', rfl⟩ := h'
  have hunique : Relator.RightUnique ListedName.Binds := fun _ _ _ => ListedName.Binds.unique
  rw [List.right_unique_forall₂' hunique hlist hlist']

/-- All that stands between the first and the last token is a token by itself, and none of it ends
the statement. -/
theorem IsWritable.isItem (h : n.IsWritable) :
    ∀ u ∈ n.innerTokens, u.IsItem ∧ u ≠ sign ";" := by
  have hsign : ∀ text ∈ [",", "\x7b", "\x7d"], (sign text).IsItem ∧ sign text ≠ sign ";" := by
    intro text htext
    simp only [List.mem_cons, List.not_mem_nil, or_false] at htext
    rcases htext with rfl | rfl | rfl <;>
      exact ⟨⟨rfl, .inr (.inr (.inr rfl))⟩, by decide⟩
  have hdefault : ∀ u ∈ n.defaultTokens, u.IsItem ∧ u ≠ sign ";" := by
    have hname := h.defaultName
    unfold defaultTokens
    cases hdefaultName : n.defaultName? with
    | none => simp
    | some text =>
      have htext : (name text).IsItem := ⟨hname text hdefaultName, .inr (.inl rfl)⟩
      simpa using ⟨⟨htext, by simp [name, sign]⟩, hsign "," (by simp)⟩
  have hinside : ∀ u ∈ insideTokens n.trailingComma n.list, u.IsItem ∧ u ≠ sign ";" := by
    intro u hu
    rcases mem_insideTokens hu with rfl | ⟨g, hg, hu⟩
    · exact hsign "," (by simp)
    · refine ⟨(h.list g hg).isItem u hu, ?_⟩
      rintro rfl
      exact (h.list g hg).kind_ne _ hu rfl
  have hspecifier : (string n.quotedSpecifier).IsItem :=
    ⟨h.specifier, .inr (.inr (.inl rfl))⟩
  have hfrom : (keyword "from").IsItem := ⟨rfl, .inl rfl⟩
  -- the default name, the list in its braces, the keyword and the specifier
  intro u hu
  simp only [innerTokens, List.mem_append, List.mem_cons, List.not_mem_nil, or_false] at hu
  rcases hu with hu | rfl | hu | rfl | rfl | rfl
  · exact hdefault u hu
  · exact hsign _ (by simp)
  · exact hinside u hu
  · exact hsign _ (by simp)
  · exact ⟨hfrom, by decide⟩
  · exact ⟨hspecifier, by simp [string, sign]⟩

/-- The brackets of the import are balanced, since there are none inside the list. -/
theorem IsWritable.balanced (h : n.IsWritable) :
    FlatStack.feedPlain [] n.innerTokens = some [] := by
  -- only the two braces count, and they match
  have hcomma : (sign ",").IsNeutral := fun s => rfl
  have hdefault : ∀ u ∈ n.defaultTokens, u.IsNeutral := by
    unfold defaultTokens
    cases n.defaultName? with
    | none => simp
    | some text =>
      have htext : (name text).IsNeutral :=
        PlainToken.isNeutral_of_ne (by simp [name]) (by simp [name])
      simpa using ⟨htext, hcomma⟩
  have hinside : ∀ u ∈ insideTokens n.trailingComma n.list, u.IsNeutral := by
    intro u hu
    rcases mem_insideTokens hu with rfl | ⟨g, hg, hu⟩
    · exact hcomma
    · apply PlainToken.isNeutral_of_ne ((h.list g hg).kind_ne u hu)
      rcases ((h.list g hg).isItem u hu).kind with hkind | hkind | hkind | hkind <;> simp [hkind]
  have hend : FlatStack.feedPlain [.bracket .curly]
      [sign "\x7d", keyword "from", string n.quotedSpecifier] = some [] := rfl
  rw [innerTokens, FlatStack.feedPlain_append, FlatStack.feedPlain_of_isNeutral hdefault]
  show FlatStack.feedPlain [.bracket .curly] (insideTokens n.trailingComma n.list ++ _) = some []
  rw [FlatStack.feedPlain_append, FlatStack.feedPlain_of_isNeutral hinside]
  exact hend

end NamedImport

/-! ### Reading a list -/

section Reading

variable {ts us rest : List Token} {t closer : Token} {inner : Nat} {entry : List Token}
  {done own : List Binding} {g : ListedName} {list : List ListedName} {trailingComma : Bool}

theorem listBindings_from (ht : t.isKeyword "from" = true) :
    listBindings inner entry done (t :: ts) = .error .unbalancedBraces := by
  rw [listBindings.eq_def]
  exact if_pos ht

/-- Tokens that are neither `from` nor signs belong to the entry. -/
theorem listBindings_append
    (hts : ∀ t ∈ ts, t.isKeyword "from" = false ∧ t.kind ≠ .punctuator) :
    listBindings inner entry done (ts ++ rest)
      = listBindings inner (ts.reverse ++ entry) done rest := by
  induction ts generalizing entry with
  | nil => rfl
  | cons t ts ih =>
    obtain ⟨⟨hfrom, hkind⟩, hts⟩ := List.forall_mem_cons.1 hts
    have hsign : ∀ text, t.isPunctuator text = false := by
      intro text
      simp [Token.isPunctuator, Token.is, hkind]
    have hbrace : t.isBrace = false := by
      rw [Token.isBrace, hsign, hsign]
      rfl
    rw [List.cons_append, listBindings_token hfrom hbrace (by simp [hsign]), ih hts]
    simp

/-- The list ends with its entry, whether or not a comma follows it. -/
theorem listBindings_trailingTokens (hclose : closer.isPunctuator "\x7d" = true)
    (hts : ts.map Token.plain = trailingTokens trailingComma) (hown : Entry entry.reverse own) :
    listBindings 0 entry done (ts ++ closer :: rest) = .ok (done.reverse ++ own, rest) := by
  unfold trailingTokens at hts
  cases trailingComma with
  | false =>
    obtain rfl := List.map_eq_nil_iff.1 hts
    exact listBindings_last hclose hown
  | true =>
    obtain ⟨loc, rfl⟩ := exists_placed_singleton hts
    have hnone : Entry ([] : List Token).reverse [] := .empty
    rw [List.singleton_append, listBindings_comma rfl hown, listBindings_last hclose hnone]
    simp

namespace ListedName

/-- A listed name is an entry with its binding. -/
theorem exists_entry (h : ts.map Token.plain = g.plainTokens) : ∃ b, g.Binds b ∧ Entry ts [b] := by
  have hnames : ∀ loc, (g.name.placed loc).Names (g.name.placed .start).bindingName :=
    fun loc => Token.names_iff.2 rfl
  unfold plainTokens at h
  cases hnew : g.newName? with
  | none =>
    simp only [hnew] at h
    obtain ⟨loc, rfl⟩ := exists_placed_singleton h
    exact ⟨_, ⟨hnames .start, by rw [hnew]; rfl⟩, .name (hnames loc)⟩
  | some text =>
    simp only [hnew] at h
    obtain ⟨loc, _, rfl, hmark⟩ := exists_placed_cons h
    obtain ⟨loc', _, rfl, htext⟩ := exists_placed_cons hmark
    obtain ⟨loc'', rfl⟩ := exists_placed_singleton htext
    exact ⟨_, ⟨hnames .start, by rw [hnew]; rfl⟩, .renamed (hnames loc) rfl⟩

/-- The reader gathers the tokens of any other name than `from` as an entry with its binding. -/
theorem IsWritable.exists_gathered (hg : g.IsWritable) (hfrom : ¬ g.IsFrom)
    (h : ts.map Token.plain = g.plainTokens) :
    ∃ b entry, g.Binds b ∧ Entry entry.reverse [b] ∧ ∀ done rest,
      listBindings 0 [] done (ts ++ rest) = listBindings 0 entry done rest := by
  -- neither word of the entry is the keyword that ends the clause
  have hnot : keyword "from" ∉ g.plainTokens := by
    unfold plainTokens
    cases g.newName? with
    | none => simpa using Ne.symm hfrom
    | some text => simpa [keyword, PlainToken.name] using Ne.symm hfrom
  have hts : ∀ t ∈ ts, t.isKeyword "from" = false ∧ t.kind ≠ .punctuator := by
    intro t ht
    have hplain : t.plain ∈ g.plainTokens := by
      rw [← h]
      exact List.mem_map_of_mem ht
    refine ⟨?_, hg.kind_ne _ hplain⟩
    rw [Bool.eq_false_iff]
    intro hkeyword
    rw [Token.isKeyword_iff.1 hkeyword] at hplain
    exact hnot hplain
  obtain ⟨b, hb, hentry⟩ := exists_entry h
  refine ⟨b, ts.reverse, hb, by rwa [List.reverse_reverse], fun done rest => ?_⟩
  rw [listBindings_append hts, List.append_nil]

/-- At the name `from` the reader stops. -/
theorem IsFrom.listBindings (hfrom : g.IsFrom) (h : ts.map Token.plain = g.plainTokens) :
    listBindings inner entry done (ts ++ rest) = .error .unbalancedBraces := by
  obtain ⟨us, hus⟩ : ∃ us, g.plainTokens = keyword "from" :: us := by
    unfold plainTokens
    cases g.newName? with
    | none => exact ⟨_, by rw [hfrom]⟩
    | some text => exact ⟨_, by rw [hfrom]⟩
  obtain ⟨loc, ts', rfl, -⟩ := exists_placed_cons (h.trans hus)
  exact listBindings_from rfl

end ListedName

/-- **A list without the name `from` is read as its bindings.** -/
theorem listBindings_insideTokens (hlist : ∀ g ∈ list, g.IsWritable ∧ ¬ g.IsFrom)
    (hclose : closer.isPunctuator "\x7d" = true)
    (hts : ts.map Token.plain = insideTokens trailingComma list) :
    ∃ bindings, List.Forall₂ ListedName.Binds list bindings ∧
      listBindings 0 [] done (ts ++ closer :: rest) = .ok (done.reverse ++ bindings, rest) := by
  fun_induction insideTokens trailingComma list generalizing ts done with
  | case1 => exact ⟨[], .nil, listBindings_trailingTokens hclose hts .empty⟩
  | case2 g =>
    obtain ⟨hwritable, hfrom⟩ := hlist g (by simp)
    obtain ⟨ts, us, rfl, hname, hus⟩ := List.map_eq_append_iff.1 hts
    obtain ⟨b, entry, hb, hentry, hgathered⟩ := hwritable.exists_gathered hfrom hname
    refine ⟨[b], .cons hb .nil, ?_⟩
    rw [List.append_assoc, hgathered, listBindings_trailingTokens hclose hus hentry]
  | case3 g next list ih =>
    obtain ⟨⟨hwritable, hfrom⟩, hlist⟩ := List.forall_mem_cons.1 hlist
    obtain ⟨ts, _, rfl, hname, hmore⟩ := List.map_eq_append_iff.1 hts
    obtain ⟨loc, us, rfl, hus⟩ := exists_placed_cons hmore
    obtain ⟨b, entry, hb, hentry, hgathered⟩ := hwritable.exists_gathered hfrom hname
    -- the comma ends the entry, and the others are read with its binding behind them
    have hlater : ∃ bindings, List.Forall₂ ListedName.Binds (next :: list) bindings ∧
        listBindings 0 [] (b :: done) (us ++ closer :: rest)
          = .ok ((b :: done).reverse ++ bindings, rest) := ih hlist hus
    obtain ⟨bindings, hbindings, hread⟩ := hlater
    refine ⟨b :: bindings, .cons hb hbindings, ?_⟩
    rw [List.append_assoc, hgathered, List.cons_append, listBindings_comma rfl hentry]
    simpa using hread

/-- **In a list with the name `from` the braces are said to be unbalanced.** -/
theorem listBindings_insideTokens_from (hlist : ∀ g ∈ list, g.IsWritable)
    (hfrom : ∃ g ∈ list, g.IsFrom) (hts : ts.map Token.plain = insideTokens trailingComma list) :
    listBindings 0 [] done (ts ++ rest) = .error .unbalancedBraces := by
  fun_induction insideTokens trailingComma list generalizing ts done with
  | case1 =>
    obtain ⟨g, hg, -⟩ := hfrom
    cases hg
  | case2 g =>
    obtain ⟨g', hg', hfrom⟩ := hfrom
    obtain rfl := List.mem_singleton.1 hg'
    obtain ⟨ts, us, rfl, hname, -⟩ := List.map_eq_append_iff.1 hts
    rw [List.append_assoc]
    exact hfrom.listBindings hname
  | case3 g next list ih =>
    obtain ⟨hwritable, hlist⟩ := List.forall_mem_cons.1 hlist
    obtain ⟨ts, _, rfl, hname, hmore⟩ := List.map_eq_append_iff.1 hts
    obtain ⟨loc, us, rfl, hus⟩ := exists_placed_cons hmore
    rw [List.append_assoc]
    by_cases hg : g.IsFrom
    · exact hg.listBindings hname
    · -- the first name is another one, and so `from` is among those behind it
      have hlater : ∃ g ∈ next :: list, g.IsFrom := by
        obtain ⟨g', hg', hfrom⟩ := hfrom
        rcases List.mem_cons.1 hg' with rfl | hg'
        · exact absurd hfrom hg
        · exact ⟨g', hg', hfrom⟩
      obtain ⟨b, entry, -, hentry, hgathered⟩ := hwritable.exists_gathered hg hname
      rw [hgathered, List.cons_append, listBindings_comma rfl hentry]
      exact ih hlist hlater hus

end Reading

/-! ### Reading an import -/

/-- Behind a brace there is a list of names. -/
theorem importBindings_opener {opener : Token} (h : opener.isPunctuator "\x7b" = true)
    (ts : List Token) : importBindings (opener :: ts) = onlyBraced (opener :: ts) := by
  have hstar : opener.isPunctuator "*" = false := Token.isPunctuator_eq_false h (by decide)
  have hname := Token.isIdentifier_of_isPunctuator h
  cases ts with
  | nil => rw [importBindings, if_neg (by simp [hstar])]
  | cons t ts =>
    rw [importBindings, if_neg (by simp [hstar]), if_neg (by simp [hname]),
      if_neg (by simp [hname])]

namespace NamedImport

variable {n : NamedImport} {s : Statement}

/-- The name in front of a list only adds its binding. -/
theorem importBindings_eq {front ts : List Token} {opener : Token}
    (hfront : front.map Token.plain = n.defaultTokens)
    (hopener : opener.isPunctuator "\x7b" = true) :
    importBindings (front ++ opener :: ts) = (listBindings 0 [] [] ts).map fun read =>
      (.named (n.defaultBindings ++ read.1), read.2) := by
  have hbraced : bracedBindings (opener :: ts) = listBindings 0 [] [] ts := if_pos hopener
  unfold defaultTokens at hfront
  unfold defaultBindings
  cases hname : n.defaultName? with
  | none =>
    simp only [hname] at hfront
    obtain rfl := List.map_eq_nil_iff.1 hfront
    rw [List.nil_append, importBindings_opener hopener, onlyBraced, hbraced]
    cases listBindings 0 [] [] ts <;> rfl
  | some text =>
    simp only [hname] at hfront
    obtain ⟨loc, _, rfl, hcomma⟩ := exists_placed_cons hfront
    obtain ⟨loc', rfl⟩ := exists_placed_singleton hcomma
    have hfurther : importBindings ([(name text).placed loc, (sign ",").placed loc'] ++
        opener :: ts) = furtherBindings text (opener :: ts) := rfl
    rw [hfurther, furtherBindings, if_neg (by simp [Token.isPunctuator_eq_false hopener]), hbraced]
    cases listBindings 0 [] [] ts <;> rfl

/-- What a statement with the tokens of a named import is read as. -/
theorem IsWritable.toImport (h : n.IsWritable)
    (hs : s.significant.map Token.plain = n.plainTokens) :
    ((∀ g ∈ n.list, ¬ g.IsFrom) → ∃ bindings, n.Binds bindings ∧
      s.toImport = .ok ⟨.named bindings, n.specifier, s.range, s.loc, s.text⟩) ∧
    ((∃ g ∈ n.list, g.IsFrom) → s.toImport = .error ⟨.imports, .unbalancedBraces, s.loc⟩) := by
  -- the tokens of the statement, taken apart in their order
  obtain ⟨loc, body, hsignificant, hbody⟩ := exists_placed_cons hs
  have hhead : s.body .imports = body := by
    rw [Statement.body, hsignificant]
    rfl
  obtain ⟨_, semicolon, rfl, hinner, -⟩ := List.map_eq_append_iff.1 hbody
  obtain ⟨front, _, rfl, hfront, hlist⟩ := List.map_eq_append_iff.1 hinner
  obtain ⟨loc₁, _, rfl, hbraced⟩ := exists_placed_cons hlist
  obtain ⟨inside, _, rfl, hinside, hbehind⟩ := List.map_eq_append_iff.1 hbraced
  obtain ⟨loc₂, _, rfl, hmark⟩ := exists_placed_cons hbehind
  obtain ⟨loc₃, _, rfl, hstring⟩ := exists_placed_cons hmark
  obtain ⟨loc₄, rfl⟩ := exists_placed_singleton hstring
  have hopener : ((sign "\x7b").placed loc₁).isPunctuator "\x7b" = true := rfl
  have hcloser : ((sign "\x7d").placed loc₂).isPunctuator "\x7d" = true := rfl
  have hquote : isQuoteMark '\x27' = true := rfl
  have hquotes : Unquotes n.quotedSpecifier n.specifier := .quoted hquote n.specifier
  have hspecifier : specifierOf ((keyword "from").placed loc₃ ::
      (string n.quotedSpecifier).placed loc₄ :: semicolon) = .ok n.specifier :=
    specifierOf_eq_ok_iff.2 ⟨_, _, _, rfl, rfl, rfl, hquotes⟩
  rw [Statement.toImport, hhead, importClause, List.append_assoc, List.cons_append,
    List.append_assoc, importBindings_eq hfront hopener]
  constructor
  · intro hfrom
    obtain ⟨bindings, hbindings, hread⟩ := listBindings_insideTokens
      (fun g hg => ⟨h.list g hg, hfrom g hg⟩) hcloser hinside
    refine ⟨n.defaultBindings ++ bindings, ⟨bindings, hbindings, rfl⟩, ?_⟩
    rw [List.cons_append, hread]
    simp only [Except.map, List.cons_append, List.nil_append, hspecifier, List.reverse_nil]
  · intro hfrom
    rw [listBindings_insideTokens_from h.list hfrom hinside]
    rfl

end NamedImport

/-! ### Whole texts -/

/-- **A named import gives one record with its bindings, unless it lists `from`.**  For all names,
reserved words and strings that are listed, and however many blanks stand between the tokens on
their line, the text gives one import and no complaint.  If `from` is among the listed names, it
gives no import, and complains about braces that are balanced.  In every text this complaint is
given only about an import whose list is not closed before the first `from`. -/
theorem extract_namedImport (text : List Char) :
    (∀ n : NamedImport, n.IsWritable → n.IsWrittenAs text →
      ∃ x, (extract .ecma text).outcome = .ok x ∧ x.exports = [] ∧
        ((∀ g ∈ n.list, ¬ g.IsFrom) → x.malformed = [] ∧ ∃ r bindings, x.imports = [r] ∧
          r.bindings = .named bindings ∧ n.Binds bindings ∧ r.specifier = n.specifier ∧
          r.code.toList = text) ∧
        ((∃ g ∈ n.list, g.IsFrom) →
          x.imports = [] ∧ x.malformed.map Malformed.fault = [.unbalancedBraces])) ∧
    ∀ x, (extract .ecma text).outcome = .ok x →
      ∀ m ∈ x.malformed, m.fault = .unbalancedBraces →
        ∃ s : Statement, s.IsPieceOf text ∧ s.loc = m.loc ∧ s.LeavesListOpen := by
  constructor
  · rintro n hn ⟨us, hwritten, rfl⟩
    obtain ⟨x, s, houtcome, hgives, hkind, hsignificant, htext⟩ := exists_onlyStatement
      (fun u hu => (hn.isItem u hu).1) (fun u hu => (hn.isItem u hu).2) hn.balanced hwritten
    have hfrom : s.hasFrom = true := by
      have hmem : keyword "from" ∈ s.significant.map Token.plain := by
        rw [hsignificant]
        simp [NamedImport.innerTokens]
      obtain ⟨t, ht, hplain⟩ := List.mem_map.1 hmem
      exact List.any_eq_true.2 ⟨t, (List.mem_filter.1 ht).1, Token.isKeyword_iff.2 hplain⟩
    obtain ⟨hrecord, hcomplaint⟩ := hn.toImport hsignificant
    refine ⟨x, houtcome, ?_⟩
    -- the statement is an import with `from`, and so it gives a record or a complaint
    cases hgives with
    | nothing _ hnone => cases hfrom.symm.trans hnone
    | exported hexport => cases hkind.symm.trans hexport
    | malformedExport hexport => cases hkind.symm.trans hexport
    | imported _ _ hread =>
      refine ⟨rfl, fun hnames => ⟨rfl, ?_⟩, fun hlisted => ?_⟩
      · obtain ⟨bindings, hbindings, hread'⟩ := hrecord hnames
        cases hread.symm.trans hread'
        exact ⟨_, bindings, rfl, rfl, hbindings, rfl, htext⟩
      · cases hread.symm.trans (hcomplaint hlisted)
    | malformedImport _ _ hread =>
      refine ⟨rfl, fun hnames => ?_, fun hlisted => ⟨rfl, ?_⟩⟩
      · obtain ⟨bindings, -, hread'⟩ := hrecord hnames
        cases hread.symm.trans hread'
      · cases hread.symm.trans (hcomplaint hlisted)
        rfl
  · intro x houtcome m hm hfault
    exact extract_leavesListOpen houtcome hm hfault

/-- A list of reserved words and a string, and one with the name `from`. -/
theorem extract_namedImport_words :
    (∃ n : NamedImport, n.IsWritable ∧ (∀ g ∈ n.list, ¬ g.IsFrom) ∧
      n.IsWrittenAs
        "import Def, \x7b default as d, 'a-b' as ab, async, as as $x, \x7d from './x.js';".toList ∧
      ∃ x r, (extract .ecma
          "import Def, \x7b default as d, 'a-b' as ab, async, as as $x, \x7d from './x.js';".toList
        ).outcome = .ok x ∧ x.malformed = [] ∧ x.imports = [r] ∧ r.specifier = "./x.js" ∧
        r.bindings = .named [⟨"default", "Def"⟩, ⟨"default", "d"⟩, ⟨"a-b", "ab"⟩,
          ⟨"async", "async"⟩, ⟨"as", "$x"⟩]) ∧
    ∃ x, (extract .ecma "import \x7b from \x7d from './x.js';".toList).outcome = .ok x ∧
      x.imports = [] ∧ x.malformed.map Malformed.fault = [.unbalancedBraces] ∧
      ∃ s : Statement, s.LeavesListOpen := by
  let list : List ListedName := [⟨keyword "default", some "d"⟩, ⟨string "'a-b'", some "ab"⟩,
    ⟨keyword "async", none⟩, ⟨keyword "as", some "$x"⟩]
  let words : NamedImport := ⟨some "Def", list, true, "./x.js"⟩
  let mark : NamedImport := ⟨none, [⟨keyword "from", none⟩], false, "./x.js"⟩
  have hwords : words.IsWrittenAs
      "import Def, \x7b default as d, 'a-b' as ab, async, as as $x, \x7d from './x.js';".toList :=
    ⟨onOneLine words.plainTokens, writtenAs_onOneLine _ _, by decide +kernel⟩
  have hmark : mark.IsWrittenAs "import \x7b from \x7d from './x.js';".toList :=
    ⟨onOneLine mark.plainTokens, writtenAs_onOneLine _ _, by decide +kernel⟩
  have hwritable : words.IsWritable ∧ mark.IsWritable := by decide +kernel
  have hother : ∀ g ∈ words.list, ¬ g.IsFrom := by decide
  constructor
  · obtain ⟨x, houtcome, -, hread, -⟩ := (extract_namedImport _).1 words hwritable.1 hwords
    obtain ⟨hmalformed, r, bindings, himports, hnamed, hbindings, hspecifier, -⟩ := hread hother
    have hlist : words.Binds [⟨"default", "Def"⟩, ⟨"default", "d"⟩, ⟨"a-b", "ab"⟩,
        ⟨"async", "async"⟩, ⟨"as", "$x"⟩] := by
      refine ⟨_, ?_, rfl⟩
      refine .cons ⟨?_, rfl⟩ (.cons ⟨?_, rfl⟩ (.cons ⟨?_, rfl⟩ (.cons ⟨?_, rfl⟩ .nil))) <;>
        exact Token.names_iff.2 (by decide)
    -- there is only one way to bind what is listed
    rw [hbindings.unique hlist] at hnamed
    exact ⟨words, hwritable.1, hother, hwords, x, r, houtcome, hmalformed, himports, hspecifier,
      hnamed⟩
  · obtain ⟨x, houtcome, -, -, hcomplaint⟩ := (extract_namedImport _).1 mark hwritable.2 hmark
    obtain ⟨himports, hmalformed⟩ := hcomplaint ⟨_, List.mem_singleton_self _, rfl⟩
    obtain ⟨m, _, hm, hfault, -⟩ := List.map_eq_cons_iff.1 hmalformed
    obtain ⟨s, -, -, hopen⟩ := (extract_namedImport _).2 x houtcome m (by simp [hm]) hfault
    exact ⟨x, houtcome, himports, hmalformed, s, hopen⟩

end ImportScan
