import ImportScan.Proofs.Accounting
import ImportScan.Proofs.Respelling

/-!
# Streams of tokens that are alike

Two streams of tokens are alike if they hold the same tokens, spelled in two ways and standing at
places that correspond.  What is found in such streams is alike as well: the collectors cut them into
the same statements, and each statement gives the same record or the same complaint.

## Main definitions

* `Likeness` — how texts are spelled on both sides, and which places and offsets correspond.
* `Token.Like`, `Statement.Like`, `Extraction.Like` — two tokens, two statements, and all that is
  found on both sides.
* `Extraction.ofTokens` — what is found in a stream of tokens.

## Main results

* `eq_ofTokens_of_ok` — a pass that succeeds finds what is found in its tokens.
* `Extraction.Like.ofTokens` — **in streams that are alike, the same is found**.
-/

namespace ImportScan

/-- How two texts correspond: how one is spelled on the side of the other, and which places and
offsets correspond. -/
structure Likeness extends Respelling where
  /-- Two places correspond. -/
  place : Location → Location → Prop
  /-- Two offsets correspond. -/
  offset : Nat → Nat → Prop
  /-- Places that correspond have offsets that do. -/
  place_offset : ∀ {loc loc'}, place loc loc' → offset loc.offset loc'.offset

/-- The two ends of both spans correspond. -/
structure Span.Like (k : Likeness) (s s' : Span) : Prop where
  /-- The first offsets. -/
  start : k.offset s.start s'.start
  /-- The offsets behind the last ones. -/
  stop : k.offset s.stop s'.stop

/-! ### Tokens and statements -/

/-- The same token on both sides. -/
structure Token.Like (k : Likeness) (t t' : Token) : Prop extends t.Respells k.toRespelling t' where
  /-- Both end a line or neither does. -/
  line : t'.isLineTerminator = t.isLineTerminator
  /-- They start at places that correspond. -/
  place : k.place t.loc t'.loc
  /-- They end at offsets that correspond. -/
  stop : k.offset t.stop t'.stop

/-- The same statement on both sides. -/
structure Statement.Like (k : Likeness) (s s' : Statement) : Prop where
  /-- Both start with the same keyword. -/
  kind : s'.kind = s.kind
  /-- Both consist of the same tokens. -/
  tokens : List.Forall₂ (Token.Like k) s.tokens s'.tokens
  /-- Their ranges correspond. -/
  range : s.range.Like k s'.range
  /-- Their places correspond. -/
  place : k.place s.loc s'.loc

/-! ### What is found -/

/-- The same import on both sides. -/
structure ImportRecord.Like (k : Likeness) (r r' : ImportRecord) : Prop where
  /-- The same names, spelled anew. -/
  bindings : r'.bindings = r.bindings.respell k.toRespelling
  /-- The same specifier, spelled anew. -/
  specifier : r'.specifier = k.text r.specifier
  /-- The ranges correspond. -/
  range : r.range.Like k r'.range
  /-- The places correspond. -/
  place : k.place r.loc r'.loc
  /-- The same text, spelled anew. -/
  code : r'.code = k.text r.code

/-- The same export on both sides. -/
structure ExportRecord.Like (k : Likeness) (r r' : ExportRecord) : Prop where
  /-- The same form. -/
  kind : r'.kind = r.kind
  /-- The same token behind the keyword, spelled anew. -/
  declaration : r'.declaration = k.text r.declaration
  /-- The same name, spelled anew. -/
  exported : r'.exported = k.text r.exported
  /-- The ranges correspond. -/
  range : r.range.Like k r'.range
  /-- The places correspond. -/
  place : k.place r.loc r'.loc
  /-- The same text, spelled anew. -/
  code : r'.code = k.text r.code

/-- The same complaint on both sides. -/
structure Malformed.Like (k : Likeness) (m m' : Malformed) : Prop where
  /-- About the same kind of statement. -/
  kind : m'.kind = m.kind
  /-- The same fault, spelled anew. -/
  fault : m'.fault = m.fault.respell k.toRespelling
  /-- The places correspond. -/
  place : k.place m.loc m'.loc

/-- The same is found on both sides, in the same order. -/
structure Extraction.Like (k : Likeness) (x x' : Extraction) : Prop where
  /-- The imports. -/
  imports : List.Forall₂ (ImportRecord.Like k) x.imports x'.imports
  /-- The exports. -/
  exports : List.Forall₂ (ExportRecord.Like k) x.exports x'.exports
  /-- The complaints. -/
  malformed : List.Forall₂ (Malformed.Like k) x.malformed x'.malformed

variable {k : Likeness}

/-! ### One token -/

namespace Token.Like

variable {t t' : Token}

theorem isTrivia (h : t.Like k t') : t'.kind.isTrivia = t.kind.isTrivia := by rw [h.kind]

theorem isKeyword (h : t.Like k t') {word : String} (hword : isOneLine word = true) :
    t'.isKeyword word = t.isKeyword word := h.is hword .keyword

theorem isPunctuator (h : t.Like k t') {sign : String} (hsign : isOneLine sign = true) :
    t'.isPunctuator sign = t.isPunctuator sign := h.is hsign .punctuator

theorem endsStatement (h : t.Like k t') : t'.endsStatement = t.endsStatement := by
  rw [Token.endsStatement, Token.endsStatement, h.isPunctuator (by decide), h.line]

theorem ofToken? (h : t.Like k t') : StatementKind.ofToken? t' = StatementKind.ofToken? t := by
  rw [StatementKind.ofToken?, StatementKind.ofToken?, h.isKeyword (by decide),
    h.isKeyword (by decide)]

end Token.Like

theorem map_lexeme_of_like {ts ts' : List Token} (h : List.Forall₂ (Token.Like k) ts ts') :
    ts'.map Token.lexeme = (ts.map Token.lexeme).map k.text := by
  rw [List.map_map]
  exact map_eq_map_of_forall₂ (fun _ _ ht => ht.lexeme) h

/-! ### One statement -/

namespace Statement.Like

variable {s s' : Statement}

theorem text (h : s.Like k s') : s'.text = k.text s.text := by
  rw [Statement.text, Statement.text, map_lexeme_of_like h.tokens, k.text_join]

theorem hasFrom (h : s.Like k s') : s'.hasFrom = s.hasFrom := by
  have htokens := h.tokens
  unfold Statement.hasFrom
  generalize s.tokens = ts at htokens ⊢
  generalize s'.tokens = ts' at htokens ⊢
  induction htokens with
  | nil => rfl
  | cons ht _ ih => rw [List.any_cons, List.any_cons, ih, ht.isKeyword (by decide)]

theorem significant (h : s.Like k s') :
    List.Forall₂ (Token.Like k) s.significant s'.significant := by
  refine List.rel_filter ?_ h.tokens
  intro t t' ht
  dsimp only
  rw [ht.isTrivia]

theorem body (h : s.Like k s') (kind : StatementKind) :
    List.Forall₂ (Token.Like k) (s.body kind) (s'.body kind) := by
  have hkeyword : isOneLine kind.keyword = true := by cases kind <;> decide
  have hsignificant := h.significant
  unfold Statement.body
  cases hs : s.significant with
  | nil =>
    rw [hs, List.forall₂_nil_left_iff] at hsignificant
    rw [hsignificant]
    exact .nil
  | cons first rest =>
    rw [hs, List.forall₂_cons_left_iff] at hsignificant
    obtain ⟨first', rest', hfirst, hrest, hs'⟩ := hsignificant
    rw [hs']
    dsimp only
    rw [hfirst.isKeyword hkeyword]
    split
    · exact hrest
    · exact .cons hfirst hrest

/-- The reader of imports gives the same record or the same complaint. -/
theorem toImport (h : s.Like k s') :
    (∃ r r', s.toImport = .ok r ∧ s'.toImport = .ok r' ∧ r.Like k r') ∨
      ∃ m m', s.toImport = .error m ∧ s'.toImport = .error m' ∧ m.Like k m' := by
  have hclause := importClause_of_respells ((h.body .imports).imp fun _ _ ht => ht.toRespells)
  unfold Statement.toImport
  rw [hclause]
  cases importClause (s.body .imports) with
  | ok read =>
    obtain ⟨bindings, specifier⟩ := read
    exact .inl ⟨_, _, rfl, rfl, ⟨rfl, rfl, h.range, h.place, h.text⟩⟩
  | error fault => exact .inr ⟨_, _, rfl, rfl, ⟨rfl, rfl, h.place⟩⟩

theorem exportKind (h : s.Like k s') {first first' : Token} (hfirst : first.Like k first') :
    s'.exportKind first' = s.exportKind first := by
  rw [Statement.exportKind, Statement.exportKind, hfirst.isKeyword (by decide), h.hasFrom]

/-- The reader of exports gives the same record or the same complaint. -/
theorem toExport (h : s.Like k s') :
    (∃ r r', s.toExport = .ok r ∧ s'.toExport = .ok r' ∧ r.Like k r') ∨
      ∃ m m', s.toExport = .error m ∧ s'.toExport = .error m' ∧ m.Like k m' := by
  have hbody := h.body .exports
  unfold Statement.toExport
  cases hs : s.body .exports with
  | nil =>
    rw [hs, List.forall₂_nil_left_iff] at hbody
    rw [hbody]
    exact .inr ⟨_, _, rfl, rfl, ⟨rfl, rfl, h.place⟩⟩
  | cons first rest =>
    -- the first tokens are alike, and so are those behind them
    rw [hs, List.forall₂_cons_left_iff] at hbody
    obtain ⟨first', rest', hfirst, hrest, hs'⟩ := hbody
    rw [hs']
    dsimp only
    rw [hfirst.isPunctuator (by decide), h.exportKind hfirst,
      exportedName?_of_respells hfirst.toRespells (hrest.imp fun _ _ ht => ht.toRespells)]
    split
    · exact .inr ⟨_, _, rfl, rfl, ⟨rfl, rfl, h.place⟩⟩
    · cases exportedName? (s.exportKind first) first rest with
      | none => exact .inr ⟨_, _, rfl, rfl, ⟨rfl, rfl, h.place⟩⟩
      | some name =>
        exact .inl ⟨_, _, rfl, rfl, ⟨rfl, hfirst.lexeme, rfl, h.range, h.place, h.text⟩⟩

end Statement.Like

/-! ### All statements -/

namespace Extraction.Like

variable {x x' : Extraction} {s s' : Statement} {ss ss' : List Statement}

theorem empty : Extraction.empty.Like k .empty := ⟨.nil, .nil, .nil⟩

theorem addImport {r r' : ImportRecord} (hx : x.Like k x') (hr : r.Like k r') :
    (x.addImport r).Like k (x'.addImport r') :=
  ⟨List.rel_append hx.imports (.cons hr .nil), hx.exports, hx.malformed⟩

theorem addExport {r r' : ExportRecord} (hx : x.Like k x') (hr : r.Like k r') :
    (x.addExport r).Like k (x'.addExport r') :=
  ⟨hx.imports, List.rel_append hx.exports (.cons hr .nil), hx.malformed⟩

theorem addMalformed {m m' : Malformed} (hx : x.Like k x') (hm : m.Like k m') :
    (x.addMalformed m).Like k (x'.addMalformed m') :=
  ⟨hx.imports, hx.exports, List.rel_append hx.malformed (.cons hm .nil)⟩

theorem add (hx : x.Like k x') (hs : s.Like k s') : (x.add s).Like k (x'.add s') := by
  unfold Extraction.add
  rw [hs.kind, hs.hasFrom]
  cases s.kind with
  | imports =>
    dsimp only
    split
    · obtain ⟨r, r', h, h', hr⟩ | ⟨m, m', h, h', hm⟩ := hs.toImport
      · rw [h, h']
        exact hx.addImport hr
      · rw [h, h']
        exact hx.addMalformed hm
    · exact hx
  | exports =>
    dsimp only
    obtain ⟨r, r', h, h', hr⟩ | ⟨m, m', h, h', hm⟩ := hs.toExport
    · rw [h, h']
      exact hx.addExport hr
    · rw [h, h']
      exact hx.addMalformed hm

theorem foldl_add (hss : List.Forall₂ (Statement.Like k) ss ss') (hx : x.Like k x') :
    (ss.foldl Extraction.add x).Like k (ss'.foldl Extraction.add x') := by
  induction hss generalizing x x' with
  | nil => exact hx
  | cons hs _ ih => exact ih (hx.add hs)

end Extraction.Like

/-! ### The collectors of both sides -/

/-- Both collectors have collected the same tokens. -/
inductive Collector.Like (k : Likeness) : Collector → Collector → Prop where
  /-- Neither is collecting. -/
  | idle : Like k .idle .idle
  /-- Both are collecting the same statement. -/
  | collecting {kind : StatementKind} {first first' : Token} {more more' : List Token}
      (hfirst : first.Like k first') (hmore : List.Forall₂ (Token.Like k) more more') :
    Like k (.collecting kind first more) (.collecting kind first' more')

namespace Collector.Like

variable {c c' : Collector} {t t' : Token} {ts ts' : List Token}

/-- A token that is fed to both does the same to both. -/
theorem feed (hc : Like k c c') (ht : t.Like k t') :
    Like k (c.feed t).1 (c'.feed t').1 ∧
      List.Forall₂ (Statement.Like k) (c.feed t).2.toList (c'.feed t').2.toList := by
  cases hc with
  | idle =>
    unfold Collector.feed
    dsimp only
    rw [ht.ofToken?]
    cases StatementKind.ofToken? t with
    | none => exact ⟨.idle, .nil⟩
    | some kind => exact ⟨.collecting ht .nil, .nil⟩
  | @collecting kind first first' more more' hfirst hmore =>
    unfold Collector.feed
    dsimp only
    rw [ht.endsStatement]
    -- the same token ends both
    split
    · have htokens : List.Forall₂ (Token.Like k) (first :: (more.reverse ++ [t]))
          (first' :: (more'.reverse ++ [t'])) :=
        .cons hfirst (List.rel_append (List.forall₂_reverse_iff.2 hmore) (.cons ht .nil))
      have hstatement : (statement kind first more.reverse t).Like k
          (statement kind first' more'.reverse t') :=
        ⟨rfl, htokens, ⟨k.place_offset hfirst.place, ht.stop⟩, hfirst.place⟩
      exact ⟨.idle, .cons hstatement .nil⟩
    · exact ⟨.collecting hfirst (.cons ht hmore), .nil⟩

/-- Streams that are alike are cut into the same statements. -/
theorem feedAll (hts : List.Forall₂ (Token.Like k) ts ts') (hc : Like k c c') :
    Like k (c.feedAll ts).1 (c'.feedAll ts').1 ∧
      List.Forall₂ (Statement.Like k) (c.feedAll ts).2 (c'.feedAll ts').2 := by
  induction hts generalizing c c' with
  | nil => exact ⟨hc, .nil⟩
  | cons ht _ ih =>
    obtain ⟨hnext, hfinished⟩ := hc.feed ht
    obtain ⟨hend, hrest⟩ := ih hnext
    exact ⟨hend, List.rel_append hfinished hrest⟩

end Collector.Like

/-! ### What is found in a stream -/

/-- What is found in a stream of tokens: what its statements give, and the complaint about the one
that its end cuts off. -/
def Extraction.ofTokens (ts : List Token) : Extraction :=
  let found := (Collector.idle.feedAll ts).2.foldl add .empty
  match (Collector.idle.feedAll ts).1.finish.2 with
  | some cut => found.addMalformed ⟨cut.kind, .unterminated, cut.loc⟩
  | none => found

/-- A pass that succeeds finds what is found in its tokens. -/
theorem eq_ofTokens_of_ok {l : Language} {text : List Char} {x : Extraction}
    (h : (extract l text).outcome = .ok x) : x = .ofTokens (extract l text).tokens := by
  obtain ⟨p, hreaches, -, hfinish, htokens⟩ := Pass.exists_finished h
  have hfollows := hreaches.follows
  rw [htokens, Extraction.ofTokens, hfollows.collected, ← hfollows.found]
  exact Pass.finish_eq_ok hfinish

/-- **In streams that are alike, the same is found.** -/
theorem Extraction.Like.ofTokens {ts ts' : List Token}
    (h : List.Forall₂ (Token.Like k) ts ts') : (Extraction.ofTokens ts).Like k (.ofTokens ts') := by
  obtain ⟨hcollector, hss⟩ := Collector.Like.idle.feedAll h
  have hfound := Extraction.Like.empty.foldl_add hss
  unfold Extraction.ofTokens
  dsimp only
  generalize (Collector.idle.feedAll ts).1 = c at hcollector ⊢
  generalize (Collector.idle.feedAll ts').1 = c' at hcollector ⊢
  cases hcollector with
  | idle => exact hfound
  | collecting hfirst _ => exact hfound.addMalformed ⟨rfl, rfl, hfirst.place⟩

end ImportScan
