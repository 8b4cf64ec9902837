import Mathlib.Data.List.Forall2
import ImportScan.Classification

/-!
# Texts spelled anew

The same tokens can be spelled in more than one way, for instance with another kind of line ends.  As
long as the words and signs that the readers look for are left alone, the readers do not mind: they
give the same answers, with the names in them spelled anew.

## Main definitions

* `Respelling` — a way to spell texts anew that leaves texts without line ends alone.
* `Bindings.respell`, `StatementFault.respell` — the answers of the readers, spelled anew.
* `Token.Respells`, `Respelling.Spells` — a token spelled anew, and a map that does so to all tokens.

## Main results

* `Respelling.text_join`, `Respelling.text_intercalate` — texts that are put together.
* `Respelling.Spells.importClause` — the reader of imports goes with a map that spells anew.
* `importClause_of_respells` — **the reader of imports gives the same answer for tokens that are
  spelled anew**, wherever they stand.
* `exportedName?_of_respells` — and so does the reader of exports.
-/

namespace ImportScan

theorem map_eq_map_of_forall₂ {α β γ : Type} {R : α → β → Prop} {f : α → γ} {g : β → γ}
    (hfg : ∀ a b, R a b → g b = f a) {xs : List α} {ys : List β} (h : List.Forall₂ R xs ys) :
    ys.map g = xs.map f := by
  induction h with
  | nil => rfl
  | cons hab _ ih => rw [List.map_cons, List.map_cons, hfg _ _ hab, ih]

/-- Whether a text has no line ends. -/
def isOneLine (s : String) : Bool := s.toList.all fun c => !isLineEnd c

/-- A way to spell texts anew.  It goes piece by piece, it neither changes a text without line ends
nor makes one from another text, and it leaves quotes where they are. -/
structure Respelling where
  /-- The text, spelled anew. -/
  text : String → String
  /-- The pieces are spelled one by one. -/
  text_append : ∀ s t, text (s ++ t) = text s ++ text t
  /-- Texts without line ends are left alone, and told from all others. -/
  text_eq_iff : ∀ {s w : String}, isOneLine w = true → (text s = w ↔ s = w)
  /-- Quotes are found where they were. -/
  stripQuotes_text : ∀ s, stripQuotes (text s) = text (stripQuotes s)

namespace Respelling

/-- Nothing is changed. -/
def same : Respelling where
  text := id
  text_append := fun _ _ => rfl
  text_eq_iff := fun _ => Iff.rfl
  stripQuotes_text := fun _ => rfl

variable {r : Respelling}

theorem text_of_isOneLine (r : Respelling) {w : String} (h : isOneLine w = true) : r.text w = w :=
  (r.text_eq_iff h).2 rfl

@[simp] theorem text_empty (r : Respelling) : r.text "" = "" := r.text_of_isOneLine rfl

theorem text_join (r : Respelling) (ss : List String) :
    r.text (String.join ss) = String.join (ss.map r.text) := by
  induction ss with
  | nil => exact r.text_empty
  | cons s ss ih => rw [String.join_cons, r.text_append, ih, List.map_cons, String.join_cons]

theorem text_intercalate (r : Respelling) (sep : String) (ss : List String) :
    r.text (sep.intercalate ss) = (r.text sep).intercalate (ss.map r.text) := by
  induction ss with
  | nil => simp
  | cons s ss ih =>
    cases ss with
    | nil => simp
    | cons t ss =>
      rw [List.map_cons] at ih
      simp only [String.intercalate_cons_cons, List.map_cons, r.text_append, ih]

end Respelling

/-! ### Answers spelled anew -/

/-- Both names, spelled anew. -/
def Binding.respell (r : Respelling) (b : Binding) : Binding := ⟨r.text b.imported, r.text b.localName⟩

/-- All names, spelled anew. -/
def Bindings.respell (r : Respelling) : Bindings → Bindings
  | .everything name => .everything (r.text name)
  | .defaultOnly name => .defaultOnly (r.text name)
  | .named list => .named (list.map (Binding.respell r))

/-- The fault, with the texts that it shows spelled anew. -/
def StatementFault.respell (r : Respelling) : StatementFault → StatementFault
  | .invalidEntry lexemes => .invalidEntry (lexemes.map r.text)
  | fault => fault

@[simp] theorem Bindings.respell_same (b : Bindings) : b.respell .same = b := by
  cases b with
  | everything name => rfl
  | defaultOnly name => rfl
  | named list => exact congrArg Bindings.named (List.map_id list)

@[simp] theorem StatementFault.respell_same (f : StatementFault) : f.respell .same = f := by
  cases f with
  | invalidEntry lexemes => exact congrArg StatementFault.invalidEntry (List.map_id lexemes)
  | _ => rfl

theorem inAccents_respell (r : Respelling) (s : String) :
    inAccents (r.text s) = r.text (inAccents s) := by
  have haccent : r.text "\x60" = "\x60" := r.text_of_isOneLine (by decide)
  rw [inAccents, inAccents, r.text_append, r.text_append, haccent]

/-- The wording of a fault that is spelled anew. -/
theorem StatementFault.message_respell (r : Respelling) (f : StatementFault) :
    (f.respell r).message = r.text f.message := by
  -- only one fault shows something of the text
  have hfixed : ∀ f : StatementFault, f.respell r = f → isOneLine f.message = true →
      (f.respell r).message = r.text f.message := by
    intro f hf hline
    rw [hf, r.text_of_isOneLine hline]
  cases f with
  | invalidEntry lexemes =>
    have hblank : r.text " " = " " := r.text_of_isOneLine (by decide)
    have hwords : r.text "invalid import specifier " = "invalid import specifier " :=
      r.text_of_isOneLine (by decide +kernel)
    show "invalid import specifier " ++ inAccents (" ".intercalate (lexemes.map r.text))
      = r.text ("invalid import specifier " ++ inAccents (" ".intercalate lexemes))
    rw [r.text_append, hwords, ← inAccents_respell, r.text_intercalate, hblank]
  | missingNamespaceName | missingAs | combinedWithNamespace | missingBindings | unbalancedBraces
  | missingFrom | missingSpecifier | missingDeclaration | missingExportedName | unterminated =>
    exact hfixed _ rfl (by decide +kernel)

/-- An answer of a reader, spelled anew. -/
def respellAnswer {α β : Type} (r : Respelling) (g : α → β) :
    Except StatementFault α → Except StatementFault β
  | .ok a => .ok (g a)
  | .error fault => .error (fault.respell r)

@[simp] theorem respellAnswer_ok {α β : Type} (r : Respelling) (g : α → β) (a : α) :
    respellAnswer r g (.ok a) = .ok (g a) := rfl

@[simp] theorem respellAnswer_error {α β : Type} (r : Respelling) (g : α → β) (f : StatementFault) :
    respellAnswer r g (.error f) = .error (f.respell r) := rfl

/-! ### Tokens spelled anew -/

/-- The token `t'` is the token `t`, spelled anew, wherever it stands. -/
structure Token.Respells (r : Respelling) (t t' : Token) : Prop where
  /-- The category is kept. -/
  kind : t'.kind = t.kind
  /-- The text is spelled anew. -/
  lexeme : t'.lexeme = r.text t.lexeme

/-- A word without line ends is the same on both sides. -/
theorem Token.Respells.is {r : Respelling} {t t' : Token} (h : t.Respells r t') {word : String}
    (hword : isOneLine word = true) (kind : TokenKind) : t'.is kind word = t.is kind word := by
  rw [Bool.eq_iff_iff, Token.is, Token.is, h.kind, h.lexeme, Bool.and_eq_true, Bool.and_eq_true,
    beq_iff_eq, beq_iff_eq, r.text_eq_iff hword, beq_iff_eq]

namespace Respelling

/-- The map spells tokens anew, whatever it does to their places. -/
def Spells (r : Respelling) (f : Token → Token) : Prop := ∀ t : Token, t.Respells r (f t)

namespace Spells

variable {r : Respelling} {f : Token → Token}

theorem kind (h : r.Spells f) (t : Token) : (f t).kind = t.kind := (h t).kind

theorem lexeme (h : r.Spells f) (t : Token) : (f t).lexeme = r.text t.lexeme := (h t).lexeme

theorem isKeyword (h : r.Spells f) (word : String) (hword : isOneLine word = true) (t : Token) :
    (f t).isKeyword word = t.isKeyword word := (h t).is hword .keyword

theorem isPunctuator (h : r.Spells f) (word : String) (hword : isOneLine word = true) (t : Token) :
    (f t).isPunctuator word = t.isPunctuator word := (h t).is hword .punctuator

theorem isIdentifier (h : r.Spells f) (t : Token) : (f t).isIdentifier = t.isIdentifier := by
  rw [Token.isIdentifier, Token.isIdentifier, h.kind]

theorem bindingName (h : r.Spells f) (t : Token) : (f t).bindingName = r.text t.bindingName := by
  unfold Token.bindingName
  rw [h.kind, h.lexeme, r.stripQuotes_text]
  split <;> rfl

theorem map_lexeme (h : r.Spells f) (ts : List Token) :
    (ts.map f).map Token.lexeme = (ts.map Token.lexeme).map r.text := by
  rw [List.map_map, List.map_map]
  exact List.map_congr_left fun t _ => h.lexeme t

/-! ### The reader of imports -/

theorem entryBindings (h : r.Spells f) (entry : List Token) :
    ImportScan.entryBindings (entry.map f)
      = respellAnswer r (List.map (Binding.respell r)) (ImportScan.entryBindings entry) := by
  -- what is no entry is told by its lexemes
  have hinvalid : ∀ ts : List Token,
      (Except.error (.invalidEntry ((ts.map f).map Token.lexeme)) :
        Except StatementFault (List Binding))
        = respellAnswer r (List.map (Binding.respell r))
            (.error (.invalidEntry (ts.map Token.lexeme))) := by
    intro ts
    rw [h.map_lexeme]
    rfl
  match entry with
  | [] => rfl
  | [name] => simp [ImportScan.entryBindings, Binding.respell, h.bindingName]
  | [name, mark, other] =>
    have hmark := h.isKeyword "as" (by decide) mark
    unfold ImportScan.entryBindings
    simp only [List.map_cons, List.map_nil, hmark]
    split
    · simp [Binding.respell, h.bindingName, h.lexeme]
    · exact hinvalid [name, mark, other]
  | [name, mark] => exact hinvalid [name, mark]
  | a :: b :: c :: d :: rest => exact hinvalid (a :: b :: c :: d :: rest)

/-- What a reader gives back: names, and the tokens that follow. -/
theorem listBindings (h : r.Spells f) (inner : Nat) (entry : List Token) (done : List Binding)
    (ts : List Token) :
    ImportScan.listBindings inner (entry.map f) (done.map (Binding.respell r)) (ts.map f)
      = respellAnswer r (Prod.map (List.map (Binding.respell r)) (List.map f))
          (ImportScan.listBindings inner entry done ts) := by
  have hfrom := h.isKeyword "from" (by decide)
  have hopener := h.isPunctuator "\x7b" (by decide)
  have hcloser := h.isPunctuator "\x7d" (by decide)
  have hcomma := h.isPunctuator "," (by decide)
  have hentry : ∀ entry : List Token, ImportScan.entryBindings (entry.map f).reverse
      = respellAnswer r (List.map (Binding.respell r))
          (ImportScan.entryBindings entry.reverse) := by
    intro entry
    rw [← List.map_reverse]
    exact h.entryBindings _
  -- every test of the reader is blind to the spelling
  induction ts generalizing inner entry done with
  | nil => rfl
  | cons t ts ih =>
    simp only [List.map_cons, ImportScan.listBindings, hfrom, hopener, hcloser, hcomma, hentry]
    split
    · rfl
    split
    · exact ih (inner + 1) entry done
    split
    · cases inner with
      | zero => cases ImportScan.entryBindings entry.reverse <;> simp [List.map_reverse]
      | succ inner => exact ih inner entry done
    split
    · cases ImportScan.entryBindings entry.reverse with
      | error fault => rfl
      | ok bindings =>
        have hnext := ih inner [] (bindings.reverse ++ done)
        rw [List.map_append, List.map_reverse] at hnext
        exact hnext
    · exact ih inner (t :: entry) done

theorem bracedBindings (h : r.Spells f) (ts : List Token) :
    ImportScan.bracedBindings (ts.map f)
      = respellAnswer r (Prod.map (List.map (Binding.respell r)) (List.map f))
          (ImportScan.bracedBindings ts) := by
  cases ts with
  | nil => rfl
  | cons t ts =>
    simp only [List.map_cons, ImportScan.bracedBindings,
      h.isPunctuator "\x7b" (by decide)]
    split
    · exact h.listBindings 0 [] [] ts
    · rfl

theorem onlyBraced (h : r.Spells f) (ts : List Token) :
    ImportScan.onlyBraced (ts.map f)
      = respellAnswer r (Prod.map (Bindings.respell r) (List.map f)) (ImportScan.onlyBraced ts) := by
  unfold ImportScan.onlyBraced
  rw [h.bracedBindings]
  cases ImportScan.bracedBindings ts <;> rfl

theorem namespaceBindings (h : r.Spells f) (ts : List Token) :
    ImportScan.namespaceBindings (ts.map f)
      = respellAnswer r (Prod.map (Bindings.respell r) (List.map f))
          (ImportScan.namespaceBindings ts) := by
  have hmark := h.isKeyword "as" (by decide)
  match ts with
  | [] => rfl
  | [mark] =>
    simp only [List.map_cons, List.map_nil, ImportScan.namespaceBindings, hmark]
    split <;> rfl
  | mark :: name :: rest =>
    simp only [List.map_cons, ImportScan.namespaceBindings, hmark, h.isIdentifier, h.lexeme]
    split
    · split <;> rfl
    · rfl

theorem furtherBindings (h : r.Spells f) (name : String) (ts : List Token) :
    ImportScan.furtherBindings (r.text name) (ts.map f)
      = respellAnswer r (Prod.map (Bindings.respell r) (List.map f))
          (ImportScan.furtherBindings name ts) := by
  have hstar : ((ts.map f).head?.any fun t => t.isPunctuator "*")
      = ts.head?.any fun t => t.isPunctuator "*" := by
    cases ts with
    | nil => rfl
    | cons t ts => exact h.isPunctuator "*" (by decide) t
  have hdefault : r.text "default" = "default" := r.text_of_isOneLine (by decide)
  unfold ImportScan.furtherBindings
  rw [hstar, h.bracedBindings]
  split
  · rfl
  · cases ImportScan.bracedBindings ts with
    | error fault => rfl
    | ok read => simp [Bindings.respell, Binding.respell, hdefault]

theorem importBindings (h : r.Spells f) (ts : List Token) :
    ImportScan.importBindings (ts.map f)
      = respellAnswer r (Prod.map (Bindings.respell r) (List.map f))
          (ImportScan.importBindings ts) := by
  have hstar := h.isPunctuator "*" (by decide)
  match ts with
  | [] => exact h.onlyBraced []
  | [first] =>
    simp only [List.map_cons, List.map_nil, ImportScan.importBindings, hstar]
    split
    · exact h.namespaceBindings []
    · exact h.onlyBraced [first]
  | first :: next :: rest =>
    simp only [List.map_cons, ImportScan.importBindings, hstar, h.isIdentifier, h.lexeme,
      h.isKeyword "from" (by decide), h.isPunctuator "," (by decide)]
    split
    · exact h.namespaceBindings (next :: rest)
    split
    · rfl
    split
    · exact h.furtherBindings first.lexeme rest
    · exact h.onlyBraced (first :: next :: rest)

theorem specifierOf (h : r.Spells f) (ts : List Token) :
    ImportScan.specifierOf (ts.map f) = respellAnswer r r.text (ImportScan.specifierOf ts) := by
  have hfrom := h.isKeyword "from" (by decide)
  match ts with
  | [] => rfl
  | [mark] =>
    simp only [List.map_cons, List.map_nil, ImportScan.specifierOf, hfrom]
    split <;> rfl
  | mark :: t :: rest =>
    simp only [List.map_cons, ImportScan.specifierOf, hfrom, h.kind, h.lexeme, r.stripQuotes_text]
    split
    · split <;> rfl
    · rfl

/-- **The reader of imports gives the same answer, spelled anew.** -/
theorem importClause (h : r.Spells f) (ts : List Token) :
    ImportScan.importClause (ts.map f)
      = respellAnswer r (Prod.map (Bindings.respell r) r.text) (ImportScan.importClause ts) := by
  unfold ImportScan.importClause
  rw [h.importBindings]
  cases ImportScan.importBindings ts with
  | error fault => rfl
  | ok read =>
    simp only [respellAnswer_ok, Prod.map]
    rw [h.specifierOf]
    cases ImportScan.specifierOf read.2 <;> rfl

/-! ### The reader of exports -/

theorem namesExport (h : r.Spells f) (t : Token) :
    Statement.namesExport (f t) = Statement.namesExport t := by
  rw [Statement.namesExport, Statement.namesExport, h.isIdentifier,
    h.isKeyword "default" (by decide)]

theorem exportedName? (h : r.Spells f) (kind : ExportKind) (first : Token) (rest : List Token) :
    Statement.exportedName? kind (f first) (rest.map f)
      = (Statement.exportedName? kind first rest).map r.text := by
  have hfind : ((f first :: rest.map f).find? Statement.namesExport)
      = ((first :: rest).find? Statement.namesExport).map f := by
    rw [← List.map_cons, List.find?_map]
    exact congrArg (Option.map f ·) (congrArg (List.find? · _) (funext h.namesExport))
  unfold Statement.exportedName?
  rw [hfind, h.isPunctuator "*" (by decide)]
  cases (first :: rest).find? Statement.namesExport with
  | some t => simp [h.lexeme]
  | none =>
    dsimp only [Option.map_none]
    split
    · exact congrArg some (r.text_of_isOneLine (by decide)).symm
    · rfl

end Spells

end Respelling

/-! ### Tokens at other places -/

section

variable {r : Respelling} {ts ts' : List Token}

/-- The token with no place of its own. -/
def Token.placeless (t : Token) : Token := ⟨t.kind, t.lexeme, .start⟩

/-- The token spelled anew, with no place of its own. -/
def Token.respellPlaceless (r : Respelling) (t : Token) : Token :=
  ⟨t.kind, r.text t.lexeme, .start⟩

theorem spells_placeless : Respelling.same.Spells Token.placeless := fun _ => ⟨rfl, rfl⟩

theorem spells_respellPlaceless : r.Spells (Token.respellPlaceless r) := fun _ => ⟨rfl, rfl⟩

theorem map_placeless (h : List.Forall₂ (Token.Respells r) ts ts') :
    ts'.map Token.placeless = ts.map (Token.respellPlaceless r) := by
  refine map_eq_map_of_forall₂ (fun t t' ht => ?_) h
  rw [Token.placeless, Token.respellPlaceless, ht.kind, ht.lexeme]

/-- **The reader of imports gives the same answer for tokens that are spelled anew**, wherever they
stand. -/
theorem importClause_of_respells (h : List.Forall₂ (Token.Respells r) ts ts') :
    importClause ts'
      = respellAnswer r (Prod.map (Bindings.respell r) r.text) (importClause ts) := by
  have hplaceless : importClause (ts'.map Token.placeless) = importClause ts' := by
    rw [spells_placeless.importClause]
    cases importClause ts' with
    | error fault => simp
    | ok read =>
      rw [respellAnswer_ok, Prod.map, Bindings.respell_same]
      rfl
  rw [← hplaceless, map_placeless h, spells_respellPlaceless.importClause]

theorem exportedName?_of_respells {first first' : Token} (hfirst : first.Respells r first')
    (h : List.Forall₂ (Token.Respells r) ts ts') (kind : ExportKind) :
    Statement.exportedName? kind first' ts'
      = (Statement.exportedName? kind first ts).map r.text := by
  have hplaceless : Statement.exportedName? kind first'.placeless (ts'.map Token.placeless)
      = Statement.exportedName? kind first' ts' := by
    rw [spells_placeless.exportedName?]
    exact congrFun Option.map_id _
  have hmap := map_placeless (List.Forall₂.cons hfirst h)
  rw [List.map_cons, List.map_cons] at hmap
  obtain ⟨hhead, htail⟩ := List.cons.inj hmap
  rw [← hplaceless, hhead, htail, spells_respellPlaceless.exportedName?]

end

end ImportScan
