import Mathlib.Logic.Relation
import ImportScan.Extraction
import ImportScan.Proofs.FlatStack
import ImportScan.Proofs.StatementStream

/-!
# The run of a pass

A pass goes from token to token until something ends it.  What holds at its start and is kept by the
step for one token holds wherever it gets to, and the result of the pass is read off the last place.

## Main definitions

* `Pass.step?`, `Pass.Reaches` — one token further, and any number of them.
* `Pass.Ends` — the three ways in which a pass ends, each with its result.
* `Pass.Follows` — the tokens seen tile the text up to where the lexer stands, and the collector and
  the records are what these tokens give.

## Main results

* `Pass.exists_ends` — a pass reaches a place where it ends, and its result is the one of that
  place.
* `Pass.Reaches.follows` — **wherever a pass gets to, it has followed the text from its start**.
-/

namespace ImportScan

/-- The token of a pull, and the lexer behind it. -/
def Pull.token? : Pull → Option (Token × Lexer)
  | .token t after => some (t, after)
  | _ => none

theorem Pull.token?_eq_some_iff {pulled : Pull} {t : Token} {after : Lexer} :
    pulled.token? = some (t, after) ↔ pulled = .token t after := by
  cases pulled <;> simp [Pull.token?]

/-- The tokens that have been pulled, in the order of the text. -/
def PassResult.tokens (r : PassResult) : List Token := r.seen.map Prod.fst

namespace Pass

variable {p q : Pass} {t : Token} {after : Lexer}

/-! ### One token -/

/-- A token is shown to the context stack, and the lexer leaves its mode when the token ends a
substitution. -/
theorem balance_eq (p : Pass) (t : Token) (after : Lexer) :
    p.balance t after = ((p.entered after).feed t).map fun next =>
      (next, if (p.entered after).closesSubstitution t then after.leave else after) := by
  unfold balance ContextStack.feed
  dsimp only
  split
  · cases (p.entered after).pop t.loc <;> rfl
  · cases (p.entered after).observe t <;> rfl

/-- All that changes when a pass takes a token. -/
theorem take_eq_ok (h : p.take t after = .ok q) :
    (p.entered after).feed t = .ok q.contexts ∧
      q.lexer = (if (p.entered after).closesSubstitution t then after.leave else after) ∧
      q.collector = (p.collector.feed t).1 ∧ q.found = p.found.addAny (p.collector.feed t).2 ∧
      q.seen = (t, after.state) :: p.seen := by
  rw [take, balance_eq] at h
  cases hfeed : (p.entered after).feed t with
  | ok next =>
    rw [hfeed] at h
    cases h
    exact ⟨rfl, rfl, rfl, rfl, rfl⟩
  | error m =>
    rw [hfeed] at h
    cases h

/-- A pass fails to take a token where the context stack does not accept it. -/
theorem take_eq_error_iff {m : BalanceMismatch} :
    p.take t after = .error m ↔ (p.entered after).feed t = .error m := by
  rw [take, balance_eq]
  cases (p.entered after).feed t <;> simp [Except.map]

/-! ### Any number of tokens -/

/-- The pass one token further, if there is a token and it fits. -/
def step? (p : Pass) : Option Pass :=
  p.lexer.pull.token?.bind fun next => (p.take next.1 next.2).toOption

theorem step?_eq_some_iff :
    p.step? = some q ↔ ∃ t after, p.lexer.pull = .token t after ∧ p.take t after = .ok q := by
  have htake : ∀ t after, (p.take t after).toOption = some q ↔ p.take t after = .ok q := by
    intro t after
    cases p.take t after <;> simp [Except.toOption]
  rw [step?, Option.bind_eq_some_iff]
  constructor
  · rintro ⟨⟨t, after⟩, hpull, hnext⟩
    exact ⟨t, after, Pull.token?_eq_some_iff.1 hpull, (htake t after).1 hnext⟩
  · rintro ⟨t, after, hpull, hnext⟩
    exact ⟨(t, after), Pull.token?_eq_some_iff.2 hpull, (htake t after).2 hnext⟩

/-- A pass gets to another one by taking tokens. -/
def Reaches : Pass → Pass → Prop := Relation.ReflTransGen fun p q => p.step? = some q

/-- The pass some tokens further. -/
def steps? : Nat → Pass → Option Pass
  | 0, p => some p
  | n + 1, p => p.step?.bind (steps? n)

theorem reaches_of_steps? {n : Nat} (h : p.steps? n = some q) : Reaches p q := by
  induction n generalizing p with
  | zero =>
    cases h
    exact .refl
  | succ n ih =>
    obtain ⟨next, hstep, hrest⟩ := Option.bind_eq_some_iff.1 h
    exact .head hstep (ih hrest)

/-! ### The end of a pass -/

/-- How a pass ends, and with which result. -/
inductive Ends (p : Pass) : PassResult → Prop where
  /-- There is nothing left to read. -/
  | finished (hpull : p.lexer.pull = .finished) : Ends p ⟨p.finish, p.lexer, p.seen.reverse⟩
  /-- The lexer cannot go on. -/
  | fault (e : LexError) (after : Lexer) (hpull : p.lexer.pull = .fault e after) :
    Ends p ⟨.error (.lex e), after, p.seen.reverse⟩
  /-- A token does not fit. -/
  | mismatch (t : Token) (after : Lexer) (m : BalanceMismatch)
      (hpull : p.lexer.pull = .token t after) (htake : p.take t after = .error m) :
    Ends p ⟨.error (.balance m), after, ((t, after.state) :: p.seen).reverse⟩

/-- A pass reaches a place where it ends, and its result is the one of that place. -/
theorem exists_ends (p : Pass) : ∃ q, Reaches p q ∧ Ends q p.run := by
  fun_induction run p with
  | case1 p hpull => exact ⟨p, .refl, .finished hpull⟩
  | case2 p e after hpull => exact ⟨p, .refl, .fault e after hpull⟩
  | case3 p t after hpull next htake _ ih =>
    obtain ⟨q, hreaches, hends⟩ := ih
    exact ⟨q, .head (step?_eq_some_iff.2 ⟨t, after, hpull, htake⟩) hreaches, hends⟩
  | case4 p t after hpull m htake => exact ⟨p, .refl, .mismatch t after m hpull htake⟩

theorem exists_ends_extract (l : Language) (text : List Char) :
    ∃ q, Reaches (ofLexer (.ofText l text)) q ∧ Ends q (extract l text) :=
  (ofLexer (.ofText l text)).exists_ends

/-- The result does not depend on how many tokens have been taken already. -/
theorem run_of_reaches (h : Reaches p q) : p.run = q.run := by
  induction h with
  | refl => rfl
  | tail _ hstep ih =>
    obtain ⟨t, after, hpull, htake⟩ := step?_eq_some_iff.1 hstep
    rw [ih, run]
    split
    · next hpull' => cases hpull.symm.trans hpull'
    · next hpull' => cases hpull.symm.trans hpull'
    · next hpull' =>
      cases hpull.symm.trans hpull'
      split
      · next htake' =>
        cases htake.symm.trans htake'
        rfl
      · next htake' => cases htake.symm.trans htake'

/-- A pass that ends has the result of its end. -/
theorem run_of_ends {r : PassResult} (h : Ends p r) : p.run = r := by
  rw [run]
  -- what a pull or a step gives is one thing, so that only one branch is open
  cases h with
  | finished hpull =>
    split
    · rfl
    · next hpull' => cases hpull.symm.trans hpull'
    · next hpull' => cases hpull.symm.trans hpull'
  | fault e after hpull =>
    split
    · next hpull' => cases hpull.symm.trans hpull'
    · next hpull' =>
      cases hpull.symm.trans hpull'
      rfl
    · next hpull' => cases hpull.symm.trans hpull'
  | mismatch t after m hpull htake =>
    split
    · next hpull' => cases hpull.symm.trans hpull'
    · next hpull' => cases hpull.symm.trans hpull'
    · next hpull' =>
      cases hpull.symm.trans hpull'
      split
      · next htake' => cases htake.symm.trans htake'
      · next htake' =>
        cases htake.symm.trans htake'
        rfl

theorem extract_eq {l : Language} {text : List Char} {n : Nat} {r : PassResult}
    (h : (ofLexer (.ofText l text)).steps? n = some p) (hends : Ends p r) : extract l text = r :=
  (run_of_reaches (reaches_of_steps? h)).trans (run_of_ends hends)

/-! ### Following the text -/

/-- The tokens that a pass has seen, in the order of the text. -/
def tokens (p : Pass) : List Token := p.seen.reverse.map Prod.fst

/-- The tokens seen tile the text up to where the lexer stands, and the collector and the records
are what these tokens give. -/
structure Follows (p : Pass) (l : Language) (text : List Char) : Prop where
  /-- The lexer reads the language of the text. -/
  language : p.lexer.language = l
  /-- The lexer stands in the text. -/
  stands : p.lexer.StandsIn text
  /-- The lexer has not met an error. -/
  going : p.lexer.failed = false
  /-- The tokens seen tile the text up to there. -/
  tiles : Tiles text 0 (p.tokens.map Token.piece) p.lexer.loc.offset
  /-- The collector has been fed with them. -/
  collected : (Collector.idle.feedAll p.tokens).1 = p.collector
  /-- The records are those of the statements that it has finished. -/
  found : p.found = (Collector.idle.feedAll p.tokens).2.foldl Extraction.add .empty

variable {l : Language} {text : List Char}

theorem follows_ofText (l : Language) (text : List Char) :
    (ofLexer (.ofText l text)).Follows l text where
  language := rfl
  stands := Lexer.standsIn_ofText l text
  going := rfl
  tiles := ⟨rfl, isBoundary_zero text⟩
  collected := rfl
  found := rfl

theorem tokens_of_take (h : p.take t after = .ok q) : q.tokens = p.tokens ++ [t] := by
  obtain ⟨-, -, -, -, hseen⟩ := take_eq_ok h
  simp [tokens, hseen]

theorem Reaches.exists_tokens (h : Reaches p q) : ∃ ts, q.tokens = p.tokens ++ ts := by
  induction h with
  | refl => exact ⟨[], (List.append_nil _).symm⟩
  | tail _ hstep ih =>
    obtain ⟨t, after, -, htake⟩ := step?_eq_some_iff.1 hstep
    obtain ⟨ts, hts⟩ := ih
    exact ⟨ts ++ [t], by rw [tokens_of_take htake, hts, List.append_assoc]⟩

/-- The tokens of the result start with those that a pass has seen. -/
theorem exists_run_tokens (p : Pass) : ∃ ts, p.run.tokens = p.tokens ++ ts := by
  obtain ⟨q, hreaches, hends⟩ := p.exists_ends
  obtain ⟨ts, hts⟩ := hreaches.exists_tokens
  generalize p.run = r at hends
  cases hends with
  | finished => exact ⟨ts, hts⟩
  | fault => exact ⟨ts, hts⟩
  | mismatch t after =>
    refine ⟨ts ++ [t], ?_⟩
    rw [← List.append_assoc, ← hts]
    simp [PassResult.tokens, tokens]

/-- The last step of a pass is the one for the last token that it has seen. -/
theorem Reaches.exists_last {lx : Lexer} {before : List Token}
    (h : Reaches (ofLexer lx) p) (htokens : p.tokens = before ++ [t]) :
    ∃ q after, Reaches (ofLexer lx) q ∧ q.tokens = before ∧ q.lexer.pull = .token t after ∧
      q.take t after = .ok p := by
  cases Relation.ReflTransGen.cases_tail h with
  | inl hstart =>
    rw [hstart] at htokens
    simp [tokens, ofLexer] at htokens
  | inr hlast =>
    obtain ⟨q, hreaches, hstep⟩ := hlast
    obtain ⟨t', after, hpull, htake⟩ := step?_eq_some_iff.1 hstep
    rw [tokens_of_take htake] at htokens
    obtain ⟨hbefore, ht⟩ := List.append_inj' htokens rfl
    cases ht
    exact ⟨q, after, hreaches, hbefore, hpull, htake⟩

theorem addAny_eq_foldl (x : Extraction) (s? : Option Statement) :
    x.addAny s? = s?.toList.foldl Extraction.add x := by
  cases s? <;> rfl

/-- The step for one token keeps following the text. -/
theorem Follows.step (h : p.Follows l text) (hstep : p.step? = some q) : q.Follows l text := by
  obtain ⟨t, after, hpull, htake⟩ := step?_eq_some_iff.1 hstep
  obtain ⟨hstands, hgoing, -, htile⟩ := h.stands.pull hpull
  obtain ⟨-, hlexer, hcollector, hfound, -⟩ := take_eq_ok htake
  have htokens := tokens_of_take htake
  have hlanguage : after.language = l := by
    obtain ⟨c, cs, s, -, -, -, -, rfl⟩ := Lexer.pull_eq_token hpull
    rw [Lexer.follow_language]
    exact h.language
  -- leaving a mode changes neither the text nor the place of the lexer
  have hkept : q.lexer.language = after.language ∧ q.lexer.failed = after.failed ∧
      q.lexer.loc = after.loc ∧ (q.lexer.StandsIn text ↔ after.StandsIn text) := by
    rw [hlexer]
    split
    · exact ⟨rfl, rfl, rfl, Lexer.standsIn_leave⟩
    · exact ⟨rfl, rfl, rfl, Iff.rfl⟩
  obtain ⟨hl, hf, hloc, hs⟩ := hkept
  refine ⟨hl.trans hlanguage, hs.2 hstands, hf.trans hgoing, ?_, ?_, ?_⟩
  · rw [htokens, List.map_append, hloc]
    exact h.tiles.append htile
  · rw [htokens, Collector.feedAll_append, h.collected, Collector.feedAll_singleton, hcollector]
  · rw [htokens, Collector.feedAll_append, h.collected, Collector.feedAll_singleton,
      List.foldl_append, ← h.found, hfound, addAny_eq_foldl]

/-- **Wherever a pass gets to, it has followed the text from its start.** -/
theorem Reaches.follows (h : Reaches (ofLexer (.ofText l text)) p) : p.Follows l text := by
  induction h with
  | refl => exact follows_ofText l text
  | tail _ hstep ih => exact ih.step hstep

/-- A pass over a whole text that succeeds ends where its lexer has nothing left to read. -/
theorem exists_finished {x : Extraction} (h : (extract l text).outcome = .ok x) :
    ∃ p, Reaches (ofLexer (.ofText l text)) p ∧ p.lexer.pull = .finished ∧ p.finish = .ok x ∧
      (extract l text).tokens = p.tokens := by
  obtain ⟨p, hreaches, hends⟩ := exists_ends_extract l text
  generalize extract l text = r at hends h
  cases hends with
  | finished hpull => exact ⟨p, hreaches, hpull, h, rfl⟩
  | fault e after hpull => cases h
  | mismatch t after m hpull htake => cases h

/-- A pass whose last step is known, and which has nothing left to complain about. -/
theorem outcome_of_steps? {n : Nat} {x : Extraction}
    (h : (ofLexer (.ofText l text)).steps? n = some p) (hpull : p.lexer.pull = .finished)
    (hfinish : p.finish.toOption = some x) :
    (extract l text).outcome = .ok x ∧ (extract l text).tokens = p.tokens := by
  rw [extract_eq h (.finished hpull)]
  refine ⟨?_, rfl⟩
  cases hend : p.finish with
  | ok x' => simpa [hend, Except.toOption] using hfinish
  | error m => simp [hend, Except.toOption] at hfinish

/-- The end of the text adds the complaint about a statement that is still open. -/
theorem finish_eq_ok {x : Extraction} (h : p.finish = .ok x) :
    x = match p.collector.finish.2 with
      | some cut => p.found.addMalformed ⟨cut.kind, .unterminated, cut.loc⟩
      | none => p.found := by
  unfold finish at h
  dsimp only at h
  split at h
  · cases h
    rfl
  · cases h

/-- A pass ends without a fault only when its lexer has come to the end of the text. -/
theorem Follows.rest_of_finished (h : p.Follows l text) (hpull : p.lexer.pull = .finished) :
    p.lexer.rest = [] ∧ p.lexer.loc.offset = byteLength text := by
  have hrest : p.lexer.rest = [] := by
    simpa [h.going] using Lexer.pull_eq_finished_iff.1 hpull
  refine ⟨hrest, ?_⟩
  have hend := h.stands.offset_add
  rwa [hrest, byteLength_nil, Nat.add_zero] at hend

/-- The statements that a pass has collected are pieces of the text that follow one another. -/
theorem Follows.statements (h : p.Follows l text) :
    (∀ s ∈ (Collector.idle.feedAll p.tokens).2, s.IsPieceOf text) ∧
      Ascends 0 ((Collector.idle.feedAll p.tokens).2.map Statement.range) (byteLength text) := by
  have hidle : Collector.idle.Holds text 0 := trivial
  obtain ⟨hholds, hpieces, hascends⟩ := hidle.feedAll h.tiles
  refine ⟨hpieces, ?_⟩
  have hend : Ascends (Collector.since _ p.lexer.loc.offset) [] (byteLength text) :=
    Nat.le_trans hholds.since_le h.tiles.stop_le
  rw [← List.append_nil (List.map _ _)]
  exact hascends.append hend

end Pass

end ImportScan
