import Mathlib.Data.List.Induction
import Mathlib.Logic.ExistsUnique
import ImportScan.Proofs.Decomposition

/-!
# Statements and gaps

The tokens that a collector is fed between two ends of a stream are a stretch.  A stretch is made of
statements with gaps before, between and behind them, and possibly of a statement at its end that
nothing ends.  In a gap there is neither of the two keywords; a statement starts with one of them,
and goes up to the first token that ends statements.

A collector is used again behind the end of a stream.  Whenever the ends come, what it was fed
splits into stretches of gaps and statements in one way only, and the collector answers every use as
this split tells.

## Main definitions

* `Collector.Call`, `Collector.Answer` — the uses of a collector, and what they answer.
* `Collector.call`, `Collector.callAll` — one use, and one after the other.
* `Stretch`, `Stretch.IsValid` — a stretch in gaps and statements, and what these are made of.
* `Stretch.answers`, `Stretch.openStatement` — what a collector answers to a stretch and to its end.
* `History` — all stretches up to now, the last of which goes on.

## Main results

* `Stretch.IsValid.push`, `History.IsValid.push` — one token more, and one use more.
* `Stretch.ofTokens_tokens` — no stretch splits in two ways.
* `Collector.call_collector` — a collector does with one use what the history does.
* `Collector.callAll_splits` — **a collector answers as the only split of its tokens tells**.
-/

namespace ImportScan

/-! ### Using a collector -/

namespace Collector

/-- The uses of a collector. -/
inductive Call where
  /-- The next token comes. -/
  | feed (t : Token)
  /-- The stream ends. -/
  | finish
  deriving DecidableEq, Repr, Inhabited

/-- What a collector answers, and whether it is collecting a statement behind the use. -/
inductive Answer where
  /-- The statement that the token has finished, if any. -/
  | fed (finished : Option Statement) (isCollecting : Bool)
  /-- The statement that the end of the stream has cut off, if any. -/
  | ended (cutOff : Option OpenStatement) (isCollecting : Bool)
  deriving DecidableEq, Repr, Inhabited

/-- Use a collector. -/
def call (c : Collector) : Call → Collector × Answer
  | .feed t => ((c.feed t).1, .fed (c.feed t).2 (c.feed t).1.isCollecting)
  | .finish => (c.finish.1, .ended c.finish.2 c.finish.1.isCollecting)

/-- Use a collector several times. -/
def callAll (c : Collector) : List Call → Collector × List Answer
  | [] => (c, [])
  | u :: calls => (((c.call u).1.callAll calls).1, (c.call u).2 :: ((c.call u).1.callAll calls).2)

theorem callAll_append (c : Collector) (calls more : List Call) :
    c.callAll (calls ++ more) = (((c.callAll calls).1.callAll more).1,
      (c.callAll calls).2 ++ ((c.callAll calls).1.callAll more).2) := by
  induction calls generalizing c with
  | nil => rfl
  | cons u calls ih => simp [callAll, ih]

end Collector

open Collector (Call Answer)

/-! ### Stretches -/

/-- A stretch of tokens in gaps and statements. -/
inductive Stretch where
  /-- No statement starts any more. -/
  | gap (between : List Token)
  /-- A statement starts behind a gap, and nothing ends it. -/
  | cutOff (between : List Token) (kind : StatementKind) (first : Token) (body : List Token)
  /-- A statement stands behind a gap, and the rest of the stretch behind the statement. -/
  | statement (between : List Token) (kind : StatementKind) (first : Token) (body : List Token)
    (last : Token) (rest : Stretch)
  deriving DecidableEq, Repr, Inhabited

namespace Stretch

/-- The tokens of a stretch. -/
def tokens : Stretch → List Token
  | .gap between => between
  | .cutOff between _ first body => between ++ first :: body
  | .statement between _ first body last rest => between ++ first :: (body ++ last :: rest.tokens)

/-- No token of a gap starts a statement; a statement is of the kind that its first token tells, and
its last token, but none before it, ends statements. -/
def IsValid : Stretch → Prop
  | .gap between => ∀ t ∈ between, StatementKind.ofToken? t = none
  | .cutOff between kind first body =>
    (∀ t ∈ between, StatementKind.ofToken? t = none) ∧ StatementKind.ofToken? first = some kind ∧
      ∀ t ∈ first :: body, t.endsStatement = false
  | .statement between kind first body last rest =>
    (∀ t ∈ between, StatementKind.ofToken? t = none) ∧ StatementKind.ofToken? first = some kind ∧
      (∀ t ∈ first :: body, t.endsStatement = false) ∧ last.endsStatement = true ∧ rest.IsValid

instance decidableIsValid : DecidablePred IsValid
  | .gap _ => inferInstanceAs (Decidable (∀ _ ∈ _, _))
  | .cutOff .. => inferInstanceAs (Decidable (_ ∧ _ ∧ _))
  | .statement _ _ _ _ _ rest =>
    have := decidableIsValid rest
    inferInstanceAs (Decidable (_ ∧ _ ∧ _ ∧ _ ∧ _))

/-- What a collector answers to the tokens of a stretch: a statement with its last token, and
nothing with any other; it is collecting from the first token of a statement on, up to the last. -/
def answers : Stretch → List Answer
  | .gap between => between.map fun _ => .fed none false
  | .cutOff between _ first body =>
    (between.map fun _ => .fed none false) ++ (first :: body).map fun _ => .fed none true
  | .statement between kind first body last rest =>
    (between.map fun _ => .fed none false) ++ ((first :: body).map fun _ => .fed none true) ++
      .fed (some ⟨kind, first :: (body ++ [last]), ⟨first.loc.offset, last.stop⟩, first.loc⟩) false
        :: rest.answers

/-- The statement that nothing ends. -/
def openStatement : Stretch → Option OpenStatement
  | .gap _ => none
  | .cutOff _ kind first _ => some ⟨kind, first.loc⟩
  | .statement _ _ _ _ _ rest => rest.openStatement

/-- The collector behind a stretch. -/
def collector : Stretch → Collector
  | .gap _ => .idle
  | .cutOff _ kind first body => .collecting kind first body.reverse
  | .statement _ _ _ _ _ rest => rest.collector

/-- One token more at the end of a stretch. -/
def push : Stretch → Token → Stretch
  | .gap between, t =>
    match StatementKind.ofToken? t with
    | some kind => .cutOff between kind t []
    | none => .gap (between ++ [t])
  | .cutOff between kind first body, t =>
    if t.endsStatement then .statement between kind first body t (.gap [])
    else .cutOff between kind first (body ++ [t])
  | .statement between kind first body last rest, t =>
    .statement between kind first body last (rest.push t)

/-- The stretch that some tokens make up. -/
def ofTokens (ts : List Token) : Stretch := ts.foldl push (.gap [])

variable {s : Stretch} {t first last : Token} {between body ts : List Token} {kind : StatementKind}

/-! ### One token more -/

theorem endsStatement_of_ofToken? (h : StatementKind.ofToken? t = some kind) :
    t.endsStatement = false := by
  have hkind := StatementKind.kind_of_ofToken? h
  simp [Token.endsStatement, Token.isPunctuator, Token.is, Token.isLineTerminator, hkind]

theorem tokens_push (s : Stretch) (t : Token) : (s.push t).tokens = s.tokens ++ [t] := by
  induction s with
  | gap between =>
    rw [push]
    split <;> rfl
  | cutOff between kind first body =>
    rw [push]
    split <;> simp [tokens]
  | statement between kind first body last rest ih => simp [push, tokens, ih]

/-- One token more starts a statement, ends one, or stands inside one or in a gap. -/
theorem IsValid.push (h : s.IsValid) (t : Token) : (s.push t).IsValid := by
  induction s with
  | gap between =>
    rw [Stretch.push]
    split
    · next kind hkind =>
      exact ⟨h, hkind, by simpa using endsStatement_of_ofToken? hkind⟩
    · next hnone => exact List.forall_mem_append.2 ⟨h, by simpa using hnone⟩
  | cutOff between kind first body =>
    obtain ⟨hgap, hfirst, hbody⟩ := h
    rw [Stretch.push]
    split
    · next hlast => exact ⟨hgap, hfirst, hbody, hlast, by simp [IsValid]⟩
    · next hlast =>
      refine ⟨hgap, hfirst, ?_⟩
      rw [← List.cons_append]
      exact List.forall_mem_append.2 ⟨hbody, by simpa using hlast⟩
  | statement between kind first body last rest ih =>
    obtain ⟨hgap, hfirst, hbody, hlast, hrest⟩ := h
    exact ⟨hgap, hfirst, hbody, hlast, ih hrest⟩

/-- A collector does with a token what the stretch does, and answers as the longer stretch tells. -/
theorem call_feed (s : Stretch) (t : Token) :
    (s.collector.call (.feed t)).1 = (s.push t).collector ∧
      (s.push t).answers = s.answers ++ [(s.collector.call (.feed t)).2] := by
  -- the stretch is followed along its end
  induction s with
  | gap between =>
    cases hkind : StatementKind.ofToken? t with
    | none =>
      have hfeed : Collector.idle.feed t = (.idle, none) := Collector.feed_idle_of_none hkind
      simp [push, hkind, collector, Collector.call, hfeed, answers, Collector.isCollecting]
    | some kind =>
      have hfeed := Collector.feed_idle_of_some hkind
      simp [push, hkind, collector, Collector.call, hfeed, answers, Collector.isCollecting]
  | cutOff between kind first body =>
    cases hends : t.endsStatement with
    | true =>
      have hfeed : (Collector.collecting kind first body.reverse).feed t =
          (.idle, some (Collector.statement kind first body.reverse.reverse t)) :=
        Collector.feed_collecting_of_ends hends _
      simp [push, hends, collector, Collector.call, hfeed, answers, Collector.isCollecting,
        Collector.statement]
    | false =>
      have hfeed : (Collector.collecting kind first body.reverse).feed t =
          (.collecting kind first (t :: body.reverse), none) :=
        Collector.feed_collecting_of_not_ends hends _
      simp [push, hends, collector, Collector.call, hfeed, answers, Collector.isCollecting]
  | statement between kind first body last rest ih =>
    obtain ⟨hcollector, hanswers⟩ := ih
    refine ⟨hcollector, ?_⟩
    simp [push, answers, hanswers, collector]

/-- The end of the stream reports the statement that nothing ends, and nothing is left of it. -/
theorem call_finish (s : Stretch) :
    s.collector.call .finish = (.idle, .ended s.openStatement false) := by
  induction s with
  | gap between => rfl
  | cutOff between kind first body => rfl
  | statement between kind first body last rest ih => exact ih

/-! ### The only split -/

theorem foldl_push_gap (h : ∀ t ∈ ts, StatementKind.ofToken? t = none) :
    ts.foldl push (.gap between) = .gap (between ++ ts) := by
  induction ts generalizing between with
  | nil => simp
  | cons t ts ih =>
    obtain ⟨ht, hts⟩ := List.forall_mem_cons.1 h
    rw [List.foldl_cons, push, ht, ih hts, List.append_assoc, List.singleton_append]

theorem foldl_push_cutOff (h : ∀ t ∈ ts, t.endsStatement = false) :
    ts.foldl push (.cutOff between kind first body) =
      .cutOff between kind first (body ++ ts) := by
  induction ts generalizing body with
  | nil => simp
  | cons t ts ih =>
    obtain ⟨ht, hts⟩ := List.forall_mem_cons.1 h
    rw [List.foldl_cons, push, if_neg (by simp [ht]), ih hts, List.append_assoc,
      List.singleton_append]

theorem foldl_push_statement (rest : Stretch) (ts : List Token) :
    ts.foldl push (.statement between kind first body last rest) =
      .statement between kind first body last (ts.foldl push rest) := by
  induction ts generalizing rest with
  | nil => rfl
  | cons t ts ih => exact ih (rest.push t)

/-- A gap and the first token of a statement behind it. -/
theorem foldl_push_start (hgap : ∀ t ∈ between, StatementKind.ofToken? t = none)
    (hfirst : StatementKind.ofToken? first = some kind) :
    (between ++ first :: ts).foldl push (.gap []) =
      ts.foldl push (.cutOff between kind first []) := by
  rw [List.foldl_append, foldl_push_gap hgap, List.nil_append, List.foldl_cons, push, hfirst]

/-- No stretch splits in two ways: its tokens tell where its gaps and statements are. -/
theorem ofTokens_tokens (h : s.IsValid) : ofTokens s.tokens = s := by
  induction s with
  | gap between => rw [ofTokens, tokens, foldl_push_gap h, List.nil_append]
  | cutOff between kind first body =>
    obtain ⟨hgap, hfirst, hbody⟩ := h
    rw [ofTokens, tokens, foldl_push_start hgap hfirst,
      foldl_push_cutOff (List.forall_mem_cons.1 hbody).2, List.nil_append]
  | statement between kind first body last rest ih =>
    obtain ⟨hgap, hfirst, hbody, hlast, hrest⟩ := h
    rw [ofTokens, tokens, foldl_push_start hgap hfirst, List.foldl_append,
      foldl_push_cutOff (List.forall_mem_cons.1 hbody).2, List.nil_append, List.foldl_cons, push,
      if_pos hlast, foldl_push_statement]
    exact congrArg _ (ih hrest)

end Stretch

/-! ### Histories -/

/-- The stretches that a collector was fed: those that were ended, and the one that goes on. -/
structure History where
  /-- The stretches before the ends, in their order. -/
  ended : List Stretch
  /-- What came behind the last end. -/
  current : Stretch
  deriving DecidableEq, Repr, Inhabited

namespace History

/-- All stretches are valid. -/
def IsValid (h : History) : Prop := (∀ s ∈ h.ended, s.IsValid) ∧ h.current.IsValid

instance : DecidablePred IsValid := fun _ => inferInstanceAs (Decidable (_ ∧ _))

/-- The uses that a history is made of: the tokens of its stretches, with the ends between them. -/
def calls (h : History) : List Call :=
  (h.ended.flatMap fun s => s.tokens.map .feed ++ [.finish]) ++ h.current.tokens.map .feed

/-- What a collector answers to the uses of a history.  The end of a stretch reports the statement
that nothing ends. -/
def answers (h : History) : List Answer :=
  (h.ended.flatMap fun s => s.answers ++ [.ended s.openStatement false]) ++ h.current.answers

/-- Nothing has happened. -/
def empty : History := ⟨[], .gap []⟩

/-- One use more. -/
def push (h : History) : Call → History
  | .feed t => { h with current := h.current.push t }
  | .finish => ⟨h.ended ++ [h.current], .gap []⟩

/-- The history of some uses. -/
def ofCalls (calls : List Call) : History := calls.foldl push empty

variable {h : History}

/-! ### One use more -/

theorem calls_push (h : History) (u : Call) : (h.push u).calls = h.calls ++ [u] := by
  cases u with
  | feed t => simp [push, calls, Stretch.tokens_push]
  | finish => simp [push, calls, Stretch.tokens]

theorem IsValid.push (hvalid : h.IsValid) (u : Call) : (h.push u).IsValid := by
  obtain ⟨hended, hcurrent⟩ := hvalid
  cases u with
  | feed t => exact ⟨hended, hcurrent.push t⟩
  | finish =>
    refine ⟨List.forall_mem_append.2 ⟨hended, by simpa using hcurrent⟩, ?_⟩
    simp [History.push, Stretch.IsValid]

/-- A collector does with one use what the history does, and answers as the longer history tells. -/
theorem call_collector (h : History) (u : Call) :
    (h.current.collector.call u).1 = (h.push u).current.collector ∧
      (h.push u).answers = h.answers ++ [(h.current.collector.call u).2] := by
  cases u with
  | feed t =>
    obtain ⟨hcollector, hanswers⟩ := h.current.call_feed t
    exact ⟨hcollector, by simp [push, answers, hanswers]⟩
  | finish => simp [h.current.call_finish, push, answers, Stretch.collector, Stretch.answers]

/-! ### All uses -/

/-- The history of some uses is made of them, and splits into gaps and statements. -/
theorem ofCalls_spec (calls : List Call) :
    (ofCalls calls).calls = calls ∧ (ofCalls calls).IsValid ∧
      Collector.idle.callAll calls =
        ((ofCalls calls).current.collector, (ofCalls calls).answers) := by
  induction calls using List.reverseRecOn with
  | nil => exact ⟨rfl, ⟨by simp [ofCalls, empty], by simp [ofCalls, empty, Stretch.IsValid]⟩, rfl⟩
  | append_singleton calls u ih =>
    obtain ⟨hcalls, hvalid, hrun⟩ := ih
    have hpush : ofCalls (calls ++ [u]) = (ofCalls calls).push u := by simp [ofCalls]
    obtain ⟨hcollector, hanswers⟩ := (ofCalls calls).call_collector u
    rw [hpush]
    refine ⟨by rw [calls_push, hcalls], hvalid.push u, ?_⟩
    rw [Collector.callAll_append, hrun, hanswers, ← hcollector]
    rfl

theorem foldl_push_feed (ended : List Stretch) (s : Stretch) (ts : List Token) :
    (ts.map Call.feed).foldl push ⟨ended, s⟩ = ⟨ended, ts.foldl Stretch.push s⟩ := by
  induction ts generalizing s with
  | nil => rfl
  | cons t ts ih => exact ih (s.push t)

theorem foldl_push_ended {stretches : List Stretch} (hvalid : ∀ s ∈ stretches, s.IsValid)
    (ended : List Stretch) :
    (stretches.flatMap fun s => s.tokens.map Call.feed ++ [.finish]).foldl push ⟨ended, .gap []⟩ =
      ⟨ended ++ stretches, .gap []⟩ := by
  induction stretches generalizing ended with
  | nil => simp
  | cons s stretches ih =>
    obtain ⟨hs, hstretches⟩ := List.forall_mem_cons.1 hvalid
    rw [List.flatMap_cons, List.foldl_append, List.foldl_append, foldl_push_feed,
      show s.tokens.foldl Stretch.push (.gap []) = s from Stretch.ofTokens_tokens hs]
    simp [push, ih hstretches]

theorem ofCalls_calls (hvalid : h.IsValid) : ofCalls h.calls = h := by
  obtain ⟨hended, hcurrent⟩ := hvalid
  rw [ofCalls, calls, List.foldl_append, empty, foldl_push_ended hended, foldl_push_feed,
    show h.current.tokens.foldl Stretch.push (.gap []) = h.current from
      Stretch.ofTokens_tokens hcurrent]
  rfl

end History

/-- Whatever tokens a collector is fed, and whenever the stream ends, the uses split into stretches
of gaps and statements in one way only.  The collector answers every use as this split tells, and
holds no more than the statement that is open at last. -/
theorem Collector.callAll_splits (calls : List Call) :
    (∃! h : History, h.IsValid ∧ h.calls = calls) ∧
      ∀ h : History, h.IsValid → h.calls = calls →
        idle.callAll calls = (h.current.collector, h.answers) := by
  obtain ⟨hcalls, hvalid, hrun⟩ := History.ofCalls_spec calls
  have hunique : ∀ h : History, h.IsValid → h.calls = calls → h = History.ofCalls calls := by
    rintro h hh rfl
    exact (History.ofCalls_calls hh).symm
  refine ⟨⟨_, ⟨hvalid, hcalls⟩, fun h hh => hunique h hh.1 hh.2⟩, fun h hvalid hcalls => ?_⟩
  rw [hunique h hvalid hcalls, hrun]

/-- A semicolon that no statement precedes, a keyword inside a statement, the end of the stream in
the middle of it, and a statement of the next stream, to which nothing of the first is left. -/
theorem Collector.callAll_splits_reused :
    let place (offset : Nat) : Location := ⟨1, offset + 1, offset⟩
    let word (text : String) (offset : Nat) : Token := ⟨.keyword, text, place offset⟩
    let semicolon (offset : Nat) : Token := ⟨.punctuator, ";", place offset⟩
    idle.callAll [.feed (semicolon 0), .feed (word "import" 1), .feed (word "export" 7), .finish,
        .feed (word "from" 0), .feed (word "export" 4), .feed (semicolon 10)] =
      (.idle, [.fed none false, .fed none true, .fed none true,
        .ended (some ⟨.imports, place 1⟩) false, .fed none false, .fed none true,
        .fed (some ⟨.exports, [word "export" 4, semicolon 10], ⟨4, 11⟩, place 4⟩) false]) := by
  intro place word semicolon
  let cut : Stretch := .cutOff [semicolon 0] .imports (word "import" 1) [word "export" 7]
  let whole : Stretch :=
    .statement [word "from" 0] .exports (word "export" 4) [] (semicolon 10) (.gap [])
  have hvalid : History.IsValid ⟨[cut], whole⟩ := by decide +kernel
  exact ((callAll_splits _).2 ⟨[cut], whole⟩ hvalid rfl).trans (by decide +kernel)

end ImportScan
