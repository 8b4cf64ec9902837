import ImportScan.Context

/-!
# One stack for all contexts

The context stack keeps the open brackets of every context apart.  What it accepts is simpler than
that: one flat stack, on which a substitution is an opening like any other, closed by a brace.

## Main definitions

* `Opening`, `FlatStack` — what can be open, and all that is open.
* `FlatStack.feed`, `FlatStack.feedAll` — what one token and what many tokens do to it.
* `ContextStack.openings` — the flat stack of a context stack.
* `ContextStack.feed` — what a token does to a context stack.

## Main results

* `ContextStack.snapshot_eq` — what a mismatch shows is the flat stack.
* `ContextStack.feedsAlike_atToken` — **a token does to the context stack what it does to the flat
  one**, and where it does not fit, the flat stack says what is reported.
* `ContextStack.finish_eq` — the check at the end asks whether the flat stack is empty.
-/

namespace ImportScan

/-! ### Openings -/

/-- Something that is open. -/
inductive Opening where
  /-- A bracket. -/
  | bracket (b : Bracket)
  /-- A substitution inside a template. -/
  | substitution
  deriving DecidableEq, Repr, Inhabited

namespace Opening

/-- The sign that has opened it. -/
def sign : Opening → String
  | .bracket b => b.opener
  | .substitution => ContextStack.substitutionOpener

/-- The pair of brackets whose closing sign closes it. -/
def pair : Opening → Bracket
  | .bracket b => b
  | .substitution => .curly

end Opening

namespace Token

/-- Whether the token starts a substitution. -/
def startsSubstitution (t : Token) : Bool :=
  t.is .templateLiteral ContextStack.substitutionOpener

/-- What the token opens, if anything: a substitution, or a bracket if it is a punctuator. -/
def opening? (t : Token) : Option Opening :=
  if t.startsSubstitution then some .substitution
  else if t.kind = .punctuator then (Bracket.ofOpener? t.lexeme).map .bracket
  else none

/-- The pair of brackets that the token closes, if it is such a punctuator. -/
def closing? (t : Token) : Option Bracket :=
  if t.kind = .punctuator then Bracket.ofCloser? t.lexeme else none

theorem kind_of_startsSubstitution {t : Token} (h : t.startsSubstitution = true) :
    t.kind = .templateLiteral := by
  rw [startsSubstitution, Token.is, Bool.and_eq_true, beq_iff_eq] at h
  exact h.1

theorem opening?_of_ne {t : Token} (hs : t.startsSubstitution = false)
    (hk : t.kind ≠ .punctuator) : t.opening? = none := by
  simp [opening?, hs, hk]

theorem closing?_of_ne {t : Token} (hk : t.kind ≠ .punctuator) : t.closing? = none := by
  simp [closing?, hk]

theorem opening?_of_eq {t : Token} (hk : t.kind = .punctuator) :
    t.opening? = (Bracket.ofOpener? t.lexeme).map .bracket := by
  simp [opening?, startsSubstitution, Token.is, hk]

theorem closing?_of_eq {t : Token} (hk : t.kind = .punctuator) :
    t.closing? = Bracket.ofCloser? t.lexeme := by
  simp [closing?, hk]

end Token

/-! ### The flat stack -/

/-- All that is open, the innermost opening first. -/
abbrev FlatStack := List Opening

namespace FlatStack

/-- What a token does to the flat stack: it opens something, or it closes the innermost opening, or
it does nothing.  There is no answer when it would close something else than the innermost opening.
-/
def feed (s : FlatStack) (t : Token) : Option FlatStack :=
  match t.opening?, t.closing? with
  | some o, _ => some (o :: s)
  | none, none => some s
  | none, some b =>
    match s with
    | o :: outer => if o.pair = b then some outer else none
    | [] => none

/-- What some tokens do to the flat stack, one after the other. -/
def feedAll (s : FlatStack) : List Token → Option FlatStack
  | [] => some s
  | t :: ts => (s.feed t).bind fun next => feedAll next ts

/-- All that is open as it is shown, from the outside inwards. -/
def signs (s : FlatStack) : List String := s.reverse.map Opening.sign

/-- The sign that closes the innermost opening if that is a bracket. -/
def bracketCloser : FlatStack → Option String
  | .bracket b :: _ => some b.closer
  | _ => none

/-- The mismatch of a token that does not fit. -/
def misfit (s : FlatStack) (t : Token) : BalanceMismatch :=
  ⟨s.bracketCloser, some t.lexeme, s.signs, t.loc⟩

/-- The mismatch of a text that ends while something is open. -/
def unclosed (s : FlatStack) (loc : Location) : BalanceMismatch :=
  ⟨s.head?.map fun o => o.pair.closer, none, s.signs, loc⟩

variable {s : FlatStack} {t : Token}

theorem feed_of_opening {o : Opening} (h : t.opening? = some o) : s.feed t = some (o :: s) := by
  simp [feed, h]

theorem feed_of_neither (ho : t.opening? = none) (hc : t.closing? = none) : s.feed t = some s := by
  simp [feed, ho, hc]

theorem feed_nil_of_closing {b : Bracket} (ho : t.opening? = none) (hc : t.closing? = some b) :
    feed [] t = none := by
  simp [feed, ho, hc]

theorem feed_cons_of_closing {o : Opening} {b : Bracket} (ho : t.opening? = none)
    (hc : t.closing? = some b) : feed (o :: s) t = if o.pair = b then some s else none := by
  simp [feed, ho, hc]

theorem feedAll_append (s : FlatStack) (ts us : List Token) :
    s.feedAll (ts ++ us) = (s.feedAll ts).bind fun next => next.feedAll us := by
  induction ts generalizing s with
  | nil => rfl
  | cons t ts ih =>
    rw [List.cons_append, feedAll, feedAll, Option.bind_assoc]
    exact congrArg _ (funext ih)

@[simp] theorem feedAll_singleton (s : FlatStack) (t : Token) : s.feedAll [t] = s.feed t := by
  simp [feedAll]

end FlatStack

/-! ### The flat stack of a context stack -/

namespace ContextStack

/-- All that is open in a context stack. -/
def openings (s : ContextStack) : FlatStack :=
  (s.nested.flatMap fun level => level.map .bracket ++ [.substitution]) ++ s.root.map .bracket

/-- All that is open outside of the innermost context. -/
def below (s : ContextStack) : FlatStack :=
  match s.nested with
  | [] => []
  | _ :: outer => .substitution :: openings ⟨s.root, outer⟩

@[simp] theorem openings_push (s : ContextStack) :
    s.push.openings = .substitution :: s.openings := rfl

/-- The brackets of the innermost context come first. -/
theorem openings_eq (s : ContextStack) : s.openings = s.top.map .bracket ++ s.below := by
  obtain ⟨root, nested⟩ := s
  cases nested with
  | nil => simp [openings, top, below]
  | cons level outer => simp [openings, top, below]

theorem openings_setTop (s : ContextStack) (brackets : BracketStack) :
    (s.setTop brackets).openings = brackets.map .bracket ++ s.below := by
  obtain ⟨root, nested⟩ := s
  cases nested with
  | nil => simp [openings, setTop, below]
  | cons level outer => simp [openings, setTop, below]

@[simp] theorem depth_setTop (s : ContextStack) (brackets : BracketStack) :
    (s.setTop brackets).depth = s.depth := by
  obtain ⟨root, nested⟩ := s
  cases nested <;> rfl

/-- The contexts are the open substitutions. -/
theorem count_openings (s : ContextStack) : s.openings.count .substitution = s.depth := by
  have hlevel : ∀ level : BracketStack, (level.map Opening.bracket).count .substitution = 0 := by
    intro level
    rw [List.count_eq_zero, List.mem_map]
    rintro ⟨b, -, hb⟩
    cases hb
  obtain ⟨root, nested⟩ := s
  unfold openings depth
  rw [List.count_append, hlevel, Nat.add_zero]
  induction nested with
  | nil => rfl
  | cons level outer ih =>
    rw [List.flatMap_cons, List.count_append, List.count_append, hlevel, ih, List.length_cons]
    simp [Nat.add_comm]

/-- What a mismatch shows is the flat stack. -/
theorem snapshot_eq (s : ContextStack) : s.snapshot = s.openings.signs := by
  rw [snapshot, FlatStack.signs, openings, List.reverse_append, List.map_append,
    List.reverse_flatMap, List.map_flatMap, ← List.map_reverse, List.map_map]
  congr 1
  refine congrArg (s.nested.reverse.flatMap ·) (funext fun level => ?_)
  simp [Function.comp_def, Opening.sign]

/-- The brackets that are open in the innermost context say what closes the innermost bracket. -/
theorem bracketCloser_openings (s : ContextStack) : s.openings.bracketCloser = s.top.expected := by
  rw [openings_eq]
  cases s.top with
  | nil =>
    unfold below
    split <;> rfl
  | cons b brackets => rfl

/-! ### One token -/

/-- What a token does to a context stack. -/
def feed (s : ContextStack) (t : Token) : Except BalanceMismatch ContextStack :=
  if s.closesSubstitution t then s.pop t.loc else s.observe t

/-- The context stack as a token finds it: the start of a substitution is noticed before the token
is shown to it. -/
def atToken (s : ContextStack) (t : Token) : ContextStack :=
  if t.startsSubstitution then s.push else s

variable {s : ContextStack} {t : Token}

theorem closesSubstitution_iff :
    s.closesSubstitution t = true ↔ t.kind = .punctuator ∧ t.lexeme = Bracket.curly.closer ∧
      s.top = [] ∧ ∃ level outer, s.nested = level :: outer := by
  obtain ⟨root, nested⟩ := s
  cases nested with
  | nil => simp [closesSubstitution, depth]
  | cons level outer => simp [closesSubstitution, depth, Token.isPunctuator, Token.is, and_assoc]

theorem feed_of_ne (hk : t.kind ≠ .punctuator) : s.feed t = .ok s := by
  have hcloses : ¬ s.closesSubstitution t = true := fun h => hk (closesSubstitution_iff.1 h).1
  rw [feed, if_neg hcloses, observe_eq, if_neg hk]

/-- A brace where no bracket is open inside a substitution ends the substitution. -/
theorem feed_of_closes (h : s.closesSubstitution t = true) :
    ∃ outer, s.pop t.loc = .ok outer ∧ s.openings = .substitution :: outer.openings := by
  obtain ⟨-, -, htop, level, outer, hnested⟩ := closesSubstitution_iff.1 h
  obtain rfl : level = [] := by simpa [top, hnested] using htop
  exact ⟨⟨s.root, outer⟩, by simp [pop_eq, hnested], by simp [openings, hnested]⟩

theorem feed_of_not_closes (h : s.closesSubstitution t = false) (hk : t.kind = .punctuator) :
    s.feed t = match s.top.feed t.lexeme with
      | .ok brackets => .ok (s.setTop brackets)
      | .error () => .error (s.openings.misfit t) := by
  rw [feed, if_neg (by simp [h]), observe_eq, if_pos hk, FlatStack.misfit, bracketCloser_openings,
    ← snapshot_eq]
  rfl

/-- Only the end of a substitution takes a context away. -/
theorem depth_feed {next : ContextStack} (h : s.feed t = .ok next) :
    next.depth = if s.closesSubstitution t then s.depth - 1 else s.depth := by
  cases hcloses : s.closesSubstitution t with
  -- the substitution goes, and nothing else that counts
  | true =>
    obtain ⟨outer, hpop, hopenings⟩ := feed_of_closes hcloses
    rw [feed, if_pos hcloses, hpop] at h
    cases h
    rw [if_pos rfl, ← count_openings s, hopenings, List.count_cons_self, count_openings]
    rfl
  | false =>
    rw [if_neg (by simp)]
    by_cases hk : t.kind = .punctuator
    · rw [feed_of_not_closes hcloses hk] at h
      split at h
      · cases h
        exact depth_setTop _ _
      · cases h
    · rw [feed_of_ne hk] at h
      cases h
      rfl

/-- A token fits both stacks and leaves them alike, or it fits neither, and then the flat stack says
what is reported. -/
def FeedsAlike (s : ContextStack) (t : Token) (fed : Except BalanceMismatch ContextStack) : Prop :=
  (∃ next, fed = .ok next ∧ s.openings.feed t = some next.openings) ∨
    (fed = .error (s.openings.misfit t) ∧ s.openings.feed t = none)

/-- A closing bracket. -/
theorem feedsAlike_of_closer {b : Bracket} (hk : t.kind = .punctuator) (hb : t.lexeme = b.closer) :
    s.FeedsAlike t (s.feed t) := by
  have ho : t.opening? = none := by simp [Token.opening?_of_eq hk, hb]
  have hc : t.closing? = some b := by simp [Token.closing?_of_eq hk, hb]
  cases hcloses : s.closesSubstitution t with
  | true =>
    -- the brace finds the start of a substitution on the flat stack
    obtain ⟨outer, hpop, hopenings⟩ := feed_of_closes hcloses
    obtain rfl : b = .curly := by
      have hcurly := (closesSubstitution_iff.1 hcloses).2.1
      rw [hb] at hcurly
      cases b <;> simp [Bracket.closer] at hcurly ⊢
    refine .inl ⟨outer, by rw [feed, if_pos hcloses, hpop], ?_⟩
    rw [hopenings, FlatStack.feed_cons_of_closing ho hc]
    rfl
  | false =>
    rw [feed_of_not_closes hcloses hk, hb, BracketStack.feed_closer]
    cases htop : s.top with
    | nil =>
      -- no bracket is open in the context, and the brace of its substitution is excluded
      refine .inr ⟨rfl, ?_⟩
      rw [openings_eq, htop, List.map_nil, List.nil_append, below]
      split
      · exact FlatStack.feed_nil_of_closing ho hc
      · next level outer hnested =>
        have hne : Opening.substitution.pair ≠ b := by
          rintro rfl
          have hclosed := closesSubstitution_iff.2 ⟨hk, hb, htop, level, outer, hnested⟩
          simp [hclosed] at hcloses
        rw [FlatStack.feed_cons_of_closing ho hc, if_neg hne]
    | cons x xs =>
      have hfeed : s.openings.feed t
          = if x = b then some (xs.map .bracket ++ s.below) else none := by
        rw [openings_eq, htop]
        exact FlatStack.feed_cons_of_closing ho hc
      by_cases hx : x = b
      · refine .inl ⟨s.setTop xs, by simp [hx], ?_⟩
        rw [hfeed, if_pos hx, openings_setTop]
      · refine .inr ⟨by simp [hx], ?_⟩
        rw [hfeed, if_neg hx]

/-- An opening bracket. -/
theorem feedsAlike_of_opener {b : Bracket} (hk : t.kind = .punctuator) (hb : t.lexeme = b.opener) :
    s.FeedsAlike t (s.feed t) := by
  have hcloses : s.closesSubstitution t = false := by
    rw [Bool.eq_false_iff]
    intro h
    have hcurly := (closesSubstitution_iff.1 h).2.1
    rw [hb] at hcurly
    cases b <;> simp [Bracket.opener, Bracket.closer] at hcurly
  have ho : t.opening? = some (.bracket b) := by simp [Token.opening?_of_eq hk, hb]
  rw [feed_of_not_closes hcloses hk, hb, BracketStack.feed_opener]
  refine .inl ⟨s.setTop (b :: s.top), rfl, ?_⟩
  rw [FlatStack.feed_of_opening ho, openings_setTop, List.map_cons, List.cons_append, ← openings_eq]

/-- **A token does to the context stack what it does to the flat one**, and where it does not fit,
the flat stack says what is reported. -/
theorem feedsAlike_atToken (s : ContextStack) (t : Token) :
    s.FeedsAlike t ((s.atToken t).feed t) := by
  unfold atToken
  split
  · next hstarts =>
    have hk : t.kind ≠ .punctuator := by simp [Token.kind_of_startsSubstitution hstarts]
    refine .inl ⟨s.push, feed_of_ne hk, ?_⟩
    rw [openings_push]
    exact FlatStack.feed_of_opening (by simp [Token.opening?, hstarts])
  · next hstarts =>
    rw [Bool.not_eq_true] at hstarts
    by_cases hk : t.kind = .punctuator
    · cases ho : Bracket.ofOpener? t.lexeme with
      | some b => exact feedsAlike_of_opener hk (Bracket.eq_opener_of_ofOpener? ho)
      | none =>
        cases hc : Bracket.ofCloser? t.lexeme with
        | some b => exact feedsAlike_of_closer hk (Bracket.eq_closer_of_ofCloser? hc)
        | none =>
          -- no bracket at all, and so no brace that could close something
          have hcloses : s.closesSubstitution t = false := by
            rw [Bool.eq_false_iff]
            intro h
            rw [(closesSubstitution_iff.1 h).2.1] at hc
            simp at hc
          refine .inl ⟨s, ?_, ?_⟩
          · rw [feed_of_not_closes hcloses hk, BracketStack.feed_of_none ho hc]
            exact congrArg _ s.setTop_top
          · exact FlatStack.feed_of_neither (by simp [Token.opening?_of_eq hk, ho])
              (by simp [Token.closing?_of_eq hk, hc])
    · exact .inl ⟨s, feed_of_ne hk,
        FlatStack.feed_of_neither (Token.opening?_of_ne hstarts hk) (Token.closing?_of_ne hk)⟩

/-! ### The end of the text -/

/-- The check at the end asks whether the flat stack is empty. -/
theorem finish_eq (s : ContextStack) (loc : Location) :
    s.finish loc = if s.openings = [] then .ok () else .error (s.openings.unclosed loc) := by
  obtain ⟨root, nested⟩ := s
  cases nested with
  | nil =>
    cases root with
    | nil => rfl
    | cons b root => simp [finish, depth, openings, mismatch, snapshot_eq, top, FlatStack.unclosed,
        BracketStack.expected, Opening.pair]
  | cons level outer =>
    cases level with
    | nil => simp [finish, depth, openings, mismatch, snapshot_eq, top, FlatStack.unclosed,
        BracketStack.expected, Opening.pair]
    | cons b level => simp [finish, depth, openings, mismatch, snapshot_eq, top, FlatStack.unclosed,
        BracketStack.expected, Opening.pair]

end ContextStack

end ImportScan
