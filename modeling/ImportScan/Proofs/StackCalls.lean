import ImportScan.Proofs.FlatStack

/-!
# The uses of a context stack

A context stack is used in any order: substitutions start and end, tokens are shown to it, it is
asked whether a token ends a substitution, and it is checked.  Whatever the order is, all that is
open behaves as one stack, and the stack that a refused use leaves behind is the one it has found.

A pass uses a context stack in a certain order only; there a token can be fed to the flat stack at
once (`FlatStack.feed`).  Here no order is assumed, so that a substitution may be ended where none
has started and a brace may be shown where it would end one.

## Main definitions

* `ContextStack.Call`, `ContextStack.Answer` — the uses of a context stack, and what they answer.
* `ContextStack.call`, `ContextStack.callAll` — one use, and one after the other.
* `FlatStack.Permits`, `FlatStack.Evolves` — what one use and what several do to one flat stack.

## Main results

* `ContextStack.permits_iff` — a use succeeds exactly where the flat stack permits it, and does the
  same to both.
* `ContextStack.refused_call` — a use that is refused changes nothing and reports all that is open.
* `ContextStack.evolves_iff` — several uses, by induction on them.
* `ContextStack.acts_as_one_stack` — **a context stack is one stack, in whatever order it is used**.
-/

namespace ImportScan

/-! ### Using a context stack -/

namespace ContextStack

/-- The uses of a context stack. -/
inductive Call where
  /-- A substitution starts. -/
  | push
  /-- A substitution ends at a place. -/
  | pop (loc : Location)
  /-- A token is shown. -/
  | observe (t : Token)
  /-- Would the token end a substitution? -/
  | closes (t : Token)
  /-- The text ends at a place. -/
  | finish (loc : Location)
  deriving DecidableEq, Repr, Inhabited

/-- What a context stack answers. -/
inductive Answer where
  /-- The use has succeeded. -/
  | done
  /-- The answer to a question. -/
  | told (holds : Bool)
  /-- The use is refused. -/
  | refused (m : BalanceMismatch)
  deriving DecidableEq, Repr, Inhabited

/-- Whether a use has not been refused. -/
def Answer.succeeds : Answer → Bool
  | .refused _ => false
  | _ => true

/-- What a use leaves behind, and what it answers. -/
def answered : EStateM.Result BalanceMismatch ContextStack Unit → ContextStack × Answer
  | .ok () s => (s, .done)
  | .error m s => (s, .refused m)

/-- Use a context stack. -/
def call (s : ContextStack) : Call → ContextStack × Answer
  | .push => (s.push, .done)
  | .pop loc => answered ((popM loc).run s)
  | .observe t => answered ((observeM t).run s)
  | .closes t => (s, .told (s.closesSubstitution t))
  | .finish loc =>
    match s.finish loc with
    | .ok () => (s, .done)
    | .error m => (s, .refused m)

/-- Use a context stack several times. -/
def callAll (s : ContextStack) : List Call → ContextStack × List Answer
  | [] => (s, [])
  | c :: calls =>
    let (s, answer) := s.call c
    let (s, answers) := s.callAll calls
    (s, answer :: answers)

end ContextStack

/-! ### One flat stack -/

namespace FlatStack

open ContextStack (Call)

/-- The flat stack permits a use, which leads to another flat stack: a substitution that starts and
an opening bracket are put on it, and taken from the top again by the end of a substitution and the
closing bracket of the same pair.  Only punctuators are brackets. -/
inductive Permits : FlatStack → Call → FlatStack → Prop where
  | push {s : FlatStack} : Permits s .push (.substitution :: s)
  | pop {s : FlatStack} {loc : Location} : Permits (.substitution :: s) (.pop loc) s
  | opener {s : FlatStack} {t : Token} {b : Bracket} (hkind : t.kind = .punctuator)
      (hsign : t.lexeme = b.opener) : Permits s (.observe t) (.bracket b :: s)
  | closer {s : FlatStack} {t : Token} {b : Bracket} (hkind : t.kind = .punctuator)
      (hsign : t.lexeme = b.closer) : Permits (.bracket b :: s) (.observe t) s
  | other {s : FlatStack} {t : Token} (hother : t.kind = .punctuator →
      ∀ b : Bracket, t.lexeme ≠ b.opener ∧ t.lexeme ≠ b.closer) : Permits s (.observe t) s
  | closes {s : FlatStack} {t : Token} : Permits s (.closes t) s
  | finish {loc : Location} : Permits [] (.finish loc) []

/-- Several uses lead from one flat stack to another.  A use that is not permitted is passed
over. -/
inductive Evolves : FlatStack → List Call → FlatStack → Prop where
  | nil {s : FlatStack} : Evolves s [] s
  | permitted {s next last : FlatStack} {c : Call} {calls : List Call} (hc : s.Permits c next)
      (hcalls : Evolves next calls last) : Evolves s (c :: calls) last
  | refused {s last : FlatStack} {c : Call} {calls : List Call} (hc : ∀ next, ¬ s.Permits c next)
      (hcalls : Evolves s calls last) : Evolves s (c :: calls) last

end FlatStack

namespace ContextStack

variable {s : ContextStack} {t : Token} {loc : Location} {f : FlatStack} {c : Call}

/-! ### The innermost opening -/

theorem below_ne_bracket (s : ContextStack) (b : Bracket) (f : FlatStack) :
    s.below ≠ .bracket b :: f := by
  unfold below
  split <;> simp

/-- The innermost opening is a bracket just when the innermost context has one open. -/
theorem openings_eq_bracket_iff {b : Bracket} :
    s.openings = .bracket b :: f ↔ ∃ brackets, s.top = b :: brackets ∧
      f = (s.setTop brackets).openings := by
  rw [openings_eq]
  cases htop : s.top with
  | nil => simp [below_ne_bracket]
  | cons x xs =>
    rw [List.map_cons, List.cons_append, List.cons.injEq, Opening.bracket.injEq]
    constructor
    · rintro ⟨rfl, rfl⟩
      exact ⟨xs, rfl, (openings_setTop s xs).symm⟩
    · rintro ⟨brackets, hbrackets, rfl⟩
      obtain ⟨rfl, rfl⟩ := List.cons.inj hbrackets
      exact ⟨rfl, (openings_setTop s xs).symm⟩

/-- The innermost opening is a substitution just when the innermost context is one with no bracket
open. -/
theorem openings_eq_substitution_iff :
    s.openings = .substitution :: f ↔ ∃ outer, s.nested = [] :: outer ∧
      f = openings ⟨s.root, outer⟩ := by
  obtain ⟨root, nested⟩ := s
  cases nested with
  | nil => cases root <;> simp [openings]
  | cons level outer => cases level <;> simp [openings, eq_comm]

/-- A token ends a substitution just when it is a closing brace and the innermost opening is one. -/
theorem closesSubstitution_iff_head :
    s.closesSubstitution t = true ↔
      t.isPunctuator Bracket.curly.closer = true ∧ s.openings.head? = some .substitution := by
  -- the substitution comes first if no bracket is open inside of it
  have hhead : s.openings.head? = some .substitution ↔ ∃ outer, s.nested = [] :: outer := by
    rw [List.head?_eq_some_iff]
    constructor
    · rintro ⟨f, hf⟩
      obtain ⟨outer, hnested, -⟩ := openings_eq_substitution_iff.1 hf
      exact ⟨outer, hnested⟩
    · rintro ⟨outer, hnested⟩
      exact ⟨_, openings_eq_substitution_iff.2 ⟨outer, hnested, rfl⟩⟩
  rw [hhead, closesSubstitution_iff, Token.isPunctuator, Token.is, Bool.and_eq_true, beq_iff_eq,
    beq_iff_eq, and_assoc]
  refine and_congr_right fun _ => and_congr_right fun _ => ?_
  constructor
  · rintro ⟨htop, level, outer, hnested⟩
    obtain rfl : level = [] := by simpa [top, hnested] using htop
    exact ⟨outer, hnested⟩
  · rintro ⟨outer, hnested⟩
    exact ⟨by simp [top, hnested], [], outer, hnested⟩

/-! ### One use -/

/-- The use has succeeded and left these openings. -/
def Leaves (result : ContextStack × Answer) (f : FlatStack) : Prop :=
  result.2.succeeds = true ∧ result.1.openings = f

theorem leaves_answered_iff {use : EStateM BalanceMismatch ContextStack Unit} :
    Leaves (answered (use.run s)) f ↔ ∃ next, stateBehind use s = .ok next ∧ next.openings = f := by
  rw [stateBehind]
  cases use.run s <;> simp [Leaves, answered, Answer.succeeds]

theorem pop_eq_ok_iff {next : ContextStack} :
    s.pop loc = .ok next ↔ ∃ outer, s.nested = [] :: outer ∧ next = ⟨s.root, outer⟩ := by
  obtain ⟨root, nested⟩ := s
  cases nested with
  | nil => simp [pop_eq]
  | cons level outer => cases level <;> simp [pop_eq, eq_comm]

/-- A substitution ends just where the innermost opening is one. -/
theorem permits_pop_iff : s.openings.Permits (.pop loc) f ↔ Leaves (s.call (.pop loc)) f := by
  have hpermits : s.openings.Permits (.pop loc) f ↔ s.openings = .substitution :: f := by
    constructor
    · generalize s.openings = g
      intro h
      cases h with
      | pop => rfl
    · intro h
      rw [h]
      exact .pop
  rw [hpermits, openings_eq_substitution_iff, call, leaves_answered_iff]
  constructor
  · rintro ⟨outer, hnested, rfl⟩
    exact ⟨_, pop_eq_ok_iff.2 ⟨outer, hnested, rfl⟩, rfl⟩
  · rintro ⟨next, hpop, rfl⟩
    obtain ⟨outer, hnested, rfl⟩ := pop_eq_ok_iff.1 hpop
    exact ⟨outer, hnested, rfl⟩

theorem observe_of_eq (hkind : t.kind = .punctuator) :
    s.observe t = match s.top.feed t.lexeme with
      | .ok brackets => .ok (s.setTop brackets)
      | .error () => .error (s.mismatch s.top.expected (some t.lexeme) t.loc) := by
  exact (observe_eq s t).trans (if_pos hkind)

theorem observe_opener {b : Bracket} (hkind : t.kind = .punctuator) (hsign : t.lexeme = b.opener) :
    ∃ next, s.observe t = .ok next ∧ next.openings = .bracket b :: s.openings := by
  refine ⟨s.setTop (b :: s.top), ?_, ?_⟩
  · rw [observe_of_eq hkind, hsign, BracketStack.feed_opener]
  · rw [openings_setTop, List.map_cons, List.cons_append, ← openings_eq]

/-- A closing bracket is taken just where the innermost opening is the same bracket. -/
theorem observe_closer_iff {b : Bracket} (hkind : t.kind = .punctuator)
    (hsign : t.lexeme = b.closer) :
    (∃ next, s.observe t = .ok next ∧ next.openings = f) ↔ s.openings = .bracket b :: f := by
  rw [openings_eq_bracket_iff, observe_of_eq hkind, hsign, BracketStack.feed_closer]
  cases htop : s.top with
  | nil => simp
  | cons x xs =>
    by_cases hx : x = b
    · simp [hx, eq_comm]
    · simp [hx]

/-- A token that is no bracket touches nothing. -/
theorem observe_other (h : t.kind = .punctuator →
    ∀ b : Bracket, t.lexeme ≠ b.opener ∧ t.lexeme ≠ b.closer) : s.observe t = .ok s := by
  by_cases hkind : t.kind = .punctuator
  · have hopener : Bracket.ofOpener? t.lexeme = none :=
      Option.eq_none_iff_forall_ne_some.2 fun b hb =>
        (h hkind b).1 (Bracket.eq_opener_of_ofOpener? hb)
    have hcloser : Bracket.ofCloser? t.lexeme = none :=
      Option.eq_none_iff_forall_ne_some.2 fun b hb =>
        (h hkind b).2 (Bracket.eq_closer_of_ofCloser? hb)
    rw [observe_of_eq hkind, BracketStack.feed_of_none hopener hcloser]
    exact congrArg _ s.setTop_top
  · rw [observe_eq, if_neg hkind]

/-- A token is an opening bracket, a closing one, or none. -/
theorem bracket_cases (t : Token) :
    (t.kind = .punctuator ∧ ∃ b : Bracket, t.lexeme = b.opener) ∨
    (t.kind = .punctuator ∧ ∃ b : Bracket, t.lexeme = b.closer) ∨
    (t.kind = .punctuator → ∀ b : Bracket, t.lexeme ≠ b.opener ∧ t.lexeme ≠ b.closer) := by
  by_cases hopener : t.kind = .punctuator ∧ ∃ b : Bracket, t.lexeme = b.opener
  · exact .inl hopener
  · by_cases hcloser : t.kind = .punctuator ∧ ∃ b : Bracket, t.lexeme = b.closer
    · exact .inr (.inl hcloser)
    · exact .inr (.inr fun hkind b =>
        ⟨fun hsign => hopener ⟨hkind, b, hsign⟩, fun hsign => hcloser ⟨hkind, b, hsign⟩⟩)

theorem permits_observe_iff :
    s.openings.Permits (.observe t) f ↔ Leaves (s.call (.observe t)) f := by
  rw [call, leaves_answered_iff]
  constructor
  · generalize hg : s.openings = g
    intro h
    cases h with
    | opener hkind hsign =>
      rw [← hg]
      exact observe_opener hkind hsign
    | closer hkind hsign => exact (observe_closer_iff hkind hsign).2 hg
    | other hother => exact ⟨s, observe_other hother, hg⟩
  · intro h
    -- the sign of the token tells what the call has done
    rcases bracket_cases t with ⟨hkind, b, hsign⟩ | ⟨hkind, b, hsign⟩ | hother
    · obtain ⟨next, hnext, hopenings⟩ := observe_opener (s := s) hkind hsign
      obtain ⟨next', hnext', rfl⟩ := h
      obtain rfl : next = next' := Except.ok.inj (hnext.symm.trans hnext')
      rw [hopenings]
      exact .opener hkind hsign
    · rw [(observe_closer_iff hkind hsign).1 h]
      exact .closer hkind hsign
    · obtain ⟨next, hnext, rfl⟩ := h
      obtain rfl : s = next := Except.ok.inj ((observe_other hother).symm.trans hnext)
      exact .other hother

/-- The check succeeds just where nothing is open. -/
theorem permits_finish_iff :
    s.openings.Permits (.finish loc) f ↔ Leaves (s.call (.finish loc)) f := by
  rw [call, finish_eq]
  by_cases hnil : s.openings = []
  · rw [if_pos hnil]
    constructor
    · rw [hnil]
      intro h
      cases h with
      | finish => exact ⟨rfl, hnil⟩
    · rintro ⟨-, rfl⟩
      rw [hnil]
      exact .finish
  · rw [if_neg hnil]
    constructor
    · generalize s.openings = g at hnil
      intro h
      cases h with
      | finish => exact absurd rfl hnil
    · rintro ⟨hsucceeds, -⟩
      cases hsucceeds

/-- **A use succeeds exactly where the flat stack permits it**, and leaves the openings that it
leads to. -/
theorem permits_iff (s : ContextStack) (c : Call) (f : FlatStack) :
    s.openings.Permits c f ↔ Leaves (s.call c) f := by
  cases c with
  | push =>
    constructor
    · generalize hg : s.openings = g
      intro h
      cases h with
      | push => exact ⟨rfl, by rw [call, openings_push, hg]⟩
    · rintro ⟨-, rfl⟩
      exact .push
  | pop loc => exact permits_pop_iff
  | observe t => exact permits_observe_iff
  | closes t =>
    constructor
    · generalize hg : s.openings = g
      intro h
      cases h with
      | closes => exact ⟨rfl, hg⟩
    · rintro ⟨-, rfl⟩
      exact .closes
  | finish loc => exact permits_finish_iff

/-! ### Refusals -/

theorem error_of_answered {result : EStateM.Result BalanceMismatch ContextStack Unit}
    {m : BalanceMismatch} (h : (answered result).2 = .refused m) :
    result = .error m (answered result).1 := by
  cases result with
  | ok _ next => cases h
  | error m' left =>
    cases h
    rfl

theorem stack_of_finish {m : BalanceMismatch} (h : s.finish loc = .error m) :
    m.stack = s.snapshot := by
  unfold finish at h
  split at h
  · cases h
  · cases h
    rfl

/-- A use that is refused changes nothing and reports all that is open. -/
theorem refused_call {m : BalanceMismatch} (h : (s.call c).2 = .refused m) :
    (s.call c).1 = s ∧ m.stack = s.snapshot := by
  cases c with
  | push => cases h
  | closes t => cases h
  | pop loc => exact eq_of_run_popM (error_of_answered h)
  | observe t => exact eq_of_run_observeM (error_of_answered h)
  | finish loc =>
    -- the check only reads the stack
    rw [call] at h ⊢
    cases hend : s.finish loc with
    | ok _ =>
      rw [hend] at h
      cases h
    | error m' =>
      rw [hend] at h
      cases h
      exact ⟨rfl, stack_of_finish hend⟩

/-- A use that the flat stack does not permit is refused. -/
theorem call_of_not_permits (h : ∀ f, ¬ s.openings.Permits c f) :
    (s.call c).1 = s ∧ ∃ m, (s.call c).2 = .refused m := by
  cases hanswer : (s.call c).2 with
  | refused m => exact ⟨(refused_call hanswer).1, m, rfl⟩
  | done => exact absurd ((permits_iff s c _).2 ⟨by rw [hanswer]; rfl, rfl⟩) (h _)
  | told holds => exact absurd ((permits_iff s c _).2 ⟨by rw [hanswer]; rfl, rfl⟩) (h _)

/-! ### All uses -/

/-- Several uses do to all that is open what they do to one flat stack. -/
theorem evolves_iff (s : ContextStack) (calls : List Call) (f : FlatStack) :
    FlatStack.Evolves s.openings calls f ↔ (s.callAll calls).1.openings = f := by
  induction calls generalizing s with
  | nil =>
    constructor
    · generalize hg : s.openings = g
      intro h
      cases h with
      | nil => exact hg
    · rintro rfl
      exact .nil
  | cons c calls ih =>
    have hrest : (s.callAll (c :: calls)).1 = ((s.call c).1.callAll calls).1 := rfl
    rw [hrest, ← ih]
    constructor
    · generalize hg : s.openings = g
      intro h
      cases h with
      | permitted hc hcalls =>
        rw [← hg] at hc
        rwa [((permits_iff s c _).1 hc).2]
      | refused hc hcalls =>
        rw [← hg] at hc
        rwa [(call_of_not_permits hc).1, hg]
    · intro h
      -- a call that is refused leaves the stack, so both go on from the same one
      by_cases hc : ∃ next, s.openings.Permits c next
      · obtain ⟨next, hc⟩ := hc
        rw [((permits_iff s c next).1 hc).2] at h
        exact .permitted hc h
      · have hc : ∀ next, ¬ s.openings.Permits c next := fun next h => hc ⟨next, h⟩
        rw [(call_of_not_permits hc).1] at h
        exact .refused hc h

/-- **A context stack is one stack, in whatever order it is used.**  After any uses what it shows is
the flat stack to which they lead, and its depth is the number of substitutions on that.  A further
use succeeds exactly where the flat stack permits it and does the same to both; a token ends a
substitution just when it is a closing brace and the flat stack has a substitution on top; a use
that is refused changes nothing and reports what is shown at that moment. -/
theorem acts_as_one_stack (calls : List Call) :
    let s := (empty.callAll calls).1
    ∃ f, (∀ g, FlatStack.Evolves [] calls g ↔ g = f) ∧
      s.snapshot = f.signs ∧ s.depth = f.count .substitution ∧
      (∀ c next, f.Permits c next → (s.call c).2.succeeds = true ∧
        (s.call c).1.snapshot = next.signs) ∧
      (∀ c, (s.call c).2.succeeds = true → ∃ next, f.Permits c next) ∧
      (∀ t, (s.call (.closes t)).2 = .told true ↔
        t.isPunctuator "\x7d" = true ∧ f.head? = some .substitution) ∧
      ∀ c m, (s.call c).2 = .refused m → (s.call c).1 = s ∧ m.stack = s.snapshot := by
  intro s
  refine ⟨s.openings, fun g => ?_, snapshot_eq s, (count_openings s).symm, ?_, ?_, fun t => ?_,
    fun c m => refused_call⟩
  · exact (evolves_iff empty calls g).trans eq_comm
  · intro c next hc
    obtain ⟨hsucceeds, rfl⟩ := (permits_iff s c next).1 hc
    exact ⟨hsucceeds, snapshot_eq _⟩
  · intro c hsucceeds
    exact ⟨_, (permits_iff s c _).2 ⟨hsucceeds, rfl⟩⟩
  · rw [call, Answer.told.injEq]
    exact closesSubstitution_iff_head

end ContextStack

end ImportScan
