import ImportScan.Proofs.LookAhead
import ImportScan.Proofs.ModeStack

/-!
# Texts that go on differently

Two texts start with the same characters and go on differently.  A pass over the one gets to some
place in the part that both have in common.  If it takes one more token there, and all of that token
is common as well, a pass over the other text gets to the same place, as long as a gap follows the
common part.  So a text can be cut at any token, and another text can be put behind it.

## Main definitions

* `Lexer.withRest`, `Pass.withRest` — the same state with another text left to read.

## Main results

* `Lexer.pull_of_known` — a token that is told from the common part is pulled from both texts.
* `Pass.Reaches.exists_rest` — a pass leaves an end of the text that it had.
* `Pass.Reaches.withRest` — **a pass over one text gets where the pass over the other one does**.
-/

namespace ImportScan

/-- The lexer with another text left to read. -/
def Lexer.withRest (lx : Lexer) (rest : List Char) : Lexer := { lx with rest }

/-- The pass with another text left to read. -/
def Pass.withRest (p : Pass) (rest : List Char) : Pass := { p with lexer := p.lexer.withRest rest }

variable {known left tail : List Char} {d : Char}

/-! ### One token -/

namespace Lexer

variable {lx after : Lexer} {t : Token}

/-- A scan of what is left gives the next token. -/
theorem pull_of_scan (lx : Lexer) {c : Char} {cs : List Char} {s : Scan} (hgoing : lx.failed = false)
    (hrest : lx.rest = c :: cs) (hscan : scan lx.language lx.mode lx.previous c cs = .ok s) :
    lx.pull = .token (lx.tokenOf s.kind s.length)
      ((lx.pass s.kind s.length).follow s.transition) := by
  rw [pull, if_neg (by simp [hgoing]), hrest]
  dsimp only
  rw [hscan]

@[simp] theorem withRest_rest (lx : Lexer) (rest : List Char) : (lx.withRest rest).rest = rest := rfl

theorem follow_withRest (lx : Lexer) (rest : List Char) (t : Transition) :
    (lx.withRest rest).follow t = (lx.follow t).withRest rest := by
  cases t <;> rfl

/-- Only the beginning of the text matters for what a token is passed with. -/
theorem pass_withRest (kind : TokenKind) {n : Nat} (hle : n ≤ known.length)
    (hrest : lx.rest = known ++ tail) (hleft : known.drop n = left) (tail' : List Char) :
    (lx.withRest (known ++ tail')).pass kind n = (lx.pass kind n).withRest (left ++ tail') := by
  simp only [pass, withRest, hrest, List.take_append_of_le_length hle,
    List.drop_append_of_le_length hle, hleft]

theorem tokenOf_withRest (kind : TokenKind) {n : Nat} (hle : n ≤ known.length)
    (hrest : lx.rest = known ++ tail) (tail' : List Char) :
    (lx.withRest (known ++ tail')).tokenOf kind n = lx.tokenOf kind n := by
  simp only [tokenOf, withRest, hrest, List.take_append_of_le_length hle]

/-- **A token that is told from the common part is pulled from both texts.**  In code it ends before
the end of the common part or it does not go on with a gap; in a template it is a delimiter or the
next delimiter is common as well. -/
theorem pull_of_known (hd : IsGap d) (hpull : lx.pull = .token t after)
    (hrest : lx.rest = known ++ tail) (hafter : after.rest = left ++ tail)
    (hcode : lx.mode.isCode = true → left ≠ [] ∨ ∀ c cs, lx.rest = c :: cs →
      (branch lx.language lx.previous c cs.head?).endsAt d = true)
    (htext : lx.mode = .template → after.entered = lx.entered → startsDelimiter left = true)
    (tail' : List Char) :
    (lx.withRest (known ++ d :: tail')).pull = .token t (after.withRest (left ++ d :: tail')) := by
  obtain ⟨c, cs, s, hgoing, hcs, hscan, rfl, rfl⟩ := pull_eq_token hpull
  -- the token lies before the cut
  have hdrop : (known ++ tail).drop s.length = left ++ tail := by
    rw [← hrest]
    simpa [pass] using hafter
  have hlength : s.length + left.length = known.length := by
    have hle : s.length ≤ (c :: cs).length := scan_length_le hscan
    have hlengths := congrArg List.length hdrop
    rw [← hcs, hrest, List.length_append] at hle
    rw [List.length_drop, List.length_append, List.length_append] at hlengths
    omega
  have hle : s.length ≤ known.length := by omega
  have hleft : known.drop s.length = left := by
    rw [List.drop_append_of_le_length hle] at hdrop
    exact List.append_cancel_right hdrop
  have hpos := s.length_pos
  cases known with
  | nil =>
    rw [List.length_nil] at hle
    omega
  | cons c' known =>
    have hcons : c :: cs = c' :: (known ++ tail) := hcs.symm.trans hrest
    obtain ⟨rfl, rfl⟩ := List.cons.inj hcons
    rw [List.length_cons] at hlength hle
    -- the scan sees no more than the gap behind the cut
    have hscan' : scan lx.language lx.mode lx.previous c (known ++ d :: tail') = .ok s := by
      cases hmode : lx.mode.isCode with
      | true =>
        rw [scan_of_isCode hmode] at hscan ⊢
        refine scanCode_of_known hd.endsTokens hscan hle ((hcode hmode).imp (fun hne => ?_) fun hends => ?_)
        · have hsome := List.length_pos_iff.2 hne
          omega
        · exact hends c _ hcs
      | false =>
        have hmode := Mode.eq_template_of_not_isCode hmode
        rw [hmode] at hscan ⊢
        cases hscan
        refine congrArg Except.ok (scanTemplate_of_known hle fun hstay => ?_)
        rw [hleft]
        exact htext hmode (by simp [hstay])
    have hpull' := pull_of_scan (lx.withRest (c :: (known ++ d :: tail'))) hgoing rfl hscan'
    have htoken := tokenOf_withRest s.kind hle hrest (d :: tail')
    have hpass := pass_withRest s.kind hle hrest hleft (d :: tail')
    rw [List.cons_append] at htoken hpass
    rw [htoken, hpass, follow_withRest] at hpull'
    exact hpull'

/-- The text of a template reaches up to a delimiter, or to the end. -/
theorem startsDelimiter_of_pull (hpull : lx.pull = .token t after) (hmode : lx.mode = .template)
    (hentered : after.entered = lx.entered) :
    after.rest = [] ∨ startsDelimiter after.rest = true := by
  obtain ⟨c, cs, s, -, hrest, hscan, rfl, rfl⟩ := pull_eq_token hpull
  rw [hmode] at hscan
  cases hscan
  have hlengths := congrArg List.length hentered
  obtain ⟨-, -, ht⟩ | ⟨-, -, ht⟩ | ⟨-, -, hlength, ht⟩ := scanTemplate_cases c cs
  · -- without a mode that has been entered, no template is read
    have hne : lx.entered ≠ [] := by
      intro hnil
      rw [mode, hnil] at hmode
      cases hl : lx.language <;> simp [hl, Language.baseMode] at hmode
    have hsome := List.length_pos_iff.2 hne
    rw [ht, follow_leave_entered, pass_entered, List.length_tail] at hlengths
    omega
  · rw [ht, follow_enter_entered, pass_entered, List.length_cons] at hlengths
    omega
  · rw [follow_rest]
    show lx.rest.drop _ = [] ∨ startsDelimiter (lx.rest.drop _) = true
    rw [hlength, hrest]
    exact drop_templateExtent (c :: cs)

/-- A delimiter is pulled as a whole. -/
theorem startsDelimiter_lexeme (hpull : lx.pull = .token t after) (hmode : lx.mode = .template)
    (h : startsDelimiter lx.rest = true) : startsDelimiter t.lexeme.toList = true := by
  obtain ⟨c, cs, s, -, hrest, hscan, rfl, rfl⟩ := pull_eq_token hpull
  rw [hmode] at hscan
  cases hscan
  rw [tokenOf, String.toList_ofList, hrest]
  rw [hrest] at h
  obtain ⟨hc, hlength, -⟩ | ⟨hopens, hlength, -⟩ | ⟨-, -, hlength, -⟩ := scanTemplate_cases c cs
  · rw [hlength, hc]
    rfl
  · obtain ⟨rest, hrest⟩ := opensSubstitution_iff.1 hopens
    rw [hlength, hrest]
    rfl
  · -- where a delimiter starts, there is no text to take
    have hpos := (scanTemplate c cs).length_pos
    rw [hlength, templateExtent_delimiter h] at hpos
    omega

end Lexer

/-! ### One step -/

namespace Pass

variable {p q r : Pass} {t : Token} {after : Lexer}

/-- The token before the next slash is the last one that is neither a blank nor a comment. -/
theorem previous_of_take {after : Lexer} (hpull : p.lexer.pull = .token t after)
    (htake : p.take t after = .ok q) :
    q.lexer.previous = if t.kind.isTrivia then p.lexer.previous else some (t.kind, t.lexeme) := by
  obtain ⟨c, cs, s, -, -, -, rfl, rfl⟩ := Lexer.pull_eq_token hpull
  have hafter : ((p.lexer.pass s.kind s.length).follow s.transition).previous
      = (p.lexer.pass s.kind s.length).previous := by
    cases s.transition <;> rfl
  rw [(take_spec hpull htake).2]
  split <;> exact hafter

/-- What a pass takes a token from another text with. -/
theorem take_withRest (htake : p.take t after = .ok q) (rest rest' : List Char) :
    (p.withRest rest).take t (after.withRest rest') = .ok (q.withRest rest') := by
  obtain ⟨hfeed, hlexer, hcollector, hfound, hseen⟩ := take_eq_ok htake
  -- the contexts, the modes and the collector do not look at the text
  have hentered : (p.withRest rest).entered (after.withRest rest') = p.entered after := rfl
  cases htake' : (p.withRest rest).take t (after.withRest rest') with
  | error m =>
    rw [take_eq_error_iff, hentered, hfeed] at htake'
    cases htake'
  | ok q' =>
    obtain ⟨hfeed', hlexer', hcollector', hfound', hseen'⟩ := take_eq_ok htake'
    obtain ⟨lexer, contexts, collector, found, seen⟩ := q
    obtain ⟨lexer', contexts', collector', found', seen'⟩ := q'
    rw [hentered] at hfeed' hlexer'
    obtain rfl : contexts' = contexts := Except.ok.inj (hfeed'.symm.trans hfeed)
    obtain rfl : collector' = collector := hcollector'.trans hcollector.symm
    obtain rfl : found' = found := hfound'.trans hfound.symm
    obtain rfl : seen' = seen := hseen'.trans hseen.symm
    have hlexer : lexer' = lexer.withRest rest' := by
      dsimp only at hlexer hlexer'
      rw [hlexer, hlexer']
      split <;> rfl
    rw [withRest, hlexer]

/-- A pass leaves an end of the text that it had. -/
theorem Reaches.exists_rest (h : Reaches p q) : ∃ w, p.lexer.rest = w ++ q.lexer.rest := by
  induction h with
  | refl => exact ⟨[], rfl⟩
  | tail _ hstep ih =>
    obtain ⟨w, hw⟩ := ih
    obtain ⟨t, after, hpull, htake⟩ := step?_eq_some_iff.1 hstep
    exact ⟨w ++ t.lexeme.toList, by
      rw [hw, ← Lexer.pull_rest hpull, take_rest htake, List.append_assoc]⟩

/-- Behind the text of a template, the pass is in the same template. -/
theorem take_templateText (hpull : p.lexer.pull = .token t after) (htake : p.take t after = .ok q)
    (hmode : p.lexer.mode = .template) (hentered : after.entered = p.lexer.entered) :
    q.lexer = after ∧ q.lexer.mode = .template := by
  have hkind : t.kind = .templateLiteral := by
    by_contra hk
    have hcode := ((Lexer.moves_of_pull hpull).of_ne hk).1
    simp [hmode, Mode.isCode] at hcode
  have hlexer : q.lexer = after := by
    rw [(take_spec hpull htake).2, if_neg]
    intro hcloses
    cases hkind.symm.trans (ContextStack.closesSubstitution_iff.1 hcloses).1
  refine ⟨hlexer, ?_⟩
  obtain ⟨c, cs, s, -, -, -, -, rfl⟩ := Lexer.pull_eq_token hpull
  rw [hlexer, ← hmode, Lexer.mode, hentered, Lexer.follow_language]
  rfl

/-- A step over a token of the common part is taken in both texts, if the next token belongs to the
common part as well. -/
theorem step?_withRest (hd : IsGap d) (hstep : p.step? = some q) (hnext : q.step? = some r)
    (hp : p.lexer.rest = known ++ tail) (hq : q.lexer.rest = left ++ tail)
    (hr : ∃ w, r.lexer.rest = w ++ tail) (tail' : List Char) :
    (p.withRest (known ++ d :: tail')).step? = some (q.withRest (left ++ d :: tail')) := by
  obtain ⟨t, after, hpull, htake⟩ := step?_eq_some_iff.1 hstep
  obtain ⟨t', after', hpull', htake'⟩ := step?_eq_some_iff.1 hnext
  have hafter : after.rest = left ++ tail := (take_rest htake).symm.trans hq
  obtain ⟨w, hw⟩ := hr
  have hleft : left = t'.lexeme.toList ++ w := by
    have hrest := Lexer.pull_rest hpull'
    rw [← take_rest htake', hw, hq, ← List.append_assoc] at hrest
    exact (List.append_cancel_right hrest).symm
  refine step?_eq_some_iff.2 ⟨t, _, Lexer.pull_of_known hd hpull hp hafter ?_ ?_ tail',
    take_withRest htake _ _⟩
  · intro _
    have hlt := Lexer.pull_rest_lt hpull'
    rw [← take_rest htake', hw, hq, List.length_append, List.length_append] at hlt
    refine .inl fun hnil => ?_
    rw [hnil, List.length_nil] at hlt
    omega
  · intro hmode hentered
    -- the next token is pulled in the same template
    obtain ⟨hlexer, hmode'⟩ := take_templateText hpull htake hmode hentered
    rw [hlexer] at hpull' hmode'
    rw [hleft]
    refine startsDelimiter_append (Lexer.startsDelimiter_lexeme hpull' hmode' ?_) w
    refine (Lexer.startsDelimiter_of_pull hpull hmode hentered).resolve_left fun hnil => ?_
    rw [Lexer.pull, hnil] at hpull'
    split at hpull' <;> cases hpull'

/-- **A pass over one text gets where the pass over the other one does**, if it takes one more token
of the common part there. -/
theorem Reaches.withRest (hd : IsGap d) (h : Reaches p q) (hnext : q.step? = some r)
    (hr : r.lexer.rest = tail) (hp : p.lexer.rest = known ++ tail)
    (hq : q.lexer.rest = left ++ tail) (tail' : List Char) :
    Reaches (p.withRest (known ++ d :: tail')) (q.withRest (left ++ d :: tail')) := by
  induction h using Relation.ReflTransGen.head_induction_on generalizing known with
  | refl =>
    obtain rfl := List.append_cancel_right (hp.symm.trans hq)
    exact .refl
  | @head p p' hstep hreaches ih =>
    -- the pass goes on behind the step, to the next place or to the last one
    obtain ⟨next, hnext', hbehind⟩ :=
      Relation.TransGen.head'_iff.1 (Relation.TransGen.tail' hreaches hnext)
    obtain ⟨w, hw⟩ := Reaches.exists_rest hbehind
    obtain ⟨v, hv⟩ := Reaches.exists_rest hreaches
    rw [hr] at hw
    rw [hq, ← List.append_assoc] at hv
    exact .head (step?_withRest hd hstep hnext' hp hv ⟨w, hw⟩ tail') (ih hv)

end Pass

end ImportScan
