import ImportScan.Proofs.StatementStream

/-!
# The statements of a stream, told without a collector

Some tokens split into statements in one way only.  What stands before the first keyword belongs to
none; the statement goes from there up to the first token that can end it, and the same is repeated
behind it.  A statement that nothing ends is cut off by the end of the stream.

## Main definitions

* `Decomposes` — the statements of some tokens, and the one that is cut off.

## Main results

* `Decomposes.feedAll` — **there is no other decomposition than the one of the collector**.
* `decomposes_feedAll` — every stream has that decomposition.
* `Decomposes.exists_statement` — what a statement of a decomposition is made of.
-/

namespace ImportScan

/-- How some tokens split into maximal statements, and which statement the end of them cuts off. -/
inductive Decomposes : List Token → List Statement → Option OpenStatement → Prop where
  /-- No statement starts any more. -/
  | gap {between : List Token} (hgap : ∀ t ∈ between, StatementKind.ofToken? t = none) :
    Decomposes between [] none
  /-- A statement starts, and nothing ends it. -/
  | cutOff {between body : List Token} {first : Token} {kind : StatementKind}
      (hgap : ∀ t ∈ between, StatementKind.ofToken? t = none)
      (hfirst : StatementKind.ofToken? first = some kind)
      (hbody : ∀ t ∈ body, t.endsStatement = false) :
    Decomposes (between ++ first :: body) [] (some ⟨kind, first.loc⟩)
  /-- A statement goes from the first keyword to the first token that ends it. -/
  | statement {between body ts : List Token} {first last : Token} {kind : StatementKind}
      {ss : List Statement} {o : Option OpenStatement}
      (hgap : ∀ t ∈ between, StatementKind.ofToken? t = none)
      (hfirst : StatementKind.ofToken? first = some kind)
      (hbody : ∀ t ∈ body, t.endsStatement = false) (hlast : last.endsStatement = true)
      (hrest : Decomposes ts ss o) :
    Decomposes (between ++ first :: (body ++ last :: ts))
      (Collector.statement kind first body last :: ss) o

/-! ### The token that starts a statement -/

/-- A token that starts a statement is the keyword of that statement. -/
theorem StatementKind.isKeyword_of_ofToken? {t : Token} {kind : StatementKind}
    (h : ofToken? t = some kind) : t.isKeyword kind.keyword = true := by
  unfold ofToken? at h
  split at h
  · next hword =>
    cases h
    exact hword
  · split at h
    · next hword =>
      cases h
      exact hword
    · cases h

theorem StatementKind.kind_of_ofToken? {t : Token} {kind : StatementKind}
    (h : ofToken? t = some kind) : t.kind = .keyword := by
  have hkeyword := isKeyword_of_ofToken? h
  rw [Token.isKeyword, Token.is, Bool.and_eq_true, beq_iff_eq] at hkeyword
  exact hkeyword.1

theorem StatementKind.lexeme_of_ofToken? {t : Token} {kind : StatementKind}
    (h : ofToken? t = some kind) : t.lexeme = kind.keyword := by
  have hkeyword := isKeyword_of_ofToken? h
  rw [Token.isKeyword, Token.is, Bool.and_eq_true, beq_iff_eq, beq_iff_eq] at hkeyword
  exact hkeyword.2

/-! ### The collector between two statements, and inside one -/

namespace Collector

variable {t first : Token} {kind : StatementKind} {between body : List Token}

theorem feed_idle_of_none (h : StatementKind.ofToken? t = none) : idle.feed t = (idle, none) := by
  rw [feed, h]

theorem feed_idle_of_some (h : StatementKind.ofToken? t = some kind) :
    idle.feed t = (collecting kind t [], none) := by
  rw [feed, h]

theorem feed_collecting_of_ends (h : t.endsStatement = true) (more : List Token) :
    (collecting kind first more).feed t = (idle, some (statement kind first more.reverse t)) := by
  rw [feed, if_pos h]

theorem feed_collecting_of_not_ends (h : t.endsStatement = false) (more : List Token) :
    (collecting kind first more).feed t = (collecting kind first (t :: more), none) := by
  rw [feed, if_neg (by simp [h])]

/-- Tokens that start no statement leave the collector idle. -/
theorem feedAll_idle (h : ∀ t ∈ between, StatementKind.ofToken? t = none) :
    idle.feedAll between = (idle, []) := by
  induction between with
  | nil => rfl
  | cons t between ih =>
    obtain ⟨ht, hbetween⟩ := List.forall_mem_cons.1 h
    rw [feedAll, feed_idle_of_none ht, ih hbetween]
    rfl

/-- Tokens that do not end the statement are collected. -/
theorem feedAll_collecting (h : ∀ t ∈ body, t.endsStatement = false) (more : List Token) :
    (collecting kind first more).feedAll body
      = (collecting kind first (body.reverse ++ more), []) := by
  induction body generalizing more with
  | nil => rfl
  | cons t body ih =>
    obtain ⟨ht, hbody⟩ := List.forall_mem_cons.1 h
    rw [feedAll, feed_collecting_of_not_ends ht, ih hbody]
    simp

theorem feedAll_start (hgap : ∀ t ∈ between, StatementKind.ofToken? t = none)
    (hfirst : StatementKind.ofToken? first = some kind) (ts : List Token) :
    idle.feedAll (between ++ first :: ts) = (collecting kind first []).feedAll ts := by
  rw [feedAll_append, feedAll_idle hgap, feedAll, feed_idle_of_some hfirst]
  simp

end Collector

/-! ### The decomposition -/

namespace Decomposes

open Collector

variable {t : Token} {ts : List Token} {ss : List Statement} {o : Option OpenStatement}

/-- **There is no other decomposition than the one of the collector.** -/
theorem feedAll (h : Decomposes ts ss o) :
    (idle.feedAll ts).2 = ss ∧ (idle.feedAll ts).1.finish.2 = o := by
  induction h with
  | gap hgap =>
    rw [feedAll_idle hgap]
    exact ⟨rfl, rfl⟩
  | cutOff hgap hfirst hbody =>
    rw [feedAll_start hgap hfirst, feedAll_collecting hbody]
    exact ⟨rfl, rfl⟩
  | @statement between body ts first last kind ss o hgap hfirst hbody hlast _ ih =>
    obtain ⟨hss, ho⟩ := ih
    have hend : (collecting kind first []).feedAll (body ++ last :: ts)
        = ((idle.feedAll ts).1, Collector.statement kind first body last :: (idle.feedAll ts).2) := by
      rw [feedAll_append, feedAll_collecting hbody, Collector.feedAll,
        feed_collecting_of_ends hlast]
      simp
    rw [feedAll_start hgap hfirst, hend, hss]
    exact ⟨rfl, ho⟩

theorem cons (ht : StatementKind.ofToken? t = none) (h : Decomposes ts ss o) :
    Decomposes (t :: ts) ss o := by
  cases h with
  | gap hgap => exact .gap (List.forall_mem_cons.2 ⟨ht, hgap⟩)
  | cutOff hgap hfirst hbody => exact .cutOff (List.forall_mem_cons.2 ⟨ht, hgap⟩) hfirst hbody
  | statement hgap hfirst hbody hlast hrest =>
    exact .statement (List.forall_mem_cons.2 ⟨ht, hgap⟩) hfirst hbody hlast hrest

/-- What a statement of a decomposition is made of. -/
theorem exists_statement (h : Decomposes ts ss o) {s : Statement} (hs : s ∈ ss) :
    ∃ first body last, s = Collector.statement s.kind first body last ∧ first ∈ ts ∧
      StatementKind.ofToken? first = some s.kind ∧ last.endsStatement = true := by
  induction h with
  | gap => cases hs
  | cutOff => cases hs
  | @statement between body ts first last kind ss o _ hfirst _ hlast _ ih =>
    rcases List.mem_cons.1 hs with rfl | hs
    · exact ⟨first, body, last, rfl, by simp, hfirst, hlast⟩
    · obtain ⟨first', body', last', heq, hmem, hrest⟩ := ih hs
      exact ⟨first', body', last', heq, by simp [hmem], hrest⟩

/-- The statement that is cut off starts with one of the tokens. -/
theorem exists_first {cut : OpenStatement} (h : Decomposes ts ss (some cut)) :
    ∃ first ∈ ts, StatementKind.ofToken? first = some cut.kind ∧ first.loc = cut.loc := by
  generalize ho : some cut = o at h
  induction h with
  | gap => cases ho
  | cutOff _ hfirst _ =>
    cases ho
    exact ⟨_, by simp, hfirst, rfl⟩
  | statement _ _ _ _ _ ih =>
    obtain ⟨first, hmem, hrest⟩ := ih ho
    exact ⟨first, by simp [hmem], hrest⟩

end Decomposes

/-- Every stream has a decomposition. -/
theorem decomposes_feedAll (ts : List Token) :
    Decomposes ts (Collector.idle.feedAll ts).2 (Collector.idle.feedAll ts).1.finish.2 ∧
      ∀ kind first more, StatementKind.ofToken? first = some kind →
        (∀ t ∈ more, t.endsStatement = false) →
        Decomposes (first :: (more.reverse ++ ts))
          ((Collector.collecting kind first more).feedAll ts).2
          ((Collector.collecting kind first more).feedAll ts).1.finish.2 := by
  -- inside a statement, the tokens collected so far stand before the rest
  induction ts with
  | nil =>
    refine ⟨.gap (by simp), fun kind first more hfirst hmore => ?_⟩
    rw [List.append_nil]
    exact @Decomposes.cutOff [] _ _ _ (by simp) hfirst (by simpa using hmore)
  | cons t ts ih =>
    obtain ⟨hidle, hcollecting⟩ := ih
    constructor
    · cases ht : StatementKind.ofToken? t with
      | none =>
        rw [Collector.feedAll, Collector.feed_idle_of_none ht]
        exact hidle.cons ht
      | some kind =>
        rw [Collector.feedAll, Collector.feed_idle_of_some ht]
        exact hcollecting kind t [] ht (by simp)
    · intro kind first more hfirst hmore
      cases ht : t.endsStatement with
      | false =>
        have hmore' : ∀ u ∈ t :: more, u.endsStatement = false :=
          List.forall_mem_cons.2 ⟨ht, hmore⟩
        have hnext := hcollecting kind first (t :: more) hfirst hmore'
        rw [List.reverse_cons, List.append_assoc] at hnext
        rw [Collector.feedAll, Collector.feed_collecting_of_not_ends ht]
        exact hnext
      | true =>
        rw [Collector.feedAll, Collector.feed_collecting_of_ends ht]
        have hbody : ∀ u ∈ more.reverse, u.endsStatement = false := by simpa using hmore
        exact @Decomposes.statement [] _ _ _ _ _ _ _ (by simp) hfirst hbody ht hidle

end ImportScan
