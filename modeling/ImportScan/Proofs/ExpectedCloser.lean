import ImportScan.Proofs.Acceptance

/-!
# What a mismatch expects

A mismatch shows all that is open, and the sign that is expected instead of what was found.  Both
are told by the flat stack: the sign expected at the end of the text closes the innermost opening.
A closing bracket is compared with the brackets of its own context only, so that where it stands
right behind the start of a substitution no sign is expected, although the substitution is open.

## Main results

* `FlatStack.getLast?_signs` — the innermost opening is shown last.
* `FlatStack.consistent_unclosed`, `FlatStack.consistent_misfit` — the two kinds of mismatches.
* `extract_mismatch_expected` — **the sign expected closes the last entry shown, but for a round or
  square bracket right inside a substitution**, where none is expected.
-/

namespace ImportScan

/-- What is open is known by the sign that has opened it. -/
theorem Opening.sign_inj {o p : Opening} (h : o.sign = p.sign) : o = p := by
  cases o with
  | substitution =>
    cases p with
    | substitution => rfl
    | bracket b => cases b <;> simp [sign, ContextStack.substitutionOpener, Bracket.opener] at h
  | bracket b =>
    cases p with
    | substitution => cases b <;> simp [sign, ContextStack.substitutionOpener, Bracket.opener] at h
    | bracket c =>
      cases b <;> cases c <;> simp [sign, Bracket.opener] at h <;> rfl

namespace BalanceMismatch

/-- The sign expected closes the last entry of the stack that is shown, and none is expected where
nothing is open. -/
structure IsConsistent (m : BalanceMismatch) : Prop where
  /-- The sign closes what is shown last. -/
  closes : ∀ o : Opening, m.stack.getLast? = some o.sign → m.expected = some o.pair.closer
  /-- No sign is expected just when nothing is shown. -/
  eq_none_iff : m.expected = none ↔ m.stack = []

/-- A round or square closing bracket right inside a substitution, where no sign is expected. -/
structure IsBare (m : BalanceMismatch) : Prop where
  /-- The substitution is shown last. -/
  last : m.stack.getLast? = some "$\x7b"
  /-- The bracket. -/
  found : m.found = some ")" ∨ m.found = some "]"
  /-- No sign is expected. -/
  expected : m.expected = none

end BalanceMismatch

namespace FlatStack

variable {s : FlatStack} {t : Token} {loc : Location}

theorem getLast?_signs (s : FlatStack) : s.signs.getLast? = s.head?.map Opening.sign := by
  rw [signs, List.getLast?_map, List.getLast?_reverse]

theorem signs_eq_nil_iff : s.signs = [] ↔ s = [] := by
  rw [signs, List.map_eq_nil_iff, List.reverse_eq_nil_iff]

/-- A mismatch is consistent when it shows a flat stack and expects what closes its innermost
opening. -/
theorem isConsistent_of_expected {m : BalanceMismatch} (hstack : m.stack = s.signs)
    (hexpected : m.expected = s.head?.map fun o => o.pair.closer) : m.IsConsistent where
  closes o hlast := by
    rw [hstack, getLast?_signs, Option.map_eq_some_iff] at hlast
    obtain ⟨o', ho', hsign⟩ := hlast
    rw [hexpected, ho', Opening.sign_inj hsign]
    rfl
  eq_none_iff := by
    rw [hstack, hexpected, signs_eq_nil_iff, Option.map_eq_none_iff, List.head?_eq_none_iff]

theorem consistent_unclosed (s : FlatStack) (loc : Location) : (s.unclosed loc).IsConsistent :=
  isConsistent_of_expected rfl rfl

/-- A token that does not fit is compared with the innermost bracket.  It is a closing bracket, and
no brace where the innermost opening is a substitution. -/
theorem consistent_misfit (h : s.feed t = none) :
    (s.misfit t).IsConsistent ∧ s.head? ≠ some .substitution ∨ (s.misfit t).IsBare := by
  cases s with
  | nil => exact .inl ⟨isConsistent_of_expected rfl rfl, by simp⟩
  | cons o outer =>
    cases o with
    | bracket b => exact .inl ⟨isConsistent_of_expected rfl rfl, by simp⟩
    | substitution =>
      right
      -- a misfit right inside a substitution is a closer, and not a curly one
      have hopening : t.opening? = none := by
        cases ho : t.opening? with
        | none => rfl
        | some o => simp [feed_of_opening ho] at h
      cases hc : t.closing? with
      | none => simp [feed_of_neither hopening hc] at h
      | some b =>
        rw [feed_cons_of_closing hopening hc] at h
        have hcurly : b ≠ .curly := by
          rintro rfl
          cases h
        have hlexeme : t.lexeme = b.closer := by
          unfold Token.closing? at hc
          split at hc
          · exact Bracket.eq_closer_of_ofCloser? hc
          · cases hc
        refine ⟨getLast?_signs _, ?_, rfl⟩
        show some t.lexeme = some ")" ∨ some t.lexeme = some "]"
        rw [hlexeme]
        cases b with
        | round => exact .inl rfl
        | square => exact .inr rfl
        | curly => exact absurd rfl hcurly

end FlatStack

variable {l : Language} {text : List Char} {m : BalanceMismatch}

/-- **The sign expected closes the last entry shown, and none is expected where nothing is open, but
for a round or square bracket right inside a substitution.**  Such a bracket is reported without a
sign that is expected, although the substitution is shown as open. -/
theorem extract_mismatch_expected (h : (extract l text).outcome = .error (.balance m)) :
    (m.IsConsistent ∧ ¬ (m.stack.getLast? = some "$\x7b" ∧ m.found.isSome = true)) ∨ m.IsBare := by
  -- the substitution is the last sign that is shown only if it is innermost
  have hlast : ∀ s : FlatStack, s.head? ≠ some .substitution →
      s.signs.getLast? ≠ some "$\x7b" := by
    intro s hs hsign
    rw [FlatStack.getLast?_signs, Option.map_eq_some_iff] at hsign
    obtain ⟨o, ho, hsign⟩ := hsign
    obtain rfl : o = .substitution := Opening.sign_inj hsign
    exact hs ho
  obtain ⟨e, he⟩ | ⟨before, t, s, -, -, hmisfit, houtcome⟩ | ⟨s, -, -, -, hnil, hne⟩ :=
    extract_cases l text
  · cases he.symm.trans h
  · cases houtcome.symm.trans h
    rcases FlatStack.consistent_misfit hmisfit with ⟨hconsistent, hhead⟩ | hbare
    · exact .inl ⟨hconsistent, fun hgap => hlast s hhead hgap.1⟩
    · exact .inr hbare
  · by_cases hs : s = []
    · obtain ⟨x, hx⟩ := hnil hs
      cases hx.symm.trans h
    · cases (hne hs).symm.trans h
      refine .inl ⟨FlatStack.consistent_unclosed s _, ?_⟩
      rintro ⟨-, hfound⟩
      cases hfound

/-- A round bracket right inside a substitution. -/
theorem extract_mismatch_expected_bare :
    ∃ m, (extract .ecma "\x60$\x7b)".toList).outcome = .error (.balance m) ∧
      m.message = "unbalanced ')' at 1:4: no open bracket [ '$\x7b' ]" ∧
      ¬ m.IsConsistent ∧ m.IsBare := by
  -- the pass stops at the third token
  have hrun : ((Pass.ofLexer (.ofText .ecma "\x60$\x7b)".toList)).steps? 2).any (fun p =>
      p.lexer.pull.token?.any fun next =>
        match p.take next.1 next.2 with
        | .ok _ => false
        | .error m => m == ⟨none, some ")", ["$\x7b"], ⟨1, 4, 3⟩⟩) = true := by
    decide +kernel
  obtain ⟨p, hp, hnext⟩ := (Option.any_eq_true _ _).1 hrun
  obtain ⟨⟨t, after⟩, hpull, hcheck⟩ := (Option.any_eq_true _ _).1 hnext
  rw [Pull.token?_eq_some_iff] at hpull
  cases htake : p.take t after with
  | ok q => simp [htake] at hcheck
  | error m =>
    have hm : m = ⟨none, some ")", ["$\x7b"], ⟨1, 4, 3⟩⟩ := by simpa [htake] using hcheck
    have houtcome : (extract .ecma "\x60$\x7b)".toList).outcome = .error (.balance m) := by
      rw [Pass.extract_eq hp (.mismatch t after m hpull htake)]
    have hnot : ¬ m.IsConsistent := by
      intro hconsistent
      have hnil := hconsistent.eq_none_iff.1 (by rw [hm])
      rw [hm] at hnil
      cases hnil
    have hbare := (extract_mismatch_expected houtcome).resolve_left fun h => hnot h.1
    exact ⟨m, houtcome, by rw [hm]; decide, hnot, hbare⟩

end ImportScan
