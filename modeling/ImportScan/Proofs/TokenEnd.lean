import ImportScan.Proofs.Place
import ImportScan.Proofs.Scan

/-!
# Where tokens end

The last character of a token is nearly always told by the reader that finds its end: a closing
quote, a slash, a character of the run that the token is.  None of them is a carriage return.  Only
two tokens can end with one, a line end of its own and the text of a template, and neither of them
leaves a line feed behind.

## Main results

* `CodeToken.not_splitsLineEnd`, `not_splitsLineEnd_scanTemplate` — code and templates.
* `scan_not_splitsLineEnd` — **no token ends in the middle of a line end**.
-/

namespace ImportScan

/-! ### The last characters that the readers take -/

theorem getLast?_take_cons {cs : List Char} {n : Nat} {d : Char} (h : (cs.take n).getLast? = some d)
    (c : Char) : ((c :: cs).take (n + 1)).getLast? = some d := by
  rw [List.take_succ_cons, List.getLast?_cons, h]
  rfl

/-- A character and a run behind it hold no carriage return, unless the character is one or the run
may. -/
theorem notMem_take_takeWhile {p : Char → Bool} {c : Char} (hc : c ≠ '\r') (hp : p '\r' = false)
    (cs : List Char) : '\r' ∉ (c :: cs).take ((cs.takeWhile p).length + 1) := by
  have hrun : cs.take (cs.takeWhile p).length = cs.takeWhile p :=
    (List.prefix_iff_eq_take.1 (List.takeWhile_prefix p)).symm
  rw [List.take_succ_cons, hrun, List.mem_cons, not_or]
  refine ⟨hc.symm, fun hmem => ?_⟩
  rw [List.mem_takeWhile_imp hmem] at hp
  cases hp

/-- A number holds no carriage return behind its first character. -/
theorem notMem_take_numberExtent (hex : Bool) (last : Char) (cs : List Char) :
    '\r' ∉ cs.take (numberExtent hex last cs) := by
  induction cs generalizing last with
  | nil => simp
  | cons c cs ih =>
    rw [numberExtent]
    split
    · next hc =>
      have hne : c ≠ '\r' := by
        rintro rfl
        have hpart : isNumberPart '\r' = false := by decide
        simp [hpart] at hc
      rw [List.take_succ_cons, List.mem_cons, not_or]
      exact ⟨hne.symm, ih c⟩
    · simp

/-- A block comment ends with a slash. -/
theorem getLast?_take_commentExtent? {cs : List Char} {n : Nat} (h : commentExtent? cs = some n) :
    (cs.take n).getLast? = some '/' := by
  fun_induction commentExtent? cs generalizing n with
  | case1 => cases h
  | case2 => cases h; rfl
  | case3 c cs _ ih =>
    obtain ⟨m, hm, rfl⟩ := Option.map_eq_some_iff.1 h
    exact getLast?_take_cons (ih hm) c

/-- A string ends with its quote. -/
theorem getLast?_take_stringExtent? {quote : Char} {cs : List Char} {n : Nat}
    (h : stringExtent? quote cs = some n) : (cs.take n).getLast? = some quote := by
  fun_induction stringExtent? quote cs generalizing n with
  | case1 => cases h
  | case2 => cases h; rfl
  | case3 => cases h
  | case4 _ rest ih =>
    obtain ⟨m, hm, rfl⟩ := Option.map_eq_some_iff.1 h
    exact getLast?_take_cons (getLast?_take_cons (getLast?_take_cons (ih hm) _) _) _
  | case5 _ d rest _ ih =>
    obtain ⟨m, hm, rfl⟩ := Option.map_eq_some_iff.1 h
    exact getLast?_take_cons (getLast?_take_cons (ih hm) _) _
  | case6 => cases h
  | case7 c cs _ _ _ ih =>
    obtain ⟨m, hm, rfl⟩ := Option.map_eq_some_iff.1 h
    exact getLast?_take_cons (ih hm) c

/-- A regular expression ends with a slash or with a flag. -/
theorem exists_getLast?_take_regexExtent? {inClass : Bool} {cs : List Char} {n : Nat}
    (h : regexExtent? inClass cs = some n) : ∃ d, (cs.take n).getLast? = some d ∧ d ≠ '\r' := by
  fun_induction regexExtent? inClass cs generalizing n with
  | case1 => cases h
  | case2 => cases h
  | case3 => cases h
  | case4 _ e rest _ ih =>
    obtain ⟨m, hm, rfl⟩ := Option.map_eq_some_iff.1 h
    obtain ⟨d, hd, hne⟩ := ih hm
    exact ⟨d, getLast?_take_cons (getLast?_take_cons hd _) _, hne⟩
  | case5 _ cs _ ih =>
    obtain ⟨m, hm, rfl⟩ := Option.map_eq_some_iff.1 h
    obtain ⟨d, hd, hne⟩ := ih hm
    exact ⟨d, getLast?_take_cons hd _, hne⟩
  | case6 _ cs _ _ ih =>
    obtain ⟨m, hm, rfl⟩ := Option.map_eq_some_iff.1 h
    obtain ⟨d, hd, hne⟩ := ih hm
    exact ⟨d, getLast?_take_cons hd _, hne⟩
  | case7 inClass c cs _ _ _ hslash =>
    cases h
    simp only [Bool.and_eq_true, decide_eq_true_eq] at hslash
    obtain ⟨rfl, -⟩ := hslash
    -- the flags hold no line end
    have hlast := notMem_take_takeWhile (p := isIdentifierPart) (c := '/') (by decide) (by decide) cs
    cases hd : ((('/' : Char) :: cs).take (wordExtent cs + 1)).getLast? with
    | none => simp at hd
    | some d =>
      refine ⟨d, rfl, ?_⟩
      rintro rfl
      exact hlast (List.mem_of_getLast? hd)
  | case8 => cases h
  | case9 _ c cs _ _ _ _ _ ih =>
    obtain ⟨m, hm, rfl⟩ := Option.map_eq_some_iff.1 h
    obtain ⟨d, hd, hne⟩ := ih hm
    exact ⟨d, getLast?_take_cons hd _, hne⟩

/-- Behind the text of a template comes one of the two signs that end it. -/
theorem head?_drop_templateExtent {cs : List Char} {d : Char}
    (h : (cs.drop (templateExtent cs)).head? = some d) : d = templateQuote ∨ d = '$' := by
  fun_induction templateExtent cs with
  | case1 => cases h
  | case2 => cases h
  | case3 c rest ih => exact ih h
  | case4 c cs _ hends =>
    cases h
    rw [Bool.or_eq_true, decide_eq_true_eq] at hends
    rcases hends with hquote | hopens
    · exact .inl hquote
    · obtain ⟨rest, hrest⟩ := opensSubstitution_iff.1 hopens
      exact .inr (List.cons.inj hrest).1
  | case5 c cs _ _ ih => exact ih h

/-! ### Whole tokens -/

theorem not_splitsLineEnd_of_notMem {before behind : List Char} (h : '\r' ∉ before) :
    ¬ SplitsLineEnd before behind := by
  rintro ⟨hlast, -⟩
  exact h (List.mem_of_getLast? hlast)

section

variable {l : Language} {previous : Option Significant} {c : Char} {cs : List Char}

/-- No token of code ends in the middle of a line end. -/
theorem CodeToken.not_splitsLineEnd {kind : TokenKind} {n : Nat} {t : Transition}
    (h : CodeToken l previous c cs kind n t) :
    ¬ SplitsLineEnd ((c :: cs).take n) ((c :: cs).drop n) := by
  -- a run cannot start or go on with a carriage return
  have hrun : ∀ p : Char → Bool, p '\r' = false → c ≠ '\r' →
      ¬ SplitsLineEnd ((c :: cs).take ((cs.takeWhile p).length + 1))
        ((c :: cs).drop ((cs.takeWhile p).length + 1)) := fun p hp hc =>
    not_splitsLineEnd_of_notMem (notMem_take_takeWhile hc hp cs)
  cases h with
  | lineEndPair _ hcs =>
    obtain ⟨rest, rfl⟩ := List.head?_eq_some_iff.1 hcs
    exact not_splitsLineEnd_of_getLast? (c := '\n') rfl (by decide)
  | lineEnd _ hpair =>
    rintro ⟨hlast, hhead⟩
    exact hpair ⟨Option.some.inj hlast, hhead⟩
  | blanks _ hline =>
    refine hrun _ (by decide) ?_
    rintro rfl
    cases hline
  | lineComment hc =>
    subst hc
    exact hrun _ (by decide) (by decide)
  | blockComment hc hcs n hn =>
    obtain ⟨rest, rfl⟩ := List.head?_eq_some_iff.1 hcs
    have hlast := getLast?_take_commentExtent? hn
    exact not_splitsLineEnd_of_getLast? (getLast?_take_cons (getLast?_take_cons hlast _) _)
      (by decide)
  | directive hc =>
    subst hc
    exact hrun _ (by decide) (by decide)
  | keyword hc =>
    refine hrun _ (by decide) ?_
    rintro rfl
    revert hc
    decide
  | identifier hc =>
    refine hrun _ (by decide) ?_
    rintro rfl
    revert hc
    decide
  | number hc =>
    refine not_splitsLineEnd_of_notMem ?_
    rw [List.take_succ_cons, List.mem_cons, not_or]
    refine ⟨?_, notMem_take_numberExtent _ c cs⟩
    rintro rfl
    simp [startsNumber, Char.isDigit] at hc
  | string hc n hn =>
    refine not_splitsLineEnd_of_getLast? (getLast?_take_cons (getLast?_take_stringExtent? hn) _) ?_
    rcases hc with rfl | rfl <;> decide
  | templateStart _ hc =>
    subst hc
    exact not_splitsLineEnd_of_getLast? (c := templateQuote) rfl (by decide)
  | regex _ _ _ n hn =>
    obtain ⟨d, hd, hne⟩ := exists_getLast?_take_regexExtent? hn
    exact not_splitsLineEnd_of_getLast? (getLast?_take_cons hd _) hne
  | punctuator p hp hcs =>
    have hsign : ∀ p ∈ l.punctuators, '\r' ∉ p.toList := by cases l <;> decide
    rw [← List.prefix_iff_eq_take.1 hcs]
    exact not_splitsLineEnd_of_notMem (hsign p hp)

/-- No piece of a template ends in the middle of a line end. -/
theorem not_splitsLineEnd_scanTemplate (c : Char) (cs : List Char) :
    ¬ SplitsLineEnd ((c :: cs).take (scanTemplate c cs).length)
      ((c :: cs).drop (scanTemplate c cs).length) := by
  obtain ⟨rfl, hlen, -⟩ | ⟨hs, hlen, -⟩ | ⟨-, -, hlen, -⟩ := scanTemplate_cases c cs
  · rw [hlen]
    exact not_splitsLineEnd_of_getLast? (c := templateQuote) rfl (by decide)
  · obtain ⟨rest, hrest⟩ := opensSubstitution_iff.1 hs
    rw [hlen, hrest]
    exact not_splitsLineEnd_of_getLast? (c := '\x7b') rfl (by decide)
  · rw [hlen]
    rintro ⟨-, hhead⟩
    rcases head?_drop_templateExtent hhead with hd | hd <;> cases hd

/-- **No token ends in the middle of a line end**, in whatever mode it is recognised. -/
theorem scan_not_splitsLineEnd {mode : Mode} {s : Scan} (h : scan l mode previous c cs = .ok s) :
    ¬ SplitsLineEnd ((c :: cs).take s.length) ((c :: cs).drop s.length) := by
  cases hcode : mode.isCode with
  | true => exact (codeToken_of_scanCode (scan_of_isCode hcode ▸ h)).not_splitsLineEnd
  | false =>
    obtain rfl := Mode.eq_template_of_not_isCode hcode
    cases h
    exact not_splitsLineEnd_scanTemplate c cs

end

end ImportScan
