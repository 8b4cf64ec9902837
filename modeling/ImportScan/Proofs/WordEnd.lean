import ImportScan.Proofs.LookAhead
import ImportScan.Proofs.OneLine
import ImportScan.Proofs.TokenEnd

/-!
# Where words end

A token ends in the middle of a word if its last character and the one behind it can both stand in
an identifier.  Nearly every token ends with a sign, or else before what is none of these
characters.  Numbers are different, since the letters in them are those of ASCII only; and so is the
text of a template, but no code comes behind it.

## Main definitions

* `SplitsWord` — a cut between two identifier characters.

## Main results

* `head?_drop_takeWhile`, `head?_drop_numberExtent`, `head?_drop_regexExtent?` — what stands behind
  a run, a number and the flags of a regular expression.
* `CodeToken.not_splitsWord`, `not_splitsWord_scanTemplate` — code and templates.
* `scan_not_splitsWord` — **no token ends in the middle of a word**, but for the two.
-/

namespace ImportScan

/-! ### Cuts -/

/-- A cut falls between two identifier characters. -/
def SplitsWord (before behind : List Char) : Prop :=
  before.getLast?.any isIdentifierPart = true ∧ behind.head?.any isIdentifierPart = true

section

variable {before behind lexeme : List Char} {c : Char}

theorem not_splitsWord_nil_left (behind : List Char) : ¬ SplitsWord [] behind := by
  rintro ⟨hlast, -⟩
  cases hlast

theorem not_splitsWord_of_getLast? (h : before.getLast? = some c)
    (hc : isIdentifierPart c = false) : ¬ SplitsWord before behind := by
  rintro ⟨hlast, -⟩
  rw [h, Option.any_some, hc] at hlast
  cases hlast

theorem not_splitsWord_of_head? (h : behind.head?.any isIdentifierPart = false) :
    ¬ SplitsWord before behind := by
  rintro ⟨-, hhead⟩
  rw [h] at hhead
  cases hhead

theorem not_splitsWord_of_forall (h : ∀ c ∈ before, isIdentifierPart c = false) :
    ¬ SplitsWord before behind := by
  rintro ⟨hlast, -⟩
  obtain ⟨c, hc, hpart⟩ := (Option.any_eq_true _ _).1 hlast
  rw [h c (List.mem_of_getLast? hc)] at hpart
  cases hpart

/-- Behind a word comes no identifier character if the cut does not split a word. -/
theorem head?_of_not_splitsWord (h : ¬ SplitsWord before behind) (hne : before ≠ [])
    (hparts : ∀ c ∈ before, isIdentifierPart c = true) :
    behind.head?.any isIdentifierPart = false := by
  rw [Bool.eq_false_iff]
  intro hhead
  refine h ⟨?_, hhead⟩
  rw [List.getLast?_eq_some_getLast hne]
  exact hparts _ (List.getLast_mem hne)

theorem getLast?_of_not_splitsWord (h : ¬ SplitsWord before (c :: behind))
    (hc : isIdentifierPart c = true) : before.getLast?.any isIdentifierPart = false := by
  rw [Bool.eq_false_iff]
  exact fun hlast => h ⟨hlast, hc⟩

theorem splitsWord_append_iff (hne : lexeme ≠ []) :
    SplitsWord (before ++ lexeme) behind ↔ SplitsWord lexeme behind := by
  rw [SplitsWord, SplitsWord, List.getLast?_append_of_ne_nil _ hne]

end

/-! ### What stands behind the characters that the readers take -/

/-- Behind a run comes nothing that could stand in it. -/
theorem head?_drop_takeWhile (p : Char → Bool) (cs : List Char) :
    (cs.drop (cs.takeWhile p).length).head?.any p = false := by
  induction cs with
  | nil => rfl
  | cons c cs ih =>
    cases hc : p c with
    | true =>
      rw [List.takeWhile_cons_of_pos hc, List.length_cons, List.drop_succ_cons]
      exact ih
    | false =>
      rw [List.takeWhile_cons_of_neg (by simp [hc])]
      exact hc

theorem forall_mem_take_takeWhile {p q : Char → Bool} {c : Char} (hc : q c = true)
    (hp : ∀ d, p d = true → q d = true) (cs : List Char) :
    ∀ d ∈ (c :: cs).take ((cs.takeWhile p).length + 1), q d = true := by
  have hrun : cs.take (cs.takeWhile p).length = cs.takeWhile p :=
    (List.prefix_iff_eq_take.1 (List.takeWhile_prefix p)).symm
  rw [List.take_succ_cons, hrun]
  exact List.forall_mem_cons.2 ⟨hc, fun d hd => hp d (List.mem_takeWhile_imp hd)⟩

/-- Behind a number comes nothing that can always stand in one. -/
theorem head?_drop_numberExtent (hex : Bool) (last : Char) (cs : List Char) :
    (cs.drop (numberExtent hex last cs)).head?.any isNumberPart = false := by
  induction cs generalizing last with
  | nil => rfl
  | cons c cs ih =>
    rw [numberExtent]
    split
    · rw [List.drop_succ_cons]
      exact ih c
    · next hc =>
      rw [Bool.or_eq_true, not_or, Bool.not_eq_true] at hc
      exact hc.1

/-- Behind the flags of a regular expression comes nothing that could be one. -/
theorem head?_drop_regexExtent? {inClass : Bool} {cs : List Char} {n : Nat}
    (h : regexExtent? inClass cs = some n) :
    (cs.drop n).head?.any isIdentifierPart = false := by
  induction inClass, cs using regexExtent?_induction generalizing n with
  | nil inClass => cases h
  | backslash inClass => cases h
  | escape inClass e cs ih =>
    rw [regexExtent?_escape] at h
    split at h
    · cases h
    · obtain ⟨m, hm, rfl⟩ := Option.map_eq_some_iff.1 h
      exact ih hm
  | slash cs =>
    rw [regexExtent?_slash] at h
    cases h
    exact head?_drop_takeWhile isIdentifierPart cs
  | lineEnd inClass c cs hc =>
    rw [regexExtent?_lineEnd hc] at h
    cases h
  | plain inClass c cs hescape hslash hc ih =>
    rw [regexExtent?_plain hescape hslash hc] at h
    obtain ⟨m, hm, rfl⟩ := Option.map_eq_some_iff.1 h
    exact ih hm

/-- No word goes on behind the end of a line. -/
theorem head?_drop_lineExtent (cs : List Char) :
    (cs.drop (lineExtent cs)).head?.any isIdentifierPart = false := by
  have hline := head?_drop_takeWhile (fun c => !isLineEnd c) cs
  rw [lineExtent]
  cases hd : (cs.drop (cs.takeWhile fun c => !isLineEnd c).length).head? with
  | none => rfl
  | some d =>
    rw [hd, Option.any_some, Bool.not_eq_false'] at hline
    exact isIdentifierPart_of_isBlank (isBlank_of_isLineEnd hline)

/-! ### Whole tokens -/

section

variable {l : Language} {previous : Option Significant} {c : Char} {cs : List Char}

theorem not_isIdentifierPart_of_mem_punctuators (l : Language) :
    ∀ p ∈ l.punctuators, ∀ c ∈ p.toList, isIdentifierPart c = false := by
  have hall : l.punctuators.all (fun p => p.toList.all fun d => !isIdentifierPart d) = true := by
    cases l <;> decide +kernel
  intro p hp d hd
  simpa using List.all_eq_true.1 (List.all_eq_true.1 hall p hp) d hd

/-- No token of code ends in the middle of a word, unless it is a number. -/
theorem CodeToken.not_splitsWord {kind : TokenKind} {n : Nat} {t : Transition}
    (h : CodeToken l previous c cs kind n t) (hkind : kind ≠ .numericLiteral) :
    ¬ SplitsWord ((c :: cs).take n) ((c :: cs).drop n) := by
  -- what a token ends with, or what follows it, is no part of a word
  cases h with
  | lineEndPair _ hcs =>
    obtain ⟨rest, rfl⟩ := List.head?_eq_some_iff.1 hcs
    exact not_splitsWord_of_getLast? (c := '\n') rfl (by decide +kernel)
  | lineEnd hc =>
    exact not_splitsWord_of_getLast? (c := c) rfl
      (isIdentifierPart_of_isBlank (isBlank_of_isLineEnd hc))
  | blanks hc =>
    have hblank := forall_mem_take_takeWhile (p := fun c => isBlank c && !isLineEnd c) hc
      (fun d hd => (Bool.and_eq_true_iff.1 hd).1) cs
    exact not_splitsWord_of_forall fun d hd => isIdentifierPart_of_isBlank (hblank d hd)
  | lineComment => exact not_splitsWord_of_head? (head?_drop_lineExtent cs)
  | blockComment hc hcs n hn =>
    obtain ⟨rest, rfl⟩ := List.head?_eq_some_iff.1 hcs
    have hlast := getLast?_take_commentExtent? hn
    exact not_splitsWord_of_getLast? (getLast?_take_cons (getLast?_take_cons hlast _) _)
      (by decide +kernel)
  | directive => exact not_splitsWord_of_head? (head?_drop_lineExtent cs)
  | keyword => exact not_splitsWord_of_head? (head?_drop_takeWhile isIdentifierPart cs)
  | identifier => exact not_splitsWord_of_head? (head?_drop_takeWhile isIdentifierPart cs)
  | number => exact absurd rfl hkind
  | string hc n hn =>
    refine not_splitsWord_of_getLast? (getLast?_take_cons (getLast?_take_stringExtent? hn) _) ?_
    rcases hc with rfl | rfl <;> decide +kernel
  | templateStart _ hc =>
    subst hc
    exact not_splitsWord_of_getLast? (c := templateQuote) rfl (by decide +kernel)
  | regex _ _ _ n hn =>
    refine not_splitsWord_of_head? ?_
    rw [List.drop_succ_cons]
    exact head?_drop_regexExtent? hn
  | punctuator p hp hcs =>
    rw [← List.prefix_iff_eq_take.1 hcs]
    exact not_splitsWord_of_forall (not_isIdentifierPart_of_mem_punctuators l p hp)

/-- A delimiter of a template does not end in the middle of a word. -/
theorem not_splitsWord_scanTemplate (h : (scanTemplate c cs).transition ≠ .stay) :
    ¬ SplitsWord ((c :: cs).take (scanTemplate c cs).length)
      ((c :: cs).drop (scanTemplate c cs).length) := by
  obtain ⟨rfl, hlen, -⟩ | ⟨hs, hlen, -⟩ | ⟨-, -, -, hstay⟩ := scanTemplate_cases c cs
  · rw [hlen]
    exact not_splitsWord_of_getLast? (c := templateQuote) rfl (by decide +kernel)
  · obtain ⟨rest, hrest⟩ := opensSubstitution_iff.1 hs
    rw [hlen, hrest]
    exact not_splitsWord_of_getLast? (c := '\x7b') rfl (by decide +kernel)
  · exact absurd hstay h

/-- **No token ends in the middle of a word**, unless it is a number or the text of a template. -/
theorem scan_not_splitsWord {mode : Mode} {s : Scan} (h : scan l mode previous c cs = .ok s)
    (hkind : s.kind ≠ .numericLiteral) (hmode : mode.isCode = true ∨ s.transition ≠ .stay) :
    ¬ SplitsWord ((c :: cs).take s.length) ((c :: cs).drop s.length) := by
  cases hcode : mode.isCode with
  | true => exact (codeToken_of_scanCode (scan_of_isCode hcode ▸ h)).not_splitsWord hkind
  | false =>
    obtain rfl := Mode.eq_template_of_not_isCode hcode
    cases h
    exact not_splitsWord_scanTemplate (hmode.resolve_left (by simp [hcode]))

/-- A word is made of identifier characters. -/
theorem CodeToken.isWord {kind : TokenKind} {n : Nat} {t : Transition}
    (h : CodeToken l previous c cs kind n t) (hkind : kind = .keyword ∨ kind = .identifier) :
    isIdentifierStart c = true ∧ ∀ d ∈ (c :: cs).take n, isIdentifierPart d = true := by
  have hword : isIdentifierStart c = true →
      ∀ d ∈ (c :: cs).take (wordExtent cs + 1), isIdentifierPart d = true := fun hc =>
    forall_mem_take_takeWhile (isIdentifierPart_of_start hc) (fun _ => id) cs
  cases h with
  | keyword hc => exact ⟨hc, hword hc⟩
  | identifier hc => exact ⟨hc, hword hc⟩
  | _ => simp at hkind

end

end ImportScan
