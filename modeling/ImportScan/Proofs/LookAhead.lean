import ImportScan.Proofs.Branch
import ImportScan.Proofs.Spelling

/-!
# How far the scanner looks ahead

A token is told from its own characters and from few behind them.  If some characters of a text are
known and a token ends among them, then what follows the known characters does not matter.  If the
token takes all of them, it is enough that they are followed by a gap, or by a comma, which no word,
number, sign or flag goes on with.

## Main definitions

* `EndsTokens`, `IsGap` — characters that no token goes on with; a blank or a line feed.
* `Branch.endsAt` — the branches whose tokens do not go on with a gap.
* `startsDelimiter` — a text that starts with a delimiter of a template.

## Main results

* `takeWhile_of_known`, `commentExtent?_of_known`, `stringExtent?_of_known`, `regexExtent?_of_known`,
  `templateExtent_of_known` — extents by what is known.
* `scanCode_of_known` — **a token of code that ends among the known characters, or before a gap, is
  scanned whatever follows**.
* `scanTemplate_of_known` — and so is a piece of a template, if the next delimiter is known.
-/

namespace ImportScan

variable {known tail tail' : List Char} {n : Nat}

/-! ### Gaps -/

theorem not_isBlank_of_mem_punctuators (l : Language) :
    ∀ p ∈ l.punctuators, ∀ d ∈ p.toList, isBlank d = false := by
  have hall : ∀ p ∈ l.punctuators, p.toList.all (fun d => !isBlank d) = true := by
    cases l <;> decide +kernel
  intro p hp d hd
  simpa using List.all_eq_true.1 (hall p hp) d hd

/-- A character that no word, number, sign or flag goes on with, and with which a slash starts no
comment. -/
structure EndsTokens (d : Char) : Prop where
  /-- No word goes on with it. -/
  not_isIdentifierPart : isIdentifierPart d = false
  /-- No number goes on with it. -/
  not_isNumberPart : isNumberPart d = false
  /-- It neither belongs to an exponent nor starts a comment behind a slash. -/
  notMem_signs : d ∉ ['+', '-', '/', '*']
  /-- No punctuator goes on with it. -/
  notMem_tail : ∀ l : Language, ∀ p ∈ l.punctuators, d ∉ p.toList.tail

/-- A character that separates tokens and that no line comment is needed to end at. -/
def IsGap (d : Char) : Prop := d = ' ' ∨ d = '\n'

theorem IsGap.endsTokens {d : Char} (h : IsGap d) : EndsTokens d where
  not_isIdentifierPart := by rcases h with rfl | rfl <;> decide +kernel
  not_isNumberPart := by rcases h with rfl | rfl <;> decide
  notMem_signs := by rcases h with rfl | rfl <;> decide
  notMem_tail := by
    intro l p hp hd
    have hblank := not_isBlank_of_mem_punctuators l p hp d (List.mem_of_mem_tail hd)
    rcases h with rfl | rfl <;> cases hblank

theorem EndsTokens.not_isDigit {d : Char} (h : EndsTokens d) : d.isDigit = false := by
  have hpart := h.not_isNumberPart
  simp only [isNumberPart, Char.isAlphanum, Bool.or_eq_false_iff] at hpart
  exact hpart.1.1.2

/-! ### Runs -/

/-- A run is known if it ends among the known characters, or if what follows them does not go on
with it. -/
theorem takeWhile_of_known {p : Char → Bool}
    (hle : ((known ++ tail).takeWhile p).length ≤ known.length)
    (hends : ((known ++ tail).takeWhile p).length < known.length ∨
      tail'.head?.all (fun d => !p d) = true) :
    (known ++ tail').takeWhile p = (known ++ tail).takeWhile p := by
  rw [List.takeWhile_append] at hle hends ⊢
  rw [List.takeWhile_append]
  split
  · next hall =>
    rw [if_pos hall, List.length_append] at hle hends
    have htail : tail.takeWhile p = [] := List.length_eq_zero_iff.1 (by omega)
    have hstop : tail'.head?.all (fun d => !p d) = true := hends.resolve_left (by omega)
    have htail' : tail'.takeWhile p = [] := by
      cases tail' with
      | nil => rfl
      | cons d tail' => simpa [List.takeWhile_cons] using hstop
    rw [htail, htail']
  · rfl

theorem numberExtent_gap {d : Char} (hd : EndsTokens d) (hex : Bool) (last : Char) :
    numberExtent hex last (d :: tail) = 0 := by
  have hsigns := hd.notMem_signs
  simp only [List.mem_cons, not_or] at hsigns
  simp [numberExtent, hd.not_isNumberPart, hsigns.1, hsigns.2.1]

theorem numberExtent_of_known {d : Char} (hd : EndsTokens d) {hex : Bool} {last : Char}
    (hle : numberExtent hex last (known ++ tail) ≤ known.length) :
    numberExtent hex last (known ++ d :: tail') = numberExtent hex last (known ++ tail) := by
  induction known generalizing last with
  | nil =>
    rw [List.nil_append, List.nil_append, numberExtent_gap hd]
    exact (Nat.le_zero.1 hle).symm
  | cons c known ih =>
    simp only [List.cons_append, numberExtent] at hle ⊢
    split
    · next hc =>
      rw [if_pos hc, List.length_cons, Nat.add_le_add_iff_right] at hle
      rw [ih hle]
    · rfl

/-! ### Extents with an end of their own -/

/-- A comment is told from its own characters. -/
theorem commentExtent?_take {cs : List Char} (h : commentExtent? cs = some n) :
    commentExtent? (cs.take n) = some n := by
  fun_induction commentExtent? cs generalizing n with
  | case1 => cases h
  | case2 cs =>
    cases h
    rfl
  | case3 c cs hne ih =>
    obtain ⟨m, hm, rfl⟩ := Option.map_eq_some_iff.1 h
    rw [List.take_succ_cons, commentExtent?, ih hm]
    · rfl
    · -- the comment would have ended here before
      intro more hc hcs
      obtain ⟨rest, hrest⟩ := List.take_prefix m cs
      rw [hcs] at hrest
      exact hne _ hc hrest.symm

/-- A string is told from its own characters. -/
theorem stringExtent?_take {quote : Char} {cs : List Char} (h : stringExtent? quote cs = some n) :
    stringExtent? quote (cs.take n) = some n := by
  -- the literal ends with its mark, and nothing behind that is looked at
  fun_induction stringExtent? quote cs generalizing n with
  | case1 => cases h
  | case2 =>
    cases h
    rw [List.take_succ_cons, stringExtent?.eq_def]
    simp
  | case3 => cases h
  | case4 more hquote ih =>
    obtain ⟨m, hm, rfl⟩ := Option.map_eq_some_iff.1 h
    simp only [List.take_succ_cons, stringExtent?.eq_def quote ('\\' :: _), if_neg hquote, ih hm]
    rfl
  | case5 e more hpair hquote ih =>
    obtain ⟨m, hm, rfl⟩ := Option.map_eq_some_iff.1 h
    have hpair' : ∀ behind, e = '\r' → more.take m = '\n' :: behind → False := by
      intro behind he hbehind
      obtain ⟨rest, hrest⟩ := List.take_prefix m more
      rw [hbehind] at hrest
      exact hpair _ he hrest.symm
    rw [List.take_succ_cons, List.take_succ_cons, stringExtent?.eq_4 _ _ _ _ hpair', if_neg hquote,
      if_pos rfl, ih hm]
    rfl
  | case6 => cases h
  | case7 c cs hquote hslash hline ih =>
    obtain ⟨m, hm, rfl⟩ := Option.map_eq_some_iff.1 h
    rw [List.take_succ_cons, stringExtent?.eq_def]
    simp only [if_neg hquote, if_neg hslash, if_neg hline, ih hm]
    rfl

theorem take_of_known (hle : n ≤ known.length) : known.take n = (known ++ tail).take n :=
  (List.take_append_of_le_length hle).symm

theorem commentExtent?_of_known (h : commentExtent? (known ++ tail) = some n)
    (hle : n ≤ known.length) : commentExtent? (known ++ tail') = some n := by
  have hself := commentExtent?_take h
  rw [← take_of_known hle] at hself
  rw [← List.take_append_drop n known, List.append_assoc]
  exact commentExtent?_append hself

theorem stringExtent?_of_known {quote : Char} (h : stringExtent? quote (known ++ tail) = some n)
    (hle : n ≤ known.length) : stringExtent? quote (known ++ tail') = some n := by
  have hself := stringExtent?_take h
  rw [← take_of_known hle] at hself
  rw [← List.take_append_drop n known, List.append_assoc]
  exact stringExtent?_append hself

/-! ### Regular expressions -/

section

variable {inClass : Bool} {c : Char} {cs : List Char}

/-- Whether a class is open behind a character that is not escaped. -/
def classBehind (inClass : Bool) (c : Char) : Bool :=
  if c = '[' then true else if c = ']' then false else inClass

theorem regexExtent?_escape (inClass : Bool) (e : Char) (cs : List Char) :
    regexExtent? inClass ('\\' :: e :: cs)
      = if isLineEnd e then none else (regexExtent? inClass cs).map (· + 2) := rfl

theorem regexExtent?_slash (cs : List Char) :
    regexExtent? false ('/' :: cs) = some (wordExtent cs + 1) := by
  rw [regexExtent?.eq_def]
  rfl

theorem regexExtent?_lineEnd (hc : isLineEnd c = true) : regexExtent? inClass (c :: cs) = none := by
  rw [regexExtent?.eq_def]
  rcases isLineEnd_iff.1 hc with rfl | rfl | rfl | rfl <;> rfl

/-- Any other character is passed. -/
theorem regexExtent?_plain (hescape : c ≠ '\\') (hslash : ¬ (c = '/' ∧ inClass = false))
    (hc : isLineEnd c = false) : regexExtent? inClass (c :: cs)
      = (regexExtent? (classBehind inClass c) cs).map (· + 1) := by
  rw [regexExtent?.eq_def, classBehind]
  simp only [if_neg hescape]
  split
  · rfl
  · split
    · rfl
    · rw [if_neg (by simpa using hslash), if_neg (by simp [hc])]

/-- The characters of a regular expression, one by one, and escapes as a whole. -/
@[elab_as_elim]
theorem regexExtent?_induction {motive : Bool → List Char → Prop}
    (nil : ∀ inClass, motive inClass [])
    (backslash : ∀ inClass, motive inClass ['\\'])
    (escape : ∀ inClass e cs, motive inClass cs → motive inClass ('\\' :: e :: cs))
    (slash : ∀ cs, motive false ('/' :: cs))
    (lineEnd : ∀ inClass c cs, isLineEnd c = true → motive inClass (c :: cs))
    (plain : ∀ inClass c cs, c ≠ '\\' → ¬ (c = '/' ∧ inClass = false) → isLineEnd c = false →
      motive (classBehind inClass c) cs → motive inClass (c :: cs))
    (inClass : Bool) (cs : List Char) : motive inClass cs := by
  -- an escape takes two characters at once
  induction hlength : cs.length using Nat.strongRecOn generalizing inClass cs with
  | ind n ih =>
    subst hlength
    cases cs with
    | nil => exact nil inClass
    | cons c cs =>
      by_cases hescape : c = '\\'
      · subst hescape
        cases cs with
        | nil => exact backslash inClass
        | cons e cs =>
          have hlt : cs.length < ('\\' :: e :: cs).length := by
            simp only [List.length_cons]
            omega
          exact escape inClass e cs (ih _ hlt _ cs rfl)
      · by_cases hslash : c = '/' ∧ inClass = false
        · obtain ⟨rfl, rfl⟩ := hslash
          exact slash cs
        · cases hc : isLineEnd c with
          | true => exact lineEnd inClass c cs hc
          | false => exact plain inClass c cs hescape hslash hc (ih _ (by simp) _ cs rfl)

/-- A regular expression takes its closing slash, if nothing else. -/
theorem regexExtent?_pos (h : regexExtent? inClass cs = some n) : 0 < n := by
  have hmap : ∀ {extent? : Option Nat} {k : Nat}, 0 < k → extent?.map (· + k) = some n → 0 < n := by
    intro extent? k hk h
    obtain ⟨m, -, rfl⟩ := Option.map_eq_some_iff.1 h
    omega
  induction inClass, cs using regexExtent?_induction with
  | nil inClass => cases h
  | backslash inClass => cases h
  | escape inClass e cs _ =>
    rw [regexExtent?_escape] at h
    split at h
    · cases h
    · exact hmap (by decide) h
  | slash cs =>
    rw [regexExtent?_slash] at h
    cases h
    exact Nat.succ_pos _
  | lineEnd inClass c cs hc =>
    rw [regexExtent?_lineEnd hc] at h
    cases h
  | plain inClass c cs hescape hslash hc _ =>
    rw [regexExtent?_plain hescape hslash hc] at h
    exact hmap (by decide) h

end

/-- A regular expression is known if its flags end among the known characters, or before a gap. -/
theorem regexExtent?_of_known {d : Char} (hd : EndsTokens d) {inClass : Bool}
    (h : regexExtent? inClass (known ++ tail) = some n) (hle : n ≤ known.length) :
    regexExtent? inClass (known ++ d :: tail') = some n := by
  induction inClass, known using regexExtent?_induction generalizing n with
  | nil inClass =>
    have hpos := regexExtent?_pos h
    rw [List.length_nil] at hle
    omega
  | backslash inClass =>
    -- the backslash takes with it what is not known
    exfalso
    cases tail with
    | nil => cases h
    | cons e tail =>
      rw [List.singleton_append, regexExtent?_escape] at h
      split at h
      · cases h
      · obtain ⟨m, -, rfl⟩ := Option.map_eq_some_iff.1 h
        simp at hle
  | escape inClass e cs ih =>
    rw [List.cons_append, List.cons_append, regexExtent?_escape] at h ⊢
    split at h
    · cases h
    · next he =>
      obtain ⟨m, hm, rfl⟩ := Option.map_eq_some_iff.1 h
      rw [if_neg he, ih hm (by simpa using hle)]
      rfl
  | slash cs =>
    rw [List.cons_append, regexExtent?_slash] at h ⊢
    cases h
    refine congrArg (fun flags => some (List.length flags + 1)) (takeWhile_of_known ?_ ?_)
    · exact Nat.le_of_succ_le_succ hle
    · exact .inr (by simp [hd.not_isIdentifierPart])
  | lineEnd inClass c cs hc =>
    rw [List.cons_append, regexExtent?_lineEnd hc] at h
    cases h
  | plain inClass c cs hescape hslash hc ih =>
    rw [List.cons_append, regexExtent?_plain hescape hslash hc] at h ⊢
    obtain ⟨m, hm, rfl⟩ := Option.map_eq_some_iff.1 h
    rw [ih hm (Nat.le_of_succ_le_succ hle)]
    rfl

/-! ### Punctuators -/

variable {l : Language} {c : Char} {cs : List Char} {s : Scan}

theorem scanPunctuator_eq_ok (h : scanPunctuator l c cs = .ok s) :
    ∃ p hpos, l.punctuators.find? (fun p => p.toList.isPrefixOf (c :: cs)) = some p ∧
      s = ⟨.punctuator, p.toList.length, .stay, hpos⟩ := by
  unfold scanPunctuator at h
  split at h
  · next p hp =>
    cases h
    exact ⟨p, _, hp, rfl⟩
  · cases h

theorem scanPunctuator_of_find? {p : String}
    (h : l.punctuators.find? (fun p => p.toList.isPrefixOf (c :: cs)) = some p) :
    ∃ hpos, scanPunctuator l c cs = .ok ⟨.punctuator, p.toList.length, .stay, hpos⟩ := by
  refine ⟨l.punctuators_ne_empty p (List.mem_of_find?_eq_some h), ?_⟩
  unfold scanPunctuator
  split
  · next q hq =>
    obtain rfl := Option.some.inj (hq.symm.trans h)
    rfl
  · next hnone => cases hnone.symm.trans h

theorem scanPunctuator_of_find?_none
    (h : l.punctuators.find? (fun p => p.toList.isPrefixOf (c :: cs)) = none) :
    scanPunctuator l c cs = .error (.strayCharacter c) := by
  unfold scanPunctuator
  split
  · next p hp => cases hp.symm.trans h
  · rfl

/-- What does not hold a character starts a text before it only if it does so by itself. -/
theorem prefix_of_prefix_gap {d : Char} {p : List Char} (hp : d ∉ p)
    (h : p <+: known ++ d :: tail') : p <+: known := by
  rcases List.prefix_or_prefix_of_prefix h (List.prefix_append known _) with hle | ⟨more, rfl⟩
  · exact hle
  · cases more with
    | nil => simp
    | cons e more =>
      obtain ⟨behind, hbehind⟩ := h
      rw [List.append_assoc, List.append_cancel_left_eq] at hbehind
      obtain ⟨rfl, -⟩ := List.cons.inj hbehind
      simp at hp

theorem scanPunctuator_of_known {d : Char} (hd : EndsTokens d)
    (h : scanPunctuator l c (known ++ tail) = .ok s) (hle : s.length ≤ known.length + 1) :
    scanPunctuator l c (known ++ d :: tail') = .ok s := by
  obtain ⟨p, hpos, hfind, rfl⟩ := scanPunctuator_eq_ok h
  obtain ⟨hfound, before, behind, hpunctuators, hbefore⟩ := List.find?_eq_some_iff_append.1 hfind
  simp only [List.isPrefixOf_iff_prefix, ← List.cons_append] at hfound hbefore
  have hfind' : l.punctuators.find? (fun p => p.toList.isPrefixOf (c :: (known ++ d :: tail')))
      = some p := by
    rw [List.find?_eq_some_iff_append]
    refine ⟨?_, before, behind, hpunctuators, ?_⟩
    · have hknown := List.prefix_of_prefix_length_le hfound (List.prefix_append (c :: known) tail) hle
      rw [List.isPrefixOf_iff_prefix, ← List.cons_append]
      exact hknown.trans (List.prefix_append _ _)
    · -- what stands before it in the list would have been found with any text behind
      intro q hq
      have hno := hbefore q hq
      simp only [Bool.not_eq_true', Bool.eq_false_iff, ne_eq, List.isPrefixOf_iff_prefix,
        ← List.cons_append] at hno ⊢
      intro hgap
      refine hno (List.IsPrefix.trans ?_ (List.prefix_append (c :: known) tail))
      cases hlist : q.toList with
      | nil => exact List.nil_prefix
      | cons e more =>
        have htail := hd.notMem_tail l q (by simp [hpunctuators, hq])
        rw [hlist] at hgap htail
        obtain ⟨rfl, hmore⟩ := List.cons_prefix_cons.1 hgap
        exact List.cons_prefix_cons.2 ⟨rfl, prefix_of_prefix_gap htail hmore⟩
  obtain ⟨hpos', hscan⟩ := scanPunctuator_of_find? hfind'
  exact hscan

/-! ### Tokens of code -/

namespace Branch

/-- Whether no token of this branch goes on with the gap. -/
def endsAt (d : Char) : Branch → Bool
  | .lineEnd => d != '\n'
  | .blanks | .lineComment | .directive => false
  | _ => true

theorem endsAt_of_punctuator {b : Branch} (h : b.scan l c cs = .ok s) (hkind : s.kind = .punctuator)
    (d : Char) : b.endsAt d = true := by
  cases b with
  | lineEnd | blanks | lineComment | directive =>
    cases h
    cases hkind
  | _ => rfl

theorem blankExtent_of_known (h : blankExtent (known ++ tail) < known.length) :
    blankExtent (known ++ tail') = blankExtent (known ++ tail) :=
  congrArg List.length (takeWhile_of_known (Nat.le_of_lt h) (.inl h))

theorem lineExtent_of_known (h : lineExtent (known ++ tail) < known.length) :
    lineExtent (known ++ tail') = lineExtent (known ++ tail) :=
  congrArg List.length (takeWhile_of_known (Nat.le_of_lt h) (.inl h))

theorem scanWord_of_known {d : Char} (hd : EndsTokens d)
    (hle : wordExtent (known ++ tail) ≤ known.length) :
    scanWord l c (known ++ d :: tail') = scanWord l c (known ++ tail) := by
  have hextent : wordExtent (known ++ d :: tail') = wordExtent (known ++ tail) :=
    congrArg List.length (takeWhile_of_known hle (.inr (by simp [hd.not_isIdentifierPart])))
  have htake : (known ++ d :: tail').take (wordExtent (known ++ tail))
      = (known ++ tail).take (wordExtent (known ++ tail)) := by
    rw [List.take_append_of_le_length hle, List.take_append_of_le_length hle]
  simp only [scanWord, hextent, htake]

/-- A token that ends among the known characters, or that takes all of them and does not go on with
a gap. -/
theorem scan_of_known {b : Branch} {d : Char} (hd : EndsTokens d)
    (h : b.scan l c (known ++ tail) = .ok s) (hle : s.length ≤ known.length + 1)
    (hends : s.length ≤ known.length ∨ b.endsAt d = true) :
    b.scan l c (known ++ d :: tail') = .ok s := by
  -- most branches look no further than their token; a run needs to be told that it ends
  cases b with
  | lineEndPair => exact h
  | lineEnd => exact h
  | template => exact h
  | blanks =>
    cases h
    have hshort := hends.resolve_right (by simp [endsAt])
    simp only [scan, blankExtent_of_known hshort]
  | lineComment =>
    cases h
    have hshort := hends.resolve_right (by simp [endsAt])
    simp only [scan, lineExtent_of_known hshort]
  | directive =>
    cases h
    have hshort := hends.resolve_right (by simp [endsAt])
    simp only [scan, lineExtent_of_known hshort]
  | blockComment =>
    dsimp only [scan] at h
    split at h
    · next n hn =>
      cases h
      dsimp only at hle
      cases known with
      | nil =>
        rw [List.length_nil] at hle
        omega
      | cons e known =>
        have hn' : commentExtent? ((e :: known) ++ d :: tail').tail = some n :=
          commentExtent?_of_known hn (by simpa using hle)
        simp only [scan, hn']
    · cases h
  | word =>
    cases h
    have hextent : wordExtent (known ++ tail) ≤ known.length := Nat.le_of_succ_le_succ hle
    simp only [scan, scanWord_of_known hd hextent]
  | number =>
    cases h
    have hextent : numberExtent (isHexadecimal c (known ++ tail)) c (known ++ tail)
      ≤ known.length := Nat.le_of_succ_le_succ hle
    have hextent' : numberExtent (isHexadecimal c (known ++ d :: tail')) c (known ++ d :: tail')
        = numberExtent (isHexadecimal c (known ++ tail)) c (known ++ tail) := by
      cases known with
      | nil =>
        rw [List.nil_append, numberExtent_gap hd]
        exact (Nat.le_zero.1 hextent).symm
      | cons e known => exact numberExtent_of_known hd hextent
    simp only [scan, hextent']
  | string =>
    dsimp only [scan] at h
    split at h
    · next n hn =>
      cases h
      simp only [scan, stringExtent?_of_known hn (Nat.le_of_succ_le_succ hle)]
    · cases h
  | regex =>
    dsimp only [scan] at h
    split at h
    · next n hn =>
      cases h
      simp only [scan, regexExtent?_of_known hd hn (Nat.le_of_succ_le_succ hle)]
    · cases h
  | punctuator => exact scanPunctuator_of_known hd h hle

end Branch

variable {previous : Option Significant}

/-- A gap behind a token of one character leads to the branch that the token has taken. -/
theorem branch_gap {d : Char} (hd : EndsTokens d)
    (h : (branch l previous c tail.head?).scan l c tail = .ok s) (hle : s.length ≤ 1)
    (hends : (branch l previous c tail.head?).endsAt d = true) :
    branch l previous c (some d) = branch l previous c tail.head? := by
  -- only a line end, a slash and a point look at the next character
  by_cases hreturn : c = '\r'
  · subst hreturn
    rw [branch_return] at h hends
    rw [branch_return, branch_return]
    split at h
    · cases h
      simp at hle
    · next hpair =>
      rw [if_neg hpair] at hends
      rw [if_neg hpair, if_neg (by simpa [Branch.endsAt] using hends)]
  by_cases hslash : c = '/'
  · have hsigns := hd.notMem_signs
    simp only [List.mem_cons, List.not_mem_nil, not_or, or_false] at hsigns
    obtain ⟨-, -, hslash', hstar⟩ := hsigns
    subst hslash
    rw [branch_slash] at h hends
    rw [branch_slash, branch_slash, if_neg (by simpa using hslash'), if_neg (by simpa using hstar)]
    split at h
    · next hline =>
      rw [if_pos hline] at hends
      cases hends
    · next hline =>
      rw [if_neg hline]
      split at h
      · exfalso
        dsimp only [Branch.scan] at h
        split at h
        · cases h
          simp at hle
        · cases h
      · next hblock => rw [if_neg hblock]
  by_cases hpoint : c = '.'
  · subst hpoint
    rw [branch_point] at h
    rw [branch_point, branch_point, if_neg (by simp [hd.not_isDigit])]
    split at h
    · -- the digit would belong to the number
      next hdigit =>
      exfalso
      cases tail with
      | nil => cases hdigit
      | cons e tail =>
        cases h
        have hpart : isNumberPart e = true := by
          have he : e.isDigit = true := hdigit
          simp [isNumberPart, Char.isAlphanum, he]
        simp [numberExtent, hpart] at hle
    · next hdigit => rw [if_neg hdigit]
  exact branch_of_ne hreturn hslash hpoint _ _

/-- **A token of code that ends among the known characters, or before a gap, is scanned whatever
follows.** -/
theorem scanCode_of_known {d : Char} (hd : EndsTokens d)
    (h : scanCode l previous c (known ++ tail) = .ok s) (hle : s.length ≤ known.length + 1)
    (hends : s.length ≤ known.length ∨
      (branch l previous c (known ++ tail).head?).endsAt d = true) :
    scanCode l previous c (known ++ d :: tail') = .ok s := by
  rw [scanCode_eq] at h ⊢
  have hbranch : branch l previous c (known ++ d :: tail').head?
      = branch l previous c (known ++ tail).head? := by
    cases known with
    | nil =>
      have hpos := s.length_pos
      rw [List.length_nil] at hle hends
      exact branch_gap hd h hle (hends.resolve_left (by omega))
    | cons e known => rfl
  rw [hbranch]
  exact Branch.scan_of_known hd h hle hends

/-! ### Templates -/

/-- Whether a text starts with a delimiter of a template. -/
def startsDelimiter (cs : List Char) : Bool :=
  cs.head? == some templateQuote || opensSubstitution cs

theorem startsDelimiter_append (h : startsDelimiter known = true) (tail : List Char) :
    startsDelimiter (known ++ tail) = true := by
  rw [startsDelimiter, Bool.or_eq_true, beq_iff_eq] at h
  rcases h with h | h
  · obtain ⟨rest, rfl⟩ := List.head?_eq_some_iff.1 h
    rfl
  · obtain ⟨rest, rfl⟩ := opensSubstitution_iff.1 h
    rfl

/-- Of a text of two characters or more, the rest does not matter. -/
theorem startsDelimiter_cons_cons (c e : Char) (cs cs' : List Char) :
    startsDelimiter (c :: e :: cs) = startsDelimiter (c :: e :: cs') := by
  have hopens : opensSubstitution (c :: e :: cs) = opensSubstitution (c :: e :: cs') := by
    rw [Bool.eq_iff_iff, opensSubstitution_iff, opensSubstitution_iff]
    simp
  simp only [startsDelimiter, List.head?_cons, hopens]

theorem templateExtent_escape (e : Char) (cs : List Char) :
    templateExtent ('\\' :: e :: cs) = templateExtent cs + 2 := rfl

theorem templateExtent_delimiter {cs : List Char} (h : startsDelimiter cs = true) :
    templateExtent cs = 0 := by
  rw [startsDelimiter, Bool.or_eq_true, beq_iff_eq] at h
  rcases h with h | h
  · obtain ⟨rest, rfl⟩ := List.head?_eq_some_iff.1 h
    rw [templateExtent.eq_def]
    rfl
  · obtain ⟨rest, rfl⟩ := opensSubstitution_iff.1 h
    rw [templateExtent.eq_def]
    rfl

theorem templateExtent_plain (hescape : c ≠ '\\') (h : startsDelimiter (c :: cs) = false) :
    templateExtent (c :: cs) = templateExtent cs + 1 := by
  simp only [startsDelimiter, List.head?_cons, Bool.or_eq_false_iff, beq_eq_false_iff_ne, ne_eq,
    Option.some.injEq] at h
  rw [templateExtent.eq_def]
  simp [hescape, h.1, h.2]

/-- The text of a template is known up to a delimiter that is. -/
theorem templateExtent_of_known (known : List Char)
    (hdelimiter : startsDelimiter (known.drop (templateExtent (known ++ tail))) = true) :
    templateExtent (known ++ tail') = templateExtent (known ++ tail) := by
  fun_induction templateExtent known with
  | case1 =>
    rw [List.drop_nil] at hdelimiter
    cases hdelimiter
  | case2 =>
    -- the backslash takes a character with it, and no delimiter is known
    exfalso
    cases tail with
    | nil => cases hdelimiter
    | cons e tail =>
      rw [List.singleton_append, templateExtent_escape, List.drop_succ_cons, List.drop_nil]
        at hdelimiter
      cases hdelimiter
  | case3 e rest ih =>
    simp only [List.cons_append, templateExtent_escape, List.drop_succ_cons] at hdelimiter ⊢
    rw [ih hdelimiter]
  | case4 c cs hescape hends =>
    have hstarts : startsDelimiter (c :: cs) = true := by simpa [startsDelimiter] using hends
    rw [templateExtent_delimiter (startsDelimiter_append hstarts tail),
      templateExtent_delimiter (startsDelimiter_append hstarts tail')]
  | case5 c cs hescape hends ih =>
    have hstarts : startsDelimiter (c :: cs) = false := by
      rw [Bool.eq_false_iff]
      simpa [startsDelimiter] using hends
    cases cs with
    | nil =>
      exfalso
      cases htail : startsDelimiter (c :: tail) with
      | true =>
        rw [List.singleton_append, templateExtent_delimiter htail, List.drop_zero, hstarts]
          at hdelimiter
        cases hdelimiter
      | false =>
        rw [List.singleton_append, templateExtent_plain hescape htail, List.drop_succ_cons,
          List.drop_nil] at hdelimiter
        cases hdelimiter
    | cons e cs =>
      have hlong : ∀ more, startsDelimiter (c :: (e :: cs ++ more)) = false := by
        intro more
        rw [List.cons_append, startsDelimiter_cons_cons c e (cs ++ more) cs]
        exact hstarts
      change startsDelimiter ((c :: e :: cs).drop (templateExtent (c :: (e :: cs ++ tail)))) = true
        at hdelimiter
      rw [templateExtent_plain hescape (hlong tail), List.drop_succ_cons] at hdelimiter
      show templateExtent (c :: (e :: cs ++ tail')) = templateExtent (c :: (e :: cs ++ tail))
      rw [templateExtent_plain hescape (hlong tail), templateExtent_plain hescape (hlong tail'),
        ih hdelimiter]

/-- The text of a template reaches up to the next delimiter, or to the end. -/
theorem drop_templateExtent (cs : List Char) :
    cs.drop (templateExtent cs) = [] ∨ startsDelimiter (cs.drop (templateExtent cs)) = true := by
  fun_induction templateExtent cs with
  | case1 => exact .inl rfl
  | case2 => exact .inl rfl
  | case3 e rest ih => simpa only [List.drop_succ_cons] using ih
  | case4 c cs _ hends => exact .inr (by simpa [startsDelimiter] using hends)
  | case5 c cs _ _ ih => simpa only [List.drop_succ_cons] using ih

/-- A piece of a template that ends among the known characters is scanned whatever follows, if it is
a delimiter or if the next delimiter is known. -/
theorem scanTemplate_of_known (hle : (scanTemplate c (known ++ tail)).length ≤ known.length + 1)
    (hnext : (scanTemplate c (known ++ tail)).transition = .stay →
      startsDelimiter ((c :: known).drop (scanTemplate c (known ++ tail)).length) = true) :
    scanTemplate c (known ++ tail') = scanTemplate c (known ++ tail) := by
  obtain ⟨hc, -⟩ | ⟨hopens, hlength, -⟩ | ⟨hc, hopens, hlength, hstay⟩ :=
    scanTemplate_cases c (known ++ tail)
  · simp only [scanTemplate, dif_pos hc]
  · obtain ⟨rest, hrest⟩ := opensSubstitution_iff.1 hopens
    obtain ⟨rfl, hbrace⟩ := List.cons.inj hrest
    cases known with
    | nil =>
      rw [hlength, List.length_nil] at hle
      omega
    | cons e known =>
      obtain rfl := (List.cons.inj hbrace).1
      rfl
  · have hdelimiter := hnext hstay
    rw [hlength] at hdelimiter
    have hextent : templateExtent (c :: (known ++ tail')) = templateExtent (c :: (known ++ tail)) :=
      templateExtent_of_known (c :: known) hdelimiter
    -- a substitution that opens would end the token before its first character
    have hopens' : ¬ opensSubstitution (c :: (known ++ tail')) = true := by
      intro hopens'
      have hstarts : startsDelimiter (c :: (known ++ tail')) = true := by
        simp [startsDelimiter, hopens']
      have hpos := templateExtent_pos hc hopens
      rw [← hextent, templateExtent_delimiter hstarts] at hpos
      omega
    simp only [scanTemplate, dif_neg hc, dif_neg hopens', hextent, hopens, Bool.false_eq_true,
      dif_neg not_false]

end ImportScan
