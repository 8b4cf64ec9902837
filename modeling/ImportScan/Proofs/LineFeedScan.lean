import Mathlib.Data.List.Find
import ImportScan.Proofs.LineFeed
import ImportScan.Proofs.LookAhead

/-!
# Scanning pairs for line feeds

Tokens reach as far in a text whose line feeds are spelled as pairs as they do in the text itself.
Where a line end stops a token, the carriage return stops it; where a token goes over a line end, it
goes over both characters, since no delimiter, quote or bracket is one of them.  A backslash in a
template takes the carriage return only, and the line feed is then passed as any other character.

## Main definitions

* `ScansAlike` — two scans that recognise the same token, or fail with the same fault.

## Main results

* `commentExtent?_crlf`, `stringExtent?_crlf`, `regexExtent?_crlf`, `templateExtent_crlf` — extents.
* `scan_crlf` — **the token at the start of a text is the same in both spellings**.
-/

namespace ImportScan

variable {c : Char} {cs : List Char}

/-! ### Extents -/

theorem take_length_takeWhile (p : Char → Bool) (cs : List Char) :
    cs.take (cs.takeWhile p).length = cs.takeWhile p :=
  (List.prefix_iff_eq_take.1 (List.takeWhile_prefix p)).symm

theorem crlf_take_takeWhile {p : Char → Bool} (hfeed : p '\n' = false) (cs : List Char) :
    crlf (cs.take (cs.takeWhile p).length) = cs.takeWhile p := by
  rw [take_length_takeWhile, crlf_of_notMem]
  intro hmem
  have hp : p '\n' = true := List.mem_takeWhile_imp hmem
  rw [hfeed] at hp
  cases hp

theorem numberExtent_crlf (hex : Bool) (last : Char) (cs : List Char) :
    numberExtent hex last (crlf cs) = numberExtent hex last cs ∧
      crlf (cs.take (numberExtent hex last cs)) = cs.take (numberExtent hex last cs) := by
  induction cs generalizing last with
  | nil => exact ⟨rfl, rfl⟩
  | cons c cs ih =>
    by_cases hc : c = '\n'
    · subst hc
      exact ⟨by simp [numberExtent, isNumberPart], by simp [numberExtent, isNumberPart]⟩
    · rw [crlf_cons hc, numberExtent, numberExtent, (ih c).1]
      refine ⟨rfl, ?_⟩
      split
      · rw [List.take_succ_cons, crlf_cons hc, (ih c).2]
      · rfl

theorem commentExtent?_crlf (cs : List Char) :
    commentExtent? (crlf cs) = (commentExtent? cs).map fun n => (crlf (cs.take n)).length := by
  fun_induction commentExtent? cs with
  | case1 => rfl
  | case2 cs => rfl
  | case3 c cs hne ih =>
    have hplain : ∀ {c : Char} {cs : List Char}, (∀ more, c = '*' → cs = '/' :: more → False) →
        commentExtent? (c :: cs) = (commentExtent? cs).map (· + 1) := by
      intro c cs h
      rw [commentExtent?.eq_3 _ _ h]
    by_cases hc : c = '\n'
    · subst hc
      rw [crlf_feed, hplain (by simp), hplain (by simp), ih]
      cases commentExtent? cs <;> rfl
    · rw [crlf_cons hc, hplain, ih]
      · cases commentExtent? cs with
        | none => rfl
        | some n => simp [crlf_cons hc]
      -- a comment that ends in the other spelling ends here as well
      · rintro more rfl hmore
        have hhead : cs.head? = some '/' :=
          (head?_crlf_eq_some_iff (by decide) (by decide)).1 (by rw [hmore]; rfl)
        obtain ⟨rest, rfl⟩ := List.head?_eq_some_iff.1 hhead
        exact hne rest rfl rfl

theorem ne_of_isQuoteMark (hc : isQuoteMark c = true) : c ≠ '\r' ∧ c ≠ '\n' := by
  constructor <;>
  · rintro rfl
    cases hc

/-- An escaped pair is passed as a whole, and any other character behind a backslash by itself. -/
theorem stringExtent?_crlf {quote : Char} (hquote : isQuoteMark quote = true) (h : '\r' ∉ cs) :
    stringExtent? quote (crlf cs)
      = (stringExtent? quote cs).map fun n => (crlf (cs.take n)).length := by
  obtain ⟨hreturn, hfeed⟩ := ne_of_isQuoteMark hquote
  have hescape : quote ≠ '\\' := by
    rintro rfl
    cases hquote
  -- only a line feed is spelled anew: it joins lines behind a backslash, and else ends the literal
  fun_induction stringExtent? quote cs with
  | case1 => rfl
  | case2 cs =>
    rw [crlf_cons hfeed, stringExtent?.eq_def]
    simp [crlf_cons hfeed]
  | case3 =>
    rw [crlf_cons (by decide), stringExtent?.eq_def]
    simp [hescape.symm]
  | case4 => simp at h
  | case5 e more hpair _ ih =>
    simp only [List.mem_cons, not_or] at h
    have ih := ih h.2.2
    rw [crlf_cons (by decide)]
    by_cases he : e = '\n'
    · subst he
      rw [crlf_feed, stringExtent?.eq_def]
      simp only [hescape.symm, if_false, if_true, ih]
      cases stringExtent? quote more with
      | none => rfl
      | some n => simp [crlf_cons]
    · rw [crlf_cons he, stringExtent?.eq_4 _ _ _ _ (fun _ he' => absurd he'.symm h.2.1),
        if_neg hescape.symm, if_pos rfl, ih]
      cases stringExtent? quote more with
      | none => rfl
      | some n => simp [crlf_cons, he]
  | case6 c cs hc hslash hline =>
    by_cases hc' : c = '\n'
    · subst hc'
      rw [crlf_feed, stringExtent?.eq_def]
      simp [hreturn.symm, isLineEnd]
    · rw [crlf_cons hc', stringExtent?.eq_def]
      simp [hc, hslash, hline]
  | case7 c cs hc hslash hline ih =>
    have hfeed : c ≠ '\n' := by
      rintro rfl
      exact hline (by decide)
    simp only [List.mem_cons, not_or] at h
    rw [crlf_cons hfeed, stringExtent?.eq_def]
    simp only [if_neg hc, if_neg hslash, if_neg hline, ih h.2]
    cases stringExtent? quote cs with
    | none => rfl
    | some n => simp [crlf_cons hfeed]

/-- A regular expression has no line end in it. -/
theorem regexExtent?_crlf (inClass : Bool) (cs : List Char) :
    regexExtent? inClass (crlf cs)
      = (regexExtent? inClass cs).map fun n => (crlf (cs.take n)).length := by
  induction inClass, cs using regexExtent?_induction with
  | nil inClass => rfl
  | backslash inClass => rfl
  | escape inClass e cs ih =>
    rw [crlf_cons (by decide), regexExtent?_escape]
    -- a line feed ends the literal, also behind a backslash
    by_cases he : e = '\n'
    · subst he
      rw [crlf_feed, regexExtent?_escape]
      rfl
    · rw [crlf_cons he, regexExtent?_escape, ih]
      split
      · rfl
      · cases regexExtent? inClass cs with
        | none => rfl
        | some n => simp [crlf_cons, he]
  | slash cs =>
    have hreturn : isIdentifierPart '\r' = false := by decide +kernel
    have hfeed : isIdentifierPart '\n' = false := by decide +kernel
    rw [crlf_cons (by decide), regexExtent?_slash, regexExtent?_slash, wordExtent,
      takeWhile_crlf hreturn hfeed, wordExtent, Option.map_some, List.take_succ_cons,
      crlf_cons (by decide), crlf_take_takeWhile hfeed]
    rfl
  | lineEnd inClass c cs hc =>
    rw [regexExtent?_lineEnd hc]
    by_cases hfeed : c = '\n'
    · subst hfeed
      rw [crlf_feed, regexExtent?_lineEnd (by decide)]
      rfl
    · rw [crlf_cons hfeed, regexExtent?_lineEnd hc]
      rfl
  | plain inClass c cs hescape hslash hc ih =>
    have hfeed : c ≠ '\n' := by
      rintro rfl
      cases hc
    rw [crlf_cons hfeed, regexExtent?_plain hescape hslash hc, regexExtent?_plain hescape hslash hc,
      ih]
    cases regexExtent? (classBehind inClass c) cs with
    | none => rfl
    | some n => simp [crlf_cons hfeed]

theorem opensSubstitution_cons (c : Char) (cs : List Char) :
    opensSubstitution (c :: cs) = (c == '$' && cs.head? == some '\x7b') := by
  rw [Bool.eq_iff_iff, opensSubstitution_iff, Bool.and_eq_true, beq_iff_eq, beq_iff_eq,
    List.head?_eq_some_iff]
  simp

theorem opensSubstitution_crlf (cs : List Char) :
    opensSubstitution (crlf cs) = opensSubstitution cs := by
  cases cs with
  | nil => rfl
  | cons c cs =>
    by_cases hc : c = '\n'
    · subst hc
      rfl
    · rw [crlf_cons hc, opensSubstitution_cons, opensSubstitution_cons,
        head?_crlf_beq (by decide) (by decide)]

theorem startsDelimiter_crlf (cs : List Char) : startsDelimiter (crlf cs) = startsDelimiter cs := by
  rw [startsDelimiter, startsDelimiter, opensSubstitution_crlf,
    head?_crlf_beq (by decide) (by decide)]

/-- A backslash takes the carriage return with it, and the line feed follows as any character. -/
theorem templateExtent_crlf (cs : List Char) :
    templateExtent (crlf cs) = (crlf (cs.take (templateExtent cs))).length := by
  -- a line feed is an ordinary character of a template, and so are both that it becomes
  have hplain : ∀ cs : List Char, templateExtent ('\n' :: cs) = templateExtent cs + 1 :=
    fun cs => templateExtent_plain (by decide) rfl
  fun_induction templateExtent cs with
  | case1 => rfl
  | case2 => rfl
  | case3 e cs ih =>
    have hescape : ∀ ds, crlf ('\\' :: ds) = '\\' :: crlf ds := fun ds => crlf_cons (by decide) ds
    rw [hescape, List.take_succ_cons, List.take_succ_cons, hescape]
    by_cases he : e = '\n'
    · subst he
      rw [crlf_feed, templateExtent_escape, hplain, ih]
      rfl
    · rw [crlf_cons he, templateExtent_escape, crlf_cons he, ih]
      rfl
  | case4 c cs hescape hends =>
    have hstarts : startsDelimiter (c :: cs) = true := by simpa [startsDelimiter] using hends
    rw [templateExtent_delimiter (by rwa [startsDelimiter_crlf])]
    rfl
  | case5 c cs hescape hends ih =>
    have hstarts : startsDelimiter (c :: cs) = false := by
      rw [Bool.eq_false_iff]
      simpa [startsDelimiter] using hends
    by_cases hc : c = '\n'
    · subst hc
      rw [crlf_feed, templateExtent_plain (by decide) rfl, hplain, ih]
      rfl
    · have hstarts' : startsDelimiter (c :: crlf cs) = false := by
        rw [← crlf_cons hc, startsDelimiter_crlf, hstarts]
      rw [crlf_cons hc, templateExtent_plain hescape hstarts', ih, List.take_succ_cons,
        crlf_cons hc, List.length_cons]

/-! ### One token -/

/-- Two scans of a text, in both spellings, recognise the same token or fail with the same fault. -/
inductive ScansAlike (text : List Char) : Except LexFault Scan → Except LexFault Scan → Prop where
  /-- The token is the same, and takes the same characters. -/
  | ok {s s' : Scan} (hkind : s'.kind = s.kind) (htransition : s'.transition = s.transition)
      (hlength : s'.length = (crlf (text.take s.length)).length) : ScansAlike text (.ok s) (.ok s')
  /-- There is no token. -/
  | error (fault : LexFault) : ScansAlike text (.error fault) (.error fault)

theorem ScansAlike.ite {text : List Char} {b : Prop} [Decidable b]
    {x x' y y' : Except LexFault Scan} (hx : b → ScansAlike text x x')
    (hy : ¬ b → ScansAlike text y y') :
    ScansAlike text (if b then x else y) (if b then x' else y') := by
  split
  · next hb => exact hx hb
  · next hb => exact hy hb

theorem length_crlf_take_succ (hc : c ≠ '\n') (n : Nat) (cs : List Char) :
    (crlf ((c :: cs).take (n + 1))).length = (crlf (cs.take n)).length + 1 := by
  rw [List.take_succ_cons, crlf_cons hc, List.length_cons]

/-- A character and a run that stops at line ends make up the same token in both spellings. -/
theorem ScansAlike.run {p : Char → Bool} {s s' : Scan} (hc : c ≠ '\n') (hreturn : p '\r' = false)
    (hfeed : p '\n' = false) (hkind : s'.kind = s.kind) (htransition : s'.transition = s.transition)
    (hs : s.length = (cs.takeWhile p).length + 1)
    (hs' : s'.length = ((crlf cs).takeWhile p).length + 1) :
    ScansAlike (c :: cs) (.ok s) (.ok s') := by
  refine .ok hkind htransition ?_
  rw [hs, hs', length_crlf_take_succ hc, crlf_take_takeWhile hfeed, takeWhile_crlf hreturn hfeed]

/-- A word without blanks starts a text in both spellings or in neither. -/
theorem isPrefixOf_crlf {w : List Char} (hw : ∀ d ∈ w, isBlank d = false) (cs : List Char) :
    w.isPrefixOf (crlf cs) = w.isPrefixOf cs := by
  induction w generalizing cs with
  | nil => rw [List.isPrefixOf_nil_left, List.isPrefixOf_nil_left]
  | cons d w ih =>
    obtain ⟨hd, hw⟩ := List.forall_mem_cons.1 hw
    cases cs with
    | nil => rfl
    | cons c cs =>
      by_cases hc : c = '\n'
      · subst hc
        -- a line feed is a blank, in both of its spellings, and the word has none
        have hreturn : d ≠ '\r' := ne_of_not_isBlank hd (by decide)
        have hfeed : d ≠ '\n' := ne_of_not_isBlank hd (by decide)
        rw [crlf_feed, List.isPrefixOf_cons_cons, List.isPrefixOf_cons_cons, beq_false_of_ne hreturn,
          beq_false_of_ne hfeed, Bool.false_and, Bool.false_and]
      · rw [crlf_cons hc, List.isPrefixOf_cons_cons, List.isPrefixOf_cons_cons, ih hw]

theorem scanPunctuator_crlf (l : Language) (hc : c ≠ '\n') (cs : List Char) :
    ScansAlike (c :: cs) (scanPunctuator l c cs) (scanPunctuator l c (crlf cs)) := by
  have hsame : l.punctuators.find? (fun p => p.toList.isPrefixOf (c :: crlf cs))
      = l.punctuators.find? fun p => p.toList.isPrefixOf (c :: cs) := by
    refine List.find?_congr fun p hp => ?_
    rw [← crlf_cons hc, isPrefixOf_crlf (not_isBlank_of_mem_punctuators l p hp)]
  cases hfind : l.punctuators.find? fun p => p.toList.isPrefixOf (c :: cs) with
  | none =>
    rw [scanPunctuator_of_find?_none hfind, scanPunctuator_of_find?_none (hsame.trans hfind)]
    exact .error _
  | some p =>
    obtain ⟨hpos, hscan⟩ := scanPunctuator_of_find? hfind
    obtain ⟨hpos', hscan'⟩ := scanPunctuator_of_find? (hsame.trans hfind)
    rw [hscan, hscan']
    refine .ok rfl rfl ?_
    -- the punctuator is what is taken, and no line feed is in it
    have hword : p.toList = (c :: cs).take p.toList.length := by
      have hstarts := List.find?_some hfind
      exact List.prefix_iff_eq_take.1 (List.isPrefixOf_iff_prefix.1 hstarts)
    have hfeed : '\n' ∉ p.toList := by
      intro hmem
      cases not_isBlank_of_mem_punctuators l p (List.mem_of_find?_eq_some hfind) _ hmem
    dsimp only
    rw [← hword, crlf_of_notMem hfeed]

theorem scanSign_crlf (l : Language) (previous : Option Significant) (hc : c ≠ '\n')
    (cs : List Char) :
    ScansAlike (c :: cs) (scanSign l previous c cs) (scanSign l previous c (crlf cs)) := by
  cases l with
  | c => exact scanPunctuator_crlf .c hc cs
  | ecma =>
    show ScansAlike (c :: cs) (scanScriptSign previous c cs) (scanScriptSign previous c (crlf cs))
    unfold scanScriptSign
    rw [regexExtent?_crlf]
    refine .ite (fun _ => ?_) fun _ => .ite (fun _ => ?_) fun _ => ?_
    · exact .ok rfl rfl (length_crlf_take_succ hc 0 cs).symm
    · cases regexExtent? false cs with
      | none => exact .error _
      | some n => exact .ok rfl rfl (length_crlf_take_succ hc n cs).symm
    · exact scanPunctuator_crlf .ecma hc cs

theorem startsNumber_crlf (c : Char) (cs : List Char) :
    startsNumber c (crlf cs) = startsNumber c cs := by
  have hdigit : (crlf cs).head?.any Char.isDigit = cs.head?.any Char.isDigit := by
    rw [head?_crlf, Option.any_map]
    cases cs with
    | nil => rfl
    | cons d cs =>
      by_cases hd : d = '\n'
      · subst hd
        rfl
      · simp [hd]
  rw [startsNumber, startsNumber, hdigit]

theorem isHexadecimal_crlf (c : Char) (cs : List Char) :
    isHexadecimal c (crlf cs) = isHexadecimal c cs := by
  rw [isHexadecimal, isHexadecimal, head?_crlf_beq (by decide) (by decide),
    head?_crlf_beq (by decide) (by decide)]

theorem scanWord_crlf (l : Language) (hc : c ≠ '\n') (cs : List Char) :
    ScansAlike (c :: cs) (.ok (scanWord l c cs)) (.ok (scanWord l c (crlf cs))) := by
  have hreturn : isIdentifierPart '\r' = false := by decide +kernel
  have hfeed : isIdentifierPart '\n' = false := by decide +kernel
  have hsame : (crlf cs).takeWhile isIdentifierPart = cs.takeWhile isIdentifierPart :=
    takeWhile_crlf hreturn hfeed cs
  have hword : (crlf cs).take (wordExtent (crlf cs)) = cs.take (wordExtent cs) := by
    rw [wordExtent, wordExtent, take_length_takeWhile, take_length_takeWhile, hsame]
  refine .run hc hreturn hfeed ?_ rfl rfl rfl
  rw [scanWord, scanWord, hword]

/-- Every other character than a line feed starts the same token in both spellings. -/
theorem scanCode_crlf (l : Language) (previous : Option Significant) (hreturn : c ≠ '\r')
    (hc : c ≠ '\n') (h : '\r' ∉ cs) :
    ScansAlike (c :: cs) (scanCode l previous c cs) (scanCode l previous c (crlf cs)) := by
  -- the tests that choose a branch do not see how a line feed is spelled
  have hpair : ∀ next, (decide (c = '\r') && next == some '\n') = false := by simp [hreturn]
  have hslash : ((crlf cs).head? == some '/') = (cs.head? == some '/') :=
    head?_crlf_beq (by decide) (by decide)
  have hstar : ((crlf cs).head? == some '*') = (cs.head? == some '*') :=
    head?_crlf_beq (by decide) (by decide)
  rw [scanCode, scanCode, hpair, hpair, startsNumber_crlf, hslash, hstar]
  refine .ite (fun hfalse => by cases hfalse) fun _ => .ite (fun _ => ?_) fun _ =>
    .ite (fun _ => ?_) fun _ => .ite (fun _ => ?_) fun _ => .ite (fun hcomment => ?_) fun _ =>
    .ite (fun _ => ?_) fun _ => .ite (fun _ => ?_) fun _ => .ite (fun _ => ?_) fun _ =>
    .ite (fun hquote => ?_) fun _ => ?_
  · exact .ok rfl rfl (length_crlf_take_succ hc 0 cs).symm
  · exact .run (p := fun c => isBlank c && !isLineEnd c) hc rfl rfl rfl rfl rfl rfl
  · exact .run (p := fun c => !isLineEnd c) hc rfl rfl rfl rfl rfl rfl
  · -- the star is the same on both sides
    obtain ⟨more, rfl⟩ : ∃ more, cs = '*' :: more := by
      rw [Bool.and_eq_true, beq_iff_eq, List.head?_eq_some_iff] at hcomment
      exact hcomment.2
    rw [crlf_cons (by decide), List.tail_cons, List.tail_cons, commentExtent?_crlf]
    cases commentExtent? more with
    | none => exact .error _
    | some n =>
      refine .ok rfl rfl ?_
      show _ = (crlf ((c :: '*' :: more).take (n + 1 + 1))).length
      rw [length_crlf_take_succ hc, length_crlf_take_succ (by decide)]
  · exact .run (p := fun c => !isLineEnd c) hc rfl rfl rfl rfl rfl rfl
  · exact scanWord_crlf l hc cs
  · obtain ⟨hextent, htake⟩ := numberExtent_crlf (isHexadecimal c cs) c cs
    refine .ok rfl rfl ?_
    show numberExtent (isHexadecimal c (crlf cs)) c (crlf cs) + 1 = _
    rw [length_crlf_take_succ hc, htake, isHexadecimal_crlf, hextent, List.length_take,
      Nat.min_eq_left (numberExtent_le _ _ _)]
  · have hmark : isQuoteMark c = true := by
      rw [Bool.or_eq_true, decide_eq_true_iff, decide_eq_true_iff] at hquote
      rcases hquote with rfl | rfl <;> rfl
    rw [stringExtent?_crlf hmark h]
    cases stringExtent? c cs with
    | none => exact .error _
    | some n => exact .ok rfl rfl (length_crlf_take_succ hc n cs).symm
  · exact scanSign_crlf l previous hc cs

/-- The piece of a template at the start of a text is the same in both spellings. -/
theorem scanTemplate_crlf {c' : Char} {cs' : List Char} (hcs : crlf (c :: cs) = c' :: cs') :
    ScansAlike (c :: cs) (.ok (scanTemplate c cs)) (.ok (scanTemplate c' cs')) := by
  by_cases hquote : c = templateQuote
  · subst hquote
    rw [crlf_cons (by decide)] at hcs
    cases hcs
    exact .ok rfl rfl rfl
  · -- what is a quote in the one spelling is one in the other
    have hquote' : c' ≠ templateQuote := by
      intro heq
      have hhead : (crlf (c :: cs)).head? = some templateQuote := by rw [hcs, heq]; rfl
      exact hquote (Option.some.inj ((head?_crlf_eq_some_iff (by decide) (by decide)).1 hhead))
    cases hopens : opensSubstitution (c :: cs) with
    | true =>
      obtain ⟨rest, hrest⟩ := opensSubstitution_iff.1 hopens
      cases hrest
      rw [crlf_cons (by decide), crlf_cons (by decide)] at hcs
      cases hcs
      exact .ok rfl rfl rfl
    | false =>
      have hopens' : opensSubstitution (c' :: cs') = false := by
        rw [← hcs, opensSubstitution_crlf, hopens]
      rw [scanTemplate, scanTemplate, dif_neg hquote, dif_neg hquote', dif_neg (by simp [hopens]),
        dif_neg (by simp [hopens'])]
      refine .ok rfl rfl ?_
      dsimp only
      rw [← hcs, templateExtent_crlf]

/-- **The token at the start of a text is the same in both spellings.** -/
theorem scan_crlf (l : Language) (mode : Mode) (previous : Option Significant) {c' : Char}
    {cs' : List Char} (hcs : crlf (c :: cs) = c' :: cs') (h : '\r' ∉ c :: cs) :
    ScansAlike (c :: cs) (scan l mode previous c cs) (scan l mode previous c' cs') := by
  have hcode : ScansAlike (c :: cs) (scanCode l previous c cs) (scanCode l previous c' cs') := by
    rw [List.mem_cons, not_or] at h
    by_cases hc : c = '\n'
    · subst hc
      cases hcs
      exact .ok rfl rfl rfl
    · rw [crlf_cons hc] at hcs
      cases hcs
      exact scanCode_crlf l previous (Ne.symm h.1) hc h.2
  cases mode with
  | template => exact scanTemplate_crlf hcs
  | script => exact hcode
  | c => exact hcode

end ImportScan
