import ImportScan.Proofs.Place
import ImportScan.Proofs.Respelling

/-!
# Line feeds spelled as pairs

Where one system ends a line with a line feed, another one ends it with a carriage return and a line
feed.  A text without carriage returns can be put from the first spelling into the second.  It has
the same lines then, with the same characters on them; only the offsets grow.

## Main definitions

* `crlf` — a text with its line feeds spelled as pairs.
* `Respelling.crlf` — the same as a way to spell texts anew.

## Main results

* `take_crlf`, `drop_crlf` — the pieces of a text are spelled one by one.
* `takeWhile_crlf` — a run that stops at line ends is not changed.
* `lineEnds_crlf`, `lastLine_crlf` — **lines and columns stay what they are**.
-/

namespace ImportScan

/-- A text with its line feeds spelled as pairs. -/
def crlf (text : List Char) : List Char :=
  text.flatMap fun c => if c = '\n' then ['\r', '\n'] else [c]

variable {c : Char} {cs ds : List Char}

@[simp] theorem crlf_nil : crlf [] = [] := rfl

@[simp] theorem crlf_feed (cs : List Char) : crlf ('\n' :: cs) = '\r' :: '\n' :: crlf cs := rfl

theorem crlf_cons (hc : c ≠ '\n') (cs : List Char) : crlf (c :: cs) = c :: crlf cs := by
  rw [crlf, List.flatMap_cons, if_neg hc]
  rfl

@[simp] theorem crlf_append (cs ds : List Char) : crlf (cs ++ ds) = crlf cs ++ crlf ds :=
  List.flatMap_append

theorem crlf_of_notMem (h : '\n' ∉ cs) : crlf cs = cs := by
  induction cs with
  | nil => rfl
  | cons c cs ih =>
    rw [List.mem_cons, not_or] at h
    rw [crlf_cons (Ne.symm h.1), ih h.2]

theorem feed_mem_crlf_iff : '\n' ∈ crlf cs ↔ '\n' ∈ cs := by
  induction cs with
  | nil => simp
  | cons c cs ih =>
    by_cases hc : c = '\n'
    · subst hc
      simp
    · simp [crlf_cons hc, ih]

/-- A text without line feeds is spelled so by itself only. -/
theorem crlf_eq_iff (h : '\n' ∉ ds) : crlf cs = ds ↔ cs = ds := by
  constructor
  · rintro rfl
    exact (crlf_of_notMem (mt feed_mem_crlf_iff.2 h)).symm
  · rintro rfl
    exact crlf_of_notMem h

/-! ### Pieces -/

theorem take_crlf (n : Nat) (cs : List Char) :
    (crlf cs).take (crlf (cs.take n)).length = crlf (cs.take n) := by
  have hcut : crlf cs = crlf (cs.take n) ++ crlf (cs.drop n) := by
    rw [← crlf_append, List.take_append_drop]
  rw [hcut, List.take_left' rfl]

theorem drop_crlf (n : Nat) (cs : List Char) :
    (crlf cs).drop (crlf (cs.take n)).length = crlf (cs.drop n) := by
  have hcut : crlf cs = crlf (cs.take n) ++ crlf (cs.drop n) := by
    rw [← crlf_append, List.take_append_drop]
  rw [hcut, List.drop_left' rfl]

/-- The first character is another one only if it is a line feed. -/
theorem head?_crlf (cs : List Char) :
    (crlf cs).head? = cs.head?.map fun c => if c = '\n' then '\r' else c := by
  cases cs with
  | nil => rfl
  | cons c cs =>
    by_cases hc : c = '\n'
    · subst hc
      rfl
    · simp [crlf_cons hc, hc]

theorem head?_crlf_eq_some_iff (hreturn : c ≠ '\r') (hfeed : c ≠ '\n') :
    (crlf cs).head? = some c ↔ cs.head? = some c := by
  rw [head?_crlf]
  cases cs with
  | nil => simp
  | cons d cs =>
    by_cases hd : d = '\n'
    · simp [hd, hreturn.symm, hfeed.symm]
    · simp [hd]

theorem head?_crlf_beq (hreturn : c ≠ '\r') (hfeed : c ≠ '\n') :
    ((crlf cs).head? == some c) = (cs.head? == some c) := by
  rw [Bool.eq_iff_iff, beq_iff_eq, beq_iff_eq, head?_crlf_eq_some_iff hreturn hfeed]

theorem getLast?_crlf (cs : List Char) : (crlf cs).getLast? = cs.getLast? := by
  obtain rfl | ⟨init, c, rfl⟩ := List.eq_nil_or_concat cs
  · rfl
  · by_cases hc : c = '\n'
    · subst hc
      simp
    · simp [crlf_cons hc]

theorem dropLast_crlf (h : cs.getLast? ≠ some '\n') : (crlf cs).dropLast = crlf cs.dropLast := by
  obtain rfl | ⟨init, c, rfl⟩ := List.eq_nil_or_concat cs
  · rfl
  · have hc : c ≠ '\n' := by
      rintro rfl
      exact h (by simp)
    simp [crlf_cons hc]

/-- A run that stops at line ends is not changed. -/
theorem takeWhile_crlf {p : Char → Bool} (hreturn : p '\r' = false) (hfeed : p '\n' = false)
    (cs : List Char) : (crlf cs).takeWhile p = cs.takeWhile p := by
  induction cs with
  | nil => rfl
  | cons c cs ih =>
    by_cases hc : c = '\n'
    · subst hc
      rw [crlf_feed, List.takeWhile_cons_of_neg (by simp [hreturn]),
        List.takeWhile_cons_of_neg (by simp [hfeed])]
    · rw [crlf_cons hc, List.takeWhile_cons, List.takeWhile_cons, ih]

/-! ### Lines -/

/-- The number of line ends stays what it is. -/
theorem lineEnds_crlf (h : '\r' ∉ cs) : lineEnds (crlf cs) = lineEnds cs := by
  -- only a carriage return looks at the character behind it
  have hplain : ∀ {c : Char} {cs : List Char}, c ≠ '\r' →
      lineEnds (c :: cs) = if isLineEnd c then lineEnds cs + 1 else lineEnds cs := by
    intro c cs hc
    rw [lineEnds.eq_3]
    rintro more rfl -
    exact hc rfl
  induction cs with
  | nil => rfl
  | cons c cs ih =>
    rw [List.mem_cons, not_or] at h
    by_cases hc : c = '\n'
    · subst hc
      rw [crlf_feed, lineEnds, ih h.2, hplain (by decide)]
      rfl
    · rw [crlf_cons hc, hplain (Ne.symm h.1), hplain (Ne.symm h.1), ih h.2]

/-- The line that is left open stays what it is. -/
theorem lastLine_crlf (h : '\r' ∉ cs) : lastLine (crlf cs) = lastLine cs := by
  induction cs with
  | nil => rfl
  | cons c cs ih =>
    rw [List.mem_cons, not_or] at h
    by_cases hc : c = '\n'
    · subst hc
      rw [crlf_feed, lastLine_cons (by decide), lastLine_cons (by decide), lastLine_cons (by decide),
        ih h.2]
    · rw [crlf_cons hc]
      by_cases hends : lineEnds cs = 0
      · -- without a line end behind the character, nothing is spelled anew
        have hfeed : '\n' ∉ cs := by
          intro hmem
          cases lineEnds_eq_zero_iff.1 hends _ hmem
        rw [crlf_of_notMem hfeed]
      · have hends' : lineEnds (crlf cs) ≠ 0 := by rwa [lineEnds_crlf h.2]
        rw [lastLine_cons_of_lineEnds_ne_zero hends', lastLine_cons_of_lineEnds_ne_zero hends, ih h.2]

/-- Passing a text leads to the same line and column. -/
theorem advance_crlf {loc loc' : Location} (h : '\r' ∉ cs) (hline : loc'.line = loc.line)
    (hcolumn : loc'.column = loc.column) :
    (loc'.advance (crlf cs)).line = (loc.advance cs).line ∧
      (loc'.advance (crlf cs)).column = (loc.advance cs).column := by
  rw [Location.advance_eq, Location.advance_eq, lineEnds_crlf h, lastLine_crlf h, hline, hcolumn]
  refine ⟨rfl, ?_⟩
  dsimp only
  split
  · next hends =>
    have hfeed : '\n' ∉ cs := by
      intro hmem
      cases lineEnds_eq_zero_iff.1 hends _ hmem
    rw [crlf_of_notMem hfeed]
  · rfl

/-! ### Texts spelled anew -/

theorem feed_notMem_of_isOneLine {w : String} (h : isOneLine w = true) : '\n' ∉ w.toList := by
  intro hmem
  cases List.all_eq_true.1 h _ hmem

/-- A text loses its quotes if it starts with one and ends with the same one. -/
theorem stripQuotes_cons (c : Char) (cs : List Char) : stripQuotes (String.ofList (c :: cs))
    = if isQuoteMark c && cs.getLast? == some c then String.ofList cs.dropLast
      else String.ofList (c :: cs) := by
  unfold stripQuotes
  rw [String.toList_ofList]
  cases cs with
  | nil => simp
  | cons d cs => rfl

/-- The quotes around a text stay where they are. -/
theorem stripQuotes_crlf (cs : List Char) : stripQuotes (String.ofList (crlf cs))
    = String.ofList (crlf (stripQuotes (String.ofList cs)).toList) := by
  cases cs with
  | nil => rfl
  | cons c cs =>
    cases hquoted : isQuoteMark c && cs.getLast? == some c with
    | true =>
      obtain ⟨hc, hlast⟩ := Bool.and_eq_true_iff.1 hquoted
      have hfeed : c ≠ '\n' := by
        rintro rfl
        cases hc
      -- the last character is the mark, so that no line feed is split from what it becomes
      have hinner : cs.getLast? ≠ some '\n' := by
        rw [beq_iff_eq.1 hlast]
        exact fun h => hfeed (Option.some.inj h)
      rw [crlf_cons hfeed, stripQuotes_cons, stripQuotes_cons, getLast?_crlf, if_pos hquoted,
        if_pos hquoted, String.toList_ofList, dropLast_crlf hinner]
    | false =>
      have hkept : stripQuotes (String.ofList (crlf (c :: cs))) = String.ofList (crlf (c :: cs)) := by
        by_cases hc : c = '\n'
        · subst hc
          rw [crlf_feed, stripQuotes_cons]
          rfl
        · rw [crlf_cons hc, stripQuotes_cons, getLast?_crlf, if_neg (by simp [hquoted])]
      rw [hkept, stripQuotes_cons, if_neg (by simp [hquoted]), String.toList_ofList]

/-- Line feeds are spelled as pairs. -/
def Respelling.crlf : Respelling where
  text s := String.ofList (ImportScan.crlf s.toList)
  text_append s t := by
    rw [String.toList_append, crlf_append, String.ofList_append]
  text_eq_iff := by
    intro s w hw
    rw [← String.toList_inj, String.toList_ofList, crlf_eq_iff (feed_notMem_of_isOneLine hw),
      String.toList_inj]
  stripQuotes_text s := by
    rw [stripQuotes_crlf, String.ofList_toList]

end ImportScan
