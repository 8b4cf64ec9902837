import ImportScan.Proofs.LookAhead
import ImportScan.Proofs.TextBytes

/-!
# Templates byte by byte

The text of a template is read character by character, a backslash together with the character
behind it.  It can also be searched byte by byte, passing one byte behind a backslash: that may lead
into the middle of a character or beyond the text, but no byte that continues a character is taken
for a delimiter, and so the search ends where the reading does.

## Main definitions

* `templateUnits` — the units in which the text of a template is read.
* `templateSearch`, `templateStop` — the search through the bytes, and where it ends in a source.

## Main results

* `exists_take_templateUnits` — the text of a template ends at the first delimiter between units.
* `min_templateSearch` — **the search through the bytes ends where the reading does**.
* `Lexer.pull_templateText` — **the token of a template text**, told in units and in bytes.
-/

namespace ImportScan

/-! ### Units -/

/-- The units in which the text of a template is read: a backslash with the character behind it, if
there is one, and any other character by itself. -/
def templateUnits : List Char → List (List Char)
  | [] => []
  | '\\' :: e :: cs => ['\\', e] :: templateUnits cs
  | c :: cs => [c] :: templateUnits cs

theorem templateUnits_plain {c : Char} (hescape : c ≠ '\\') (cs : List Char) :
    templateUnits (c :: cs) = [c] :: templateUnits cs :=
  templateUnits.eq_3 c cs fun _ _ h _ => hescape h

@[simp] theorem flatten_templateUnits (cs : List Char) : (templateUnits cs).flatten = cs := by
  fun_induction templateUnits cs with
  | case1 => rfl
  | case2 e cs ih => rw [List.flatten_cons, ih]; rfl
  | case3 c cs _ ih => rw [List.flatten_cons, ih]; rfl

/-- A unit of two characters is taken as a whole or not at all. -/
theorem flatten_take_ne {units front back : List (List Char)} {c e : Char}
    (hcut : units = front ++ [c, e] :: back) (k : Nat) :
    (units.take k).flatten ≠ front.flatten ++ [c] := by
  intro heq
  have hlength := congrArg List.length heq
  rw [List.length_append, List.length_singleton] at hlength
  -- with the pair the prefix is too long, without it too short
  rcases Nat.lt_or_ge front.length k with hk | hk
  · obtain ⟨m, rfl⟩ := Nat.exists_eq_add_of_lt hk
    rw [hcut, Nat.add_assoc, List.take_length_add_append, List.take_succ_cons,
      List.flatten_append, List.flatten_cons, List.length_append, List.length_append,
      List.length_cons, List.length_cons] at hlength
    omega
  · have hsplit : (front.take k).flatten ++ (front.drop k).flatten = front.flatten := by
      rw [← List.flatten_append, List.take_append_drop]
    have hle := congrArg List.length hsplit
    rw [List.length_append] at hle
    rw [hcut, List.take_append_of_le_length hk] at hlength
    omega

/-- The first `n` characters of a text are its first `k` units, and no delimiter stands before any
of these. -/
structure ReadsUnits (cs : List Char) (n k : Nat) : Prop where
  /-- The units are the characters. -/
  take_eq : cs.take n = ((templateUnits cs).take k).flatten
  /-- No delimiter stands before a unit that is read. -/
  not_delimiter : ∀ j < k, startsDelimiter ((templateUnits cs).drop j).flatten = false

namespace ReadsUnits

variable {cs : List Char} {n k : Nat}

theorem zero (cs : List Char) : ReadsUnits cs 0 0 := ⟨rfl, by simp⟩

/-- One more unit in front. -/
theorem append_left (h : ReadsUnits cs n k) (unit : List Char)
    (hunits : templateUnits (unit ++ cs) = unit :: templateUnits cs)
    (hstart : startsDelimiter (unit ++ cs) = false) :
    ReadsUnits (unit ++ cs) (unit.length + n) (k + 1) where
  take_eq := by
    rw [List.take_length_add_append, hunits, List.take_succ_cons, List.flatten_cons, h.take_eq]
  not_delimiter j hj := by
    cases j with
    | zero => rwa [List.drop_zero, flatten_templateUnits]
    | succ j =>
      rw [hunits, List.drop_succ_cons]
      exact h.not_delimiter j (Nat.lt_of_succ_lt_succ hj)

theorem drop_eq (h : ReadsUnits cs n k) : cs.drop n = ((templateUnits cs).drop k).flatten := by
  have hunits :
      ((templateUnits cs).take k).flatten ++ ((templateUnits cs).drop k).flatten = cs := by
    rw [← List.flatten_append, List.take_append_drop, flatten_templateUnits]
  rw [← h.take_eq] at hunits
  exact List.append_cancel_left ((List.take_append_drop n cs).trans hunits.symm)

end ReadsUnits

theorem startsDelimiter_escape (cs : List Char) : startsDelimiter ('\\' :: cs) = false := by
  have hquote : '\\' ≠ templateQuote := by decide
  simp [startsDelimiter, opensSubstitution, hquote]

/-- **The text of a template consists of whole units**, and no delimiter stands before any of
them. -/
theorem exists_readsUnits (cs : List Char) : ∃ k, ReadsUnits cs (templateExtent cs) k := by
  fun_induction templateExtent cs with
  | case1 => exact ⟨0, .zero []⟩
  | case2 =>
    exact ⟨1, (ReadsUnits.zero []).append_left ['\\'] rfl (startsDelimiter_escape [])⟩
  | case3 e rest ih =>
    obtain ⟨k, h⟩ := ih
    have hread := h.append_left ['\\', e] rfl (startsDelimiter_escape (e :: rest))
    exact ⟨k + 1, Nat.add_comm _ _ ▸ hread⟩
  | case4 c cs => exact ⟨0, .zero _⟩
  | case5 c cs hescape hends ih =>
    obtain ⟨k, h⟩ := ih
    have hstart : startsDelimiter (c :: cs) = false := by
      rw [Bool.eq_false_iff]
      simpa [startsDelimiter] using hends
    have hread := h.append_left [c] (templateUnits_plain hescape cs) hstart
    exact ⟨k + 1, Nat.add_comm _ _ ▸ hread⟩

/-! ### The search through the bytes -/

/-- The search for the next delimiter of a template from the offset `i` on.  It goes on byte by
byte, and behind a backslash it passes one byte, whatever that is and even if there is none. -/
def templateSearch (bytes : List UInt8) (i : Nat) : Nat :=
  if h : i < bytes.length then
    if bytes[i] = '\\'.toUInt8 then templateSearch bytes (i + 2)
    else if bytes[i] = templateQuote.toUInt8 then i
    else if bytes[i] = '$'.toUInt8 ∧ bytes[i + 1]? = some '{'.toUInt8 then i
    else templateSearch bytes (i + 1)
  else i
termination_by bytes.length - i

/-- Where the search that starts at `pos` ends in a source, at its last byte at the latest. -/
def templateStop (source : List UInt8) (pos : Nat) : Nat :=
  min (pos + templateSearch (source.drop pos) 0) source.length

section

variable {bytes more : List UInt8} {b : UInt8}

/-- Behind some bytes, the search is a search through the rest. -/
theorem templateSearch_append (front bytes : List UInt8) (i : Nat) :
    templateSearch (front ++ bytes) (front.length + i) = front.length + templateSearch bytes i := by
  have hlt : ∀ {i}, i < bytes.length → front.length + i < (front ++ bytes).length := by simp
  have hbyte : ∀ {i} (h : i < bytes.length) (h' : front.length + i < (front ++ bytes).length),
      (front ++ bytes)[front.length + i] = bytes[i] := by simp
  have hnext : ∀ i, (front ++ bytes)[front.length + i + 1]? = bytes[i + 1]? := by
    intro i
    rw [Nat.add_assoc, List.getElem?_append_right (Nat.le_add_right _ _), Nat.add_sub_cancel_left]
  fun_induction templateSearch bytes i with
  | case1 i h hb ih =>
    rw [templateSearch, dif_pos (hlt h), hbyte h _, if_pos hb]
    exact ih
  | case2 i h hb hq => rw [templateSearch, dif_pos (hlt h), hbyte h _, if_neg hb, if_pos hq]
  | case3 i h hb hq hd =>
    rw [templateSearch, dif_pos (hlt h), hbyte h _, hnext, if_neg hb, if_neg hq, if_pos hd]
  | case4 i h hb hq hd ih =>
    rw [templateSearch, dif_pos (hlt h), hbyte h _, hnext, if_neg hb, if_neg hq, if_neg hd]
    exact ih
  | case5 i h => rw [templateSearch, dif_neg (by simpa using h)]

/-- A byte that is none of the signs of a template is passed. -/
theorem templateSearch_plain (hb : b ≠ '\\'.toUInt8) (hquote : b ≠ templateQuote.toUInt8)
    (hdollar : ¬ (b = '$'.toUInt8 ∧ bytes.head? = some '{'.toUInt8)) :
    templateSearch (b :: bytes) 0 = 1 + templateSearch bytes 0 := by
  have hnext : (b :: bytes)[0 + 1]? = bytes.head? := by simp [List.head?_eq_getElem?]
  rw [templateSearch, dif_pos (by simp), List.getElem_cons_zero, hnext, if_neg hb, if_neg hquote,
    if_neg hdollar]
  exact templateSearch_append [b] bytes 0

/-- Bytes beyond ASCII are passed. -/
theorem templateSearch_pass (hmore : ∀ b ∈ more, ∀ d : Char, d.toNat < 128 → b ≠ d.toUInt8) :
    templateSearch (more ++ bytes) 0 = more.length + templateSearch bytes 0 := by
  induction more with
  | nil => simp
  | cons b more ih =>
    obtain ⟨hb, hmore⟩ := List.forall_mem_cons.1 hmore
    rw [List.cons_append, templateSearch_plain (hb _ (by decide)) (hb _ (by decide))
      (fun h => hb '$' (by decide) h.1), ih hmore, List.length_cons]
    omega

theorem templateSearch_escape (b : UInt8) (bytes : List UInt8) :
    templateSearch ('\\'.toUInt8 :: b :: bytes) 0 = 2 + templateSearch bytes 0 := by
  rw [templateSearch, dif_pos (by simp), List.getElem_cons_zero, if_pos rfl]
  exact templateSearch_append ['\\'.toUInt8, b] bytes 0

theorem templateSearch_backslash : templateSearch ['\\'.toUInt8] 0 = 2 := by
  rw [templateSearch, dif_pos (by simp), List.getElem_cons_zero, if_pos rfl, templateSearch,
    dif_neg (by simp)]

/-- The search ends at a delimiter. -/
theorem templateSearch_delimiter {cs : List Char} (h : startsDelimiter cs = true) :
    templateSearch (textBytes cs) 0 = 0 := by
  rw [startsDelimiter, Bool.or_eq_true, beq_iff_eq] at h
  rcases h with h | h
  · obtain ⟨rest, rfl⟩ := List.head?_eq_some_iff.1 h
    rw [textBytes_cons, utf8EncodeChar_ascii (by decide), List.singleton_append, templateSearch,
      dif_pos (by simp), List.getElem_cons_zero, if_neg (by decide), if_pos rfl]
  · obtain ⟨rest, rfl⟩ := opensSubstitution_iff.1 h
    rw [textBytes_cons, textBytes_cons, utf8EncodeChar_ascii (by decide),
      utf8EncodeChar_ascii (by decide), List.singleton_append, List.singleton_append,
      templateSearch, dif_pos (by simp), List.getElem_cons_zero, if_neg (by decide),
      if_neg (by decide), if_pos ⟨rfl, by simp⟩]

/-- A character that starts no delimiter is passed, with all its bytes. -/
theorem templateSearch_textBytes_cons {c : Char} {cs : List Char} (hescape : c ≠ '\\')
    (hstart : startsDelimiter (c :: cs) = false) :
    templateSearch (textBytes (c :: cs)) 0 = c.utf8Size + templateSearch (textBytes cs) 0 := by
  obtain ⟨b, more, hbytes, hb, hmore⟩ := exists_utf8EncodeChar_eq_cons c
  have hsize := String.length_utf8EncodeChar c
  rw [hbytes, List.length_cons] at hsize
  simp only [startsDelimiter, List.head?_cons, Bool.or_eq_false_iff, beq_eq_false_iff_ne, ne_eq,
    Option.some.injEq] at hstart
  have hdollar : ¬ (b = '$'.toUInt8 ∧ (more ++ textBytes cs).head? = some '{'.toUInt8) := by
    rintro ⟨hb', hnext⟩
    obtain rfl := (hb '$' (by decide)).1 hb'
    rw [utf8EncodeChar_ascii (by decide)] at hbytes
    obtain rfl := (List.cons.inj hbytes).2
    rw [List.nil_append, head?_textBytes_eq_some_iff (by decide)] at hnext
    obtain ⟨rest, rfl⟩ := List.head?_eq_some_iff.1 hnext
    exact absurd hstart.2 (by simp [opensSubstitution])
  have hback : b ≠ '\\'.toUInt8 := mt (hb _ (by decide)).1 hescape
  have hquote : b ≠ templateQuote.toUInt8 := mt (hb _ (by decide)).1 hstart.1
  rw [textBytes_cons, hbytes, List.cons_append, templateSearch_plain hback hquote hdollar,
    templateSearch_pass hmore]
  omega

end

/-- **The search through the bytes ends where the reading does**, but for a backslash at the end of
the text, where it leads one byte beyond it. -/
theorem min_templateSearch (cs : List Char) :
    min (templateSearch (textBytes cs) 0) (byteLength cs)
      = byteLength (cs.take (templateExtent cs)) := by
  fun_induction templateExtent cs with
  | case1 => simp
  | case2 =>
    rw [textBytes_cons, utf8EncodeChar_ascii (by decide), textBytes_nil, List.append_nil,
      templateSearch_backslash]
    decide
  | case3 e rest ih =>
    -- the escaped character may have several bytes, none of which is a delimiter but the first
    obtain ⟨b, more, hbytes, -, hmore⟩ := exists_utf8EncodeChar_eq_cons e
    have hsize := String.length_utf8EncodeChar e
    rw [hbytes, List.length_cons] at hsize
    have hback : '\\'.utf8Size = 1 := by decide
    rw [textBytes_cons, textBytes_cons, utf8EncodeChar_ascii (by decide), hbytes,
      List.singleton_append, List.cons_append, templateSearch_escape, templateSearch_pass hmore,
      List.take_succ_cons, List.take_succ_cons]
    simp only [byteLength_cons]
    omega
  | case4 c cs hescape hends =>
    have hstart : startsDelimiter (c :: cs) = true := by simpa [startsDelimiter] using hends
    rw [templateSearch_delimiter hstart]
    simp
  | case5 c cs hescape hends ih =>
    have hstart : startsDelimiter (c :: cs) = false := by
      rw [Bool.eq_false_iff]
      simpa [startsDelimiter] using hends
    rw [templateSearch_textBytes_cons hescape hstart, List.take_succ_cons, byteLength_cons,
      byteLength_cons]
    omega

/-- In a source, the search ends behind the text of the template. -/
theorem templateStop_textBytes (before cs : List Char) :
    templateStop (textBytes (before ++ cs)) (byteLength before)
      = byteLength before + byteLength (cs.take (templateExtent cs)) := by
  have hdrop : (textBytes (before ++ cs)).drop (byteLength before) = textBytes cs := by
    rw [textBytes_append]
    exact List.drop_left' (length_textBytes before)
  rw [templateStop, hdrop, length_textBytes, byteLength_append, Nat.add_min_add_left,
    min_templateSearch]

/-- The text of a template ends between two characters. -/
theorem isBoundary_templateExtent (before cs : List Char) :
    IsBoundary (before ++ cs) (byteLength before + byteLength (cs.take (templateExtent cs))) :=
  ⟨before ++ cs.take (templateExtent cs), cs.drop (templateExtent cs),
    by rw [List.append_assoc, List.take_append_drop], byteLength_append _ _⟩

/-! ### The token -/

/-- Where a template goes on with neither its quote nor a substitution, its text is pulled. -/
theorem Lexer.pull_eq_templateText {lx : Lexer} {c : Char} {cs : List Char}
    (hfailed : lx.failed = false) (hmode : lx.mode = .template) (hrest : lx.rest = c :: cs)
    (hquote : c ≠ templateQuote) (hopens : opensSubstitution (c :: cs) = false) :
    lx.pull = .token (lx.tokenOf .templateLiteral (templateExtent lx.rest))
      (lx.pass .templateLiteral (templateExtent lx.rest)) := by
  obtain ⟨hc, -⟩ | ⟨hs, -⟩ | ⟨-, -, hlength, htransition⟩ := scanTemplate_cases c cs
  · exact absurd hc hquote
  · rw [hopens] at hs
    cases hs
  · simp only [pull, hfailed, hrest, hmode, scan, scanTemplate_kind, hlength, htransition, follow,
      Bool.false_eq_true, if_false]

/-- **The token of a template text.**  Where a template goes on with neither its quote nor a
substitution, a token is pulled that consists of whole units.  It ends before the first delimiter
that stands between units, or at the end of the text, and never between a backslash and the
character behind it.  The search through the bytes of the source ends at the same place, which is
behind the start and between two characters, so that it need not be moved. -/
theorem Lexer.pull_templateText {lx : Lexer} {before : List Char} {c : Char} {cs : List Char}
    (hfailed : lx.failed = false) (hmode : lx.mode = .template) (hrest : lx.rest = c :: cs)
    (hoffset : lx.loc.offset = byteLength before)
    (hquote : c ≠ templateQuote) (hopens : opensSubstitution (c :: cs) = false) :
    ∃ t after k stop, lx.pull = .token t after ∧ t.kind = .templateLiteral ∧
      after.entered = lx.entered ∧
      -- the units of the token, and the ones behind it
      t.lexeme.toList = ((templateUnits lx.rest).take k).flatten ∧
      after.rest = ((templateUnits lx.rest).drop k).flatten ∧
      (∀ j < k, startsDelimiter ((templateUnits lx.rest).drop j).flatten = false) ∧
      (after.rest = [] ∨ startsDelimiter after.rest = true) ∧
      (∀ front e back, templateUnits lx.rest = front ++ ['\\', e] :: back →
        t.lexeme.toList ≠ front.flatten ++ ['\\']) ∧
      -- the place where the token ends, in bytes
      after.loc.offset = stop ∧
      stop = templateStop (textBytes (before ++ lx.rest)) lx.loc.offset ∧
      boundaryFrom (textBytes (before ++ lx.rest)) stop = stop ∧
      IsBoundary (before ++ lx.rest) stop ∧ lx.loc.offset < stop := by
  obtain ⟨k, hread⟩ := exists_readsUnits lx.rest
  have hstop := templateStop_textBytes before lx.rest
  have hboundary := isBoundary_templateExtent before lx.rest
  rw [← hoffset] at hstop hboundary
  have hlexeme : (lx.tokenOf .templateLiteral (templateExtent lx.rest)).lexeme.toList
      = lx.rest.take (templateExtent lx.rest) := String.toList_ofList
  refine ⟨_, _, k, _, pull_eq_templateText hfailed hmode hrest hquote hopens, rfl, rfl, ?_,
    hread.drop_eq, hread.not_delimiter, drop_templateExtent lx.rest, ?_,
    Location.advance_offset _ _, hstop.symm,
    boundaryFrom_of_isCharBoundary (isCharBoundary_iff.2 hboundary), hboundary, ?_⟩
  · rw [hlexeme, hread.take_eq]
  · intro front e back hcut
    rw [hlexeme, hread.take_eq]
    exact flatten_take_ne hcut k
  · have hpos := templateExtent_pos hquote hopens
    rw [← hrest] at hpos
    refine Nat.lt_add_of_pos_right (byteLength_pos ?_)
    rw [ne_eq, List.take_eq_nil_iff, not_or]
    exact ⟨Nat.ne_of_gt hpos, by simp [hrest]⟩

/-- An escaped quote and an escaped character of two bytes belong to the text of a template, and the
search that passes one byte behind each backslash ends before the substitution as well. -/
theorem Lexer.pull_templateText_escapes : ∃ (lx : Lexer) (t : Token) (after : Lexer),
    lx.mode = .template ∧ lx.rest = "a\\\x60\\\u00e9$\x7bb".toList ∧ lx.pull = .token t after ∧
    t.lexeme = "a\\\x60\\\u00e9" ∧ after.loc.offset = 7 ∧
    templateStop (textBytes (templateQuote :: lx.rest)) lx.loc.offset = 7 ∧
    boundaryFrom (textBytes (templateQuote :: lx.rest)) 7 = 7 := by
  let lx : Lexer := ⟨.ecma, "a\\\x60\\\u00e9$\x7bb".toList, ⟨1, 2, 1⟩, [.template], none, false⟩
  have hknown : lx.pull.token?.map (fun next => (next.1.lexeme, next.2.loc.offset))
      = some ("a\\\x60\\\u00e9", 7) := by
    decide +kernel
  obtain ⟨t, after, k, stop, hpull, -, -, -, -, -, -, -, hafter, hstop, hstay, -, -⟩ :=
    @pull_templateText lx [templateQuote] _ _ rfl rfl rfl rfl (by decide) rfl
  rw [hpull] at hknown
  obtain ⟨hlexeme, hoffset⟩ := Prod.mk.inj (Option.some.inj hknown)
  obtain rfl : stop = 7 := hafter.symm.trans hoffset
  exact ⟨lx, t, after, rfl, rfl, hpull, hlexeme, hafter, hstop.symm, hstay⟩

end ImportScan
