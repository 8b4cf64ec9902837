import ImportScan.Proofs.LineFeedRun
import ImportScan.Proofs.RoundTrip

/-!
# Independence of line ends

What is found in a text does not depend on how its lines end.  A text without carriage returns and
the same text with its line feeds spelled as pairs have the same imports, exports and complaints on
the same lines and columns, or the same fault; whatever is shown of the one text is shown of the other
one with pairs for its line feeds, and both are cut into the same segments.

## Main definitions

* `Segment.Like` — the same segment on both sides.
* `OutcomesSpelled` — what passes over both texts end with.

## Main results

* `LexError.message_text`, `BalanceMismatch.Like.message`, `Malformed.Like.message` — messages.
* `forall₂_piecesFrom` — both texts are cut at the same places.
* `extract_crlf` — **what is found does not depend on the line ends**.
-/

namespace ImportScan

variable {k : Likeness} {text : List Char}

/-! ### Messages -/

theorem isOneLine_append (s t : String) : isOneLine (s ++ t) = (isOneLine s && isOneLine t) := by
  rw [isOneLine, isOneLine, isOneLine, String.toList_append, List.all_append]

/-- The digits of a number stand on one line, in every base up to sixteen. -/
theorem isOneLine_toDigits {b : Nat} (hb : 1 < b) (hle : b ≤ 16) (n : Nat) :
    isOneLine (String.ofList (Nat.toDigits b n)) = true := by
  have hdigit : ∀ d < 16, isLineEnd (Nat.digitChar d) = false := by decide
  have hone : ∀ d < 16, isOneLine (String.ofList [Nat.digitChar d]) = true := by
    intro d hd
    rw [isOneLine, String.toList_ofList, List.all_cons, hdigit d hd]
    rfl
  induction n using Nat.strongRecOn with
  | ind n ih =>
    rcases Nat.lt_or_ge n b with hlt | hge
    · rw [Nat.toDigits_of_lt_base hlt]
      exact hone n (by omega)
    · have hless : n / b < n := Nat.div_lt_self (by omega) hb
      have hmod : n % b < 16 := Nat.lt_of_lt_of_le (Nat.mod_lt n (by omega)) hle
      rw [Nat.toDigits_of_base_le hb hge, String.ofList_append, isOneLine_append, ih _ hless,
        hone _ hmod, Bool.and_self]

theorem Location.isOneLine_text (loc : Location) : isOneLine loc.text = true := by
  have hnumber : ∀ n : Nat, isOneLine (toString n) = true := by
    intro n
    rw [Nat.toString_eq_ofList_toDigits]
    exact isOneLine_toDigits (by decide) (by decide) n
  rw [Location.text, isOneLine_append, isOneLine_append, hnumber, hnumber]
  rfl

/-- An escaped character stands on one line. -/
theorem isOneLine_escapeAscii (c : Char) : isOneLine (escapeAscii c) = true := by
  unfold escapeAscii
  split
  · decide
  split
  · decide
  split
  · decide
  split
  · next hc =>
    simp only [Bool.or_eq_true, decide_eq_true_eq] at hc
    rcases hc with (rfl | rfl) | rfl <;> decide
  split
  · next hc =>
    rw [Bool.and_eq_true, decide_eq_true_eq, decide_eq_true_eq] at hc
    -- a printable character is no line end
    have hline : isLineEnd c = false := by
      rw [Bool.eq_false_iff]
      intro hline
      rcases isLineEnd_iff.1 hline with rfl | rfl | rfl | rfl <;> revert hc <;> decide
    simp [isOneLine, hline]
  · rw [escapeCode, isOneLine_append, isOneLine_append, hexDigits,
      isOneLine_toDigits (by decide) (by decide)]
    decide

theorem LexFault.isOneLine_message (fault : LexFault) : isOneLine fault.message = true := by
  cases fault with
  | openComment => decide +kernel
  | openString => decide +kernel
  | openRegex => decide +kernel
  | strayCharacter c =>
    have hstart : isOneLine "unexpected character '" = true := by decide +kernel
    have hstop : isOneLine "'" = true := by decide +kernel
    show isOneLine ("unexpected character '" ++ escapeAscii c ++ "'") = true
    rw [isOneLine_append, isOneLine_append, isOneLine_escapeAscii, hstart, hstop, Bool.and_self,
      Bool.and_self]

theorem LexError.message_text {e e' : LexError} (k : Likeness) (hfault : e'.fault = e.fault)
    (hloc : e'.loc.text = e.loc.text) : e'.message = k.text e.message := by
  have hline : isOneLine e.message = true := by
    rw [LexError.message, isOneLine_append, isOneLine_append, e.fault.isOneLine_message,
      e.loc.isOneLine_text]
    rfl
  rw [k.text_of_isOneLine hline, LexError.message, LexError.message, hfault, hloc]

namespace BalanceMismatch

variable {m m' : BalanceMismatch}

theorem inQuotes_text (k : Likeness) (s : String) : inQuotes (k.text s) = k.text (inQuotes s) := by
  have hquote : k.text "'" = "'" := k.text_of_isOneLine (by decide +kernel)
  rw [inQuotes, inQuotes, k.text_append, k.text_append, hquote]

/-- The message of a mismatch is the same on both sides, spelled anew. -/
theorem Like.message (h : m.Like k m') (hloc : m'.loc.text = m.loc.text) :
    m'.message = k.text m.message := by
  -- each part of the message is spelled anew, and the words between them have one line
  have hfound : m'.foundText = k.text m.foundText := by
    rw [foundText, foundText, h.found]
    cases m.found with
    | none => exact (k.text_of_isOneLine (w := "end of input") (by decide +kernel)).symm
    | some lexeme => exact inQuotes_text k lexeme
  have hexpected : m'.expectedText = k.text m.expectedText := by
    rw [expectedText, expectedText, h.expected]
    cases m.expected with
    | none => exact (k.text_of_isOneLine (w := "no open bracket") (by decide +kernel)).symm
    | some closer =>
      show "expected " ++ inQuotes (k.text closer) = k.text ("expected " ++ inQuotes closer)
      rw [k.text_append, inQuotes_text, k.text_of_isOneLine (w := "expected ") (by decide +kernel)]
  have hstack : m'.stackText = k.text m.stackText := by
    have hquotes : (m.stack.map k.text).map inQuotes = (m.stack.map inQuotes).map k.text := by
      rw [List.map_map, List.map_map]
      exact List.map_congr_left fun s _ => inQuotes_text k s
    rw [stackText, stackText, h.stack, hquotes, k.text_intercalate,
      k.text_of_isOneLine (w := ", ") (by decide +kernel)]
  have hwords : ∀ w ∈ ["unbalanced ", " at ", ": ", " [ ", " ]"], k.text w = w := by
    intro w hw
    have hall : ["unbalanced ", " at ", ": ", " [ ", " ]"].all isOneLine = true := by decide +kernel
    exact k.text_of_isOneLine (List.all_eq_true.1 hall w hw)
  simp only [List.forall_mem_cons] at hwords
  obtain ⟨hstart, hat, hcolon, hopen, hclose, -⟩ := hwords
  unfold BalanceMismatch.message
  simp only [hfound, hexpected, hstack, hloc, k.text_append,
    k.text_of_isOneLine m.loc.isOneLine_text, hstart, hat, hcolon, hopen, hclose]

end BalanceMismatch

theorem Malformed.Like.message {m m' : Malformed} (h : m.Like k m') :
    m'.message = k.text m.message := by
  have hkeyword : isOneLine m.kind.keyword = true := by cases m.kind <;> decide
  rw [Malformed.message, Malformed.message, h.kind, h.fault, StatementFault.message_respell]
  simp only [k.text_append, k.text_of_isOneLine hkeyword]
  rw [k.text_of_isOneLine (w := "malformed ") (by decide +kernel),
    k.text_of_isOneLine (w := " statement: ") (by decide +kernel)]

/-! ### Segments -/

/-- The same segment on both sides. -/
structure Segment.Like (k : Likeness) (s s' : Segment) : Prop where
  /-- Both hold the same. -/
  kind : s'.kind = s.kind
  /-- Their ranges correspond. -/
  range : s.range.Like k s'.range
  /-- The same text, spelled anew. -/
  text : s'.text = k.text s.text

/-- The same piece on both sides, without its text. -/
structure PieceLike (k : Likeness) (p p' : SegmentKind × Span) : Prop where
  /-- Both hold the same. -/
  kind : p'.1 = p.1
  /-- Their ranges correspond. -/
  range : p.2.Like k p'.2

/-- Both texts are cut at the same places. -/
theorem forall₂_piecesFrom {cuts cuts' : List Span} {cursor cursor' : Nat}
    (hcuts : List.Forall₂ (Span.Like (.crlf text)) cuts cuts')
    (hcursor : AlikeOffsets text cursor cursor') :
    List.Forall₂ (PieceLike (.crlf text)) (piecesFrom (byteLength text) cursor cuts)
      (piecesFrom (byteLength (crlf text)) cursor' cuts') := by
  induction hcuts generalizing cursor cursor' with
  | nil =>
    have hend := AlikeOffsets.byteLength text
    rw [piecesFrom, piecesFrom]
    simp only [hcursor.lt_iff hend]
    split
    · exact .cons ⟨rfl, hcursor, hend⟩ .nil
    · exact .nil
  | @cons cut cut' cuts cuts' hcut _ ih =>
    -- the ends of pieces are ends of cuts or the cursor, and these are alike
    have hstart : AlikeOffsets text (max cut.start cursor) (max cut'.start cursor') :=
      AlikeOffsets.max_max hcut.start hcursor
    have hstop : AlikeOffsets text cut.stop cut'.stop := hcut.stop
    have hempty : cut'.stop ≤ max cut'.start cursor' ↔ cut.stop ≤ max cut.start cursor := by
      rw [← Nat.not_lt, ← Nat.not_lt, hstart.lt_iff hstop]
    rw [piecesFrom, piecesFrom]
    simp only [hempty, hcursor.lt_iff hstart]
    split
    · exact ih hcursor
    · have hhere : PieceLike (.crlf text) (.imports, ⟨max cut.start cursor, cut.stop⟩)
          (.imports, ⟨max cut'.start cursor', cut'.stop⟩) := ⟨rfl, hstart, hstop⟩
      split
      · exact .cons ⟨rfl, hcursor, hstart⟩ (.cons hhere (ih hstop))
      · exact .cons hhere (ih hstop)

/-- Pieces that correspond have the same texts, spelled anew. -/
theorem forall₂_segments {pieces pieces' : List (SegmentKind × Span)} {ss ss' : List Segment}
    (hpieces : List.Forall₂ (PieceLike (.crlf text)) pieces pieces')
    (hlt : ∀ p ∈ pieces, p.2.start < p.2.stop) (hss : pieces.mapM (segment? text) = some ss)
    (hss' : pieces'.mapM (segment? (crlf text)) = some ss') :
    List.Forall₂ (Segment.Like (.crlf text)) ss ss' := by
  induction hpieces generalizing ss ss' with
  | nil =>
    cases hss
    cases hss'
    exact .nil
  | @cons p p' pieces pieces' hp _ ih =>
    obtain ⟨hhere, hlt⟩ := List.forall_mem_cons.1 hlt
    -- alike ranges cut alike pieces out of both texts
    obtain ⟨cs, hcs, hcs'⟩ :=
      AlikeOffsets.exists_slice? hp.range.start hp.range.stop (Nat.le_of_lt hhere)
    have hsegment : segment? text p = some ⟨p.1, p.2, String.ofList cs⟩ := by
      rw [segment?, hcs]
      rfl
    have hsegment' : segment? (crlf text) p' = some ⟨p'.1, p'.2, String.ofList (crlf cs)⟩ := by
      rw [segment?, hcs']
      rfl
    rw [List.mapM_cons, hsegment] at hss
    rw [List.mapM_cons, hsegment'] at hss'
    simp only [Option.bind_eq_bind, Option.bind_some, Option.bind_eq_some_iff, Option.pure_def,
      Option.some.injEq] at hss hss'
    obtain ⟨rest, hrest, rfl⟩ := hss
    obtain ⟨rest', hrest', rfl⟩ := hss'
    exact .cons ⟨hp.kind, hp.range, (Likeness.crlf_text text cs).symm⟩ (ih hlt hrest hrest')

/-- The segments of both texts correspond. -/
theorem forall₂_partition? {ranges ranges' : List Span} {ss ss' : List Segment}
    (hranges : List.Forall₂ (Span.Like (.crlf text)) ranges ranges')
    (hascends : Ascends 0 ranges (byteLength text))
    (hascends' : Ascends 0 ranges' (byteLength (crlf text)))
    (hss : partition? text ranges = some ss) (hss' : partition? (crlf text) ranges' = some ss') :
    List.Forall₂ (Segment.Like (.crlf text)) ss ss' := by
  rw [partition?, cutsOf_of_ascends hascends] at hss
  rw [partition?, cutsOf_of_ascends hascends'] at hss'
  have habuts := abuts_piecesFrom (Nat.zero_le (byteLength text))
    fun cut hcut => (hascends.of_mem hcut).2.2
  refine forall₂_segments (forall₂_piecesFrom hranges (.zero text)) (fun p hp => ?_) hss hss'
  exact habuts.lt_of_mem (List.mem_map_of_mem hp)

/-! ### Outcomes -/

/-- What the passes over a text and over the text with its line feeds spelled as pairs end with: the
same is found and both texts are cut into the same segments, or both fail with the same fault.  All
texts that are shown are spelled anew; lines and columns are the same. -/
inductive OutcomesSpelled (text : List Char) :
    Except ExtractionFault Extraction → Except ExtractionFault Extraction → Prop where
  /-- The same is found. -/
  | ok {x x' : Extraction} {ss ss' : List Segment} (hfound : x.Like (.crlf text) x')
      (hreasons : x'.malformed.map (fun m => m.fault.message)
        = x.malformed.map fun m => Respelling.crlf.text m.fault.message)
      (hmessages : x'.malformed.map Malformed.message
        = x.malformed.map fun m => Respelling.crlf.text m.message)
      (hss : partition? text (x.imports.map ImportRecord.range) = some ss)
      (hss' : partition? (crlf text) (x'.imports.map ImportRecord.range) = some ss')
      (hsegments : List.Forall₂ (Segment.Like (.crlf text)) ss ss') :
    OutcomesSpelled text (.ok x) (.ok x')
  /-- The lexer cannot go on for the same reason. -/
  | lex {e e' : LexError} (hfault : e'.fault = e.fault)
      (hplace : (Likeness.crlf text).place e.loc e'.loc)
      (hmessage : e'.message = Respelling.crlf.text e.message) :
    OutcomesSpelled text (.error (.lex e)) (.error (.lex e'))
  /-- The brackets do not nest in the same way. -/
  | balance {m m' : BalanceMismatch} (hm : m.Like (.crlf text) m')
      (hmessage : m'.message = Respelling.crlf.text m.message) :
    OutcomesSpelled text (.error (.balance m)) (.error (.balance m'))

/-- **What is found does not depend on the line ends.**  The text has no carriage returns, so that
every line feed is a line end of its own. -/
theorem extract_crlf (l : Language) (h : '\r' ∉ text) :
    OutcomesSpelled text (extract l text).outcome (extract l (crlf text)).outcome := by
  have hloc : ∀ {loc loc' : Location}, (Likeness.crlf text).place loc loc' →
      loc'.text = loc.text := by
    rintro loc loc' ⟨hline, hcolumn, -⟩
    rw [Location.text, Location.text, hline, hcolumn]
  have hlexers : Lexer.Abreast text (Pass.ofLexer (.ofText l text)).lexer
      (Pass.ofLexer (.ofText l (crlf text))).lexer := .ofText l text
  -- a token of one pass is that of the other, spelled anew
  obtain ⟨houtcomes, ts, ts', hts, hts', htokens⟩ :=
    Pass.run_like (Likeness.keeps_crlf h) hlexers rfl
  have hts : (extract l text).tokens = ts := hts
  have hts' : (extract l (crlf text)).tokens = ts' := hts'
  obtain ⟨⟨x, hx⟩, x', hx'⟩ | ⟨e, e', he, he', hlike⟩ := houtcomes
  · have hx : (extract l text).outcome = .ok x := hx
    have hx' : (extract l (crlf text)).outcome = .ok x' := hx'
    have hfound : x.Like (.crlf text) x' := by
      rw [eq_ofTokens_of_ok hx, eq_ofTokens_of_ok hx', hts, hts']
      exact .ofTokens htokens
    have hranges : List.Forall₂ (Span.Like (.crlf text)) (x.imports.map ImportRecord.range)
        (x'.imports.map ImportRecord.range) := by
      rw [List.forall₂_map_left_iff, List.forall₂_map_right_iff]
      exact hfound.imports.imp fun _ _ hr => hr.range
    obtain ⟨ss, hss, -⟩ := exists_partition?_of_extract hx
    obtain ⟨ss', hss', -⟩ := exists_partition?_of_extract hx'
    have hsegments := forall₂_partition? hranges (ascends_imports hx) (ascends_imports hx') hss hss'
    rw [hx, hx']
    refine .ok hfound ?_ ?_ hss hss' hsegments
    · refine map_eq_map_of_forall₂ (fun m m' hm => ?_) hfound.malformed
      rw [hm.fault, StatementFault.message_respell]
      rfl
    · exact map_eq_map_of_forall₂ (fun m m' hm => hm.message) hfound.malformed
  · have he : (extract l text).outcome = .error e := he
    have he' : (extract l (crlf text)).outcome = .error e' := he'
    rw [he, he']
    cases hlike with
    | lex hfault hplace =>
      exact .lex hfault hplace (LexError.message_text (.crlf text) hfault (hloc hplace))
    | balance hm => exact .balance hm (hm.message (hloc hm.place))

/-- An import whose specifier goes on in the next line, in a text with pairs for its line ends. -/
theorem extract_crlf_import : ∃ x,
    (extract .ecma "import a from 'b\\\r\nc'\r\n".toList).outcome = .ok x ∧
      x.imports.map (fun r => (r.specifier, r.code))
        = [("b\\\r\nc", "import a from 'b\\\r\nc'\r\n")] := by
  have hrun : ((Pass.ofLexer (.ofText .ecma "import a from 'b\\\nc'\n".toList)).steps? 8).any
      (fun p => p.lexer.pull == .finished && p.finish.toOption.any fun x => x.imports.map
          (fun r => (Respelling.crlf.text r.specifier, Respelling.crlf.text r.code))
        == [("b\\\r\nc", "import a from 'b\\\r\nc'\r\n")]) = true := by
    decide +kernel
  obtain ⟨p, hp, hcheck⟩ := (Option.any_eq_true _ _).1 hrun
  rw [Bool.and_eq_true, beq_iff_eq] at hcheck
  obtain ⟨x, hx, himports⟩ := (Option.any_eq_true _ _).1 hcheck.2
  have hreturn : '\r' ∉ "import a from 'b\\\nc'\n".toList := by decide +kernel
  -- what was read without carriage returns carries over to the other spelling
  have hboth := extract_crlf .ecma hreturn
  rw [(Pass.outcome_of_steps? hp hcheck.1 hx).1] at hboth
  generalize hr : (extract .ecma (crlf _)).outcome = r at hboth
  cases hboth with
  | @ok _ x' ss ss' hfound =>
    have hsame : x'.imports.map (fun r => (r.specifier, r.code)) = x.imports.map
        fun r => (Respelling.crlf.text r.specifier, Respelling.crlf.text r.code) :=
      map_eq_map_of_forall₂ (fun r r' h => Prod.ext h.specifier h.code) hfound.imports
    exact ⟨x', hr, hsame.trans (beq_iff_eq.1 himports)⟩

end ImportScan
