import ImportScan.Proofs.ParallelRun
import ImportScan.Proofs.PassPlace
import ImportScan.Proofs.Seam

/-!
# Texts put behind one another

A text that is accepted and ends with a semicolon and a line feed at the top level leaves nothing
behind: no mode, no bracket and no statement is open, the next slash starts a regular expression, and
the next line starts at its first column.  So a text that is put behind it is read as it is by
itself, further down.

## Main definitions

* `Location.shift`, `Extraction.shift`, `ExtractionFault.shift` — what is found in a text, moved
  behind some bytes and lines.
* `Likeness.shifted` — places that differ by some bytes and lines.

## Main results

* `Extraction.ofTokens_append` — behind tokens that leave no statement open, the rest of a stream is
  collected on its own.
* `Pass.Reaches.over_seam` — a pass gets over the seam of two texts as it gets to the end of the
  first one.
* `extract_append` — **what is found in two texts is what is found in each of them**, and a fault of
  the second one is the fault of both.
-/

namespace ImportScan

/-! ### Places further down -/

/-- The place behind some more bytes and lines, in the same column. -/
def Location.shift (bytes lines : Nat) (loc : Location) : Location :=
  ⟨loc.line + lines, loc.column, loc.offset + bytes⟩

/-- The range behind some more bytes. -/
def Span.shift (bytes : Nat) (s : Span) : Span := ⟨s.start + bytes, s.stop + bytes⟩

/-- The import further down. -/
def ImportRecord.shift (bytes lines : Nat) (r : ImportRecord) : ImportRecord :=
  { r with range := r.range.shift bytes, loc := r.loc.shift bytes lines }

/-- The export further down. -/
def ExportRecord.shift (bytes lines : Nat) (r : ExportRecord) : ExportRecord :=
  { r with range := r.range.shift bytes, loc := r.loc.shift bytes lines }

/-- The complaint further down. -/
def Malformed.shift (bytes lines : Nat) (m : Malformed) : Malformed :=
  { m with loc := m.loc.shift bytes lines }

/-- All that is found, further down. -/
def Extraction.shift (bytes lines : Nat) (x : Extraction) : Extraction :=
  ⟨x.imports.map (ImportRecord.shift bytes lines), x.exports.map (ExportRecord.shift bytes lines),
    x.malformed.map (Malformed.shift bytes lines)⟩

/-- The fault further down; what was expected, found and open is the same. -/
def ExtractionFault.shift (bytes lines : Nat) : ExtractionFault → ExtractionFault
  | .lex e => .lex { e with loc := e.loc.shift bytes lines }
  | .balance m => .balance { m with loc := m.loc.shift bytes lines }

/-- Counting on from a place further down. -/
theorem Location.advance_shift (bytes lines : Nat) (cs : List Char) (loc : Location) :
    (loc.shift bytes lines).advance cs = (loc.advance cs).shift bytes lines := by
  induction cs generalizing loc with
  | nil => rfl
  | cons c cs ih =>
    have hstep : (loc.shift bytes lines).step c cs = (loc.step c cs).shift bytes lines := by
      unfold step shift
      split <;> simp <;> omega
    rw [advance_cons, hstep, ih, advance_cons]

/-- Places that differ by some bytes and lines. -/
def Likeness.shifted (bytes lines : Nat) : Likeness :=
  .ofPlaces (fun loc loc' => loc' = loc.shift bytes lines) (fun o o' => o' = o + bytes)
    (congrArg Location.offset)

theorem Likeness.keeps_shifted (bytes lines : Nat) : (shifted bytes lines).Keeps fun lx lx' =>
    lx.SameAhead lx' ∧ lx'.loc = lx.loc.shift bytes lines := by
  have hoffset : ∀ {loc loc' : Location}, loc' = loc.shift bytes lines →
      loc'.offset = loc.offset + bytes := fun hloc => congrArg Location.offset hloc
  refine @keeps_sameAhead _ (fun o o' => o' = o + bytes) hoffset ?_
  intro loc loc' cs hloc
  rw [hloc, Location.advance_shift]

section

variable {bytes lines : Nat}

theorem Span.Like.eq_shift {s s' : Span} (h : s.Like (.shifted bytes lines) s') :
    s' = s.shift bytes := by
  obtain ⟨start, stop⟩ := s'
  obtain ⟨hstart, hstop⟩ := h
  cases hstart
  cases hstop
  rfl

theorem ImportRecord.Like.eq_shift {r r' : ImportRecord}
    (h : r.Like (.shifted bytes lines) r') : r' = r.shift bytes lines := by
  obtain ⟨bindings, specifier, range, loc, code⟩ := r'
  obtain ⟨hbindings, hspecifier, hrange, hplace, hcode⟩ := h
  cases hrange.eq_shift
  cases hbindings.trans (Bindings.respell_same _)
  cases hspecifier
  cases hplace
  cases hcode
  rfl

theorem ExportRecord.Like.eq_shift {r r' : ExportRecord}
    (h : r.Like (.shifted bytes lines) r') : r' = r.shift bytes lines := by
  obtain ⟨kind, declaration, exported, range, loc, code⟩ := r'
  obtain ⟨hkind, hdeclaration, hexported, hrange, hplace, hcode⟩ := h
  cases hrange.eq_shift
  cases hkind
  cases hdeclaration
  cases hexported
  cases hplace
  cases hcode
  rfl

theorem Malformed.Like.eq_shift {m m' : Malformed}
    (h : m.Like (.shifted bytes lines) m') : m' = m.shift bytes lines := by
  obtain ⟨kind, fault, loc⟩ := m'
  obtain ⟨hkind, hfault, hplace⟩ := h
  cases hkind
  cases hfault.trans (StatementFault.respell_same _)
  cases hplace
  rfl

theorem Extraction.Like.eq_shift {x x' : Extraction}
    (h : x.Like (.shifted bytes lines) x') : x' = x.shift bytes lines := by
  obtain ⟨imports, exports, malformed⟩ := x'
  obtain ⟨himports, hexports, hmalformed⟩ := h
  rw [shift, ← map_eq_map_of_forall₂ (g := id) (fun _ _ hr => hr.eq_shift) himports,
    ← map_eq_map_of_forall₂ (g := id) (fun _ _ hr => hr.eq_shift) hexports,
    ← map_eq_map_of_forall₂ (g := id) (fun _ _ hm => hm.eq_shift) hmalformed]
  simp

theorem ExtractionFault.Like.eq_shift {e e' : ExtractionFault}
    (h : e.Like (.shifted bytes lines) e') : e' = e.shift bytes lines := by
  cases h with
  | @lex e e' hfault hplace =>
    obtain ⟨fault, loc⟩ := e'
    cases hfault
    cases hplace
    rfl
  | @balance m m' hm =>
    obtain ⟨expected, found, stack, loc⟩ := m'
    obtain ⟨hexpected, hfound, hstack, hplace⟩ := hm
    cases hexpected.trans (congrFun Option.map_id _)
    cases hfound.trans (congrFun Option.map_id _)
    cases hstack.trans (List.map_id _)
    cases hplace
    rfl

end

/-! ### Streams behind one another -/

theorem Extraction.append_addMalformed (x y : Extraction) (m : Malformed) :
    (x.append y).addMalformed m = x.append (y.addMalformed m) := by
  simp [append, addMalformed]

/-- A statement gives the same, whatever has been found before. -/
theorem Extraction.append_add (x y : Extraction) (s : Statement) :
    (x.append y).add s = x.append (y.add s) := by
  unfold add
  cases s.kind with
  | imports =>
    dsimp only
    split
    · cases s.toImport with
      | ok r => simp [append, addImport]
      | error m => exact append_addMalformed x y m
    · rfl
  | exports =>
    dsimp only
    cases s.toExport with
    | ok r => simp [append, addExport]
    | error m => exact append_addMalformed x y m

theorem Extraction.append_foldl_add (ss : List Statement) (x y : Extraction) :
    ss.foldl add (x.append y) = x.append (ss.foldl add y) := by
  induction ss generalizing y with
  | nil => rfl
  | cons s ss ih => rw [List.foldl_cons, List.foldl_cons, append_add, ih]

/-- Behind tokens that leave no statement open, the rest of a stream is collected on its own. -/
theorem Extraction.ofTokens_append {ts us : List Token} (h : (Collector.idle.feedAll ts).1 = .idle) :
    ofTokens (ts ++ us) = (ofTokens ts).append (ofTokens us) := by
  -- with nothing open, no statement is cut off behind the first tokens
  have hts : ofTokens ts = (Collector.idle.feedAll ts).2.foldl add .empty := by
    unfold ofTokens
    rw [h]
    rfl
  rw [hts]
  unfold ofTokens
  rw [Collector.feedAll_append, h]
  dsimp only
  rw [List.foldl_append, ← append_empty (List.foldl add empty (Collector.idle.feedAll ts).2),
    append_foldl_add]
  rw [append_empty]
  cases (Collector.idle.feedAll us).1.finish.2 with
  | none => rfl
  | some cut => exact append_addMalformed _ _ _

/-- Behind a semicolon no statement is open. -/
theorem Collector.feed_semicolon (c : Collector) {t : Token} (ht : t.isPunctuator ";" = true) :
    (c.feed t).1 = .idle := by
  cases c with
  | idle =>
    have hkind : t.kind = .punctuator := by
      rw [Token.isPunctuator, Token.is, Bool.and_eq_true, beq_iff_eq] at ht
      exact ht.1
    simp [feed, StatementKind.ofToken?, Token.isKeyword, Token.is, hkind]
  | collecting kind first more => simp [feed, Token.endsStatement, ht]

/-- Behind a semicolon and a line feed no statement is open. -/
theorem Collector.feedAll_line (c : Collector) (before : List Token) {semi feed : Token}
    (hsemi : semi.isPunctuator ";" = true) (hfeed : feed.is .whitespace "\n" = true) :
    (c.feedAll (before ++ [semi, feed])).1 = .idle := by
  have hline : StatementKind.ofToken? feed = none := by
    rw [Token.is, Bool.and_eq_true, beq_iff_eq] at hfeed
    simp [StatementKind.ofToken?, Token.isKeyword, Token.is, hfeed.1]
  have hcut : before ++ [semi, feed] = (before ++ [semi]) ++ [feed] := by
    rw [List.append_assoc, List.singleton_append]
  rw [hcut, feedAll_append, feedAll_append, feedAll_singleton, feedAll_singleton,
    feed_semicolon _ hsemi, Collector.feed, hline]

/-! ### Over the seam -/

namespace Pass

variable {p q : Pass} {l : Language} {lx : Lexer} {t : Token} {before : List Token}

/-- A line feed is a token of its own, whatever stands behind it. -/
theorem pull_lineFeed {after : Lexer} (hpull : lx.pull = .token t after)
    (ht : t.is .whitespace "\n" = true) (hafter : after.rest = []) (more : List Char) :
    (lx.withRest ('\n' :: more)).pull = .token t (after.withRest more) := by
  rw [Token.is, Bool.and_eq_true, beq_iff_eq, beq_iff_eq] at ht
  have hrest : lx.rest = '\n' :: [] := by
    rw [← Lexer.pull_rest hpull, hafter, ht.2]
    rfl
  have hmode := ((Lexer.moves_of_pull hpull).of_ne (by simp [ht.1])).1
  -- a line feed is a token by itself, whatever stands behind it
  have hscan : ∀ cs, scan lx.language lx.mode lx.previous '\n' cs
      = .ok { kind := .whitespace, length := 1 } := by
    intro cs
    rw [scan_of_isCode hmode]
    rfl
  obtain ⟨-, -, -, hgoing, -⟩ := Lexer.pull_eq_token hpull
  have hself := Lexer.pull_of_scan lx hgoing hrest (hscan [])
  cases hpull.symm.trans hself
  have hlonger := Lexer.pull_of_scan (lx.withRest ('\n' :: more)) hgoing rfl (hscan more)
  have hall : lx.rest = ['\n'] ++ [] := hrest
  have htoken := Lexer.tokenOf_withRest .whitespace (Nat.le_refl 1) hall more
  have hpass := Lexer.pass_withRest .whitespace (Nat.le_refl 1) hall rfl more
  rw [List.singleton_append] at htoken hpass
  rw [htoken, hpass] at hlonger
  exact hlonger

/-- A pass gets over the seam of two texts as it gets to the end of the first one.  It stands at the
start of a line there, and a slash may start a regular expression. -/
theorem Reaches.over_seam {text : List Char} {semi feed : Token}
    (h : Reaches (ofLexer (.ofText l text)) p) (hend : p.lexer.rest = [])
    (htokens : p.tokens = before ++ [semi, feed]) (hsemi : semi.isPunctuator ";" = true)
    (hfeed : feed.is .whitespace "\n" = true) (more : List Char) :
    Reaches (ofLexer (.ofText l (text ++ more))) (p.withRest more) ∧
      lastLine text = [] ∧ regexAllowed p.lexer.previous = true := by
  -- the last two steps of the pass are those over the semicolon and the line feed
  obtain ⟨p₁, after₁, hreaches₁, htokens₁, hpull₁, htake₁⟩ :=
    h.exists_last (List.append_assoc before [semi] [feed] ▸ htokens)
  obtain ⟨p₀, after₀, hreaches₀, -, hpull₀, htake₀⟩ := hreaches₁.exists_last htokens₁
  rw [Token.isPunctuator, Token.is, Bool.and_eq_true, beq_iff_eq, beq_iff_eq] at hsemi
  have hfeedToken := hfeed
  rw [Token.is, Bool.and_eq_true, beq_iff_eq, beq_iff_eq] at hfeedToken
  have hafter₁ : after₁.rest = [] := (take_rest htake₁).symm.trans hend
  have hrest₁ : p₁.lexer.rest = ['\n'] := by
    rw [← Lexer.pull_rest hpull₁, hafter₁, hfeedToken.2]
    rfl
  have hafter₀ : after₀.rest = [] ++ ['\n'] := (take_rest htake₀).symm.trans hrest₁
  have hrest₀ : p₀.lexer.rest = [';'] ++ ['\n'] := by
    rw [← Lexer.pull_rest hpull₀, hafter₀, hsemi.2]
    rfl
  have hgap : IsGap '\n' := .inr rfl
  have hstep₀ : p₀.step? = some p₁ := step?_eq_some_iff.2 ⟨semi, after₀, hpull₀, htake₀⟩
  obtain ⟨w, hw⟩ := Reaches.exists_rest hreaches₀
  have htext : text = (w ++ [';']) ++ ['\n'] := by
    rw [List.append_assoc, ← hrest₀]
    exact hw
  refine ⟨?_, ?_, ?_⟩
  · -- up to the semicolon nothing is told from what follows the line feed
    have hlonger : text ++ more = (w ++ [';']) ++ '\n' :: more := by
      rw [htext, List.append_assoc]
      rfl
    have hcommon := hreaches₀.withRest hgap hstep₀ hrest₁ htext hrest₀ more
    have hcode := ((Lexer.moves_of_pull hpull₀).of_ne (by simp [hsemi.1])).1
    have hends : ∀ c cs, p₀.lexer.rest = c :: cs →
        (branch p₀.lexer.language p₀.lexer.previous c cs.head?).endsAt '\n' = true := by
      obtain ⟨c, cs, s, -, hcs, hscan, rfl, -⟩ := Lexer.pull_eq_token hpull₀
      rw [scan_of_isCode hcode, scanCode_eq] at hscan
      intro c' cs' hcs'
      obtain ⟨rfl, rfl⟩ := List.cons.inj (hcs.symm.trans hcs')
      exact Branch.endsAt_of_punctuator hscan hsemi.1 '\n'
    have hsemi' := Lexer.pull_of_known hgap hpull₀ hrest₀ hafter₀
      (fun _ => .inr hends) (fun hmode _ => by simp [hmode, Mode.isCode] at hcode) more
    have hfeed' := pull_lineFeed hpull₁ hfeed hafter₁ more
    rw [hlonger]
    refine (hcommon.tail (step?_eq_some_iff.2 ⟨semi, _, hsemi', ?_⟩)).tail
      (step?_eq_some_iff.2 ⟨feed, _, hfeed', take_withRest htake₁ _ _⟩)
    exact take_withRest htake₀ _ _
  · -- the text ends with its line feed
    rw [htext, lastLine_append_cons (by decide)]
    rfl
  · -- behind a semicolon a slash starts a regular expression
    have hkept : p.lexer.previous = p₁.lexer.previous := by
      rw [previous_of_take hpull₁ htake₁, hfeedToken.1]
      rfl
    have hbefore : p₁.lexer.previous = some (.punctuator, ";") := by
      rw [previous_of_take hpull₀ htake₀, hsemi.1, hsemi.2]
      rfl
    rw [hkept, hbefore]
    rfl

end Pass

/-! ### Two texts -/

variable {l : Language} {p q : List Char} {x : Extraction} {before : List Token}
  {semi feed : Token}

theorem ContextStack.eq_empty_of_openings {s : ContextStack} (h : s.openings = []) : s = .empty := by
  obtain ⟨root, nested⟩ := s
  cases nested with
  | nil =>
    have hroot : root = [] := by simpa [openings] using h
    rw [hroot]
    rfl
  | cons level outer => simp [openings] at h

/-- **What is found in two texts is what is found in each of them.**  The first text is accepted, it
ends with a semicolon and a line feed, and the lexer is in the mode in which it has started; no
statement is open behind a semicolon.  Then what is found in the second text follows, moved behind
the bytes and the line ends of the first one, and a fault of the second text is the fault of both. -/
theorem extract_append (hok : (extract l p).outcome = .ok x)
    (hdepth : (extract l p).lexer.state.depth = 0)
    (htokens : (extract l p).tokens = before ++ [semi, feed])
    (hsemi : semi.isPunctuator ";" = true) (hfeed : feed.is .whitespace "\n" = true) :
    (extract l (p ++ q)).outcome =
      match (extract l q).outcome with
      | .ok y => .ok (x.append (y.shift (byteLength p) (lineEnds p)))
      | .error e => .error (e.shift (byteLength p) (lineEnds p)) := by
  have hx := eq_ofTokens_of_ok hok
  obtain ⟨pass, hreaches, hends⟩ := Pass.exists_ends_extract l p
  have hfollows := hreaches.follows
  generalize extract l p = r at hends hok hdepth htokens hx
  cases hends with
  | fault e after hpull => cases hok
  | mismatch t after m hpull htake => cases hok
  | finished hpull =>
    obtain ⟨hrest, -⟩ := hfollows.rest_of_finished hpull
    have hcontexts : pass.contexts = .empty := by
      refine ContextStack.eq_empty_of_openings (by_contra fun hne => ?_)
      cases hok.symm.trans (Pass.finish_of_ne_nil hne)
    obtain ⟨hseam, hline, hslash⟩ := hreaches.over_seam hrest htokens hsemi hfeed q
    -- behind the seam the pass is the one over the second text, but for its place
    have hplace : pass.lexer.loc = Location.start.shift (byteLength p) (lineEnds p) := by
      obtain ⟨passed, htext, hmarks⟩ := hreaches.inPlace.lexer
      rw [hrest, List.append_nil] at htext
      rw [hmarks.eq_placeBehind, ← htext, placeBehind, hline, Location.shift, Location.start,
        Nat.add_comm 1, Nat.zero_add]
      rfl
    have hsame : (Lexer.ofText l q).SameAhead (pass.withRest q).lexer :=
      ⟨⟨hfollows.language, List.length_eq_zero_iff.1 hdepth, hfollows.going, hslash⟩, rfl⟩
    have hfirst : (Pass.ofLexer (.ofText l q)).run = extract l q := rfl
    have hboth : extract l (p ++ q) = (pass.withRest q).run := Pass.run_of_reaches hseam
    obtain ⟨houtcomes, ts, ts', hts, hts', hlike⟩ :=
      Pass.run_like (p := .ofLexer (.ofText l q)) (Likeness.keeps_shifted _ _) ⟨hsame, hplace⟩
        hcontexts
    rw [hfirst, ← hboth] at houtcomes
    rw [hfirst] at hts
    rw [← hboth] at hts'
    obtain ⟨⟨y, hy⟩, z, hz⟩ | ⟨e, e', he, he', hlike⟩ := houtcomes
    · have hyz := (Extraction.Like.ofTokens hlike).eq_shift
      have hidle : (Collector.idle.feedAll pass.tokens).1 = .idle := by
        have htokens : pass.tokens = before ++ [semi, feed] := htokens
        rw [htokens, Collector.feedAll_line _ before hsemi hfeed]
      have htokens' : (extract l (p ++ q)).tokens = pass.tokens ++ ts' := hts'
      have htokens : (extract l q).tokens = ts := hts
      have hx : x = .ofTokens pass.tokens := hx
      have hy' := eq_ofTokens_of_ok hy
      have hz' := eq_ofTokens_of_ok hz
      rw [htokens] at hy'
      rw [htokens', Extraction.ofTokens_append hidle, hyz, ← hx, ← hy'] at hz'
      rw [hy, hz, hz']
    · rw [he, he', hlike.eq_shift]

/-- Two imports, each in a text of its own. -/
theorem extract_append_imports : ∃ x,
    (extract .ecma ("import a from 'b';\n".toList ++ "import c from 'd'".toList)).outcome = .ok x ∧
      x.imports.map ImportRecord.specifier = ["b"] ∧ x.malformed.map Malformed.loc = [⟨2, 1, 19⟩] := by
  have hfirst : ((Pass.ofLexer (.ofText .ecma "import a from 'b';\n".toList)).steps? 9).any
      (fun p => p.lexer.pull == .finished && p.lexer.state.depth == 0 &&
        p.tokens.drop 7 == [⟨.punctuator, ";", ⟨1, 18, 17⟩⟩, ⟨.whitespace, "\n", ⟨1, 19, 18⟩⟩] &&
        p.finish.toOption.any fun x => x.imports.map ImportRecord.specifier == ["b"] &&
          x.malformed == []) = true := by
    decide +kernel
  have hsecond : ((Pass.ofLexer (.ofText .ecma "import c from 'd'".toList)).steps? 7).any
      (fun p => p.lexer.pull == .finished &&
        p.finish.toOption == some ⟨[], [], [⟨.imports, .unterminated, .start⟩]⟩) = true := by
    decide +kernel
  obtain ⟨p, hp, hcheck⟩ := (Option.any_eq_true _ _).1 hfirst
  obtain ⟨q, hq, hcheck'⟩ := (Option.any_eq_true _ _).1 hsecond
  simp only [Bool.and_eq_true, beq_iff_eq] at hcheck hcheck'
  obtain ⟨⟨⟨hpull, hdepth⟩, hlast⟩, hfinish⟩ := hcheck
  obtain ⟨x, hx, hfound⟩ := (Option.any_eq_true _ _).1 hfinish
  simp only [Bool.and_eq_true, beq_iff_eq] at hfound
  -- behind the seventh token stand the semicolon and the line feed
  have htokens : (extract .ecma "import a from 'b';\n".toList).tokens
      = p.tokens.take 7 ++ [⟨.punctuator, ";", ⟨1, 18, 17⟩⟩, ⟨.whitespace, "\n", ⟨1, 19, 18⟩⟩] := by
    rw [(Pass.outcome_of_steps? hp hpull hx).2, ← hlast, List.take_append_drop]
  have hstate : (extract .ecma "import a from 'b';\n".toList).lexer.state.depth = 0 := by
    rw [Pass.extract_eq hp (.finished hpull)]
    exact hdepth
  have hboth := extract_append (q := "import c from 'd'".toList)
    (Pass.outcome_of_steps? hp hpull hx).1 hstate htokens rfl rfl
  rw [(Pass.outcome_of_steps? hq hcheck'.1 hcheck'.2).1] at hboth
  refine ⟨_, hboth, ?_, ?_⟩
  · simp [Extraction.append, Extraction.shift, hfound.1]
  · simp only [Extraction.append, hfound.2]
    rfl

end ImportScan
