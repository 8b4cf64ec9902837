import ImportScan.Lexer
import ImportScan.Proofs.Scan
import ImportScan.Proofs.Tiling

/-!
# The stream of tokens

A lexer that is asked for tokens gives away its text piece by piece.  Between two tokens it may be
told to leave its mode, at any place and any number of times; that changes which tokens come next,
but not that they come one behind the other, each a piece of the text, until the text or the luck of
the lexer runs out.

## Main definitions

* `Lexer.StandsIn` — the remaining text of a lexer is the end of the whole text.
* `Token.piece` — a token as a piece of its text.
* `Lexer.Call`, `Lexer.Answer`, `Lexer.answers` — a lexer asked for tokens and told to leave modes
  in any order.

## Main results

* `Lexer.StandsIn.pull` — what one pull does.
* `Lexer.answers_ofText` — **a lexer loses nothing and invents nothing**, whatever it is told.
-/

namespace ImportScan

/-! ### Tokens as pieces -/

namespace Token

/-- The offsets of a token. -/
def span (t : Token) : Span := ⟨t.loc.offset, t.stop⟩

/-- A token as a piece of the text it is read from. -/
def piece (t : Token) : TextPiece := (t.span, t.lexeme)

theorem start_lt_stop {t : Token} (h : t.lexeme ≠ "") : t.loc.offset < t.stop := by
  have hne : t.lexeme.toList ≠ [] := fun hnil => h (String.toList_inj.1 (by simp [hnil]))
  have hpos : 0 < t.bytes := byteLength_pos hne
  rw [Token.stop]
  omega

end Token

/-! ### Where a lexer stands -/

/-- The lexer has passed some beginning of the text, all the rest is left, and its offset counts the
bytes it has passed. -/
def Lexer.StandsIn (lx : Lexer) (text : List Char) : Prop :=
  ∃ passed, text = passed ++ lx.rest ∧ lx.loc.offset = byteLength passed

namespace Lexer

theorem standsIn_ofText (l : Language) (text : List Char) : (ofText l text).StandsIn text :=
  ⟨[], rfl, rfl⟩

@[simp] theorem standsIn_leave {lx : Lexer} {text : List Char} :
    lx.leave.StandsIn text ↔ lx.StandsIn text := Iff.rfl

@[simp] theorem follow_loc (lx : Lexer) (t : Transition) : (lx.follow t).loc = lx.loc := by
  cases t <;> rfl

@[simp] theorem follow_failed (lx : Lexer) (t : Transition) : (lx.follow t).failed = lx.failed := by
  cases t <;> rfl

@[simp] theorem follow_language (lx : Lexer) (t : Transition) :
    (lx.follow t).language = lx.language := by
  cases t <;> rfl

/-- A lexer stands at a place where the text can be cut. -/
theorem StandsIn.isBoundary {lx : Lexer} {text : List Char} (h : lx.StandsIn text) :
    IsBoundary text lx.loc.offset := by
  obtain ⟨passed, htext, hoffset⟩ := h
  exact ⟨passed, lx.rest, htext, hoffset.symm⟩

theorem StandsIn.offset_add {lx : Lexer} {text : List Char} (h : lx.StandsIn text) :
    lx.loc.offset + byteLength lx.rest = byteLength text := by
  obtain ⟨passed, htext, hoffset⟩ := h
  rw [htext, byteLength_append, hoffset]

/-- A pulled token is a piece of the text, and the lexer goes on behind it. -/
theorem StandsIn.pull {lx after : Lexer} {t : Token} {text : List Char} (h : lx.StandsIn text)
    (hpull : lx.pull = .token t after) :
    after.StandsIn text ∧ after.failed = false ∧ t.loc = lx.loc ∧
      Tiles text lx.loc.offset [t.piece] after.loc.offset := by
  obtain ⟨passed, htext, hoffset⟩ := h
  obtain ⟨c, cs, s, hfailed, hrest, -, rfl, rfl⟩ := pull_eq_token hpull
  have hsplit : lx.rest = lx.rest.take s.length ++ lx.rest.drop s.length :=
    (List.take_append_drop _ _).symm
  have hlexeme : (lx.tokenOf s.kind s.length).lexeme.toList = lx.rest.take s.length := by
    simp [tokenOf]
  have hstop : (lx.tokenOf s.kind s.length).stop
      = byteLength passed + byteLength (lx.rest.take s.length) := by
    simp [Token.stop, Token.bytes, stringBytes, tokenOf, hoffset]
  have hafter : ((lx.pass s.kind s.length).follow s.transition).StandsIn text := by
    refine ⟨passed ++ lx.rest.take s.length, ?_, ?_⟩
    · rw [htext, List.append_assoc, follow_rest]
      exact congrArg (passed ++ ·) hsplit
    · simp [pass, hoffset]
  have hoffset' : ((lx.pass s.kind s.length).follow s.transition).loc.offset
      = (lx.tokenOf s.kind s.length).stop := by
    simp [pass, hstop, hoffset]
  refine ⟨hafter, by simpa [pass] using hfailed, rfl, ?_⟩
  have hslice : slice? text (lx.tokenOf s.kind s.length).span
      = some (lx.tokenOf s.kind s.length).lexeme.toList := by
    have hpiece := slice?_append passed (lx.rest.take s.length) (lx.rest.drop s.length)
    rw [← hsplit, ← htext] at hpiece
    have hloc : (lx.tokenOf s.kind s.length).loc = lx.loc := rfl
    rw [Token.span, hstop, hlexeme, hloc, hoffset]
    exact hpiece
  rw [hoffset']
  refine Tiles.singleton (Token.start_lt_stop ?_) hslice
  -- the scan takes at least the first character
  have hpos := s.length_pos
  intro hempty
  rw [hempty, hrest] at hlexeme
  obtain ⟨n, hn⟩ : ∃ n, s.length = n + 1 := ⟨s.length - 1, by omega⟩
  simp [hn] at hlexeme

end Lexer

/-! ### Calls in any order -/

namespace Lexer

/-- What can be asked of a lexer. -/
inductive Call where
  /-- The next token. -/
  | pull
  /-- To leave its mode. -/
  | leave
  deriving DecidableEq, Repr, Inhabited

/-- What a lexer answers when it is asked for the next token. -/
inductive Answer where
  /-- There is none. -/
  | finished
  /-- The token. -/
  | token (t : Token)
  /-- An error. -/
  | fault (e : LexError)
  deriving DecidableEq, Repr, Inhabited

/-- The answers to some calls, made one after the other: one for every token asked for. -/
def answers (lx : Lexer) : List Call → List Answer
  | [] => []
  | .leave :: calls => lx.leave.answers calls
  | .pull :: calls =>
    match lx.pull with
    | .finished => .finished :: lx.answers calls
    | .token t after => .token t :: after.answers calls
    | .fault e after => .fault e :: after.answers calls

theorem length_answers (lx : Lexer) (calls : List Call) :
    (lx.answers calls).length = calls.count .pull := by
  induction calls generalizing lx with
  | nil => rfl
  | cons call calls ih =>
    cases call with
    | leave => simpa [answers] using ih lx.leave
    | pull =>
      rw [answers]
      split <;> simp [ih]

/-- A lexer that has failed or has nothing left to read gives no more tokens. -/
theorem pull_eq_finished_iff {lx : Lexer} :
    lx.pull = .finished ↔ lx.failed = true ∨ lx.rest = [] := by
  unfold pull
  split
  · next hfailed => simp [hfailed]
  · next hfailed =>
    cases hrest : lx.rest with
    | nil => simp
    | cons c cs =>
      dsimp only
      split <;> simp [hfailed]

theorem answers_of_finished {lx : Lexer} (h : lx.pull = .finished) (calls : List Call) :
    lx.answers calls = List.replicate (calls.count .pull) .finished := by
  induction calls generalizing lx with
  | nil => rfl
  | cons call calls ih =>
    cases call with
    | leave =>
      have hleave : lx.leave.pull = .finished := by
        rw [pull_eq_finished_iff] at h ⊢
        exact h
      simpa [answers] using ih hleave
    | pull => simp [answers, h, ih h, List.replicate_succ]

/-- A lexer that meets an error stays where it is, and gives no more tokens. -/
theorem pull_eq_fault {lx after : Lexer} {e : LexError} (h : lx.pull = .fault e after) :
    e.loc = lx.loc ∧ after.pull = .finished := by
  unfold pull at h
  split at h
  · cases h
  · split at h
    · cases h
    · split at h
      · cases h
      · cases h
        exact ⟨rfl, pull_eq_finished_iff.2 (.inl rfl)⟩

/-- The answers of a lexer that stands in a text: tokens that tile the text from there on, and then
nothing yet, or the end of the text, or one error where the tokens end. -/
theorem StandsIn.answers {lx : Lexer} {text : List Char} (h : lx.StandsIn text)
    (hfailed : lx.failed = false) (calls : List Call) :
    ∃ (tokens : List Token) (behind : List Answer) (stop : Nat),
      lx.answers calls = tokens.map .token ++ behind ∧
      Tiles text lx.loc.offset (tokens.map Token.piece) stop ∧
      (behind = [] ∨
        (∃ n, behind = List.replicate (n + 1) .finished ∧ stop = byteLength text) ∨
        ∃ e n, behind = .fault e :: List.replicate n .finished ∧ e.loc.offset = stop) := by
  induction calls generalizing lx with
  | nil => exact ⟨[], [], _, rfl, ⟨rfl, h.isBoundary⟩, .inl rfl⟩
  | cons call calls ih =>
    cases call with
    | leave => exact ih (standsIn_leave.2 h) hfailed
    | pull =>
      cases hpull : lx.pull with
      | finished =>
        -- the lexer has not failed, so it has read the whole text
        have hrest : lx.rest = [] := by simpa [hfailed] using pull_eq_finished_iff.1 hpull
        have hend := h.offset_add
        rw [hrest, byteLength_nil, Nat.add_zero] at hend
        refine ⟨[], .finished :: lx.answers calls, _, by simp [Lexer.answers, hpull],
          ⟨rfl, h.isBoundary⟩, .inr (.inl ⟨calls.count .pull, ?_, hend⟩)⟩
        rw [answers_of_finished hpull, List.replicate_succ]
      | token t after =>
        obtain ⟨hafter, hfailed', -, htile⟩ := h.pull hpull
        obtain ⟨tokens, behind, stop, hanswers, htiles, hbehind⟩ := ih hafter hfailed'
        exact ⟨t :: tokens, behind, stop, by simp [Lexer.answers, hpull, hanswers],
          htile.append htiles, hbehind⟩
      | fault e after =>
        obtain ⟨hloc, hafter⟩ := pull_eq_fault hpull
        refine ⟨[], .fault e :: after.answers calls, _, by simp [Lexer.answers, hpull],
          ⟨rfl, h.isBoundary⟩, .inr (.inr ⟨e, calls.count .pull, ?_, congrArg _ hloc⟩)⟩
        rw [answers_of_finished hafter]

/-- **A lexer loses nothing and invents nothing.**  No token that it recognises is empty or reaches
beyond the text.  However the calls are ordered, the tokens it answers tile the text from its
beginning, there are no more of them than the text has bytes, and behind them comes nothing but the
end: of the calls, of the text, which the lexemes then make up, or by an error where the last token
ends. -/
theorem answers_ofText (l : Language) (text : List Char) (calls : List Call) :
    (∀ mode previous c cs s, scan l mode previous c cs = .ok s →
      0 < s.length ∧ s.length ≤ (c :: cs).length) ∧
    ((ofText l text).answers calls).length = calls.count .pull ∧
    ∃ (tokens : List Token) (behind : List Answer) (stop : Nat),
      (ofText l text).answers calls = tokens.map .token ++ behind ∧
      Tiles text 0 (tokens.map Token.piece) stop ∧
      tokens.length ≤ byteLength text ∧
      (byteLength text < calls.count .pull → behind ≠ []) ∧
      (behind = [] ∨
        (∃ n, behind = List.replicate (n + 1) .finished ∧
          String.join (tokens.map Token.lexeme) = String.ofList text) ∨
        ∃ e n, behind = .fault e :: List.replicate n .finished ∧
          e.loc.offset = stringBytes (String.join (tokens.map Token.lexeme))) := by
  refine ⟨fun mode previous c cs s hs => ⟨s.length_pos, scan_length_le hs⟩, length_answers _ _, ?_⟩
  obtain ⟨tokens, behind, stop, hanswers, htiles, hbehind⟩ :=
    (standsIn_ofText l text).answers rfl calls
  have htiles : Tiles text 0 (tokens.map Token.piece) stop := htiles
  -- every token takes at least one byte
  have hlength : tokens.length ≤ byteLength text := by
    have hle := htiles.start_add_length_le
    have hstop := htiles.stop_le
    rw [List.length_map] at hle
    omega
  refine ⟨tokens, behind, stop, hanswers, htiles, hlength, ?_, ?_⟩
  · -- every call for a token is answered, and the tokens are not enough
    rintro hmany rfl
    have hcount := length_answers (ofText l text) calls
    rw [hanswers, List.append_nil, List.length_map] at hcount
    omega
  · obtain rfl | ⟨n, rfl, rfl⟩ | ⟨e, n, rfl, he⟩ := hbehind
    · exact .inl rfl
    · have hjoin := htiles.join
      rw [List.map_map] at hjoin
      exact .inr (.inl ⟨n, rfl, hjoin⟩)
    · have hbytes := htiles.start_add_bytes
      rw [List.map_map, Nat.zero_add] at hbytes
      exact .inr (.inr ⟨e, n, rfl, he.trans hbytes.symm⟩)

end Lexer

end ImportScan
