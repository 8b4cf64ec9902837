import ImportScan.Classification
import ImportScan.Proofs.TokenStream

/-!
# The statements of a stream

Fed with the tokens of a text one by one, a collector gives away finished statements.  Since the
tokens tile the text, every statement is a piece of it, and the statements follow one another.

## Main definitions

* `Collector.feedAll` — the collector behind some tokens, and the statements finished on the way.
* `Collector.since` — where the statement that is being collected starts.
* `Collector.Holds` — the tokens being collected tile the text up to the last token fed.
* `Statement.IsPieceOf` — a statement that is a piece of a text.

## Main results

* `Collector.Holds.feedAll` — **the statements of a stream are pieces of the text that follow one
  another**.
-/

namespace ImportScan

/-! ### Feeding many tokens -/

/-- The collector behind some tokens, and the statements finished on the way. -/
def Collector.feedAll (c : Collector) : List Token → Collector × List Statement
  | [] => (c, [])
  | t :: ts => (((c.feed t).1.feedAll ts).1, (c.feed t).2.toList ++ ((c.feed t).1.feedAll ts).2)

@[simp] theorem Collector.feedAll_nil (c : Collector) : c.feedAll [] = (c, []) := rfl

theorem Collector.feedAll_append (c : Collector) (ts us : List Token) :
    c.feedAll (ts ++ us)
      = (((c.feedAll ts).1.feedAll us).1, (c.feedAll ts).2 ++ ((c.feedAll ts).1.feedAll us).2) := by
  induction ts generalizing c with
  | nil => rfl
  | cons t ts ih => simp [feedAll, ih, List.append_assoc]

@[simp] theorem Collector.feedAll_singleton (c : Collector) (t : Token) :
    c.feedAll [t] = ((c.feed t).1, (c.feed t).2.toList) := by
  simp [feedAll]

/-! ### Statements as pieces -/

/-- The tokens of the statement tile the text over the range of the statement, which starts at its
place and is not empty. -/
structure Statement.IsPieceOf (s : Statement) (text : List Char) : Prop where
  /-- The tokens make up the range. -/
  tiles : Tiles text s.range.start (s.tokens.map Token.piece) s.range.stop
  /-- The range is not empty. -/
  start_lt_stop : s.range.start < s.range.stop
  /-- The range starts at the place of the statement. -/
  loc_offset : s.loc.offset = s.range.start

theorem Statement.IsPieceOf.slice? {s : Statement} {text : List Char} (h : s.IsPieceOf text) :
    slice? text s.range = some s.text.toList := by
  have hslice := h.tiles.slice?
  rw [List.flatMap_map] at hslice
  rw [Statement.text, String.toList_join, List.flatMap_map]
  exact hslice

namespace Collector

/-- Where the statement that is being collected starts, or the current offset when there is none. -/
def since (c : Collector) (here : Nat) : Nat :=
  match c with
  | .idle => here
  | .collecting _ first _ => first.loc.offset

/-- The tokens that are being collected tile the text up to the current offset. -/
def Holds (c : Collector) (text : List Char) (here : Nat) : Prop :=
  match c with
  | .idle => True
  | .collecting _ first more =>
    Tiles text first.loc.offset ((first :: more.reverse).map Token.piece) here

variable {c : Collector} {text : List Char} {here stop : Nat}

theorem Holds.since_le (h : c.Holds text here) : c.since here ≤ here := by
  cases c with
  | idle => exact Nat.le_refl _
  | collecting kind first more => exact Tiles.le h

/-- Feeding one token: what is being collected still tiles the text, and a finished statement is a
piece of the text between the start of the statement and the place behind the token. -/
theorem Holds.feed {t : Token} (h : c.Holds text here) (ht : Tiles text here [t.piece] stop) :
    (c.feed t).1.Holds text stop ∧ (∀ s ∈ (c.feed t).2, s.IsPieceOf text) ∧
      Ascends (c.since here) ((c.feed t).2.toList.map Statement.range)
        ((c.feed t).1.since stop) := by
  cases c with
  | idle =>
    have hstart : t.loc.offset = here := ht.1
    cases hkind : StatementKind.ofToken? t with
    | none => simpa [Collector.feed, hkind, Holds, since, Ascends] using ht.le
    | some kind =>
      refine ⟨?_, by simp [Collector.feed, hkind], ?_⟩
      · simpa [Collector.feed, hkind, Holds, hstart] using ht
      · simp [Collector.feed, hkind, since, Ascends, hstart]
  | collecting kind first more =>
    -- with the new token, what has been collected tiles a longer piece
    have htiles : Tiles text first.loc.offset
        ((first :: (more.reverse ++ [t])).map Token.piece) stop := by
      have happend := Tiles.append h ht
      simpa using happend
    have hle : t.stop = stop := ht.2.2.2.1
    cases hends : t.endsStatement with
    | false =>
      refine ⟨?_, by simp [Collector.feed, hends], ?_⟩
      · simpa [Collector.feed, hends, Holds] using htiles
      · simp [Collector.feed, hends, since, Ascends]
    | true =>
      -- a statement holds its keyword and what ends it
      have hlt : first.loc.offset < t.stop := by
        have hmany := htiles.start_add_length_le
        rw [List.length_map, List.length_cons] at hmany
        omega
      have hpiece : (statement kind first more.reverse t).IsPieceOf text :=
        ⟨by simpa [statement, hle] using htiles, hlt, rfl⟩
      refine ⟨by simp [Collector.feed, hends, Holds], ?_, ?_⟩
      · simpa [Collector.feed, hends] using hpiece
      · rw [hle] at hlt
        simpa [Collector.feed, hends, since, Ascends, statement, hle] using hlt

/-- **The statements of a stream are pieces of the text that follow one another.** -/
theorem Holds.feedAll {ts : List Token} (h : c.Holds text here)
    (hts : Tiles text here (ts.map Token.piece) stop) :
    (c.feedAll ts).1.Holds text stop ∧ (∀ s ∈ (c.feedAll ts).2, s.IsPieceOf text) ∧
      Ascends (c.since here) ((c.feedAll ts).2.map Statement.range)
        ((c.feedAll ts).1.since stop) := by
  induction ts generalizing c here with
  | nil =>
    obtain ⟨rfl, -⟩ := hts
    exact ⟨h, by simp, Nat.le_refl _⟩
  | cons t ts ih =>
    obtain ⟨hstart, hlt, hslice, hrest⟩ := hts
    have ht : Tiles text here [t.piece] t.stop := by
      rw [← hstart]
      exact Tiles.singleton hlt hslice
    obtain ⟨hheld, hpieces, hascends⟩ := h.feed ht
    obtain ⟨hheld', hpieces', hascends'⟩ := ih hheld hrest
    refine ⟨hheld', ?_, ?_⟩
    · intro s hs
      rcases List.mem_append.1 hs with hs | hs
      · exact hpieces s (Option.mem_toList.1 hs)
      · exact hpieces' s hs
    · rw [Collector.feedAll, List.map_append]
      exact hascends.append hascends'

end Collector

end ImportScan
