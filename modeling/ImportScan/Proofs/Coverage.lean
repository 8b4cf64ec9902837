import Mathlib.Data.List.Dedup
import ImportScan.Proofs.Partition

/-!
# Cutting at any ranges

The ranges at which a text is cut need not follow one another.  They may come in any order and more
than once, overlap, be empty or reversed, and reach past the end of the text.  What is cut out is
told without the order of the ranges: the offsets that lie in any of them.

## Main definitions

* `Span.Covers` — an offset lies in a span.
* `importRanges` — the ranges of the import segments.
* `CutAt` — segments that some ranges may cut a text into.

## Main results

* `exists_import_covers_iff` — **the import segments hold the offsets in the ranges, and no
  others**.
* `partition?_congr` — **only which ranges there are matters**, not their order or number.
* `partition?_importRanges` — **cutting at what has been cut out gives the same segments**.
* `exists_misplaced` — a text cannot be cut only if some range ends inside a character.
* `cutAt_partition` — all of this for any ranges.
-/

namespace ImportScan

/-! ### Offsets in spans -/

/-- An offset lies in a span. -/
def Span.Covers (s : Span) (n : Nat) : Prop := s.start ≤ n ∧ n < s.stop

/-- Holding a span within the text loses the offsets behind the text. -/
theorem Span.covers_min_iff {s : Span} {bytes n : Nat} :
    Span.Covers ⟨min s.start bytes, min s.stop bytes⟩ n ↔ n < bytes ∧ s.Covers n := by
  unfold Covers
  dsimp only
  omega

theorem Span.isEmpty_eq_false_of_covers {s : Span} {n : Nat} (h : s.Covers n) :
    s.isEmpty = false := by
  obtain ⟨hstart, hstop⟩ := h
  simp only [isEmpty, decide_eq_false_iff_not]
  omega

/-! ### The order of cuts -/

section Order

variable {r s t : Span}

theorem Span.precedes_iff :
    r.precedes s = true ↔ r.start < s.start ∨ r.start = s.start ∧ r.stop ≤ s.stop := by
  simp [precedes]

theorem Span.precedes_trans (hrs : r.precedes s = true) (hst : s.precedes t = true) :
    r.precedes t = true := by
  rw [precedes_iff] at hrs hst ⊢
  omega

theorem Span.precedes_total (r s : Span) : (r.precedes s || s.precedes r) = true := by
  rw [Bool.or_eq_true, precedes_iff, precedes_iff]
  omega

theorem Span.precedes_antisymm (hrs : r.precedes s = true) (hsr : s.precedes r = true) : r = s := by
  obtain ⟨rstart, rstop⟩ := r
  obtain ⟨sstart, sstop⟩ := s
  simp only [precedes_iff, Span.mk.injEq] at hrs hsr ⊢
  omega

end Order

variable {bytes cursor n : Nat} {ranges ranges' cuts : List Span}

theorem mem_cutsOf_iff {cut : Span} :
    cut ∈ cutsOf bytes ranges ↔
      ∃ r ∈ ranges, r.isEmpty = false ∧ (⟨min r.start bytes, min r.stop bytes⟩ : Span) = cut := by
  simp [cutsOf, List.mem_mergeSort, and_assoc]

theorem pairwise_cutsOf (bytes : Nat) (ranges : List Span) :
    (cutsOf bytes ranges).Pairwise fun r s => r.precedes s = true := by
  have htrans : ∀ r s t : Span, r.precedes s = true → s.precedes t = true →
      r.precedes t = true := fun _ _ _ => Span.precedes_trans
  exact List.pairwise_mergeSort htrans Span.precedes_total _

/-- The cuts hold the offsets of the text that lie in the ranges. -/
theorem exists_cut_covers_iff :
    (∃ cut ∈ cutsOf bytes ranges, cut.Covers n) ↔ n < bytes ∧ ∃ r ∈ ranges, r.Covers n := by
  constructor
  · rintro ⟨cut, hcut, hn⟩
    obtain ⟨r, hr, -, rfl⟩ := mem_cutsOf_iff.1 hcut
    obtain ⟨hbytes, hcovers⟩ := Span.covers_min_iff.1 hn
    exact ⟨hbytes, r, hr, hcovers⟩
  · rintro ⟨hbytes, r, hr, hcovers⟩
    exact ⟨_, mem_cutsOf_iff.2 ⟨r, hr, Span.isEmpty_eq_false_of_covers hcovers, rfl⟩,
      Span.covers_min_iff.2 ⟨hbytes, hcovers⟩⟩

/-! ### What is cut out -/

/-- The ranges of the pieces that are imports. -/
def importSpans (pieces : List (SegmentKind × Span)) : List Span :=
  (pieces.filter fun p => p.1 = .imports).map Prod.snd

@[simp] theorem importSpans_nil : importSpans [] = [] := rfl

@[simp] theorem importSpans_text (s : Span) (pieces : List (SegmentKind × Span)) :
    importSpans ((.text, s) :: pieces) = importSpans pieces := by
  simp [importSpans]

@[simp] theorem importSpans_imports (s : Span) (pieces : List (SegmentKind × Span)) :
    importSpans ((.imports, s) :: pieces) = s :: importSpans pieces := by
  simp [importSpans]

theorem importSpans_piecesFrom_nil (bytes cursor : Nat) :
    importSpans (piecesFrom bytes cursor []) = [] := by
  rw [piecesFrom]
  split <;> simp

/-- A cut that ends where the text has been cut already, or before, adds nothing. -/
theorem piecesFrom_cons_of_le {cut : Span} (h : cut.stop ≤ max cut.start cursor) :
    piecesFrom bytes cursor (cut :: cuts) = piecesFrom bytes cursor cuts := by
  rw [piecesFrom, if_pos h]

/-- The text between two offsets as a piece, if there is any. -/
def gapFrom (cursor start : Nat) : List (SegmentKind × Span) :=
  if cursor < start then [(.text, ⟨cursor, start⟩)] else []

/-- Any other cut adds what it has behind the cuts before it. -/
theorem piecesFrom_cons_of_lt {cut : Span} (h : max cut.start cursor < cut.stop) :
    piecesFrom bytes cursor (cut :: cuts) = gapFrom cursor (max cut.start cursor) ++
      (.imports, ⟨max cut.start cursor, cut.stop⟩) :: piecesFrom bytes cut.stop cuts := by
  rw [piecesFrom, if_neg (Nat.not_le_of_lt h)]
  rfl

theorem importSpans_piecesFrom_cons {cut : Span} (h : max cut.start cursor < cut.stop) :
    importSpans (piecesFrom bytes cursor (cut :: cuts))
      = ⟨max cut.start cursor, cut.stop⟩ :: importSpans (piecesFrom bytes cut.stop cuts) := by
  rw [piecesFrom_cons_of_lt h, gapFrom]
  split <;> simp

/-- The pieces that are cut out follow one another, in whatever order the cuts come. -/
theorem ascends_importSpans (hcursor : cursor ≤ bytes) (hcuts : ∀ cut ∈ cuts, cut.stop ≤ bytes) :
    Ascends cursor (importSpans (piecesFrom bytes cursor cuts)) bytes := by
  induction cuts generalizing cursor with
  | nil => rwa [importSpans_piecesFrom_nil]
  | cons cut cuts ih =>
    obtain ⟨hcut, hcuts⟩ := List.forall_mem_cons.1 hcuts
    by_cases hle : cut.stop ≤ max cut.start cursor
    · rw [piecesFrom_cons_of_le hle]
      exact ih hcursor hcuts
    · rw [importSpans_piecesFrom_cons (by omega)]
      exact ⟨Nat.le_max_right _ _, by simpa using hle, ih hcut hcuts⟩

/-- Sorted cuts lose no offset behind the cursor and add none: what a cut has in common with an
earlier one has been cut out already, and the cuts behind it start no earlier. -/
theorem exists_importSpan_covers_iff (hsorted : cuts.Pairwise fun r s => r.precedes s = true)
    (hcursor : cursor ≤ bytes) (hcuts : ∀ cut ∈ cuts, cut.stop ≤ bytes) (hn : cursor ≤ n) :
    (∃ s ∈ importSpans (piecesFrom bytes cursor cuts), s.Covers n) ↔
      ∃ cut ∈ cuts, cut.Covers n := by
  induction cuts generalizing cursor with
  | nil => simp [importSpans_piecesFrom_nil]
  | cons cut cuts ih =>
    obtain ⟨hfirst, hsorted⟩ := List.pairwise_cons.1 hsorted
    obtain ⟨hcut, hcuts⟩ := List.forall_mem_cons.1 hcuts
    -- a cut that ends before the cursor has been covered by those before it
    by_cases hle : cut.stop ≤ max cut.start cursor
    · have hnot : ¬ cut.Covers n := by
        unfold Span.Covers
        omega
      rw [piecesFrom_cons_of_le hle, ih hsorted hcursor hcuts hn]
      simp [hnot]
    · rw [importSpans_piecesFrom_cons (by omega), List.exists_mem_cons_iff,
        List.exists_mem_cons_iff]
      have hsame : Span.Covers ⟨max cut.start cursor, cut.stop⟩ n ↔ cut.Covers n := by
        unfold Span.Covers
        dsimp only
        omega
      rw [hsame]
      by_cases hbehind : cut.stop ≤ n
      · rw [ih hsorted hcut hcuts hbehind]
      · -- before the end of this cut nothing is cut out later, and a later cut holds what it does
        have hlater : ¬ ∃ s ∈ importSpans (piecesFrom bytes cut.stop cuts), s.Covers n := by
          rintro ⟨s, hs, hcovers, -⟩
          have hstart := ((ascends_importSpans hcut hcuts).of_mem hs).1
          omega
        have hcover : (∃ c ∈ cuts, c.Covers n) → cut.Covers n := by
          rintro ⟨c, hc, hstart, -⟩
          have hprecedes := Span.precedes_iff.1 (hfirst c hc)
          unfold Span.Covers
          omega
        rw [or_iff_left hlater, or_iff_left_of_imp hcover]

/-- The pieces depend only on what they cut out. -/
theorem piecesFrom_importSpans (bytes cursor : Nat) (cuts : List Span) :
    piecesFrom bytes cursor (importSpans (piecesFrom bytes cursor cuts))
      = piecesFrom bytes cursor cuts := by
  induction cuts generalizing cursor with
  | nil => rw [importSpans_piecesFrom_nil]
  | cons cut cuts ih =>
    by_cases hle : cut.stop ≤ max cut.start cursor
    · rw [piecesFrom_cons_of_le hle, ih]
    · have hlt : max cut.start cursor < cut.stop := by omega
      have hmax : max (max cut.start cursor) cursor = max cut.start cursor := by omega
      rw [importSpans_piecesFrom_cons hlt, piecesFrom_cons_of_lt (by simpa [hmax] using hlt),
        piecesFrom_cons_of_lt hlt, hmax, ih]

/-! ### Ranges that come twice -/

theorem piecesFrom_cons_self (bytes cursor : Nat) (cut : Span) (cuts : List Span) :
    piecesFrom bytes cursor (cut :: cut :: cuts) = piecesFrom bytes cursor (cut :: cuts) := by
  by_cases hle : cut.stop ≤ max cut.start cursor
  · rw [piecesFrom_cons_of_le hle]
  · have hlt : max cut.start cursor < cut.stop := by omega
    rw [piecesFrom_cons_of_lt hlt, piecesFrom_cons_of_lt hlt,
      piecesFrom_cons_of_le (Nat.le_max_right cut.start cut.stop)]

/-- In sorted cuts the same cuts stand next to each other. -/
theorem piecesFrom_dedup (hsorted : cuts.Pairwise fun r s => r.precedes s = true) :
    piecesFrom bytes cursor cuts.dedup = piecesFrom bytes cursor cuts := by
  induction cuts generalizing cursor with
  | nil => rfl
  | cons cut cuts ih =>
    obtain ⟨hfirst, hsorted⟩ := List.pairwise_cons.1 hsorted
    by_cases hmem : cut ∈ cuts
    · rw [List.dedup_cons_of_mem hmem, ih hsorted]
      obtain ⟨next, cuts, rfl⟩ := List.exists_cons_of_ne_nil (List.ne_nil_of_mem hmem)
      -- the cuts are sorted, so that equal ones stand side by side
      have hnext : next = cut := by
        rcases List.mem_cons.1 hmem with heq | hmem
        · exact heq.symm
        · exact Span.precedes_antisymm ((List.pairwise_cons.1 hsorted).1 cut hmem)
            (hfirst next List.mem_cons_self)
      rw [hnext, piecesFrom_cons_self]
    · rw [List.dedup_cons_of_notMem hmem, piecesFrom, piecesFrom]
      dsimp only
      rw [ih hsorted, ih hsorted]

/-- Ranges that are the same but for their order and number ask for the same cuts, each once. -/
theorem dedup_cutsOf_congr (h : ∀ r, r ∈ ranges' ↔ r ∈ ranges) :
    (cutsOf bytes ranges').dedup = (cutsOf bytes ranges).dedup := by
  have hperm : (cutsOf bytes ranges').dedup.Perm (cutsOf bytes ranges).dedup := by
    refine (List.perm_ext_iff_of_nodup (List.nodup_dedup _) (List.nodup_dedup _)).2 fun cut => ?_
    rw [List.mem_dedup, List.mem_dedup, mem_cutsOf_iff, mem_cutsOf_iff]
    simp only [h]
  have hsorted : ∀ rs, (cutsOf bytes rs).dedup.Pairwise fun r s => r.precedes s = true :=
    fun rs => (pairwise_cutsOf bytes rs).sublist (List.dedup_sublist _)
  exact hperm.eq_of_pairwise (fun _ _ _ _ => Span.precedes_antisymm) (hsorted _) (hsorted _)

/-! ### Segments -/

variable {text : List Char} {segments : List Segment}

/-- The ranges of the import segments. -/
def importRanges (segments : List Segment) : List Span :=
  (segments.filter fun s => s.kind = .imports).map Segment.range

theorem importRanges_eq (segments : List Segment) :
    importRanges segments = importSpans (segments.map Segment.frame) := by
  rw [importRanges, importSpans, List.filter_map, List.map_map]
  rfl

theorem mem_importRanges_iff {s : Span} :
    s ∈ importRanges segments ↔ ∃ seg ∈ segments, seg.kind = .imports ∧ seg.range = s := by
  simp [importRanges, and_assoc]

/-- **The import segments hold the offsets of the text that lie in the ranges, and no others.** -/
theorem exists_import_covers_iff (h : partition? text ranges = some segments) (n : Nat) :
    (∃ s ∈ segments, s.kind = .imports ∧ s.range.Covers n) ↔
      n < byteLength text ∧ ∃ r ∈ ranges, r.Covers n := by
  obtain ⟨hframes, -⟩ := mapM_segment?_eq_some_iff.1 h
  have hcovers : (∃ s ∈ importRanges segments, s.Covers n) ↔
      ∃ cut ∈ cutsOf (byteLength text) ranges, cut.Covers n := by
    rw [importRanges_eq, hframes]
    exact exists_importSpan_covers_iff (pairwise_cutsOf _ _) (Nat.zero_le _)
      (fun _ hcut => stop_le_of_mem_cutsOf hcut) (Nat.zero_le n)
  rw [← exists_cut_covers_iff, ← hcovers]
  constructor
  · rintro ⟨s, hs, hkind, hn⟩
    exact ⟨s.range, mem_importRanges_iff.2 ⟨s, hs, hkind, rfl⟩, hn⟩
  · rintro ⟨r, hr, hn⟩
    obtain ⟨s, hs, hkind, rfl⟩ := mem_importRanges_iff.1 hr
    exact ⟨s, hs, hkind, hn⟩

/-- **Only which ranges there are matters**, not in which order they come or how often. -/
theorem partition?_congr (text : List Char) (h : ∀ r, r ∈ ranges' ↔ r ∈ ranges) :
    partition? text ranges' = partition? text ranges := by
  unfold partition?
  rw [← piecesFrom_dedup (pairwise_cutsOf _ ranges'), dedup_cutsOf_congr h,
    piecesFrom_dedup (pairwise_cutsOf _ ranges)]

/-- **Cutting a text at what has been cut out of it gives the same segments.** -/
theorem partition?_importRanges (h : partition? text ranges = some segments) :
    partition? text (importRanges segments) = some segments := by
  obtain ⟨hframes, -⟩ := mapM_segment?_eq_some_iff.1 h
  have hascends : Ascends 0 (importRanges segments) (byteLength text) := by
    rw [importRanges_eq, hframes]
    exact ascends_importSpans (Nat.zero_le _) fun _ hcut => stop_le_of_mem_cutsOf hcut
  rw [partition?, cutsOf_of_ascends hascends, importRanges_eq, hframes, piecesFrom_importSpans]
  exact h

/-- Cuts that start and end between characters can be made. -/
theorem exists_partition?_of_cuts (h : ∀ cut ∈ cutsOf (byteLength text) ranges,
    IsBoundary text cut.start ∧ IsBoundary text cut.stop) :
    ∃ segments, partition? text ranges = some segments := by
  have hgood := forall_piecesFrom (isBoundary_zero text) (isBoundary_byteLength text) h
  have habuts := abuts_piecesFrom (Nat.zero_le (byteLength text))
    fun cut (hcut : cut ∈ cutsOf (byteLength text) ranges) => stop_le_of_mem_cutsOf hcut
  refine exists_mapM_segment? fun p hp => ?_
  obtain ⟨hstart, hstop⟩ := hgood p hp
  exact exists_slice? hstart hstop (Nat.le_of_lt (habuts.lt_of_mem (List.mem_map_of_mem hp)))

/-- A text cannot be cut only if some range that is not empty starts or ends inside a character,
once it is held within the text. -/
theorem exists_misplaced (h : partition? text ranges = none) :
    ∃ r ∈ ranges, r.isEmpty = false ∧ (¬ IsBoundary text (min r.start (byteLength text)) ∨
      ¬ IsBoundary text (min r.stop (byteLength text))) := by
  by_contra hnone
  push Not at hnone
  have hcuts : ∀ cut ∈ cutsOf (byteLength text) ranges,
      IsBoundary text cut.start ∧ IsBoundary text cut.stop := by
    intro cut hcut
    obtain ⟨r, hr, hne, rfl⟩ := mem_cutsOf_iff.1 hcut
    exact hnone r hr hne
  obtain ⟨segments, hsegments⟩ := exists_partition?_of_cuts hcuts
  cases h.symm.trans hsegments

/-- Segments into which some ranges may cut a text. -/
structure CutAt (text : List Char) (ranges : List Span) (segments : List Segment) : Prop where
  /-- The segments make up the text, one behind the other, and none is empty. -/
  tiles : Tiles text 0 (segments.map Segment.piece) (byteLength text)
  /-- So their texts are the whole text. -/
  reassembled : reassemble segments = String.ofList text
  /-- The import segments hold the offsets of the text that lie in the ranges. -/
  covers : ∀ n, (∃ s ∈ segments, s.kind = .imports ∧ s.range.Covers n) ↔
    n < byteLength text ∧ ∃ r ∈ ranges, r.Covers n
  /-- Of two segments that are next to each other one is an import. -/
  apart : (segments.map Segment.kind).IsChain fun a b => a = .imports ∨ b = .imports
  /-- Cutting the text at the import segments gives the same segments. -/
  again : partition? text (importRanges segments) = some segments

/-- **A text is cut at any ranges into what they cover and what they do not.**  The segments tile
the text, the import segments hold the offsets in the ranges, no two segments of plain text meet,
and cutting at the import segments changes nothing.  The result is the same for all lists that have
the same ranges in them, and there is none only if a range that is not empty starts or ends inside a
character. -/
theorem cutAt_partition (text : List Char) (ranges : List Span) :
    (∀ segments, partition? text ranges = some segments → CutAt text ranges segments) ∧
    (∀ ranges', (∀ r, r ∈ ranges' ↔ r ∈ ranges) →
      partition? text ranges' = partition? text ranges) ∧
    (partition? text ranges = none → ∃ r ∈ ranges, r.isEmpty = false ∧
      (¬ IsBoundary text (min r.start (byteLength text)) ∨
        ¬ IsBoundary text (min r.stop (byteLength text)))) := by
  refine ⟨fun segments h => ?_, fun ranges' h => partition?_congr text h, exists_misplaced⟩
  exact {
    tiles := tiles_of_partition? h
    reassembled := reassemble_of_partition? h
    covers := exists_import_covers_iff h
    apart := isChain_of_partition? h
    again := partition?_importRanges h }

/-- Ranges that come twice and out of order, overlap, are empty inside a character, are reversed and
reach past the end. -/
theorem cutAt_partition_unordered :
    ∃ (ranges : List Span) (segments : List Segment),
      ranges = [⟨4, 99⟩, ⟨0, 1⟩, ⟨2, 2⟩, ⟨3, 5⟩, ⟨0, 1⟩, ⟨5, 3⟩] ∧
      partition? "a\u00e9xyz".toList ranges = some segments ∧
      importRanges segments = [⟨0, 1⟩, ⟨3, 5⟩, ⟨5, 6⟩] ∧
      CutAt "a\u00e9xyz".toList ranges segments := by
  let ranges : List Span := [⟨4, 99⟩, ⟨0, 1⟩, ⟨2, 2⟩, ⟨3, 5⟩, ⟨0, 1⟩, ⟨5, 3⟩]
  let sorted : List Span := [⟨0, 1⟩, ⟨2, 2⟩, ⟨3, 5⟩, ⟨4, 99⟩, ⟨5, 3⟩]
  have hsame : ∀ r, r ∈ ranges ↔ r ∈ sorted := by
    intro r
    simp only [ranges, sorted, List.mem_cons, List.not_mem_nil, or_false]
    tauto
  have hbytes : byteLength "a\u00e9xyz".toList = 6 := rfl
  have hcuts : cutsOf 6 sorted = [⟨0, 1⟩, ⟨3, 5⟩, ⟨4, 6⟩] :=
    List.mergeSort_of_pairwise (by decide)
  have hsegments : partition? "a\u00e9xyz".toList ranges
      = some [⟨.imports, ⟨0, 1⟩, "a"⟩, ⟨.text, ⟨1, 3⟩, "\u00e9"⟩, ⟨.imports, ⟨3, 5⟩, "xy"⟩,
        ⟨.imports, ⟨5, 6⟩, "z"⟩] := by
    rw [partition?_congr _ hsame, partition?, hbytes, hcuts]
    decide +kernel
  exact ⟨ranges, _, rfl, hsegments, by decide, (cutAt_partition _ _).1 _ hsegments⟩

end ImportScan
