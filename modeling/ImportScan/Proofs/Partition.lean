import Mathlib.Data.List.Chain
import ImportScan.Partition
import ImportScan.Proofs.Tiling

/-!
# Cutting a text

Whatever the ranges are, the pieces between the cuts tile the text, and no two pieces of plain text
meet.  Ranges that follow one another within the text are cut out just as they are.

## Main definitions

* `Abuts` — spans that follow one another without a gap.
* `Segment.piece`, `Segment.frame` — a segment as a piece of the text, and without its text.

## Main results

* `mapM_segment?_eq_some_iff` — the segments of some pieces are these pieces with their texts.
* `tiles_of_partition?` — **the segments of a text tile it**.
* `isChain_of_partition?` — no two of them that are next to each other hold plain text.
* `exists_partition?` — **ranges that follow one another and start and end between characters are
  the ranges of the import segments**.
-/

namespace ImportScan

/-! ### Spans without gaps -/

/-- The spans make up what lies between two offsets: each starts where the one before it ends, and
none is empty. -/
def Abuts : Nat → List Span → Nat → Prop
  | start, [], stop => start = stop
  | start, s :: ss, stop => s.start = start ∧ s.start < s.stop ∧ Abuts s.stop ss stop

theorem Abuts.lt_of_mem {start stop : Nat} {ss : List Span} (h : Abuts start ss stop) {s : Span}
    (hs : s ∈ ss) : s.start < s.stop := by
  induction ss generalizing start with
  | nil => cases hs
  | cons r ss ih =>
    obtain ⟨-, hlt, hrest⟩ := h
    rcases List.mem_cons.1 hs with rfl | hs
    · exact hlt
    · exact ih hrest hs

/-- The pieces between the cuts leave no gap, in whatever order the cuts come. -/
theorem abuts_piecesFrom {bytes cursor : Nat} {cuts : List Span} (hcursor : cursor ≤ bytes)
    (hcuts : ∀ cut ∈ cuts, cut.stop ≤ bytes) :
    Abuts cursor ((piecesFrom bytes cursor cuts).map Prod.snd) bytes := by
  induction cuts generalizing cursor with
  | nil =>
    rw [piecesFrom]
    split
    · next hlt => exact ⟨rfl, hlt, rfl⟩
    · next hge =>
      show cursor = bytes
      omega
  | cons cut cuts ih =>
    have hrest : ∀ cut ∈ cuts, cut.stop ≤ bytes := fun c hc => hcuts c (List.mem_cons_of_mem _ hc)
    rw [piecesFrom]
    dsimp only
    split
    · exact ih hcursor hrest
    · next hcut =>
      have hbehind := ih (hcuts cut List.mem_cons_self) hrest
      split
      · next hgap => exact ⟨rfl, hgap, rfl, by simpa using hcut, hbehind⟩
      -- no gap: the piece starts at the cursor
      · next hgap =>
        have hstart : max cut.start cursor = cursor := by omega
        exact ⟨hstart, by simpa using hcut, hbehind⟩

/-- Ranges that follow one another are cut out as they are. -/
theorem imports_piecesFrom {bytes cursor : Nat} {cuts : List Span}
    (h : Ascends cursor cuts bytes) :
    ((piecesFrom bytes cursor cuts).filter fun p => p.1 = .imports).map Prod.snd = cuts := by
  induction cuts generalizing cursor with
  | nil =>
    rw [piecesFrom]
    split <;> simp
  | cons cut cuts ih =>
    obtain ⟨hstart, hlt, hrest⟩ := h
    have hmax : max cut.start cursor = cut.start := by omega
    rw [piecesFrom]
    dsimp only
    rw [hmax, if_neg (by omega)]
    -- what lies before the cut is no import
    have hgap : (if cursor < cut.start then [(SegmentKind.text, (⟨cursor, cut.start⟩ : Span))]
        else []).filter (fun p => p.1 = .imports) = [] := by
      split <;> simp
    rw [List.filter_append, hgap, List.nil_append, List.filter_cons, if_pos (by simp),
      List.map_cons, ih hrest]

/-- Every end of a piece is an end of a cut or an end of the text. -/
theorem forall_piecesFrom {good : Nat → Prop} {bytes cursor : Nat} {cuts : List Span}
    (hcursor : good cursor) (hbytes : good bytes)
    (hcuts : ∀ cut ∈ cuts, good cut.start ∧ good cut.stop) :
    ∀ p ∈ piecesFrom bytes cursor cuts, good p.2.start ∧ good p.2.stop := by
  induction cuts generalizing cursor with
  | nil =>
    rw [piecesFrom]
    split
    · simpa using ⟨hcursor, hbytes⟩
    · simp
  | cons cut cuts ih =>
    have hrest : ∀ cut ∈ cuts, good cut.start ∧ good cut.stop :=
      fun c hc => hcuts c (List.mem_cons_of_mem _ hc)
    obtain ⟨hstart, hstop⟩ := hcuts cut List.mem_cons_self
    -- an import starts at its cut or at the cursor
    have hmax : good (max cut.start cursor) := by
      rcases Nat.le_total cut.start cursor with hle | hle
      · rwa [Nat.max_eq_right hle]
      · rwa [Nat.max_eq_left hle]
    rw [piecesFrom]
    dsimp only
    split
    · exact ih hcursor hrest
    · intro p hp
      rcases List.mem_append.1 hp with hp | hp
      · split at hp
        · cases List.mem_singleton.1 hp
          exact ⟨hcursor, hmax⟩
        · cases hp
      · rcases List.mem_cons.1 hp with rfl | hp
        · exact ⟨hmax, hstop⟩
        · exact ih hstop hrest p hp

/-- A piece of plain text stands next to imports only. -/
theorem isChain_piecesFrom (bytes cursor : Nat) (cuts : List Span) :
    ((piecesFrom bytes cursor cuts).map Prod.fst).IsChain
      fun a b => a = .imports ∨ b = .imports := by
  induction cuts generalizing cursor with
  | nil =>
    rw [piecesFrom]
    split <;> simp
  | cons cut cuts ih =>
    rw [piecesFrom]
    dsimp only
    split
    · exact ih cursor
    -- the import itself is a neighbour that allows any piece behind it
    · have hcut : ((SegmentKind.imports, (⟨max cut.start cursor, cut.stop⟩ : Span)) ::
          piecesFrom bytes cut.stop cuts).map Prod.fst |>.IsChain
            fun a b => a = .imports ∨ b = .imports := by
        rw [List.map_cons, List.isChain_cons]
        exact ⟨fun _ _ => .inl rfl, ih cut.stop⟩
      split
      · rw [List.map_append, List.map_cons, List.map_nil, List.singleton_append, List.isChain_cons]
        exact ⟨by simp, hcut⟩
      · exact hcut

/-! ### Segments -/

namespace Segment

/-- A segment as a piece of the text. -/
def piece (s : Segment) : TextPiece := (s.range, s.text)

/-- A segment without its text. -/
def frame (s : Segment) : SegmentKind × Span := (s.kind, s.range)

end Segment

theorem segment?_eq_some_iff {text : List Char} {p : SegmentKind × Span} {s : Segment} :
    segment? text p = some s ↔ s.frame = p ∧ slice? text s.range = some s.text.toList := by
  obtain ⟨kind, range⟩ := p
  obtain ⟨kind', range', str⟩ := s
  simp only [segment?, Option.map_eq_some_iff, Segment.mk.injEq, Segment.frame, Prod.mk.injEq]
  constructor
  · rintro ⟨cs, hcs, rfl, rfl, rfl⟩
    exact ⟨⟨rfl, rfl⟩, by rw [hcs, String.toList_ofList]⟩
  · rintro ⟨⟨rfl, rfl⟩, hslice⟩
    exact ⟨str.toList, hslice, rfl, rfl, String.ofList_toList⟩

/-- The segments of some pieces are these pieces with their texts. -/
theorem mapM_segment?_eq_some_iff {text : List Char} {pieces : List (SegmentKind × Span)}
    {segments : List Segment} :
    pieces.mapM (segment? text) = some segments ↔
      segments.map Segment.frame = pieces ∧
        ∀ s ∈ segments, slice? text s.range = some s.text.toList := by
  induction pieces generalizing segments with
  | nil =>
    rw [List.mapM_nil, List.map_eq_nil_iff]
    constructor
    · intro h
      cases h
      simp
    · rintro ⟨rfl, -⟩
      rfl
  | cons p pieces ih =>
    rw [List.mapM_cons]
    simp only [Option.bind_eq_bind, Option.bind_eq_some_iff, Option.pure_def, Option.some.injEq]
    constructor
    · rintro ⟨s, hs, rest, hrest, rfl⟩
      obtain ⟨hframe, hslice⟩ := segment?_eq_some_iff.1 hs
      obtain ⟨hframes, hslices⟩ := ih.1 hrest
      refine ⟨by rw [List.map_cons, hframe, hframes], ?_⟩
      intro s' hs'
      rcases List.mem_cons.1 hs' with rfl | hs'
      · exact hslice
      · exact hslices s' hs'
    · rintro ⟨hframes, hslices⟩
      cases segments with
      | nil => cases hframes
      | cons s rest =>
        obtain ⟨hframe, hframes⟩ := List.cons.inj hframes
        exact ⟨s, segment?_eq_some_iff.2 ⟨hframe, hslices s List.mem_cons_self⟩, rest,
          ih.2 ⟨hframes, fun s' hs' => hslices s' (List.mem_cons_of_mem _ hs')⟩, rfl⟩

/-- Pieces whose ends fall between characters have segments. -/
theorem exists_mapM_segment? {text : List Char} {pieces : List (SegmentKind × Span)}
    (h : ∀ p ∈ pieces, ∃ cs, slice? text p.2 = some cs) :
    ∃ segments, pieces.mapM (segment? text) = some segments := by
  induction pieces with
  | nil => exact ⟨[], rfl⟩
  | cons p pieces ih =>
    obtain ⟨cs, hcs⟩ := h p List.mem_cons_self
    obtain ⟨rest, hrest⟩ := ih fun q hq => h q (List.mem_cons_of_mem _ hq)
    exact ⟨⟨p.1, p.2, String.ofList cs⟩ :: rest, by simp [List.mapM_cons, segment?, hcs, hrest]⟩

/-- Segments without a gap, each with its slice for a text, tile the text. -/
theorem tiles_of_abuts {text : List Char} {start stop : Nat} {segments : List Segment}
    (h : Abuts start (segments.map Segment.range) stop) (hstop : IsBoundary text stop)
    (hslices : ∀ s ∈ segments, slice? text s.range = some s.text.toList) :
    Tiles text start (segments.map Segment.piece) stop := by
  induction segments generalizing start with
  | nil =>
    obtain rfl : start = stop := h
    exact ⟨rfl, hstop⟩
  | cons s segments ih =>
    obtain ⟨hstart, hlt, hrest⟩ := h
    exact ⟨hstart, hlt, hslices s List.mem_cons_self,
      ih hrest fun s' hs' => hslices s' (List.mem_cons_of_mem _ hs')⟩

/-! ### The segments of a text -/

variable {text : List Char} {ranges : List Span} {segments : List Segment}

theorem stop_le_of_mem_cutsOf {bytes : Nat} {cut : Span} (h : cut ∈ cutsOf bytes ranges) :
    cut.stop ≤ bytes := by
  rw [cutsOf, List.mem_mergeSort, List.mem_map] at h
  obtain ⟨r, -, rfl⟩ := h
  exact Nat.min_le_right _ _

/-- Ranges that follow one another within the text are the cuts they ask for. -/
theorem cutsOf_of_ascends {bytes : Nat} (h : Ascends 0 ranges bytes) :
    cutsOf bytes ranges = ranges := by
  have hfilter : (ranges.filter fun r => !r.isEmpty) = ranges := by
    refine List.filter_eq_self.2 fun r hr => ?_
    have hlt := (h.of_mem hr).2.1
    simpa [Span.isEmpty] using hlt
  have hwithin : (ranges.map fun r => (⟨min r.start bytes, min r.stop bytes⟩ : Span)) = ranges := by
    refine (List.map_congr_left fun r hr => ?_).trans (List.map_id ranges)
    obtain ⟨-, hlt, hle⟩ := h.of_mem hr
    rw [Nat.min_eq_left (by omega), Nat.min_eq_left hle, id]
  unfold cutsOf
  dsimp only
  rw [hfilter, hwithin]
  exact List.mergeSort_of_pairwise h.pairwise_precedes

theorem slice?_of_partition? (h : partition? text ranges = some segments) {s : Segment}
    (hs : s ∈ segments) : slice? text s.range = some s.text.toList :=
  (mapM_segment?_eq_some_iff.1 h).2 s hs

/-- **The segments of a text tile it**, whatever the ranges are. -/
theorem tiles_of_partition? (h : partition? text ranges = some segments) :
    Tiles text 0 (segments.map Segment.piece) (byteLength text) := by
  obtain ⟨hframes, hslices⟩ := mapM_segment?_eq_some_iff.1 h
  have hstops : ∀ cut ∈ cutsOf (byteLength text) ranges, cut.stop ≤ byteLength text :=
    fun cut hcut => stop_le_of_mem_cutsOf hcut
  have habuts := abuts_piecesFrom (Nat.zero_le _) hstops
  rw [← hframes, List.map_map] at habuts
  exact tiles_of_abuts habuts (isBoundary_byteLength text) hslices

/-- The segments of a text make it up. -/
theorem reassemble_of_partition? (h : partition? text ranges = some segments) :
    reassemble segments = String.ofList text := by
  have hjoin := (tiles_of_partition? h).join
  rw [List.map_map] at hjoin
  exact hjoin

/-- No two segments that are next to each other hold plain text. -/
theorem isChain_of_partition? (h : partition? text ranges = some segments) :
    (segments.map Segment.kind).IsChain fun a b => a = .imports ∨ b = .imports := by
  obtain ⟨hframes, -⟩ := mapM_segment?_eq_some_iff.1 h
  have hchain := isChain_piecesFrom (byteLength text) 0 (cutsOf (byteLength text) ranges)
  rw [← hframes, List.map_map] at hchain
  exact hchain

/-- **Ranges that follow one another and start and end between characters are cut out as they
are.** -/
theorem exists_partition? (h : Ascends 0 ranges (byteLength text))
    (hends : ∀ r ∈ ranges, IsBoundary text r.start ∧ IsBoundary text r.stop) :
    ∃ segments, partition? text ranges = some segments ∧
      (segments.filter fun s => s.kind = .imports).map Segment.range = ranges := by
  have hgood := forall_piecesFrom (isBoundary_zero text) (isBoundary_byteLength text) hends
  have habuts := abuts_piecesFrom (Nat.zero_le (byteLength text))
    fun cut hcut => (h.of_mem hcut).2.2
  obtain ⟨segments, hsegments⟩ : ∃ segments,
      (piecesFrom (byteLength text) 0 ranges).mapM (segment? text) = some segments := by
    refine exists_mapM_segment? fun p hp => ?_
    obtain ⟨hstart, hstop⟩ := hgood p hp
    exact exists_slice? hstart hstop (Nat.le_of_lt (habuts.lt_of_mem (List.mem_map_of_mem hp)))
  refine ⟨segments, by rw [partition?, cutsOf_of_ascends h, hsegments], ?_⟩
  obtain ⟨hframes, -⟩ := mapM_segment?_eq_some_iff.1 hsegments
  have himports := imports_piecesFrom h
  rw [← hframes, List.filter_map, List.map_map] at himports
  exact himports

end ImportScan
