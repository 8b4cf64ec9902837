import Mathlib.Data.List.Perm.Subperm
import ImportScan.Proofs.RecordPlace

/-!
# Statements are apart

Lines and columns tell the places of a text apart.  The tokens of a text stand at different places,
and therefore its statements do.  Since a statement gives a record or a complaint but not both, no
two of all these are at one place.

## Main definitions

* `Location.spot` — a place without its offset.
* `Extraction.locs` — the places of all complaints and of all imports.

## Main results

* `Location.Marks.eq_of_spot` — lines and columns tell places apart.
* `Accounts.subperm_locs` — every statement gives at most one record or complaint.
* `nodup_spot_locs` — **the complaints and the imports of a text are at different places**.
-/

namespace ImportScan

/-! ### Lines and columns -/

/-- The line and the column. -/
def Location.spot (loc : Location) : Nat × Nat := (loc.line, loc.column)

namespace Location.Marks

variable {loc loc' : Location} {before before' middle behind behind' : List Char}

/-- Only the empty text leads back to the line and the column where it starts. -/
theorem eq_nil_of_spot (h : loc.Marks before (middle ++ behind))
    (h' : loc'.Marks (before ++ middle) behind) (hspot : loc.spot = loc'.spot) : middle = [] := by
  by_contra hne
  have hadvance := Lexer.advance_placeBehind hne h.whole
  rw [Location.advance_eq, ← h.eq_placeBehind, ← h'.eq_placeBehind] at hadvance
  obtain ⟨hline, hcolumn⟩ := Prod.mk.inj hspot
  have hends : lineEnds middle = 0 := by
    have hcount := congrArg Location.line hadvance
    dsimp only at hcount
    omega
  -- on one line, every character is one column more
  have hwide := congrArg Location.column hadvance
  dsimp only at hwide
  rw [if_pos hends] at hwide
  have hpos := List.length_pos_of_ne_nil hne
  omega

/-- **Lines and columns tell the places of a text apart.** -/
theorem eq_of_spot (h : loc.Marks before behind) (h' : loc'.Marks before' behind')
    (hcut : before ++ behind = before' ++ behind') (hspot : loc.spot = loc'.spot) : loc = loc' := by
  rw [h.eq_placeBehind, h'.eq_placeBehind]
  rcases List.append_eq_append_iff.1 hcut with ⟨middle, rfl, rfl⟩ | ⟨middle, rfl, rfl⟩
  · rw [h.eq_nil_of_spot h' hspot, List.append_nil]
  · rw [h'.eq_nil_of_spot h hspot.symm, List.append_nil]

end Location.Marks

theorem Location.IsIn.eq_of_spot {loc loc' : Location} {text : List Char} (h : loc.IsIn text)
    (h' : loc'.IsIn text) (hspot : loc.spot = loc'.spot) : loc = loc' := by
  obtain ⟨before, behind, hcut, hmarks⟩ := h
  obtain ⟨before', behind', hcut', hmarks'⟩ := h'
  exact hmarks.eq_of_spot hmarks' (hcut.symm.trans hcut') hspot

/-! ### The tokens of a text -/

theorem Tiles.pairwise_offset {text : List Char} {start stop : Nat} {ts : List Token}
    (h : Tiles text start (ts.map Token.piece) stop) :
    ts.Pairwise fun t u => t.loc.offset < u.loc.offset := by
  have hspans := h.ascends.pairwise_stop_le
  rw [List.map_map] at hspans
  exact (List.pairwise_map.1 hspans).imp fun hle => Nat.lt_of_lt_of_le hle.1 hle.2

variable {l : Language} {text : List Char} {x : Extraction}

/-- The tokens of a text stand at different places. -/
theorem nodup_spot_tokens (h : (extract l text).outcome = .ok x) :
    (((extract l text).tokens.map Token.loc).map Location.spot).Nodup := by
  have hin : ∀ t ∈ (extract l text).tokens, t.loc.IsIn text := fun t ht => (isIn_tokens ht).isIn
  obtain ⟨p, hreaches, -, -, htokens⟩ := Pass.exists_finished h
  have hpairs := hreaches.follows.tiles.pairwise_offset
  rw [← htokens] at hpairs
  rw [List.map_map, List.Nodup, List.pairwise_map]
  refine hpairs.imp_of_mem fun {t u} ht hu hlt hspot => ?_
  have hloc : t.loc = u.loc := (hin t ht).eq_of_spot (hin u hu) hspot
  rw [hloc] at hlt
  exact lt_irrefl _ hlt

/-! ### The statements of a text -/

/-- Every statement starts at a token of its own. -/
theorem Decomposes.sublist_locs {ts : List Token} {ss : List Statement} {o : Option OpenStatement}
    (h : Decomposes ts ss o) :
    (ss.map Statement.loc ++ o.toList.map OpenStatement.loc).Sublist (ts.map Token.loc) := by
  induction h with
  | gap => exact List.nil_sublist _
  | cutOff =>
    rw [List.map_append, List.map_cons]
    exact ((List.nil_sublist _).cons_cons _).trans (List.sublist_append_right _ _)
  | @statement between body ts first last _ ss o _ _ _ _ _ ih =>
    -- the other statements start behind the token that ends this one
    have hrest : (ss.map Statement.loc ++ o.toList.map OpenStatement.loc).Sublist
        (body.map Token.loc ++ last.loc :: ts.map Token.loc) :=
      (ih.cons last.loc).trans (List.sublist_append_right _ _)
    simp only [List.map_append, List.map_cons, List.cons_append]
    exact (hrest.cons_cons first.loc).trans (List.sublist_append_right _ _)

/-- The places of all complaints and of all imports. -/
def Extraction.locs (x : Extraction) : List Location :=
  x.malformed.map Malformed.loc ++ x.imports.map ImportRecord.loc

theorem Extraction.locs_append_perm (x y : Extraction) :
    (x.append y).locs.Perm (x.locs ++ y.locs) := by
  unfold locs append
  rw [List.map_append, List.map_append, List.append_assoc, List.append_assoc]
  refine List.Perm.append_left _ ?_
  rw [← List.append_assoc, ← List.append_assoc]
  exact List.Perm.append_right _ List.perm_append_comm

/-- One statement gives a record or a complaint, but not both. -/
theorem Statement.Gives.sublist_locs {s : Statement} (h : s.Gives x) : x.locs.Sublist [s.loc] := by
  cases h with
  | nothing | exported => exact List.nil_sublist _
  | imported _ _ hread => simp [Extraction.locs, (of_toImport hread).2.1]
  | malformedImport _ _ hread => simp [Extraction.locs, (loc_of_toImport hread).2]
  | malformedExport _ hread => simp [Extraction.locs, (loc_of_toExport hread).2]

/-- Every statement gives at most one record or complaint. -/
theorem Accounts.subperm_locs {ss : List Statement} {o : Option OpenStatement}
    (h : Accounts ss o x) :
    x.locs.Subperm (ss.map Statement.loc ++ o.toList.map OpenStatement.loc) := by
  induction h with
  | finished => exact List.nil_subperm
  | cutOff cut => exact List.Subperm.refl _
  | @statement s ss o x y hgives _ ih =>
    have hsplit := (y.locs_append_perm x).subperm
    exact hsplit.trans (hgives.sublist_locs.subperm.append ih)

/-- **The complaints and the imports of a text are at different places.** -/
theorem nodup_spot_locs (h : (extract l text).outcome = .ok x) :
    (x.locs.map Location.spot).Nodup := by
  obtain ⟨ss, o, hdecomposes, haccounts, -⟩ := exists_accounts h
  have hsubperm := haccounts.subperm_locs.trans hdecomposes.sublist_locs.subperm
  obtain ⟨locs, hperm, hsublist⟩ := hsubperm
  rw [← (hperm.map _).nodup_iff]
  exact (nodup_spot_tokens h).sublist (hsublist.map _)

end ImportScan
