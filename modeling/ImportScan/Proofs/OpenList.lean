import ImportScan.Proofs.Accounting
import ImportScan.Proofs.ImportGrammar

/-!
# Lists that are not closed

The reader of a list stops at `from`, and complains that the braces are unbalanced.  It does so only
where no brace has closed the list before.  This says little about the braces behind the first
`from`: they may be balanced if the word is itself a name in the list.

## Main definitions

* `StaysOpen`, `ListFront` — tokens that do not close a list before the first `from`, and what may
  stand in front of a list.
* `Statement.LeavesListOpen` — an import with a list that is not closed before the first `from`.

## Main results

* `staysOpen_of_listBindings` — where the reader of lists complains about braces.
* `Statement.leavesListOpen_of_toImport` — **the complaint about braces is given only where a list
  is not closed before the first `from`**.
* `extract_leavesListOpen` — the same for whole texts.
-/

namespace ImportScan

/-! ### Tokens before `from` -/

/-- As long as no `from` has come, some brace is open. -/
def StaysOpen (depth : Int) (ts : List Token) : Prop :=
  ∀ before after, ts = before ++ after → (∀ t ∈ before, t.isKeyword "from" = false) →
    1 ≤ depth + braceDepth before

/-- What may stand in front of a list: nothing, or a name with a comma behind it. -/
inductive ListFront : List Token → Prop where
  | nothing : ListFront []
  | defaultName {name comma : Token} (hname : name.isIdentifier = true)
      (hcomma : comma.isPunctuator "," = true) : ListFront [name, comma]

/-- The import has a list that is not closed before the first `from`. -/
def Statement.LeavesListOpen (s : Statement) : Prop :=
  ∃ front opener inside, s.body .imports = front ++ opener :: inside ∧ ListFront front ∧
    opener.isPunctuator "\x7b" = true ∧ StaysOpen 1 inside

variable {depth : Int} {inner : Nat} {t : Token} {ts entry : List Token} {done : List Binding}

theorem StaysOpen.nil (hdepth : 1 ≤ depth) : StaysOpen depth [] := by
  intro before after hts _
  rw [(List.append_eq_nil_iff.1 hts.symm).1]
  simpa using hdepth

theorem StaysOpen.cons (hdepth : 1 ≤ depth)
    (h : t.isKeyword "from" = false → StaysOpen (depth + t.braceChange) ts) :
    StaysOpen depth (t :: ts) := by
  intro before after hts hbefore
  cases before with
  | nil => simpa using hdepth
  | cons u before =>
    obtain ⟨rfl, rfl⟩ := List.cons.inj hts
    obtain ⟨ht, hbefore⟩ := List.forall_mem_cons.1 hbefore
    have hrest := h ht before after rfl hbefore
    rw [braceDepth_cons]
    omega

theorem StaysOpen.cons_of_not_isBrace (hdepth : 1 ≤ depth) (ht : t.isBrace = false)
    (h : StaysOpen depth ts) : StaysOpen depth (t :: ts) := by
  refine .cons hdepth fun _ => ?_
  rwa [Token.braceChange_of_not_isBrace ht, Int.add_zero]

/-! ### Where the complaint comes from -/

/-- No entry is at fault for the braces. -/
theorem entryBindings_ne_unbalancedBraces (entry : List Token) :
    entryBindings entry ≠ .error .unbalancedBraces := by
  unfold entryBindings
  split
  · simp
  · simp
  · split <;> simp
  · simp

/-- Where the braces are said to be unbalanced, no brace closes the list before the first `from`. -/
theorem staysOpen_of_listBindings
    (h : listBindings inner entry done ts = .error .unbalancedBraces) :
    StaysOpen ((inner : Int) + 1) ts := by
  -- the depth is the reader's count and one
  fun_induction listBindings inner entry done ts with
  | case1 => exact .nil (by omega)
  | case2 inner entry done t ts hfrom =>
    refine .cons (by omega) fun hnot => ?_
    rw [hfrom] at hnot
    cases hnot
  | case3 inner entry done t ts _ ht ih =>
    refine .cons (by omega) fun _ => ?_
    rw [Token.braceChange_opener ht]
    exact_mod_cast ih h
  | case4 => cases h
  | case5 entry done t ts _ _ _ fault hentry =>
    cases h
    exact absurd hentry (entryBindings_ne_unbalancedBraces _)
  | case6 entry done t ts _ _ ht inner ih =>
    refine .cons (by omega) fun _ => ?_
    have hdepth : ((inner + 1 : Nat) : Int) + 1 + -1 = (inner : Int) + 1 := by omega
    rw [Token.braceChange_closer ht, hdepth]
    exact ih h
  | case7 inner entry done t ts _ hopener hcloser _ own _ ih =>
    exact .cons_of_not_isBrace (by omega) (by simp [Token.isBrace, hopener, hcloser]) (ih h)
  | case8 inner entry done t ts _ _ _ _ fault hentry =>
    cases h
    exact absurd hentry (entryBindings_ne_unbalancedBraces _)
  | case9 inner entry done t ts _ hopener hcloser _ ih =>
    exact .cons_of_not_isBrace (by omega) (by simp [Token.isBrace, hopener, hcloser]) (ih h)

theorem exists_opener_of_bracedBindings (h : bracedBindings ts = .error .unbalancedBraces) :
    ∃ opener inside, ts = opener :: inside ∧ opener.isPunctuator "\x7b" = true ∧
      StaysOpen 1 inside := by
  unfold bracedBindings at h
  split at h
  · next opener inside =>
    split at h
    · next hopener =>
      have hopen : StaysOpen ((0 : Nat) + 1) inside := staysOpen_of_listBindings h
      exact ⟨opener, inside, rfl, hopener, hopen⟩
    · cases h
  · cases h

theorem bracedBindings_of_onlyBraced (h : onlyBraced ts = .error .unbalancedBraces) :
    bracedBindings ts = .error .unbalancedBraces := by
  unfold onlyBraced at h
  split at h
  · cases h
  · next hbraced =>
    cases h
    exact hbraced

theorem bracedBindings_of_furtherBindings {name : String}
    (h : furtherBindings name ts = .error .unbalancedBraces) :
    bracedBindings ts = .error .unbalancedBraces := by
  unfold furtherBindings at h
  split at h
  · cases h
  · split at h
    · cases h
    · next hbraced =>
      cases h
      exact hbraced

theorem namespaceBindings_ne_unbalancedBraces (ts : List Token) :
    namespaceBindings ts ≠ .error .unbalancedBraces := by
  unfold namespaceBindings
  repeat' split
  all_goals simp

/-- The complaint about braces comes from the list, with or without a name in front of it. -/
theorem exists_front_of_importBindings (h : importBindings ts = .error .unbalancedBraces) :
    ∃ front braced, ts = front ++ braced ∧ ListFront front ∧
      bracedBindings braced = .error .unbalancedBraces := by
  unfold importBindings at h
  split at h
  · next first next rest =>
    split at h
    · exact absurd h (namespaceBindings_ne_unbalancedBraces _)
    · split at h
      · cases h
      · split at h
        · next hfurther =>
          rw [Bool.and_eq_true] at hfurther
          exact ⟨[first, next], rest, rfl, .defaultName hfurther.1 hfurther.2,
            bracedBindings_of_furtherBindings h⟩
        · exact ⟨[], _, rfl, .nothing, bracedBindings_of_onlyBraced h⟩
  · split at h
    · exact absurd h (namespaceBindings_ne_unbalancedBraces _)
    · exact ⟨[], _, rfl, .nothing, bracedBindings_of_onlyBraced h⟩
  · exact ⟨[], _, rfl, .nothing, bracedBindings_of_onlyBraced h⟩

theorem specifierOf_ne_unbalancedBraces (ts : List Token) :
    specifierOf ts ≠ .error .unbalancedBraces := by
  unfold specifierOf
  repeat' split
  all_goals simp

/-! ### Statements and texts -/

/-- **The complaint about braces is given only where a list is not closed before the first
`from`.** -/
theorem Statement.leavesListOpen_of_toImport {s : Statement} {m : Malformed}
    (h : s.toImport = .error m) (hm : m.fault = .unbalancedBraces) : s.LeavesListOpen := by
  unfold toImport at h
  split at h
  · cases h
  · next fault hclause =>
    cases h
    obtain rfl : fault = .unbalancedBraces := hm
    unfold importClause at hclause
    split at hclause
    · split at hclause
      · cases hclause
      -- the specifier has faults of its own
      · next hspecifier =>
        cases hclause
        exact absurd hspecifier (specifierOf_ne_unbalancedBraces _)
    -- the fault is that of the bindings, which comes from a list
    · next hbindings =>
      cases hclause
      obtain ⟨front, braced, hbody, hfront, hbraced⟩ := exists_front_of_importBindings hbindings
      obtain ⟨opener, inside, rfl, hopener, hopen⟩ := exists_opener_of_bracedBindings hbraced
      exact ⟨front, opener, inside, hbody, hfront, hopener, hopen⟩

theorem Statement.fault_ne_of_toExport {s : Statement} {m : Malformed}
    (h : s.toExport = .error m) : m.fault ≠ .unbalancedBraces := by
  unfold toExport at h
  split at h
  · cases h
    simp
  · split at h
    · cases h
      simp
    · split at h
      · cases h
      · cases h
        simp

/-- The statement that is complained about. -/
theorem Accounts.exists_leavesListOpen {ss : List Statement} {o : Option OpenStatement}
    {x : Extraction} (h : Accounts ss o x) {m : Malformed} (hm : m ∈ x.malformed)
    (hfault : m.fault = .unbalancedBraces) : ∃ s ∈ ss, s.loc = m.loc ∧ s.LeavesListOpen := by
  obtain ⟨s, hs, y, hgives, hm⟩ | ⟨cut, -, hm⟩ := h.of_mem rfl (fun _ _ => rfl) hm
  · cases hgives with
    | nothing | imported | exported => cases hm
    | malformedImport _ _ hread =>
      obtain rfl := List.mem_singleton.1 hm
      exact ⟨s, hs, (Statement.loc_of_toImport hread).2.symm,
        Statement.leavesListOpen_of_toImport hread hfault⟩
    | malformedExport _ hread =>
      obtain rfl := List.mem_singleton.1 hm
      exact absurd hfault (Statement.fault_ne_of_toExport hread)
  · obtain rfl := List.mem_singleton.1 hm
    cases hfault

/-- **In any text, the complaint about braces is about a piece of it that is an import whose list is
not closed before the first `from`.** -/
theorem extract_leavesListOpen {l : Language} {text : List Char} {x : Extraction}
    (h : (extract l text).outcome = .ok x) {m : Malformed} (hm : m ∈ x.malformed)
    (hfault : m.fault = .unbalancedBraces) :
    ∃ s : Statement, s.IsPieceOf text ∧ s.loc = m.loc ∧ s.LeavesListOpen := by
  obtain ⟨ss, o, -, haccounts, hpieces, -⟩ := exists_accounts h
  obtain ⟨s, hs, hloc, hopen⟩ := haccounts.exists_leavesListOpen hm hfault
  exact ⟨s, hpieces s hs, hloc, hopen⟩

end ImportScan
