import Mathlib.Data.List.Nodup
import ImportScan.Proofs.IssueAccount
import ImportScan.Report.Issues

/-!
# The order of issues

Issues are sorted before they are shown.  The order looks at the place of an issue first, so that
issues at different places can be sorted in one way only, however they were found.

## Main results

* `sortIssues_eq_self` — issues that compare equal keep their order.
* `sortIssues_eq_of_perm` — the order in which issues at different places are shown does not depend
  on the order in which they were found.
* `issueReport_eq_of_perm` — **neither does what is shown**.
-/

namespace ImportScan

/-- The order of issues goes by five keys, one after the other. -/
instance : Std.TransCmp Issue.compare :=
  inferInstanceAs <| Std.TransCmp <|
    compareLex (compareOn fun i : Issue => i.context.file) <|
      compareLex (compareOn fun i : Issue => i.context.line) <|
        compareLex (compareOn fun i : Issue => i.context.column) <|
          compareLex (compareOn fun i : Issue => i.problem.rule.rank) <|
            compareOn fun i : Issue => i.problem.message

variable {a b : Issue} {issues issues' : List Issue}

theorem Issue.precedes_trans (a b c : Issue) (hab : a.precedes b = true)
    (hbc : b.precedes c = true) : a.precedes c = true := by
  have hab : (a.compare b).isLE = true := hab
  exact Std.TransCmp.isLE_trans hab hbc

theorem Issue.precedes_total (a b : Issue) : (a.precedes b || b.precedes a) = true := by
  have hswap : b.compare a = (a.compare b).swap := Std.OrientedCmp.eq_swap
  rw [precedes, precedes, hswap]
  cases a.compare b <;> rfl

/-- Issues of which each may be shown before the other are at one place. -/
theorem Issue.place_eq_of_precedes (hab : a.precedes b = true) (hba : b.precedes a = true) :
    a.place = b.place := by
  have hswap : b.compare a = (a.compare b).swap := Std.OrientedCmp.eq_swap
  have heq : a.compare b = .eq := by
    rw [precedes] at hab hba
    rw [hswap] at hba
    cases hcompare : a.compare b with
    | eq => rfl
    | lt => rw [hcompare] at hba; cases hba
    | gt => rw [hcompare] at hab; cases hab
  rw [compare, Ordering.then_eq_eq, Ordering.then_eq_eq, Ordering.then_eq_eq] at heq
  obtain ⟨hfile, hline, hcolumn, -⟩ := heq
  rw [place, place, Std.LawfulEqCmp.eq_of_compare hfile, Std.LawfulEqCmp.eq_of_compare hline,
    Std.LawfulEqCmp.eq_of_compare hcolumn]

/-- Issues that are told apart by nothing that is compared keep the order in which they were found. -/
theorem sortIssues_eq_self (h : ∀ a ∈ issues, ∀ b ∈ issues, a.precedes b = true) :
    sortIssues issues = issues :=
  List.mergeSort_of_pairwise (List.pairwise_of_forall_mem_list h)

theorem pairwise_sortIssues (issues : List Issue) :
    (sortIssues issues).Pairwise fun a b => a.precedes b = true :=
  List.pairwise_mergeSort Issue.precedes_trans Issue.precedes_total issues

/-- The order in which issues at different places are shown does not depend on the order in which
they were found. -/
theorem sortIssues_eq_of_perm (hperm : issues.Perm issues')
    (hplaces : (issues.map Issue.place).Nodup) : sortIssues issues = sortIssues issues' := by
  have hleft : (sortIssues issues).Perm issues := List.mergeSort_perm _ _
  have hright : (sortIssues issues').Perm issues' := List.mergeSort_perm _ _
  refine List.Perm.eq_of_pairwise ?_ (pairwise_sortIssues issues) (pairwise_sortIssues issues')
    (hleft.trans (hperm.trans hright.symm))
  intro a b ha hb hab hba
  have ha : a ∈ issues := hleft.mem_iff.1 ha
  have hb : b ∈ issues := hperm.mem_iff.2 (hright.mem_iff.1 hb)
  exact List.inj_on_of_nodup_map hplaces ha hb (Issue.place_eq_of_precedes hab hba)

theorem gutterWidth_eq_of_perm (hperm : issues.Perm issues') :
    gutterWidth issues = gutterWidth issues' := by
  have hmax : issues.foldl (fun line i => max line i.context.line) 0
      = issues'.foldl (fun line i => max line i.context.line) 0 := by
    refine hperm.foldl_eq' (fun i _ j _ line => ?_) 0
    rw [Nat.max_assoc, Nat.max_assoc, Nat.max_comm i.context.line]
  rw [gutterWidth, hmax, gutterWidth]

/-- **What is shown of issues at different places does not depend on the order in which they were
found.** -/
theorem issueReport_eq_of_perm (hperm : issues.Perm issues')
    (hplaces : (issues.map Issue.place).Nodup) : issueReport issues = issueReport issues' := by
  rw [issueReport, issueReport, sortIssues_eq_of_perm hperm hplaces, gutterWidth_eq_of_perm hperm]

end ImportScan
