import L10nLint.LintResult

/-
# The report order

`Violation.sort` lists violations by `Violation.compare`: path components, line, column, rule
identifier, reason. This module shows that the order is a total preorder and says what it
identifies, so that the merge sort's results can be compared:

* path components are compared as a total order in which equal means identical
  (`Path.Component.compare`), so paths compare equal exactly when their components are the
  same (`Path.compare_eq_eq_iff`);
* a violation is compared through its view `Violation.byPath`, which replaces the file by its
  components (`Violation.compare_eq_byPath`); the view's order is transitive and oriented
  (`TransCmp`), and two views compare equal exactly when they agree in components, line,
  column, rule identifier and reason (`ByPath.compare_eq_eq_iff`).

**Main statement** (`mergeSort_eq_of_perm`): a merge sort by a transitive comparison gives the
same list for any two orders of its input, as long as the input has no two different
elements that compare equal. `Violation.sort_eq_of_perm` and `Violation.map_byPath_sort`
apply it to reports.
-/

namespace L10nLint

open Std

/-! ## 1. Path components -/

namespace Path.Component

theorem compare_swap (a b : Component) : a.compare b = (b.compare a).swap := by
  cases a <;> cases b <;> simp only [Component.compare, rank] <;> exact OrientedOrd.eq_swap

instance : OrientedCmp Component.compare where
  eq_swap := compare_swap _ _

instance : TransCmp Component.compare where
  isLE_trans {a b c} hab hbc := by
    -- names compare as strings; every other pair by the kinds' ranks
    cases a <;> cases b <;> cases c <;> simp only [Component.compare, rank] at hab hbc ⊢ <;>
      first
      | exact TransOrd.isLE_trans hab hbc
      | (simp only [Ordering.isLE] at hab hbc ⊢; contradiction)
      | rfl

instance : LawfulEqCmp Component.compare where
  compare_self {a} := ReflCmp.compare_self
  eq_of_compare {a b} h := by
    cases a <;> cases b <;> simp only [Component.compare, rank] at h
    all_goals first
      | rfl
      | exact congrArg normal (LawfulEqOrd.eq_of_compare h)
      | (simp only [Nat.compare_eq_eq] at h; omega)

/-- Components in report order. -/
instance : Ord Component := ⟨Component.compare⟩

instance : TransOrd Component := inferInstanceAs (TransCmp Component.compare)

instance : LawfulEqOrd Component := inferInstanceAs (LawfulEqCmp Component.compare)

end Path.Component

/-- Paths compare equal exactly when they have the same components. -/
theorem Path.compare_eq_eq_iff {a b : String} :
    Path.compare a b = .eq ↔ Path.components a = Path.components b := by
  show List.compareLex Path.Component.compare _ _ = .eq ↔ _
  exact LawfulEqCmp.compare_eq_iff_eq

/-! ## 2. Violations as the report order sees them -/

/-- A violation with its file read as path components. -/
structure Violation.ByPath where
  components : List Path.Component
  line : Nat
  column : Nat
  ruleId : String
  ruleName : String
  severity : Severity
  reason : String
  deriving DecidableEq, Repr

namespace Violation

/-- A violation with its file replaced by the file's components. -/
def byPath (v : Violation) : ByPath :=
  { components := Path.components v.location.file, line := v.location.line,
    column := v.location.column, ruleId := v.ruleId, ruleName := v.ruleName,
    severity := v.severity, reason := v.reason }

/-- The report order on views: components, line, column, rule identifier, reason. -/
def ByPath.compare (a b : ByPath) : Ordering :=
  ((Ord.compare a.components b.components).then
      ((Ord.compare a.line b.line).then (Ord.compare a.column b.column))).then
    ((Ord.compare a.ruleId b.ruleId).then (Ord.compare a.reason b.reason))

/-- The report order sees a file only through its components. -/
theorem compare_eq_byPath (a b : Violation) : a.compare b = a.byPath.compare b.byPath := rfl

instance : TransCmp ByPath.compare :=
  inferInstanceAs (TransCmp (compareLex
    (compareLex (compareOn ByPath.components)
      (compareLex (compareOn ByPath.line) (compareOn ByPath.column)))
    (compareLex (compareOn ByPath.ruleId) (compareOn ByPath.reason))))

theorem ByPath.compare_eq_eq_iff {a b : ByPath} :
    a.compare b = .eq ↔ a.components = b.components ∧ a.line = b.line ∧
      a.column = b.column ∧ a.ruleId = b.ruleId ∧ a.reason = b.reason := by
  simp only [ByPath.compare, Ordering.then_eq_eq, LawfulEqOrd.compare_eq_iff_eq, and_assoc]

instance : TransCmp Violation.compare where
  eq_swap {a b} := by
    rw [compare_eq_byPath, compare_eq_byPath]
    exact OrientedCmp.eq_swap
  isLE_trans {a b c} hab hbc := by
    rw [compare_eq_byPath] at hab hbc ⊢
    exact TransCmp.isLE_trans hab hbc

end Violation

/-! ## 3. Sorting permuted input -/

section Sorting

variable {α : Type} {cmp : α → α → Ordering} [TransCmp cmp]

theorem ne_gt_eq_isLE (o : Ordering) : (o != .gt) = o.isLE := by
  cases o <;> rfl

/-- "Not after" is transitive. -/
theorem ne_gt_trans (a b c : α) (hab : (cmp a b != .gt) = true) (hbc : (cmp b c != .gt) = true) :
    (cmp a c != .gt) = true := by
  rw [ne_gt_eq_isLE] at hab hbc ⊢
  exact TransCmp.isLE_trans hab hbc

/-- "Not after" is total. -/
theorem ne_gt_total (a b : α) : (cmp a b != .gt || cmp b a != .gt) = true := by
  rw [ne_gt_eq_isLE, ne_gt_eq_isLE, Bool.or_eq_true]
  -- `a` after `b` means `b` before `a`
  cases h : cmp a b
  · exact .inl rfl
  · exact .inl rfl
  · exact .inr (by rw [OrientedCmp.lt_of_gt h]; rfl)

/-- A merge sort by a transitive comparison sorts. -/
theorem pairwise_mergeSort_cmp (l : List α) :
    (l.mergeSort fun a b => cmp a b != .gt).Pairwise fun a b => (cmp a b != .gt) = true :=
  List.pairwise_mergeSort ne_gt_trans ne_gt_total l

/-- **Sorting forgets the input order when no two different elements tie.** Two orders of
one input sort to lists that are sorted and permutations of each other; where neither of two
elements comes before the other they are equal, so the lists are equal. -/
theorem mergeSort_eq_of_perm {l₁ l₂ : List α} (hp : l₁.Perm l₂)
    (hties : ∀ a ∈ l₁, ∀ b ∈ l₁, cmp a b = .eq → a = b) :
    l₁.mergeSort (fun a b => cmp a b != .gt) = l₂.mergeSort (fun a b => cmp a b != .gt) := by
  have hperm : (l₁.mergeSort fun a b => cmp a b != .gt).Perm
      (l₂.mergeSort fun a b => cmp a b != .gt) :=
    (List.mergeSort_perm _ _).trans (hp.trans (List.mergeSort_perm _ _).symm)
  refine List.Perm.eq_of_pairwise ?_ (pairwise_mergeSort_cmp l₁) (pairwise_mergeSort_cmp l₂)
    hperm
  intro a b ha hb hab hba
  have ha' : a ∈ l₁ := (List.mergeSort_perm l₁ _).subset ha
  have hb' : b ∈ l₁ := hp.symm.subset ((List.mergeSort_perm l₂ _).subset hb)
  rw [ne_gt_eq_isLE] at hab hba
  exact hties a ha' b hb' (OrientedCmp.isLE_antisymm hab hba)

end Sorting

/-- Sorting reports forgets the order of the input when ties are equal. -/
theorem Violation.sort_eq_of_perm {A B : List Violation} (hp : A.Perm B)
    (hties : ∀ v ∈ A, ∀ w ∈ A, v.compare w = .eq → v = w) :
    Violation.sort A = Violation.sort B :=
  mergeSort_eq_of_perm hp hties

/-- Reports by path components. -/
def Violation.ByPath.sort (l : List Violation.ByPath) : List Violation.ByPath :=
  l.mergeSort fun a b => a.compare b != .gt

/-- Sorting commutes with reading files as components. -/
theorem Violation.map_byPath_sort (A : List Violation) :
    (Violation.sort A).map Violation.byPath = Violation.ByPath.sort (A.map Violation.byPath) :=
  List.map_mergeSort fun _ _ _ _ => rfl

end L10nLint
