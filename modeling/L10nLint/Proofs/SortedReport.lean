import L10nLint.Proofs.ByteOrder
import L10nLint.Proofs.ReportOrder
import L10nLint.Linter

/-
# The report is the stable sort of the rules' violations

`Linter.result` joins the rules' violations in rule order and sorts them with
`Violation.sort`, a merge sort by `Violation.compare`. This module says what comes out without
mentioning the comparison. Each violation has a sort key (`Violation.sortKey`): its file's path
components, its line and column, and the UTF-8 bytes of its rule identifier and reason. Keys
are ordered lexicographically (`Violation.SortKey.Before`), path components by kind (root,
current directory, parent, name) and then names by their bytes.

* The comparison is the three-way comparison of sort keys (`Violation.compare_eq_lt_iff`,
  `Violation.compare_eq_eq_iff`): strings compared by code points are compared by their bytes
  (`utf8Bytes_lt_iff`), and a lexicographic comparison of lists answers `.lt` exactly on the
  lexicographic order (`compareLex_eq_lt_iff`). With the orientation and transitivity of
  `Violation.compare` it is a total preorder on violations by key
  (`Violation.keyPreorder_compare`).
* A merge sort by a total preorder is stable: the elements of one class leave in the order
  they came (`filter_mergeSort_of_tied`), because a sorted sublist of the input is still a
  sublist of the output.

**Main statement** (`Linter.result_reportOrdered`): for every linter, whatever its rules and
the files they have read, the report is the rules' violations in rule order, sorted by key,
with the violations of one key in the order the rules gave them; and the comparison behind
it is a total preorder by key.
-/

namespace L10nLint

open Std

/-! ## 1. The sort key -/

namespace Path.Component

/-- What a component is compared by after its kind: a name's UTF-8 bytes. -/
def bytes : Component → List UInt8
  | .normal name => utf8Bytes name
  | _ => []

/-- One component before another: by kind (root, current directory, parent, name), then by
bytes. -/
def Before (a b : Component) : Prop :=
  a.rank < b.rank ∨ a.rank = b.rank ∧ a.bytes < b.bytes

end Path.Component

/-- What the report order reads of a violation: its file as path components, its line and
column, and the UTF-8 bytes of its rule identifier and reason. -/
structure Violation.SortKey where
  components : List Path.Component
  line : Nat
  column : Nat
  ruleId : List UInt8
  reason : List UInt8
  deriving DecidableEq

namespace Violation

/-- The sort key of a violation. -/
def sortKey (v : Violation) : SortKey :=
  { components := Path.components v.location.file, line := v.location.line,
    column := v.location.column, ruleId := utf8Bytes v.ruleId, reason := utf8Bytes v.reason }

/-- Keys in lexicographic order: the components one by one, then line, then column, then rule
identifier and reason, both bytewise. -/
def SortKey.Before (k k' : SortKey) : Prop :=
  List.Lex Path.Component.Before k.components k'.components ∨
    k.components = k'.components ∧ (k.line < k'.line ∨ k.line = k'.line ∧
      (k.column < k'.column ∨ k.column = k'.column ∧
        (k.ruleId < k'.ruleId ∨ k.ruleId = k'.ruleId ∧ k.reason < k'.reason)))

end Violation

/-! ## 2. The report order compares sort keys -/

/-- Components by kind, and names by code points, which is by bytes. -/
theorem Path.Component.compare_eq_lt_iff {a b : Component} : a.compare b = .lt ↔ a.Before b := by
  cases a <;> cases b <;>
    simp [Component.compare, Before, rank, bytes, string_compare_eq_lt_iff, Nat.compare_eq_lt]

/-- A lexicographic comparison of lists answers `.lt` exactly on the lexicographic order of
the relation on which the element comparison answers `.lt`. -/
theorem compareLex_eq_lt_iff {α : Type} {cmp : α → α → Ordering} [LawfulEqCmp cmp]
    {r : α → α → Prop} (hr : ∀ a b, cmp a b = .lt ↔ r a b) :
    ∀ {xs ys : List α}, List.compareLex cmp xs ys = .lt ↔ List.Lex r xs ys
  | [], [] => by simp [List.compareLex_nil_nil]
  | [], _ :: _ => ⟨fun _ => .nil, fun _ => List.compareLex_nil_cons⟩
  | _ :: _, [] => by simp [List.compareLex_cons_nil]
  | x :: xs, y :: ys => by
    rw [List.compareLex_cons_cons, Ordering.then_eq_lt, List.cons_lex_cons_iff, hr,
      LawfulEqCmp.compare_eq_iff_eq, compareLex_eq_lt_iff hr]

/-- A path comes before another exactly when its components do, lexicographically. -/
theorem Path.compare_eq_lt_iff {a b : String} :
    Path.compare a b = .lt ↔
      List.Lex Path.Component.Before (Path.components a) (Path.components b) :=
  compareLex_eq_lt_iff fun _ _ => Path.Component.compare_eq_lt_iff

namespace Violation

/-- Violations compare equal exactly when their sort keys are equal. -/
theorem compare_eq_eq_iff {a b : Violation} : a.compare b = .eq ↔ a.sortKey = b.sortKey := by
  simp only [Violation.compare, Location.compare, Ordering.then_eq_eq, Path.compare_eq_eq_iff,
    Nat.compare_eq_eq, string_compare_eq_eq_iff, sortKey, SortKey.mk.injEq, and_assoc]

/-- One violation comes before another exactly when its sort key does. -/
theorem compare_eq_lt_iff {a b : Violation} :
    a.compare b = .lt ↔ a.sortKey.Before b.sortKey := by
  simp only [Violation.compare, Location.compare, Ordering.then_assoc, Ordering.then_eq_lt,
    Path.compare_eq_lt_iff, Path.compare_eq_eq_iff, Nat.compare_eq_lt,
    Nat.compare_eq_eq, string_compare_eq_lt_iff, string_compare_eq_eq_iff, sortKey,
    SortKey.Before]

/-- The report order puts `a` no later than `b` exactly when `b`'s key is not before `a`'s. -/
theorem compare_ne_gt_iff {a b : Violation} :
    (a.compare b != .gt) = true ↔ ¬ b.sortKey.Before a.sortKey := by
  rw [← compare_eq_lt_iff, ← OrientedCmp.gt_iff_lt, bne_iff_ne, ne_eq]

end Violation

/-! ## 3. Merge sort keeps ties in order -/

section Stable

variable {α : Type} {cmp : α → α → Ordering} [TransCmp cmp]

/-- **A merge sort by a total preorder is stable.** The elements that a predicate picks, if
they all tie with one another, leave the sort in the order they came. -/
theorem filter_mergeSort_of_tied (l : List α) (p : α → Bool)
    (htied : ∀ a ∈ l, ∀ b ∈ l, p a → p b → cmp a b = .eq) :
    (l.mergeSort fun a b => cmp a b != .gt).filter p = l.filter p := by
  -- the picked elements, in input order, are a sorted sublist of the input
  have hsorted : (l.filter p).Pairwise fun a b => (cmp a b != .gt) = true := by
    refine List.pairwise_of_forall_mem_list fun a ha b hb => ?_
    rw [List.mem_filter] at ha hb
    rw [htied a ha.1 b hb.1 ha.2 hb.2]
    rfl
  -- so they are a sublist of the output too, and of its picked elements
  have hsub : (l.filter p).Sublist ((l.mergeSort fun a b => cmp a b != .gt).filter p) := by
    have h := (List.sublist_mergeSort ne_gt_trans ne_gt_total hsorted
      (List.filter_sublist : (l.filter p).Sublist l)).filter p
    simpa only [List.filter_filter, Bool.and_self] using h
  have hlen : ((l.mergeSort fun a b => cmp a b != .gt).filter p).length = (l.filter p).length :=
    ((List.mergeSort_perm l _).filter p).length_eq
  exact (hsub.eq_of_length hlen.symm).symm

end Stable

/-! ## 4. The report -/

namespace Violation

/-- `cmp` is a total preorder on violations by sort key: it answers the same both ways round,
it is transitive, and it answers `.lt` and `.eq` exactly as the keys compare. -/
structure KeyPreorder (cmp : Violation → Violation → Ordering) : Prop where
  swap : ∀ a b, cmp a b = (cmp b a).swap
  trans : ∀ a b c, (cmp a b).isLE → (cmp b c).isLE → (cmp a c).isLE
  lt_iff : ∀ a b, cmp a b = .lt ↔ a.sortKey.Before b.sortKey
  eq_iff : ∀ a b, cmp a b = .eq ↔ a.sortKey = b.sortKey

theorem keyPreorder_compare : KeyPreorder Violation.compare where
  swap _ _ := OrientedCmp.eq_swap
  trans _ _ _ := TransCmp.isLE_trans
  lt_iff _ _ := compare_eq_lt_iff
  eq_iff _ _ := compare_eq_eq_iff

/-- `output` is `input` in report order: a permutation of it, sorted by key, with the
violations of each key in the order `input` has them. -/
structure ReportOrdered (input output : List Violation) : Prop where
  perm : output.Perm input
  sorted : output.Pairwise fun a b => ¬ b.sortKey.Before a.sortKey
  stable : ∀ k : SortKey,
    output.filter (fun v => v.sortKey = k) = input.filter (fun v => v.sortKey = k)

theorem sort_reportOrdered (vs : List Violation) : ReportOrdered vs (Violation.sort vs) where
  perm := sort_perm vs
  sorted := (pairwise_mergeSort_cmp vs).imp compare_ne_gt_iff.mp
  stable k := by
    refine filter_mergeSort_of_tied vs _ fun a _ b _ ha hb => compare_eq_eq_iff.mpr ?_
    rw [of_decide_eq_true ha, of_decide_eq_true hb]

end Violation

/-- **The report is the stable sort of the rules' violations.** For every linter, whatever its
rules and whatever files they have read, the violations of its result are those of its rules,
joined in rule order, sorted by sort key, and with violations of one key in that joined
order; the comparison the sort uses is a total preorder by sort key. -/
theorem Linter.result_reportOrdered (l : Linter) :
    Violation.KeyPreorder Violation.compare ∧
      Violation.ReportOrdered (l.rules.flatMap Rule.violations) l.result.violations :=
  ⟨Violation.keyPreorder_compare, Violation.sort_reportOrdered _⟩

end L10nLint
