import L10nLint.Violation
import L10nLint.Path

/-!
# Lint results

A lint result holds the violations of all rules and the number of files read. Violations are
listed by location (file by path components, then line, then column), then by rule
identifier, then by reason; violations equal in all these keep the order in which rules
reported them.
-/

namespace L10nLint

/-- The report order of locations: by path, line, column. -/
def Location.compare (a b : Location) : Ordering :=
  (Path.compare a.file b.file).then
    ((Ord.compare a.line b.line).then (Ord.compare a.column b.column))

/-- The report order of violations: by location, rule identifier, reason. -/
def Violation.compare (a b : Violation) : Ordering :=
  (a.location.compare b.location).then
    ((Ord.compare a.ruleId b.ruleId).then (Ord.compare a.reason b.reason))

/-- Sorts violations into report order, keeping the order of equal ones. -/
def Violation.sort (vs : List Violation) : List Violation :=
  vs.mergeSort fun a b => a.compare b != .gt

/-- Sorting only reorders. -/
theorem Violation.sort_perm (vs : List Violation) : (Violation.sort vs).Perm vs :=
  List.mergeSort_perm vs _

example : Path.compare "a/b" "a.b" = .lt ∧ Path.compare "a/b" "a//./b" = .eq := by decide

/-- Violations found and files read. -/
structure LintResult where
  violations : List Violation := []
  filesChecked : Nat := 0
  deriving Repr

namespace LintResult

/-- The number of violations of a severity. -/
def count (r : LintResult) (s : Severity) : Nat := (r.violations.filter (·.severity = s)).length

/-- Whether some violation is an error. -/
def hasErrors (r : LintResult) : Bool := r.violations.any (·.severity = .error)

/-- Whether some violation is at least as severe as `s`. -/
def hasViolationsAt (r : LintResult) (s : Severity) : Bool := r.violations.any (s ≤ ·.severity)

end LintResult

end L10nLint
