import L10nLint.Severity

/-!
# Violations

A violation names the rule that found it (identifier and display name), its severity, where
it was found and a complete sentence saying why. It is written in three forms:

* `display`: `file:line:column: severity [rule] reason`, one line;
* `format`: `name at file:line:column`, then `  severity: reason [rule]` and a line break;
* `diagnostic`: `[rule] reason`, the message of a diagnostic report.
-/

namespace L10nLint

/-- Where a declaration or a usage was found; line and column are 1-based, 0 when unknown. -/
structure Location where
  file : String
  line : Nat := 0
  column : Nat := 0
  deriving DecidableEq, Repr, Inhabited

/-- `file:line:column`. -/
def Location.render (l : Location) : String :=
  l.file ++ ":" ++ toString l.line ++ ":" ++ toString l.column

/-- A problem found by a rule. -/
structure Violation where
  ruleId : String
  ruleName : String
  severity : Severity
  location : Location
  reason : String
  deriving DecidableEq, Repr, Inhabited

namespace Violation

/-- One line: `file:line:column: severity [rule] reason`. -/
def display (v : Violation) : String :=
  v.location.render ++ ": " ++ v.severity.name ++ " [" ++ v.ruleId ++ "] " ++ v.reason

/-- Terminal form: `name at file:line:column`, then `  severity: reason [rule]`. -/
def format (v : Violation) : String :=
  v.ruleName ++ " at " ++ v.location.render ++ "\n  " ++ v.severity.name ++ ": " ++ v.reason ++
    " [" ++ v.ruleId ++ "]\n"

/-- The message of a diagnostic report: `[rule] reason`. -/
def diagnostic (v : Violation) : String := "[" ++ v.ruleId ++ "] " ++ v.reason

end Violation

end L10nLint
