import L10nLint.Text.Trim
import L10nLint.Text.Quoted

/-!
# Severities

A violation is reported at one of three severities, ordered `none < warning < error`. A
`none` violation is still produced and reported; configuration uses it to silence one kind of
problem without turning off the check that finds it.

Configuration names a severity by text: `Severity.parse` trims `White_Space` from both ends,
folds ASCII letters to lower case (and no others) and accepts `none`, `warning` or `error`.
-/

namespace L10nLint

/-- How much a violation matters. -/
inductive Severity where
  | none
  | warning
  | error
  deriving DecidableEq, Repr, Inhabited

namespace Severity

/-- The rank of a severity: `none` 0, `warning` 1, `error` 2. -/
def rank : Severity → Nat
  | .none => 0
  | .warning => 1
  | .error => 2

instance : LE Severity := ⟨fun a b => a.rank ≤ b.rank⟩

instance (a b : Severity) : Decidable (a ≤ b) := inferInstanceAs (Decidable (a.rank ≤ b.rank))

/-- The configuration name of a severity. -/
def name : Severity → String
  | .none => "none"
  | .warning => "warning"
  | .error => "error"

/-- The severity named exactly `s`. -/
def ofName? : String → Option Severity
  | "none" => some .none
  | "warning" => some .warning
  | "error" => some .error
  | _ => Option.none

end Severity

/-- A text that names no severity. -/
structure UnknownSeverity where
  text : String
  deriving DecidableEq, Repr

/-- The message for a text that names no severity; the text is quoted as given. -/
def UnknownSeverity.message (e : UnknownSeverity) : String :=
  "Unknown severity: " ++ Text.quote e.text ++ " (expected none, warning or error)"

/-- Reads a severity name: trimmed, ASCII letters folded to lower case. -/
def Severity.parse (s : String) : Except UnknownSeverity Severity :=
  match Severity.ofName? (Text.asciiLowerString (Text.trim s)) with
  | some v => .ok v
  | Option.none => .error ⟨s⟩

/-- The severity a text names, if any. -/
def Severity.parse? (s : String) : Option Severity :=
  match Severity.parse s with
  | .ok v => some v
  | .error _ => Option.none

end L10nLint
