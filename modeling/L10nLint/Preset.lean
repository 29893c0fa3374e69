import L10nLint.Text.Trim

/-!
# Presets

A preset is a named rule set: `recommended` (the JSON comment rule and the unused-string
rule), `legacy` (the legacy comment rule and the unused-string rule) and `all` (the three
rules). A configuration names one by text, trimmed of white space and compared with ASCII
letters folded to lower case; an unknown or missing name means `recommended`.
-/

namespace L10nLint

/-- A named rule set. -/
inductive Preset where
  | recommended
  | legacy
  | all
  deriving DecidableEq, Repr, Inhabited

namespace Preset

/-- The configuration name of a preset. -/
def name : Preset → String
  | .recommended => "recommended"
  | .legacy => "legacy"
  | .all => "all"

/-- The preset a text names, if any: trimmed, ASCII letters folded to lower case. -/
def ofName? (s : String) : Option Preset :=
  match Text.asciiLowerString (Text.trim s) with
  | "recommended" => some .recommended
  | "legacy" => some .legacy
  | "all" => some .all
  | _ => none

/-- The preset of a configuration's `preset` entry: `recommended` when it is missing or names
no preset. -/
def resolve : Option String → Preset
  | some s => (ofName? s).getD .recommended
  | none => .recommended

end Preset

end L10nLint
