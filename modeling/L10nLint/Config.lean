import L10nLint.Toml.Read
import L10nLint.Severity
import L10nLint.Preset

/-!
# Configuration

A configuration is a TOML document with an optional `preset` name and a `rules` table that
holds one table of options per rule identifier:

```
preset = "recommended"

[rules.json_comment_rule]
severity = "warning"
valid_placeholders = ["number", "date"]
```

Reading is strict only where the document's shape is at stake: text that is not TOML, a
`preset` that is not a string, `rules` that is not a table, or a rule's block that is not a
table make the configuration unreadable. Everything else is read leniently when a rule asks
for it (`RuleOptions`): an option of the wrong type counts as missing, and unknown keys are
ignored.
-/

namespace L10nLint

/-- Why a configuration cannot be read. -/
inductive ConfigError where
  /-- The text is not TOML. -/
  | notToml (e : Toml.Error)
  /-- `preset` is not a string. -/
  | presetNotString
  /-- `rules` is not a table. -/
  | rulesNotTable
  /-- The block of a rule is not a table. -/
  | ruleNotTable (rule : String)
  deriving Repr

/-- The options of one rule's block, as written. -/
structure RuleOptions where
  entries : List (String × Toml.Value) := []
  deriving Inhabited

namespace RuleOptions

/-- A boolean option; `default` when it is missing or not a boolean. -/
def bool (o : RuleOptions) (key : String) (default : Bool) : Bool :=
  match o.entries.lookup key with
  | some (.boolean b) => b
  | _ => default

/-- A string option; `none` when it is missing or not a string. -/
def string? (o : RuleOptions) (key : String) : Option String :=
  match o.entries.lookup key with
  | some (.string s) => some s
  | _ => none

/-- An array option's strings, in order, without its other elements; `none` when it is
missing or not an array. -/
def strings? (o : RuleOptions) (key : String) : Option (List String) :=
  match o.entries.lookup key with
  | some (.array items) => some (items.filterMap Toml.Value.asString?)
  | _ => none

/-- A table option's string values, without its other values; `none` when it is missing or
not a table. -/
def stringMap? (o : RuleOptions) (key : String) : Option (List (String × String)) :=
  match o.entries.lookup key with
  | some (.table entries) => some (entries.filterMap fun (k, v) => v.asString?.map fun s => (k, s))
  | _ => none

end RuleOptions

/-- A configuration. -/
structure Config where
  /-- The preset's name, as written. -/
  preset : Option String := none
  /-- The rules' blocks by rule identifier. -/
  rules : List (String × RuleOptions) := []
  deriving Inhabited

namespace Config

/-- Reads a rule's block. -/
def ruleOf : String × Toml.Value → Except ConfigError (String × RuleOptions)
  | (id, .table entries) => pure (id, ⟨entries⟩)
  | (id, _) => throw (.ruleNotTable id)

/-- Reads a configuration from a TOML document's root table. -/
def ofToml (root : Toml.Value) : Except ConfigError Config := do
  let preset ← match root.get? "preset" with
    | none => pure none
    | some (.string s) => pure (some s)
    | some _ => throw .presetNotString
  let rules ← match root.get? "rules" with
    | none => pure []
    | some (.table entries) => entries.mapM ruleOf
    | some _ => throw .rulesNotTable
  pure { preset, rules }

/-- Reads a configuration from TOML text. -/
def parse (text : String) : Except ConfigError Config :=
  match Toml.parse text with
  | .ok root => ofToml root
  | .error e => throw (.notToml e)

/-- The block of a rule, if the configuration has one. -/
def rule? (c : Config) (id : String) : Option RuleOptions := c.rules.lookup id

/-- A rule is enabled unless its block sets `enabled` to `false`. -/
def isRuleEnabled (c : Config) (id : String) : Bool :=
  match c.rule? id with
  | some o => o.bool "enabled" true
  | none => true

/-- The preset a configuration selects; a missing or unknown name selects `recommended`. -/
def resolvedPreset (c : Config) : Preset := Preset.resolve c.preset

end Config

/-- How a rule grades its findings: a severity for the rule, and overrides by kind of
finding. -/
structure SeverityPolicy where
  default : Severity
  overrides : List (String × Severity) := []
  deriving Repr

namespace SeverityPolicy

/-- The policy of a rule's block: `severity` replaces `fallback` and `severity_map` maps kinds
to severities. Values that are not strings or not severity names are ignored. -/
def ofRule (block : Option RuleOptions) (fallback : Severity) : SeverityPolicy :=
  match block with
  | none => { default := fallback }
  | some o =>
    { default := ((o.string? "severity").bind Severity.parse?).getD fallback
      overrides := ((o.stringMap? "severity_map").getD []).filterMap fun (kind, name) =>
        (Severity.parse? name).map fun s => (kind, s) }

/-- The severity of a kind of finding. -/
def resolve (p : SeverityPolicy) (kind : String) : Severity :=
  (p.overrides.lookup kind).getD p.default

end SeverityPolicy

end L10nLint
