import L10nLint.Rule
import L10nLint.LintResult
import L10nLint.Preset

/-!
# The linter

A linter holds the enabled rules of a preset and counts the files handed to it. Handing it a
file hands the file to every rule (`Linter.process`); asking it for violations asks every
rule, joins their violations in rule order and sorts them into report order (`LintResult`).

The rules are built from a configuration and the readers the caller supplies
(`Collaborators`): every rule reads declarations through one composition of the declaration
readers, the usage rule reads usages through a composition of the usage readers, and ignore
files through the ignore reader if there is one. A rule whose block sets `enabled = false`
is left out.
-/

namespace L10nLint

/-- The readers a caller supplies. -/
structure Collaborators where
  declarations : List Source
  usages : List Source
  ignoreFiles : Option IgnoreSource := none

namespace Collaborators

/-- The usage rule with its readers, before it has read anything. -/
def usageRule (c : Collaborators) (config : Config) : Rule :=
  .usage (Rule.UsageRule.ofConfig config) (Source.compose c.declarations)
    (Source.compose c.usages) c.ignoreFiles {}

end Collaborators

/-- The rules of a preset, in order. -/
def Preset.rules (p : Preset) (config : Config) (c : Collaborators) : List Rule :=
  let declarations := Source.compose c.declarations
  match p with
  | .recommended => [.comments (Rule.CommentRule.json config) declarations [], c.usageRule config]
  | .legacy => [.comments (Rule.CommentRule.legacy config) declarations [], c.usageRule config]
  | .all =>
    [.comments (Rule.CommentRule.json config) declarations [],
     .comments (Rule.CommentRule.legacy config) declarations [], c.usageRule config]

/-- Enabled rules and the number of files read so far. -/
structure Linter where
  rules : List Rule
  filesChecked : Nat := 0

namespace Linter

/-- A linter with the rules that a configuration enables. -/
def build (rules : List Rule) (config : Config) : Linter :=
  { rules := rules.filter fun r => config.isRuleEnabled r.identifier }

/-- The linter of a configuration and collaborators: the enabled rules of its preset. -/
def ofConfig (config : Config) (c : Collaborators) : Linter :=
  build (config.resolvedPreset.rules config c) config

/-- Hands one more file to every rule. -/
def process (l : Linter) (file : SourceFile) : Linter :=
  { rules := l.rules.map (·.processFile file), filesChecked := l.filesChecked + 1 }

@[simp] theorem rules_process (l : Linter) (f : SourceFile) :
    (l.process f).rules = l.rules.map (·.processFile f) := rfl

@[simp] theorem filesChecked_process (l : Linter) (f : SourceFile) :
    (l.process f).filesChecked = l.filesChecked + 1 := rfl

/-- The violations of all rules, in report order. -/
def result (l : Linter) : LintResult :=
  { violations := Violation.sort (l.rules.flatMap Rule.violations)
    filesChecked := l.filesChecked }

end Linter

/-- Lints files with the rules a configuration selects. -/
def lint (files : List SourceFile) (config : Config) (c : Collaborators) : LintResult :=
  (files.foldl Linter.process (Linter.ofConfig config c)).result

end L10nLint
