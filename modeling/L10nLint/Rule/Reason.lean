/-!
# Reasons

The sentences rules report. A help link, when a rule is configured with one, closes the
sentence: `… For more information, please see: <link>`.
-/

namespace L10nLint.Rule

/-- Adds the help link to a reason. -/
def withHelpLink (reason : String) : Option String → String
  | some link => reason ++ " For more information, please see: " ++ link
  | none => reason

/-- The reason of a comment problem: `Comment for Localized string "KEY" <fragment>`. -/
def commentReason (key fragment : String) (helpLink : Option String) : String :=
  withHelpLink ("Comment for Localized string \"" ++ key ++ "\" " ++ fragment) helpLink

end L10nLint.Rule
