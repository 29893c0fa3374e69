/-!
# Problems of structured comments

The ways a structured comment can fail, each with the identifier under which configuration
sets its severity (the identifier never depends on the problem's details) and the fragment
that completes the sentence `Comment for Localized string "KEY" …`.
-/

namespace L10nLint.Comment

/-- Why a structured comment was rejected. -/
inductive Problem where
  /-- The comment is missing, is not JSON, is not an object, or a known member has the wrong
  type. -/
  | invalidJson
  /-- The object has a member outside the allowed ones. -/
  | invalidKey (key : String)
  /-- `description` is missing or `null`. -/
  | missingDescription
  /-- `description` is empty. -/
  | emptyDescription
  /-- `placeholders` names words outside the vocabulary (sorted, without repeats). -/
  | invalidPlaceholders (names : List String)
  /-- `placeholders` has another length than the string has placeholders. -/
  | placeholderCountMismatch
  /-- `img` is missing or `null`. -/
  | missingScreenshot
  /-- `img` is not an absolute URL. -/
  | invalidScreenshot
  /-- A value has more grapheme clusters than `max_character_count`. -/
  | tooLong
  deriving DecidableEq, Repr

namespace Problem

/-- The configuration identifier of a problem. -/
def identifier : Problem → String
  | .invalidJson => "invalidJSON"
  | .invalidKey _ => "invalidJSONKey"
  | .missingDescription => "missingDescription"
  | .emptyDescription => "emptyDescription"
  | .invalidPlaceholders _ => "containsInvalidPlaceholders"
  | .placeholderCountMismatch => "placeholderCountsDontMatch"
  | .missingScreenshot => "missingScreenshotURL"
  | .invalidScreenshot => "invalidScreenshotURL"
  | .tooLong => "maxCharacterCountExceeded"

/-- Words joined by `", "`. -/
def joinQuoted : List String → String
  | [] => ""
  | [w] => w
  | w :: ws => w ++ "\", \"" ++ joinQuoted ws

/-- The reason fragment of a problem. -/
def reason : Problem → String
  | .invalidJson => "is not valid JSON"
  | .invalidKey key => "the key " ++ key ++ " is not allowed in this structured comment"
  | .missingDescription => "is missing the `description`"
  | .emptyDescription => "has an empty `description`"
  | .invalidPlaceholders names => "contains invalid placeholders: \"" ++ joinQuoted names ++ "\""
  | .placeholderCountMismatch => "number of placeholders don't match"
  | .missingScreenshot => "screenshot URL for this localized string is missing"
  | .invalidScreenshot => "screenshot URL for this localized string is invalid"
  | .tooLong => "the string is longer than the max character count allowed"

end Problem

end L10nLint.Comment
