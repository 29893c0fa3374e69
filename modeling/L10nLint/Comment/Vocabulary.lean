/-!
# Structured comment vocabulary

A structured comment is a JSON object with the members `description`, `placeholders`, `img`
and `max_character_count`. Its `placeholders` name the meaning of each placeholder of the
string from a fixed vocabulary: the full one of the JSON comment rule, or the smaller legacy
one, which is its first eleven words.
-/

namespace L10nLint.Comment

/-- The members a structured comment may have. -/
def allowedKeys : List String := ["description", "placeholders", "img", "max_character_count"]

/-- The placeholder vocabulary of the JSON comment rule. -/
def defaultPlaceholders : List String :=
  ["number", "date", "time", "money", "company_name", "formatting", "fully_translated_sentence",
    "person_name", "currency_code", "event_name", "email_address", "tariff_code",
    "tracking_code", "token", "sku", "month", "day"]

/-- The fixed vocabulary of the legacy placeholder comment rule. -/
def legacyPlaceholders : List String := defaultPlaceholders.take 11

example : legacyPlaceholders.getLast? = some "email_address" := by decide

end L10nLint.Comment
