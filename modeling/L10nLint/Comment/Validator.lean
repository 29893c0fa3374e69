import L10nLint.Record
import L10nLint.Comment.Problem
import L10nLint.Comment.Structured
import L10nLint.Text.Grapheme
import L10nLint.Url.Valid

/-!
# Validating structured comments

`Validator.validate` checks a declared record's comment in a fixed order and reports the
first check that fails:

1. the comment is a JSON object whose known members have their types (`invalidJson`);
2. (full profile) it has no member outside the allowed ones (`invalidKey`, the least one);
3. `description` is present (`missingDescription`) and not empty (`emptyDescription`);
4. every word of `placeholders` is in the vocabulary (`invalidPlaceholders`, listing the
   others sorted and without repeats);
5. `placeholders` has as many words, repeats counted, as the record has placeholders
   (`placeholderCountMismatch`);
6. (full profile) `img` is present (`missingScreenshot`) and an absolute URL
   (`invalidScreenshot`);
7. (full profile) no value has more grapheme clusters than `max_character_count`
   (`tooLong`).

The legacy profile runs steps 1, 3, 4 and 5 only, with its fixed vocabulary.
-/

namespace L10nLint.Comment

/-- Which checks a validator runs. -/
inductive Profile where
  | full
  | legacy
  deriving DecidableEq, Repr

/-- A validator: a placeholder vocabulary and a profile. -/
structure Validator where
  vocabulary : List String
  profile : Profile
  deriving DecidableEq, Repr

/-- The full validator with a vocabulary. -/
def Validator.full (vocabulary : List String) : Validator := ⟨vocabulary, .full⟩

/-- The legacy validator, with the legacy vocabulary. -/
def Validator.legacy : Validator := ⟨legacyPlaceholders, .legacy⟩

/-- Inserts a word into a sorted list without repeats. -/
def insertSorted (w : String) : List String → List String
  | [] => [w]
  | x :: xs => if w = x then x :: xs else if w < x then w :: x :: xs else x :: insertSorted w xs

/-- The words of `words` outside `vocabulary`, sorted, without repeats. -/
def outsideWords (vocabulary words : List String) : List String :=
  (words.filter (fun w => !vocabulary.contains w)).foldl (fun acc w => insertSorted w acc) []

/-- Whether some value is longer, in grapheme clusters, than `max`. -/
def exceedsLength (values : List String) (max : Int) : Bool :=
  values.any (fun v => max < (Text.clusterCount v : Int))

/-- The checks after the structured comment was read (steps 2 to 7). -/
def Validator.check (v : Validator) (r : Record) (fields : List (String × Json.Value))
    (sc : Structured) : Option Problem :=
  match (if v.profile = .full then unknownKey fields else none) with
  | some k => some (.invalidKey k)
  | none =>
    match sc.description with
    | none => some .missingDescription
    | some "" => some .emptyDescription
    | some _ =>
      let words := sc.placeholders.getD []
      match outsideWords v.vocabulary words with
      | _ :: _ => some (.invalidPlaceholders (outsideWords v.vocabulary words))
      | [] =>
        if words.length ≠ r.placeholderCount then some .placeholderCountMismatch
        else if v.profile = .legacy then none
        else
          match sc.img with
          | none => some .missingScreenshot
          | some url =>
            if !Url.isValid url then some .invalidScreenshot
            else
              match sc.maxCharacterCount with
              | some m => if exceedsLength r.value m then some .tooLong else none
              | none => none

/-- The first failing check of a declared record's comment, or `none` when it passes. -/
def Validator.validate (v : Validator) (r : Record) : Option Problem :=
  match r.comment.bind Json.parse with
  | some (.object fields) =>
    match Structured.decode fields with
    | some sc => v.check r fields sc
    | none => some .invalidJson
  | _ => some .invalidJson

end L10nLint.Comment
