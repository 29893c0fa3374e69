import L10nLint.Proofs.CommentVerdict

/-
# The legacy profile of the comment validator

The legacy profile runs the full profile's checks with two of them left out: member names are
not held against the allowed ones, and the checks stop after the count, so the screenshot URL
and the length are never looked at. The comment is still read by the same typed reading, so an
`img` or a `max_character_count` of the wrong type makes it invalid JSON under both profiles.

* `LeadingVerdict` states the checks the legacy profile runs on a well-typed comment and
  `LegacyVerdict` its whole verdict; the legacy validator answers exactly that verdict
  (`validate_legacy_iff`).
* With the legacy vocabulary the two profiles answer alike, except where the full one refuses a
  member name (the legacy one goes on to its own checks) or finds a screenshot or length problem
  (the legacy one passes) (`validate_legacy_against_full`). Both facts come from one reading of
  the checks: the content checks of the full profile end in the leading ones
  (`ContentVerdict.leading`).
* The legacy verdict reads `description`, `placeholders` and the record's placeholder count, and
  of `img` and `max_character_count` only whether they have their types
  (`validate_legacy_congr`); so `{"description":"d","img":3}` is invalid JSON to it while
  `{"description":"d"}` passes (`legacy_validate_img_number`).
-/

namespace L10nLint.Comment

open L10nLint.Json

/-! ## 1. Problems only the full profile reports -/

/-- The problems of the screenshot and length checks, which come after the count check. -/
def Problem.isLate : Problem → Bool
  | .missingScreenshot | .invalidScreenshot | .tooLong => true
  | _ => false

/-- The problems only the full profile reports: a member name outside the allowed ones, and the
late ones. -/
def Problem.fullOnly : Problem → Bool
  | .invalidKey _ => true
  | p => p.isLate

/-- A verdict with its late problem, if any, passed. -/
def passLate (o : Option Problem) : Option Problem := o.filter fun p => !p.isLate

theorem passLate_eq_self {o : Option Problem} (h : o.all fun p => !p.isLate) : passLate o = o := by
  cases o with
  | none => rfl
  | some p => simpa [passLate] using h

theorem passLate_of_isLate {p : Problem} (h : p.isLate) : passLate (some p) = none := by
  simp [passLate, h]

/-! ## 2. The leading checks -/

/-- The checks the legacy profile runs on a well-typed comment, in order: the description, the
placeholder words and their count. Each outcome says that the checks before it passed and its
own failed. -/
inductive LeadingVerdict (V : List String) (r : Record) (sc : Structured) :
    Option Problem → Prop
  | missingDescription : sc.description = none → LeadingVerdict V r sc (some .missingDescription)
  | emptyDescription : sc.description = some "" → LeadingVerdict V r sc (some .emptyDescription)
  | invalidPlaceholders {S : List String} : Described sc → OutsideSet V sc.words S → S ≠ [] →
      LeadingVerdict V r sc (some (.invalidPlaceholders S))
  | placeholderCountMismatch : Described sc → (∀ w ∈ sc.words, w ∈ V) →
      sc.words.length ≠ r.placeholderCount →
      LeadingVerdict V r sc (some .placeholderCountMismatch)
  | pass : Described sc → WordsFit V r sc → LeadingVerdict V r sc none

/-- **The content checks of the full profile end in the leading ones**: what they find first is
what the leading checks find, unless it is a late problem, which the leading checks pass. -/
theorem ContentVerdict.leading {V : List String} {r : Record} {sc : Structured}
    {o : Option Problem} (h : ContentVerdict V r sc o) : LeadingVerdict V r sc (passLate o) := by
  cases h with
  | missingDescription hd => exact .missingDescription hd
  | emptyDescription hd => exact .emptyDescription hd
  | invalidPlaceholders hD hS hne => exact .invalidPlaceholders hD hS hne
  | placeholderCountMismatch hD hall hlen => exact .placeholderCountMismatch hD hall hlen
  | missingScreenshot hD hfit _ => exact .pass hD hfit
  | invalidScreenshot hD hfit _ _ => exact .pass hD hfit
  | tooLong hD hfit _ _ _ => exact .pass hD hfit
  | pass hD hfit _ _ => exact .pass hD hfit

theorem leadingVerdict_check (V : List String) (r : Record) (fields : List (String × Value))
    (sc : Structured) :
    LeadingVerdict V r sc ((⟨V, .legacy⟩ : Validator).check r fields sc) := by
  have hwords : sc.placeholders.getD [] = sc.words := rfl
  simp only [Validator.check, reduceCtorEq, if_false, hwords]
  split
  · exact .missingDescription ‹_›
  · exact .emptyDescription ‹_›
  rename_i d hne hd
  have hD : Described sc := ⟨d, hd, hne⟩
  split
  · -- a word outside the vocabulary
    rename_i w ws hws
    exact .invalidPlaceholders hD (outsideSet_outsideWords V sc.words)
      (by rw [hws]; exact List.cons_ne_nil w ws)
  rename_i hws
  have hall : ∀ w ∈ sc.words, w ∈ V := outsideWords_eq_nil_iff.mp hws
  split
  · exact .placeholderCountMismatch hD hall ‹_›
  · rename_i hlen
    exact .pass hD ⟨hall, by simpa using hlen⟩

theorem check_of_leadingVerdict {V : List String} {r : Record} {fields : List (String × Value)}
    {sc : Structured} {o : Option Problem} (h : LeadingVerdict V r sc o) :
    (⟨V, .legacy⟩ : Validator).check r fields sc = o := by
  have hwords : sc.placeholders.getD [] = sc.words := rfl
  simp only [Validator.check, reduceCtorEq, if_false, hwords]
  -- as for the full profile, `simp` passes the `some ""` branch with `hne` from the context
  cases h with
  | missingDescription hd => simp [hd]
  | emptyDescription hd => simp [hd]
  | invalidPlaceholders hD hS hS' =>
    obtain ⟨d, hd, hne⟩ := hD
    rw [← (outsideSet_outsideWords V sc.words).unique hS] at hS' ⊢
    obtain ⟨w, ws, hws⟩ := List.exists_cons_of_ne_nil hS'
    simp [hd, hws]
  | placeholderCountMismatch hD hall hlen =>
    obtain ⟨d, hd, hne⟩ := hD
    simp [hd, outsideWords_eq_nil_iff.mpr hall, hlen]
  | pass hD hfit =>
    obtain ⟨d, hd, hne⟩ := hD
    simp [hd, outsideWords_eq_nil_iff.mpr hfit.1, hfit.2]

/-! ## 3. The legacy verdict -/

/-- **What validation does**, under any profile: a comment that reads as no well-typed object is
invalid JSON, and any other is checked as its object describes it. -/
theorem validate_cases (v : Validator) (r : Record) :
    (v.validate r = some .invalidJson ∧
        ∀ fields sc, r.comment.bind Json.parse = some (.object fields) → ¬ Describes fields sc) ∨
      ∃ fields sc, r.comment.bind Json.parse = some (.object fields) ∧ Describes fields sc ∧
        v.validate r = v.check r fields sc := by
  by_cases hobj : ∃ fields, r.comment.bind Json.parse = some (.object fields)
  · obtain ⟨fields, hp⟩ := hobj
    rw [validate_of_object hp]
    cases hdec : Structured.decode fields with
    | none =>
      -- no structured comment describes the object: the typed reading would accept it
      refine .inl ⟨rfl, fun fields' sc hp' hD => ?_⟩
      rw [hp, Option.some.injEq, Value.object.injEq] at hp'
      subst hp'
      simp [decode_eq_some_iff.mpr hD] at hdec
    | some sc => exact .inr ⟨fields, sc, hp, decode_eq_some_iff.mp hdec, rfl⟩
  · rw [validate_of_not_object fun fields h => hobj ⟨fields, h⟩]
    exact .inl ⟨rfl, fun fields _ h => absurd ⟨fields, h⟩ hobj⟩

/-- **The legacy validator's verdict on a record.** The comment is invalid JSON unless it reads
as an object whose known members have their types; then the leading checks decide. -/
inductive LegacyVerdict (V : List String) (r : Record) : Option Problem → Prop
  | invalidJson :
      (∀ fields sc, r.comment.bind Json.parse = some (.object fields) → ¬ Describes fields sc) →
      LegacyVerdict V r (some .invalidJson)
  | checked {fields : List (String × Value)} {sc : Structured} {o : Option Problem} :
      r.comment.bind Json.parse = some (.object fields) → Describes fields sc →
      LeadingVerdict V r sc o → LegacyVerdict V r o

theorem legacyVerdict_validate (V : List String) (r : Record) :
    LegacyVerdict V r ((⟨V, .legacy⟩ : Validator).validate r) := by
  rcases validate_cases ⟨V, .legacy⟩ r with ⟨h, hno⟩ | ⟨fields, sc, hp, hD, h⟩
  · rw [h]
    exact .invalidJson hno
  · rw [h]
    exact .checked hp hD (leadingVerdict_check V r fields sc)

theorem validate_of_legacyVerdict {V : List String} {r : Record} {o : Option Problem}
    (h : LegacyVerdict V r o) : (⟨V, .legacy⟩ : Validator).validate r = o := by
  cases h with
  | invalidJson hno =>
    rcases validate_cases ⟨V, .legacy⟩ r with ⟨h, -⟩ | ⟨fields, sc, hp, hD, -⟩
    · exact h
    · exact absurd hD (hno fields sc hp)
  | checked hp hD hlead =>
    rw [validate_of_object hp, decode_eq_some_iff.mpr hD]
    dsimp only [Option.elim]
    exact check_of_leadingVerdict hlead

/-- **The legacy validator reports the first failing check of its own**: invalid JSON (no
comment, no JSON, no object, or a known member of the wrong type, `img` and
`max_character_count` included), a missing or empty description, the words outside the
vocabulary, a word count other than the record's placeholder count; and `none` when these pass. -/
theorem validate_legacy_iff (V : List String) (r : Record) (o : Option Problem) :
    (⟨V, .legacy⟩ : Validator).validate r = o ↔ LegacyVerdict V r o :=
  ⟨fun h => h ▸ legacyVerdict_validate V r, validate_of_legacyVerdict⟩

/-- The legacy verdict never holds a problem only the full profile reports. -/
theorem LegacyVerdict.not_fullOnly {V : List String} {r : Record} {o : Option Problem}
    (h : LegacyVerdict V r o) : o.all fun p => !p.fullOnly := by
  rcases h with _ | ⟨-, -, hlead⟩
  · rfl
  · cases hlead <;> rfl

/-! ## 4. The legacy profile against the full one -/

/-- Where the full profile refuses no member name, the legacy profile with the same vocabulary
answers what it answers, with a late problem passed. -/
theorem validate_legacy_eq_passLate {V : List String} {r : Record}
    (h : ∀ k, (Validator.full V).validate r ≠ some (.invalidKey k)) :
    (⟨V, .legacy⟩ : Validator).validate r = passLate ((Validator.full V).validate r) := by
  apply validate_of_legacyVerdict
  have hF := fullVerdict_validate V r
  generalize (Validator.full V).validate r = F at h hF
  cases hF with
  | invalidJson hno => exact .invalidJson hno
  | invalidKey _ _ _ => exact absurd rfl (h _)
  | checked hp hD _ hc => exact .checked hp hD hc.leading

/-- Where the full profile refuses a member name, the legacy profile runs its leading checks on
the comment. -/
theorem validate_legacy_of_invalidKey {V : List String} {r : Record} {k : String}
    (h : (Validator.full V).validate r = some (.invalidKey k)) :
    ∃ fields sc, r.comment.bind Json.parse = some (.object fields) ∧ Describes fields sc ∧
      LeadingVerdict V r sc ((⟨V, .legacy⟩ : Validator).validate r) := by
  rcases validate_cases ⟨V, .legacy⟩ r with ⟨-, hno⟩ | ⟨fields, sc, hp, hD, hL⟩
  · -- a comment that is invalid JSON is so under both profiles
    rcases validate_cases (Validator.full V) r with ⟨hF, -⟩ | ⟨fields, sc, hp, hD, -⟩
    · simp [hF] at h
    · exact absurd hD (hno fields sc hp)
  · rw [hL]
    exact ⟨fields, sc, hp, hD, leadingVerdict_check V r fields sc⟩

/-- **The legacy profile against the full one with the legacy vocabulary.** Write `F` for the
full verdict and `L` for the legacy one. Where `F` is `none`, invalid JSON, a description,
placeholder or count problem, `L` is `F`; where `F` is a screenshot or length problem, `L` is
`none`; where `F` refuses a member name, `L` is what the leading checks give on the comment. So
`L` fails only where `F` does, and never with a problem only the full profile reports. -/
theorem validate_legacy_against_full (r : Record) :
    (((Validator.full legacyPlaceholders).validate r).all (fun p => !p.fullOnly) →
        Validator.legacy.validate r = (Validator.full legacyPlaceholders).validate r) ∧
      (∀ p, (Validator.full legacyPlaceholders).validate r = some p → p.isLate →
        Validator.legacy.validate r = none) ∧
      (∀ k, (Validator.full legacyPlaceholders).validate r = some (.invalidKey k) →
        ∃ fields sc, r.comment.bind Json.parse = some (.object fields) ∧ Describes fields sc ∧
          LeadingVerdict legacyPlaceholders r sc (Validator.legacy.validate r)) ∧
      (Validator.legacy.validate r ≠ none →
        (Validator.full legacyPlaceholders).validate r ≠ none) ∧
      (Validator.legacy.validate r).all (fun p => !p.fullOnly) := by
  -- the legacy validator is the one with the legacy vocabulary and profile
  rw [show Validator.legacy = ⟨legacyPlaceholders, .legacy⟩ from rfl]
  refine ⟨fun hF => ?_, fun p hF hlate => ?_, fun k hF => validate_legacy_of_invalidKey hF,
    fun hL hF => hL ?_, (legacyVerdict_validate legacyPlaceholders r).not_fullOnly⟩
  · -- neither a refused name nor a late problem: the two verdicts agree
    have hno : ∀ k, (Validator.full legacyPlaceholders).validate r ≠ some (.invalidKey k) := by
      intro k hk
      rw [hk] at hF
      simp [Problem.fullOnly] at hF
    rw [validate_legacy_eq_passLate hno, passLate_eq_self]
    revert hF
    cases (Validator.full legacyPlaceholders).validate r with
    | none => simp
    | some p => cases p <;> simp [Problem.fullOnly, Problem.isLate]
  · -- a late problem is passed
    have hno : ∀ k, (Validator.full legacyPlaceholders).validate r ≠ some (.invalidKey k) := by
      intro k hk
      rw [hk, Option.some.injEq] at hF
      simp [← hF, Problem.isLate] at hlate
    rw [validate_legacy_eq_passLate hno, hF, passLate_of_isLate hlate]
  · -- where the full profile passes, so does the legacy one
    rw [validate_legacy_eq_passLate (fun k hk => by simp [hF] at hk), hF]
    rfl

/-! ## 5. What the legacy verdict reads -/

/-- `img` and `max_character_count` have their types: each is absent or `null`, or a string and
a number that reads as a whole count respectively. -/
structure ExtrasTyped (fields : List (String × Value)) : Prop where
  img : ∃ i : Option String, present fields "img" = i.map .string
  maxCharacterCount : ∃ m : Option Int, match m with
    | none => present fields "max_character_count" = none
    | some m =>
      ∃ n, present fields "max_character_count" = some (.number n) ∧ wholeNumber n = some m

theorem Describes.extrasTyped {fields : List (String × Value)} {sc : Structured}
    (h : Describes fields sc) : ExtrasTyped fields :=
  ⟨⟨sc.img, h.img⟩, ⟨sc.maxCharacterCount, h.maxCharacterCount⟩⟩

theorem present_congr {fields₁ fields₂ : List (String × Value)} {name : String}
    (h : fields₁.lookup name = fields₂.lookup name) :
    present fields₁ name = present fields₂ name := by
  unfold present
  rw [h]

/-- An object that agrees with a well-typed one on `description` and `placeholders`, and has its
own `img` and `max_character_count` typed, is well-typed with the same description and words. -/
theorem Describes.transfer {fields₁ fields₂ : List (String × Value)} {sc : Structured}
    (h : Describes fields₁ sc) (hdesc : fields₁.lookup "description" = fields₂.lookup "description")
    (hwords : fields₁.lookup "placeholders" = fields₂.lookup "placeholders")
    (hx : ExtrasTyped fields₂) :
    ∃ sc', Describes fields₂ sc' ∧ sc'.description = sc.description ∧
      sc'.placeholders = sc.placeholders := by
  obtain ⟨⟨i, hi⟩, ⟨m, hm⟩⟩ := hx
  refine ⟨{ sc with img := i, maxCharacterCount := m }, ⟨?_, ?_, hi, hm⟩, rfl, rfl⟩
  · rw [← present_congr hdesc]
    exact h.description
  · rw [← present_congr hwords]
    exact h.placeholders

/-- The leading checks read the description, the words and the placeholder count, and nothing
else of the comment or the record. -/
theorem LeadingVerdict.congr {V : List String} {r₁ r₂ : Record} {sc₁ sc₂ : Structured}
    {o : Option Problem} (h : LeadingVerdict V r₁ sc₁ o)
    (hdesc : sc₁.description = sc₂.description) (hwords : sc₁.placeholders = sc₂.placeholders)
    (hcount : r₁.placeholderCount = r₂.placeholderCount) : LeadingVerdict V r₂ sc₂ o := by
  have hw : sc₁.words = sc₂.words := by rw [Structured.words, Structured.words, hwords]
  have hD : Described sc₁ → Described sc₂ := fun ⟨d, hd, hne⟩ => ⟨d, hdesc ▸ hd, hne⟩
  cases h with
  | missingDescription hd => exact .missingDescription (hdesc ▸ hd)
  | emptyDescription hd => exact .emptyDescription (hdesc ▸ hd)
  | invalidPlaceholders hD₁ hS hne => exact .invalidPlaceholders (hD hD₁) (hw ▸ hS) hne
  | placeholderCountMismatch hD₁ hall hlen =>
    exact .placeholderCountMismatch (hD hD₁) (hw ▸ hall) (hw ▸ hcount ▸ hlen)
  | pass hD₁ hfit => exact .pass (hD hD₁) ⟨hw ▸ hfit.1, hw ▸ hcount ▸ hfit.2⟩

/-- The legacy verdict of one record is that of another whose comment's object agrees with it on
`description` and `placeholders`, has `img` and `max_character_count` typed exactly when it does,
and whose placeholder count is the same. -/
theorem LegacyVerdict.transfer {V : List String} {r₁ r₂ : Record}
    {fields₁ fields₂ : List (String × Value)} {o : Option Problem} (h : LegacyVerdict V r₁ o)
    (h₁ : r₁.comment.bind Json.parse = some (.object fields₁))
    (h₂ : r₂.comment.bind Json.parse = some (.object fields₂))
    (hdesc : fields₁.lookup "description" = fields₂.lookup "description")
    (hwords : fields₁.lookup "placeholders" = fields₂.lookup "placeholders")
    (hcount : r₁.placeholderCount = r₂.placeholderCount)
    (htyped : ExtrasTyped fields₁ ↔ ExtrasTyped fields₂) : LegacyVerdict V r₂ o := by
  cases h with
  | invalidJson hno =>
    -- a typed reading of the second object would give one of the first
    refine .invalidJson fun fields sc hp hD => ?_
    rw [h₂, Option.some.injEq, Value.object.injEq] at hp
    subst hp
    obtain ⟨sc', hD', -, -⟩ :=
      hD.transfer hdesc.symm hwords.symm (htyped.mpr hD.extrasTyped)
    exact hno fields₁ sc' h₁ hD'
  | checked hp hD hlead =>
    rw [h₁, Option.some.injEq, Value.object.injEq] at hp
    subst hp
    obtain ⟨sc', hD', hd, hw⟩ := hD.transfer hdesc hwords (htyped.mp hD.extrasTyped)
    exact .checked h₂ hD' (hlead.congr hd.symm hw.symm hcount)

/-- **What the legacy profile reads.** Take two records with the same placeholder count whose
comments read as objects that differ only under `img`, `max_character_count` and names outside
the allowed ones. Where `img` and `max_character_count` have their types in the one exactly when
they do in the other, the legacy validator answers both alike. -/
theorem validate_legacy_congr {r₁ r₂ : Record} {fields₁ fields₂ : List (String × Value)}
    (h₁ : r₁.comment.bind Json.parse = some (.object fields₁))
    (h₂ : r₂.comment.bind Json.parse = some (.object fields₂))
    (hdesc : fields₁.lookup "description" = fields₂.lookup "description")
    (hwords : fields₁.lookup "placeholders" = fields₂.lookup "placeholders")
    (hcount : r₁.placeholderCount = r₂.placeholderCount)
    (htyped : ExtrasTyped fields₁ ↔ ExtrasTyped fields₂) :
    Validator.legacy.validate r₁ = Validator.legacy.validate r₂ :=
  (validate_of_legacyVerdict ((legacyVerdict_validate legacyPlaceholders r₁).transfer
    h₁ h₂ hdesc hwords hcount htyped)).symm

/-- A comment with a member outside the allowed ones and an `img`, beside one with a
`max_character_count` instead: the legacy profile answers both alike. -/
theorem validate_legacy_congr_note :
    Json.parse "\x7b\"description\":\"d\",\"img\":\"x\",\"note\":1\x7d" =
      some (.object [("description", .string "d"), ("img", .string "x"),
        ("note", .number (.nat 1))]) ∧
    Json.parse "\x7b\"description\":\"d\",\"max_character_count\":4\x7d" =
      some (.object [("description", .string "d"),
        ("max_character_count", .number (.nat 4))]) ∧
    Validator.legacy.validate
        { key := "A", location := default,
          comment := some "\x7b\"description\":\"d\",\"img\":\"x\",\"note\":1\x7d" } =
      Validator.legacy.validate
        { key := "A", location := default,
          comment := some "\x7b\"description\":\"d\",\"max_character_count\":4\x7d" } := by
  have h₁ : Json.parse "\x7b\"description\":\"d\",\"img\":\"x\",\"note\":1\x7d" =
      some (.object [("description", .string "d"), ("img", .string "x"),
        ("note", .number (.nat 1))]) := by
    simp +decide [Json.parse, Json.value, Json.members, Json.stringBody, Json.skipSpace,
      Json.isSpace, Json.depthLimit, Json.unsignedNumber, Json.integerDigits, Json.afterInteger,
      Json.integerNumber, Json.digitValue, Json.Fields.insert]
  have h₂ : Json.parse "\x7b\"description\":\"d\",\"max_character_count\":4\x7d" =
      some (.object [("description", .string "d"),
        ("max_character_count", .number (.nat 4))]) := by
    simp +decide [Json.parse, Json.value, Json.members, Json.stringBody, Json.skipSpace,
      Json.isSpace, Json.depthLimit, Json.unsignedNumber, Json.integerDigits, Json.afterInteger,
      Json.integerNumber, Json.digitValue, Json.Fields.insert]
  -- `img` is a string in the first object and `max_character_count` a count in the second
  have htyped₁ : ExtrasTyped [("description", .string "d"), ("img", .string "x"),
      ("note", .number (.nat 1))] := ⟨⟨some "x", rfl⟩, ⟨none, rfl⟩⟩
  have htyped₂ : ExtrasTyped [("description", .string "d"),
      ("max_character_count", .number (.nat 4))] := ⟨⟨none, rfl⟩, ⟨some 4, .nat 4, rfl, rfl⟩⟩
  exact ⟨h₁, h₂, validate_legacy_congr h₁ h₂ rfl rfl rfl ⟨fun _ => htyped₂, fun _ => htyped₁⟩⟩

/-- **A comment the legacy profile refuses for the type of `img` alone.** The objects
`{"description":"d","img":3}` and `{"description":"d"}` differ only under `img`, yet the first is
invalid JSON to the legacy profile and the second passes. -/
theorem legacy_validate_img_number :
    Json.parse "\x7b\"description\":\"d\",\"img\":3\x7d" =
      some (.object [("description", .string "d"), ("img", .number (.nat 3))]) ∧
    Json.parse "\x7b\"description\":\"d\"\x7d" = some (.object [("description", .string "d")]) ∧
    Validator.legacy.validate
        { key := "A", location := default,
          comment := some "\x7b\"description\":\"d\",\"img\":3\x7d" } = some .invalidJson ∧
    Validator.legacy.validate
        { key := "A", location := default,
          comment := some "\x7b\"description\":\"d\"\x7d" } = none := by
  refine ⟨?_, ?_, by decide +kernel, by decide +kernel⟩ <;>
    simp +decide [Json.parse, Json.value, Json.members, Json.stringBody, Json.skipSpace,
      Json.isSpace, Json.depthLimit, Json.unsignedNumber, Json.integerDigits, Json.afterInteger,
      Json.integerNumber, Json.digitValue, Json.Fields.insert]

end L10nLint.Comment
