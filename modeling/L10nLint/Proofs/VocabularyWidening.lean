import L10nLint.Proofs.CommentVerdict

/-
# Widening the placeholder vocabulary

The full validator reads its vocabulary in one check only, the one that lists the placeholder
words outside it. So widening the vocabulary from `V` to `V'` changes nothing that the checks
before it find, shrinks the list it reports to the words outside `V'`, and, once that list is
empty, leaves the record to the later checks, which do not look at the vocabulary at all.

* `OutsideSet.widen`: the words outside `V'` are the words outside `V` that `V'` does not hold.
* `ContentVerdict.widen`, `FullVerdict.widen`: a verdict that is not about the words holds under
  any vocabulary that holds each word of the comment the first one holds.
* `validate_full_widen` (**main statement**): the verdict under `V'` follows from the one under
  `V` in each of the three cases (`Widened`); in particular widening never adds a violation, and
  a reported list of words only shrinks.
-/

namespace L10nLint.Comment

open L10nLint.Json

/-! ## 1. Words outside a wider vocabulary -/

/-- The words outside a wider vocabulary are the words outside the narrower one that the wider
one does not hold, still once each and in order. -/
theorem OutsideSet.widen {V V' words S : List String} (hV : ∀ w ∈ V, w ∈ V')
    (h : OutsideSet V words S) : OutsideSet V' words (S.filter (· ∉ V')) := by
  refine ⟨fun w => ?_, h.2.sublist List.filter_sublist⟩
  rw [List.mem_filter, h.1, decide_eq_true_iff]
  constructor
  · rintro ⟨⟨hw, -⟩, hw'⟩
    exact ⟨hw, hw'⟩
  · rintro ⟨hw, hw'⟩
    exact ⟨⟨hw, fun hv => hw' (hV w hv)⟩, hw'⟩

theorem OutsideSet.eq_nil_iff {V words S : List String} (h : OutsideSet V words S) :
    S = [] ↔ ∀ w ∈ words, w ∈ V := by
  rw [← (outsideSet_outsideWords V words).unique h]
  exact outsideWords_eq_nil_iff

/-! ## 2. The words of a comment -/

/-- One object has one typed reading. -/
theorem Describes.unique {fields : List (String × Value)} {sc₁ sc₂ : Structured}
    (h₁ : Describes fields sc₁) (h₂ : Describes fields sc₂) : sc₁ = sc₂ :=
  Option.some.inj ((decode_eq_some_iff.mpr h₁).symm.trans (decode_eq_some_iff.mpr h₂))

/-- `w` is a placeholder word of the record's comment, read as a well-typed object. -/
def CommentWord (r : Record) (w : String) : Prop :=
  ∃ fields sc, r.comment.bind Json.parse = some (.object fields) ∧ Describes fields sc ∧
    w ∈ sc.words

/-- The words of a comment are those of its typed reading. -/
theorem commentWord_iff {r : Record} {fields : List (String × Value)} {sc : Structured}
    (hp : r.comment.bind Json.parse = some (.object fields)) (hD : Describes fields sc)
    (w : String) : CommentWord r w ↔ w ∈ sc.words := by
  constructor
  · rintro ⟨fields', sc', hp', hD', hw⟩
    rw [hp, Option.some.injEq, Value.object.injEq] at hp'
    subst hp'
    rwa [hD.unique hD']
  · exact fun hw => ⟨fields, sc, hp, hD, hw⟩

/-! ## 3. Verdicts under a wider vocabulary -/

/-- A content verdict that is not about the words holds under every vocabulary that holds each
word the first one holds. -/
theorem ContentVerdict.widen {V V' : List String} {r : Record} {sc : Structured}
    {o : Option Problem} (h : ContentVerdict V r sc o)
    (ho : ∀ S, o ≠ some (.invalidPlaceholders S)) (hV : ∀ w ∈ sc.words, w ∈ V → w ∈ V') :
    ContentVerdict V' r sc o := by
  have hfit : WordsFit V r sc → WordsFit V' r sc := fun ⟨hall, hlen⟩ =>
    ⟨fun w hw => hV w hw (hall w hw), hlen⟩
  cases h with
  | missingDescription hd => exact .missingDescription hd
  | emptyDescription hd => exact .emptyDescription hd
  | invalidPlaceholders => exact absurd rfl (ho _)
  | placeholderCountMismatch hD hall hlen =>
    exact .placeholderCountMismatch hD (fun w hw => hV w hw (hall w hw)) hlen
  | missingScreenshot hD hf himg => exact .missingScreenshot hD (hfit hf) himg
  | invalidScreenshot hD hf himg hinvalid => exact .invalidScreenshot hD (hfit hf) himg hinvalid
  | tooLong hD hf hP hm hlong => exact .tooLong hD (hfit hf) hP hm hlong
  | pass hD hf hP hshort => exact .pass hD (hfit hf) hP hshort

/-- What a verdict about the words says of the comment. -/
theorem FullVerdict.invalidPlaceholders_inv {V : List String} {r : Record} {S : List String}
    (h : FullVerdict V r (some (.invalidPlaceholders S))) :
    ∃ fields sc, r.comment.bind Json.parse = some (.object fields) ∧ Describes fields sc ∧
      (∀ k ∈ fields.map Prod.fst, k ∈ allowedKeys) ∧ Described sc ∧ OutsideSet V sc.words S ∧
      S ≠ [] := by
  rcases h with _ | _ | ⟨hp, hD, hall, hc⟩
  cases hc with
  | invalidPlaceholders hD' hS hne => exact ⟨_, _, hp, hD, hall, hD', hS, hne⟩

/-- A full verdict that is not about the words holds under every vocabulary that holds each word
of the comment that the first one holds. -/
theorem FullVerdict.widen {V V' : List String} {r : Record} {o : Option Problem}
    (h : FullVerdict V r o) (ho : ∀ S, o ≠ some (.invalidPlaceholders S))
    (hV : ∀ w, CommentWord r w → w ∈ V → w ∈ V') : FullVerdict V' r o := by
  cases h with
  | invalidJson hno => exact .invalidJson hno
  | invalidKey hp hD hleast => exact .invalidKey hp hD hleast
  | checked hp hD hall hc =>
    exact .checked hp hD hall (hc.widen ho fun w hw => hV w ((commentWord_iff hp hD w).mpr hw))

/-- Under a wider vocabulary that leaves some of the reported words outside, those are reported. -/
theorem FullVerdict.widen_invalidPlaceholders {V V' : List String} {r : Record}
    {S : List String} (hV : ∀ w ∈ V, w ∈ V') (h : FullVerdict V r (some (.invalidPlaceholders S)))
    (hS : ¬ ∀ w ∈ S, w ∈ V') :
    FullVerdict V' r (some (.invalidPlaceholders (S.filter (· ∉ V')))) := by
  obtain ⟨fields, sc, hp, hD, hall, hD', hout, -⟩ := h.invalidPlaceholders_inv
  refine .checked hp hD hall (.invalidPlaceholders hD' (hout.widen hV) fun hnil => hS ?_)
  intro w hw
  simpa using List.filter_eq_nil_iff.mp hnil w hw

/-- A wider vocabulary that holds the reported words holds every word of the comment: each is in
the narrower one or reported. -/
theorem FullVerdict.commentWord_mem {V V' : List String} {r : Record} {S : List String}
    (hV : ∀ w ∈ V, w ∈ V') (h : FullVerdict V r (some (.invalidPlaceholders S)))
    (hin : ∀ w ∈ S, w ∈ V') : ∀ w, CommentWord r w → w ∈ V' := by
  intro w hw
  obtain ⟨fields, sc, hp, hD, -, -, hout, -⟩ := h.invalidPlaceholders_inv
  have hw' := (commentWord_iff hp hD w).mp hw
  by_cases hv : w ∈ V
  · exact hV w hv
  · exact hin w ((hout.1 w).mpr ⟨hw', hv⟩)

/-- Under a vocabulary that holds every word of the comment, the verdict is not about the
words. -/
theorem validate_full_ne_invalidPlaceholders {W : List String} {r : Record}
    (hW : ∀ w, CommentWord r w → w ∈ W) (S : List String) :
    (Validator.full W).validate r ≠ some (.invalidPlaceholders S) := by
  intro h
  obtain ⟨fields, sc, hp, hD, -, -, hout, hne⟩ :=
    (h ▸ fullVerdict_validate W r).invalidPlaceholders_inv
  exact hne (hout.eq_nil_iff.mpr fun w hw => hW w ((commentWord_iff hp hD w).mpr hw))

/-- All vocabularies that hold every word of the comment give one verdict. -/
theorem validate_full_eq_of_words {W₁ W₂ : List String} {r : Record}
    (h₁ : ∀ w, CommentWord r w → w ∈ W₁) (h₂ : ∀ w, CommentWord r w → w ∈ W₂) :
    (Validator.full W₁).validate r = (Validator.full W₂).validate r :=
  (validate_of_fullVerdict ((fullVerdict_validate W₁ r).widen
    (validate_full_ne_invalidPlaceholders h₁) fun w hw _ => h₂ w hw)).symm

/-! ## 4. The verdict under a wider vocabulary -/

/-- **How the verdict `B` under a vocabulary `V'` follows the verdict `A` under a narrower one.**
A verdict not about the words stays; a list of words outside `V` loses the words `V'` holds; and
once it has lost them all, `V'` holds every word of the comment and `B` is what the later checks
give, the same under every vocabulary that holds those words. Hence `B` never fails where `A`
passes, and reports no word that `A` does not. -/
structure Widened (r : Record) (V' : List String) (A B : Option Problem) : Prop where
  same : (∀ S, A ≠ some (.invalidPlaceholders S)) → B = A
  shrunk : ∀ S, A = some (.invalidPlaceholders S) → ¬ (∀ w ∈ S, w ∈ V') →
    B = some (.invalidPlaceholders (S.filter (· ∉ V')))
  later : ∀ S, A = some (.invalidPlaceholders S) → (∀ w ∈ S, w ∈ V') →
    (∀ w, CommentWord r w → w ∈ V') ∧
      ∀ W, (∀ w, CommentWord r w → w ∈ W) → B = (Validator.full W).validate r
  passes : A = none → B = none
  fewer : ∀ S', B = some (.invalidPlaceholders S') →
    ∃ S, A = some (.invalidPlaceholders S) ∧ S'.Sublist S

/-- **Widening the vocabulary** from `V` to any `V'` that holds it changes the full validator's
verdict on every record as `Widened` says. -/
theorem validate_full_widen {V V' : List String} (hV : ∀ w ∈ V, w ∈ V') (r : Record) :
    Widened r V' ((Validator.full V).validate r) ((Validator.full V').validate r) := by
  have hA := fullVerdict_validate V r
  have same : (∀ S, (Validator.full V).validate r ≠ some (.invalidPlaceholders S)) →
      (Validator.full V').validate r = (Validator.full V).validate r := fun ho =>
    validate_of_fullVerdict (hA.widen ho fun w _ hw => hV w hw)
  have shrunk : ∀ S, (Validator.full V).validate r = some (.invalidPlaceholders S) →
      ¬ (∀ w ∈ S, w ∈ V') →
      (Validator.full V').validate r = some (.invalidPlaceholders (S.filter (· ∉ V'))) :=
    fun S hS hout => validate_of_fullVerdict ((hS ▸ hA).widen_invalidPlaceholders hV hout)
  have holds : ∀ S, (Validator.full V).validate r = some (.invalidPlaceholders S) →
      (∀ w ∈ S, w ∈ V') → ∀ w, CommentWord r w → w ∈ V' :=
    fun S hS hin => (hS ▸ hA).commentWord_mem hV hin
  refine ⟨same, shrunk, fun S hS hin => ⟨holds S hS hin, fun W hW =>
    validate_full_eq_of_words (holds S hS hin) hW⟩, fun hnone => ?_, fun S' hB => ?_⟩
  · rw [same (fun S h => by simp [hnone] at h), hnone]
  · -- a reported list under `V'` comes from one under `V`, of which it keeps some words
    by_cases hA' : ∃ S, (Validator.full V).validate r = some (.invalidPlaceholders S)
    · obtain ⟨S, hS⟩ := hA'
      by_cases hin : ∀ w ∈ S, w ∈ V'
      · exact absurd hB (validate_full_ne_invalidPlaceholders (holds S hS hin) S')
      · rw [shrunk S hS hin, Option.some.injEq, Problem.invalidPlaceholders.injEq] at hB
        exact ⟨S, hS, hB ▸ List.filter_sublist⟩
    · have ho : ∀ S, (Validator.full V).validate r ≠ some (.invalidPlaceholders S) :=
        fun S hS => hA' ⟨S, hS⟩
      exact absurd (same ho ▸ hB) (fun h => ho S' h)

/-- Widening the legacy vocabulary to the default one, on a comment that names `sku`, a word
only the default vocabulary holds. -/
theorem validate_full_widen_legacy :
    (∀ w ∈ legacyPlaceholders, w ∈ defaultPlaceholders) ∧
      Widened
        { key := "A", location := default,
          comment := some "\x7b\"description\":\"d\",\"placeholders\":[\"sku\"]\x7d" }
        defaultPlaceholders
        ((Validator.full legacyPlaceholders).validate
          { key := "A", location := default,
            comment := some "\x7b\"description\":\"d\",\"placeholders\":[\"sku\"]\x7d" })
        ((Validator.full defaultPlaceholders).validate
          { key := "A", location := default,
            comment := some "\x7b\"description\":\"d\",\"placeholders\":[\"sku\"]\x7d" }) :=
  ⟨fun _ hw => List.mem_of_mem_take hw, validate_full_widen (fun _ hw => List.mem_of_mem_take hw) _⟩

end L10nLint.Comment
