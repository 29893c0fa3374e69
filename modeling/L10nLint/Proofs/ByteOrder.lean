import Mathlib.Tactic.SplitIfs

/-
# Code point order is UTF-8 byte order

Strings compare in `String.lt` by their characters' code points, one character after the
other. Programs that keep strings in sorted maps and sets compare them byte by byte, as
their UTF-8 forms. The two orders are the same, which is why a sorted member list of an
object, built with `String.lt`, is also sorted the way such a map keeps it.

The argument follows the encoding (`String.utf8EncodeChar`):

* the lead byte of an encoding tells its length, and longer encodings have larger lead
  bytes (`0xxxxxxx` < `110xxxxx` < `1110xxxx` < `11110xxx`), so between characters of
  different lengths the first byte decides;
* for one length, the bytes are the code point's base-64 digits under a fixed lead, so the
  bytes compare as the code points do.

A smaller character therefore gives bytes that are smaller at a position inside both
encodings (`utf8EncodeChar_append_lt`), whatever follows; so lexicographic order carries
over from characters to whole strings (`flatMap_utf8EncodeChar_lt`), and totality of the
character order turns that into an equivalence.

**Main statements** (`utf8Bytes_lt_iff`, `utf8Bytes_le_iff`): for all strings `a` and `b`,
`utf8Bytes a < utf8Bytes b ↔ a < b`, and the same for `≤`. So the three-way `compare` of
strings is the comparison of their bytes (`string_compare_eq_lt_iff`,
`string_compare_eq_eq_iff`).
-/

namespace L10nLint

/-- The bytes of a string's UTF-8 form. -/
def utf8Bytes (s : String) : List UInt8 := s.toUTF8.data.toList

/-- A string's bytes are its characters' encodings, one after the other. -/
theorem utf8Bytes_eq_flatMap (s : String) :
    utf8Bytes s = s.toList.flatMap String.utf8EncodeChar := by
  rw [utf8Bytes, String.toUTF8_eq_toByteArray, ← String.utf8Encode_toList, List.utf8Encode,
    List.toList_data_toByteArray]

/-! ## 1. One character -/

/-- Every code point is below `0x110000`. -/
theorem char_toNat_lt (c : Char) : c.toNat < 0x110000 := by
  have hvalid := c.valid
  have hval : c.toNat = c.val.toNat := rfl
  simp only [UInt32.isValidChar, Nat.isValidChar] at hvalid
  omega

/-- Two byte strings of one length that compare strictly keep comparing so whatever follows
them: they differ before either ends. -/
theorem append_lt_append_of_lt {p q : List UInt8} (s t : List UInt8)
    (hlen : p.length = q.length) (h : p < q) : p ++ s < q ++ t := by
  induction p generalizing q with
  | nil =>
    cases q with
    | nil => exact absurd h (List.lt_irrefl _)
    | cons y q => simp at hlen
  | cons x p ih =>
    cases q with
    | nil => simp at hlen
    | cons y q =>
      rcases List.cons_lt_cons_iff.mp h with hxy | ⟨rfl, hpq⟩
      · exact List.Lex.rel hxy
      · exact List.Lex.cons (ih (by simpa using hlen) hpq)

/-- **A smaller character has smaller bytes**, already inside both encodings. -/
theorem utf8EncodeChar_append_lt {c d : Char} (h : c < d) (s t : List UInt8) :
    String.utf8EncodeChar c ++ s < String.utf8EncodeChar d ++ t := by
  have hcd : c.toNat < d.toNat := h
  have hd := char_toNat_lt d
  have hc : c.val.toNat = c.toNat := rfl
  have hd' : d.val.toNat = d.toNat := rfl
  unfold String.utf8EncodeChar
  simp only [hc, hd']
  -- one goal for each pair of encoded lengths
  split_ifs <;> first
    | -- other lengths, or no such pair: the lead bytes already differ
      exact List.Lex.rel (by simp only [UInt8.lt_iff_toNat_lt, UInt8.toNat_ofNat']; omega)
    | -- one length: the code points' base-64 digits, compared from the most significant
      refine append_lt_append_of_lt s t (by rfl) ?_
      simp only [List.cons_lt_cons_iff, UInt8.lt_iff_toNat_lt, ← UInt8.toNat_inj,
        UInt8.toNat_ofNat', List.not_lt_nil, and_false, or_false]
      simp (disch := omega) only [Nat.mod_eq_of_lt, Nat.add_right_cancel_iff,
        Nat.add_lt_add_iff_right]
      omega

/-! ## 2. Whole strings -/

/-- Lexicographic order of characters gives lexicographic order of their encodings. -/
theorem flatMap_utf8EncodeChar_lt {l₁ l₂ : List Char} (h : l₁ < l₂) :
    l₁.flatMap String.utf8EncodeChar < l₂.flatMap String.utf8EncodeChar := by
  induction h with
  | nil =>
    -- a character's encoding is never empty
    obtain ⟨b, bs, hb⟩ := List.exists_cons_of_ne_nil (String.utf8EncodeChar_ne_nil (c := _))
    rw [List.flatMap_nil, List.flatMap_cons, hb]
    exact List.nil_lt_cons _ _
  | cons _ ih =>
    simp only [List.flatMap_cons]
    exact List.append_left_lt ih
  | rel hcd =>
    simp only [List.flatMap_cons]
    exact utf8EncodeChar_append_lt hcd _ _

/-- **Byte order is code point order.** -/
theorem utf8Bytes_lt_iff {a b : String} : utf8Bytes a < utf8Bytes b ↔ a < b := by
  rw [utf8Bytes_eq_flatMap, utf8Bytes_eq_flatMap, String.lt_iff]
  constructor
  · intro h
    by_cases hab : a.toList < b.toList
    · exact hab
    exfalso
    -- neither `b < a` (the bytes would compare the other way) nor `a = b`
    have hba : ¬ b.toList < a.toList := fun hba => List.lt_asymm h (flatMap_utf8EncodeChar_lt hba)
    have heq : a.toList = b.toList := Std.Trichotomous.trichotomous _ _ hab hba
    rw [heq] at h
    exact List.lt_irrefl _ h
  · exact flatMap_utf8EncodeChar_lt

theorem utf8Bytes_le_iff {a b : String} : utf8Bytes a ≤ utf8Bytes b ↔ a ≤ b :=
  not_congr utf8Bytes_lt_iff

/-- Strings with the same bytes are the same string. -/
theorem utf8Bytes_inj {a b : String} : utf8Bytes a = utf8Bytes b ↔ a = b := by
  refine ⟨fun h => ?_, congrArg utf8Bytes⟩
  -- neither is below the other, since their bytes are not
  have hab : ¬ a < b := fun hlt => List.lt_irrefl _ (h ▸ utf8Bytes_lt_iff.mpr hlt)
  have hba : ¬ b < a := fun hlt => List.lt_irrefl _ (h ▸ utf8Bytes_lt_iff.mpr hlt)
  exact String.le_antisymm (String.not_lt.mp hba) (String.not_lt.mp hab)

theorem string_compare_eq_lt_iff {a b : String} :
    compare a b = .lt ↔ utf8Bytes a < utf8Bytes b := by
  rw [utf8Bytes_lt_iff]
  exact compareOfLessAndEq_eq_lt

theorem string_compare_eq_eq_iff {a b : String} :
    compare a b = .eq ↔ utf8Bytes a = utf8Bytes b := by
  rw [utf8Bytes_inj]
  exact Std.LawfulEqOrd.compare_eq_iff_eq

end L10nLint
