import L10nLint.Proofs.KeyMatching

/-
# Accessors of ASCII keys

The accessor of a key capitalizes the first word of a segment depending on where the segment
stands (`capitalizesFirstWord`) and then lower-cases the segment's first character. For a key
of ASCII characters the two steps cancel, whatever the segment's place:

* ASCII case mapping stays in ASCII and has one character each way, so lower-casing an ASCII
  word maps `Char.toLower` over it (`lowerChars_of_ascii`) and capitalizing a lowered word
  upper-cases its first letter (`capitalize_map_toLower`);
* a lowered letter upper-cased and lowered again is itself, so lower-casing the first character
  of a segment undoes the capital its first word may have received (`component_of_ascii`).

Each component of the accessor is then the lower camel case of its segment (`lowerCamel`). A
segment of underscores only is non-empty and has no words, so it gives an empty component: `A._`
has the accessor `l10n.a.`.

**Main statement** (`accessor_of_ascii`): the accessor of an ASCII key is `l10n.` followed by
the lower camel cases of its non-empty segments, joined by dots.
-/

namespace L10nLint

/-! ## 1. ASCII words -/

namespace Key

open Text

/-- Lower-casing an ASCII word maps `Char.toLower` over it. -/
theorem lowerChars_of_ascii {w : List Char} (hw : ∀ c ∈ w, c.toNat < 128) :
    lowerChars w = w.map Char.toLower := by
  have hsigma : 'Σ' ∉ w := fun hmem => ne_sigma_of_ascii (hw _ hmem) rfl
  rw [lowerChars_eq_lowerEach hsigma]
  induction w with
  | nil => rfl
  | cons c rest ih =>
    have hrest : ∀ x ∈ rest, x.toNat < 128 := fun x hx => hw x (List.mem_cons_of_mem c hx)
    rw [lowerEach_cons, lowerChar_of_lt (hw c List.mem_cons_self),
      ih hrest (fun hmem => hsigma (List.mem_cons_of_mem c hmem))]
    rfl

/-- Capitalizing a lowered ASCII word upper-cases its first letter. -/
theorem capitalize_map_toLower {w : List Char} (hw : ∀ c ∈ w, c.toNat < 128) :
    capitalize (w.map Char.toLower) = (w.map Char.toLower).modifyHead Char.toUpper := by
  cases w with
  | nil => rfl
  | cons c rest =>
    rw [List.map_cons, capitalize, upperChar_of_lt (ascii_toLower (hw c List.mem_cons_self)).1]
    rfl

/-! ## 2. One component -/

/-- **Lower camel case** of a segment: its non-empty `_`-separated words, each lower-cased,
with the first letter of every word but the first upper-cased. -/
def lowerCamel (seg : List Char) : List Char :=
  match (seg.splitOn '_').filter (· ≠ []) with
  | [] => []
  | w :: ws => w.map Char.toLower ++ ws.flatMap fun v => (v.map Char.toLower).modifyHead Char.toUpper

/-- The characters of a piece are characters of the text it was cut from, when the pieces joined
are the text filtered (as words are of a segment, and segments of a key). -/
theorem mem_of_mem_pieces {pieces : List (List Char)} {p : Char → Bool} {cs : List Char}
    (hflat : pieces.flatten = cs.filter p) {w : List Char} (hw : w ∈ pieces) {c : Char}
    (hc : c ∈ w) : c ∈ cs := by
  have hmem : c ∈ cs.filter p := by
    rw [← hflat]
    exact List.mem_flatten.mpr ⟨w, hw, hc⟩
  exact (List.mem_filter.mp hmem).1

/-- **For an ASCII segment the position rule changes nothing**: at every place `i` of `n`, the
component is the segment's lower camel case. -/
theorem component_of_ascii {seg : List Char} (hseg : ∀ c ∈ seg, c.toNat < 128) (n i : Nat) :
    component n i seg = lowerCamel seg := by
  have hwords : words seg = (seg.splitOn '_').filter (· ≠ []) := rfl
  have hascii : ∀ w ∈ words seg, ∀ c ∈ w, c.toNat < 128 :=
    fun w hw c hc => hseg c (mem_of_mem_pieces (flatten_words seg) hw hc)
  unfold component camelCase lowerCamel
  rw [← hwords]
  cases hws : words seg with
  | nil => rfl
  | cons w ws =>
    dsimp only
    rw [hws] at hascii
    -- the later words are capitalized in both
    have hrest : ws.flatMap (fun v => capitalize (lowerChars v)) =
        ws.flatMap fun v => (v.map Char.toLower).modifyHead Char.toUpper := by
      apply List.flatMap_congr
      intro v hv
      have hv' := hascii v (List.mem_cons_of_mem w hv)
      rw [lowerChars_of_ascii hv', capitalize_map_toLower hv']
    have hw := hascii w List.mem_cons_self
    have hne : w ≠ [] := by
      have hmem : w ∈ (seg.splitOn '_').filter (· ≠ []) := by
        rw [← hwords, hws]
        exact List.mem_cons_self
      simpa using (List.mem_filter.mp hmem).2
    obtain ⟨c, cs, rfl⟩ := List.exists_cons_of_ne_nil hne
    obtain ⟨hlt, hlow, hup, hupLow⟩ := ascii_toLower (hw c List.mem_cons_self)
    rw [hrest, lowerChars_of_ascii hw, List.map_cons]
    -- lowering the first character undoes the capital the first word may have received
    cases capitalizesFirstWord i n with
    | true =>
      rw [if_pos rfl, capitalize, upperChar_of_lt hlt, List.singleton_append, List.cons_append,
        lowerFirst, lowerChar_of_lt hup, hupLow]
      rfl
    | false =>
      rw [if_neg Bool.false_ne_true, List.cons_append, lowerFirst, lowerChar_of_lt hlt, hlow]
      rfl

/-! ## 3. The accessor -/

/-- **The accessor of an ASCII key**: `l10n.` followed by the lower camel cases of the key's
non-empty `.`-separated segments, joined by dots. -/
theorem accessor_of_ascii (key : String) (hkey : ∀ c ∈ key.toList, c.toNat < 128) :
    accessor key = "l10n." ++ ".".intercalate
      (((key.toList.splitOn '.').filter (· ≠ [])).map fun seg => String.ofList (lowerCamel seg)) := by
  have hsegments : segments key.toList = (key.toList.splitOn '.').filter (· ≠ []) := rfl
  have hcomponents : (segments key.toList).mapIdx (component (segments key.toList).length) =
      (segments key.toList).map lowerCamel := by
    have h := map_mapIdx_of_forall (g := id) (h := lowerCamel) (segments key.toList)
      (component (segments key.toList).length) fun i seg hseg =>
        component_of_ascii (fun c hc => hkey c (mem_of_mem_pieces (flatten_segments _) hseg hc)) _ i
    simpa using h
  rw [accessor, accessorChars, hcomponents, ← hsegments,
    ← String.toList_inj, String.toList_ofList, String.toList_append, String.toList_intercalate,
    List.map_map]
  simp [accessorPrefix, Function.comp_def]

theorem accessor_of_ascii_checkout :
    (∀ c ∈ "Checkout.PAY_NOW__button".toList, c.toNat < 128) ∧
      accessor "Checkout.PAY_NOW__button" = "l10n." ++ ".".intercalate
        ((("Checkout.PAY_NOW__button".toList.splitOn '.').filter (· ≠ [])).map
          fun seg => String.ofList (lowerCamel seg)) :=
  ⟨by simp, accessor_of_ascii _ (by simp)⟩

/-- A segment of underscores only has no words but still gives a component. -/
example : accessor "A._" = "l10n.a." := by decide

end Key

end L10nLint
