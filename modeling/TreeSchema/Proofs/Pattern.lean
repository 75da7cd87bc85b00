/-
Patterns of one text.

An expression that is made of the characters of a word matches the stretches where the word stands,
and with an anchor at each end it is found in the word and in no other text (`admits_exact_iff`).
-/
import TreeSchema.Pattern
import TreeSchema.Proofs.Regex.Search

namespace TreeSchema

namespace Regex

variable {text word : List Char} {r s : Regex} {rs : List Regex} {i j : Nat}

lemma matches_empty_iff : Matches text .empty i j ↔ i ≤ text.length ∧ i = j := by
  constructor
  · rintro ⟨hi⟩
    exact ⟨hi, rfl⟩
  · rintro ⟨hi, rfl⟩
    exact .empty hi

lemma matches_concat_iff :
    Matches text (.concat r s) i j ↔ ∃ k, Matches text r i k ∧ Matches text s k j := by
  constructor
  · rintro (_ | _ | _ | ⟨hr, hs⟩)
    exact ⟨_, hr, hs⟩
  · rintro ⟨_, hr, hs⟩
    exact .concat hr hs

lemma matches_either_iff :
    Matches text (.either r s) i j ↔ Matches text r i j ∨ Matches text s i j := by
  constructor
  · rintro (_ | _ | _ | _ | hr | hs)
    · exact .inl hr
    · exact .inr hs
  · rintro (hr | hs)
    · exact .left hr
    · exact .right hs

lemma matches_assert_iff {a : Assertion} :
    Matches text (.assert a) i j ↔
      (i ≤ text.length ∧ a.holds (before text i) text[i]? = true) ∧ i = j := by
  constructor
  · rintro (_ | _ | ⟨hi, hholds⟩)
    exact ⟨⟨hi, hholds⟩, rfl⟩
  · rintro ⟨⟨hi, hholds⟩, rfl⟩
    exact .assert hi hholds

lemma matches_ofChar_iff {c : Char} :
    Matches text (ofChar c) i j ↔ text[i]? = some c ∧ j = i + 1 := by
  constructor
  · rintro (_ | ⟨hc, hmem⟩)
    exact ⟨CharSet.has_single.mp hmem ▸ hc, rfl⟩
  · rintro ⟨hc, rfl⟩
    exact .char hc (CharSet.has_single.mpr rfl)

/-- Of several expressions in a row, the first one matches first. -/
lemma matches_concats_cons_iff :
    Matches text (concats (r :: rs)) i j ↔
      ∃ k, Matches text r i k ∧ Matches text (concats rs) k j := by
  cases rs with
  | nil =>
    simp only [concats, matches_empty_iff]
    constructor
    · intro h
      exact ⟨j, h, h.bounds.2, rfl⟩
    · rintro ⟨_, h, -, rfl⟩
      exact h
  | cons => exact matches_concat_iff

/-- Of several expressions in a row, the front matches in front of the rest. -/
lemma matches_concats_append_iff {front : List Regex} :
    Matches text (concats (front ++ rs)) i j ↔
      ∃ k, Matches text (concats front) i k ∧ Matches text (concats rs) k j := by
  induction front generalizing i with
  | nil =>
    simp only [List.nil_append, concats, matches_empty_iff]
    constructor
    · intro h
      exact ⟨i, ⟨h.bounds.1, rfl⟩, h⟩
    · rintro ⟨_, ⟨-, rfl⟩, h⟩
      exact h
  | cons r front ih =>
    simp only [List.cons_append, matches_concats_cons_iff, ih]
    constructor
    · rintro ⟨l, hr, k, hfront, hrest⟩
      exact ⟨k, ⟨l, hr, hfront⟩, hrest⟩
    · rintro ⟨k, ⟨l, hr, hfront⟩, hrest⟩
      exact ⟨l, hr, k, hfront, hrest⟩

/-- A word matches the stretches where it stands. -/
lemma matches_ofText_iff :
    Matches text (ofText word) i j ↔
      i ≤ text.length ∧ word <+: text.drop i ∧ j = i + word.length := by
  induction word generalizing i with
  | nil => simp [ofText, concats, matches_empty_iff, eq_comm]
  | cons c word ih =>
    have hcons : Matches text (ofText (c :: word)) i j ↔
        text[i]? = some c ∧ Matches text (ofText word) (i + 1) j := by
      simp [ofText, matches_concats_cons_iff, matches_ofChar_iff]
    rw [hcons, ih]
    constructor
    · rintro ⟨hc, hi, hword, rfl⟩
      obtain ⟨hlt, hc⟩ := List.getElem?_eq_some_iff.mp hc
      refine ⟨Nat.le_of_lt hlt, ?_, ?_⟩
      · rw [List.drop_eq_getElem_cons hlt, List.cons_prefix_cons]
        exact ⟨hc.symm, hword⟩
      · rw [List.length_cons]
        omega
    · rintro ⟨hi, hword, rfl⟩
      have hlt : i < text.length := by
        have hle := hword.length_le
        rw [List.length_drop, List.length_cons] at hle
        omega
      rw [List.drop_eq_getElem_cons hlt, List.cons_prefix_cons] at hword
      refine ⟨List.getElem?_eq_some_iff.mpr ⟨hlt, hword.1.symm⟩, hlt, hword.2, ?_⟩
      rw [List.length_cons]
      omega

/-- A word matches as a whole no other text. -/
lemma matchesAll_ofText_iff : (ofText word).matchesAll text ↔ text = word := by
  rw [matchesAll, matches_ofText_iff, List.drop_zero, Nat.zero_add]
  constructor
  · rintro ⟨-, hword, hlength⟩
    exact (hword.eq_of_length hlength.symm).symm
  · rintro rfl
    exact ⟨Nat.zero_le _, List.prefix_rfl, rfl⟩

lemma matches_textStart_iff : Matches text (.assert .textStart) i j ↔ i = 0 ∧ j = 0 := by
  have hstart : i ≤ text.length → (before text i = none ↔ i = 0) := by
    intro hi
    unfold before
    split
    · simp_all
    · rw [List.getElem?_eq_none_iff]
      omega
  rw [matches_assert_iff]
  simp only [Assertion.holds, Option.isNone_iff_eq_none]
  constructor
  · rintro ⟨⟨hi, hbefore⟩, rfl⟩
    exact ⟨(hstart hi).mp hbefore, (hstart hi).mp hbefore⟩
  · rintro ⟨rfl, rfl⟩
    exact ⟨⟨Nat.zero_le _, rfl⟩, rfl⟩

lemma matches_textEnd_iff :
    Matches text (.assert .textEnd) i j ↔ i = text.length ∧ j = text.length := by
  rw [matches_assert_iff]
  simp only [Assertion.holds, Option.isNone_iff_eq_none, List.getElem?_eq_none_iff]
  omega

/-- A word between anchors matches the word from its beginning to its end, and nothing else. -/
lemma matches_exactly_iff :
    Matches text (exactly word) i j ↔ text = word ∧ i = 0 ∧ j = text.length := by
  simp only [exactly, matches_concat_iff, matches_textStart_iff, matches_ofText_iff,
    matches_textEnd_iff]
  constructor
  · rintro ⟨_, ⟨rfl, rfl⟩, _, ⟨-, hword, hlength⟩, rfl, rfl⟩
    rw [List.drop_zero] at hword
    exact ⟨(hword.eq_of_length (by omega)).symm, rfl, rfl⟩
  · rintro ⟨rfl, rfl, rfl⟩
    exact ⟨0, ⟨rfl, rfl⟩, _, ⟨Nat.zero_le _, List.prefix_rfl, rfl⟩, Nat.zero_add _, rfl⟩

lemma foundIn_exactly_iff : (exactly word).FoundIn text ↔ text = word := by
  simp [FoundIn, matches_exactly_iff]

lemma ordered_concats (h : ∀ r ∈ rs, r.Ordered) : (concats rs).Ordered := by
  induction rs with
  | nil => trivial
  | cons r rs ih =>
    obtain ⟨hr, hrs⟩ := List.forall_mem_cons.mp h
    cases rs with
    | nil => exact hr
    | cons => exact ⟨hr, ih hrs⟩

lemma ordered_exactly : (exactly word).Ordered := by
  have hword : (ofText word).Ordered := ordered_concats (by simp [ofChar, Ordered])
  exact ⟨trivial, hword, trivial⟩

end Regex

namespace Pattern

/-- **The pattern of one text admits this text and no other.** -/
theorem admits_exact_iff {literal text : String} :
    (exact literal).admits text = true ↔ text = literal := by
  rw [admits, exact, Regex.foundIn_iff Regex.ordered_exactly, Regex.foundIn_exactly_iff,
    String.toList_inj]

end Pattern

end TreeSchema
