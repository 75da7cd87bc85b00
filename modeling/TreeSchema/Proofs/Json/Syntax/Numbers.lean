/-
Numbers are read as the grammar has them.

The reader takes as many digits as there are, so it finds the one way to take a number apart after
which the number does not go on (`scan_eq_ok_iff`).
-/
import TreeSchema.Proofs.Json.Syntax.Texts

namespace TreeSchema

namespace Json

namespace Syntax

open NumberText

/-! ### Digits -/

section Digits

variable {c : Cursor} {digits rest : List Char}

/-- The text does not begin with a digit. -/
def NoDigit (text : List Char) : Prop := ∀ x, text.head? = some x → x.isDigit = false

@[simp] lemma noDigit_nil : NoDigit [] := by
  intro x hx
  cases hx

@[simp] lemma noDigit_cons_iff {x : Char} : NoDigit (x :: rest) ↔ x.isDigit = false := by
  simp [NoDigit]

lemma noDigit_dropWhile (text : List Char) : NoDigit (text.dropWhile Char.isDigit) := by
  intro x hx
  have hfirst := List.head?_dropWhile_not Char.isDigit text
  rw [hx] at hfirst
  simpa using hfirst

/-- All digits are taken, and nothing else. -/
lemma takeWhile_isDigit (hdigits : ∀ d ∈ digits, d.isDigit = true) (hrest : NoDigit rest) :
    (digits ++ rest).takeWhile Char.isDigit = digits := by
  have hnone : rest.takeWhile Char.isDigit = [] := by
    cases rest with
    | nil => rfl
    | cons x rest => simp [noDigit_cons_iff.mp hrest]
  rw [List.takeWhile_append_of_pos hdigits, hnone, List.append_nil]

lemma scanDigits_eq_ok_iff : scanDigits c = .ok digits ↔
    ∃ rest, c.rest = digits ++ rest ∧ Digits digits ∧ NoDigit rest := by
  unfold scanDigits
  constructor
  · intro h
    split at h
    · cases h
    · next d text hrest =>
      split at h
      · next hd =>
        cases h
        refine ⟨_, List.takeWhile_append_dropWhile.symm, ⟨?_, ?_⟩, noDigit_dropWhile _⟩
        · simp [hrest, hd]
        · exact List.all_eq_true.mp List.all_takeWhile
      · cases h
  · rintro ⟨rest, hrest, ⟨hne, hdigits⟩, hend⟩
    obtain ⟨d, digits, rfl⟩ := List.exists_cons_of_ne_nil hne
    have hd : d.isDigit = true := hdigits d List.mem_cons_self
    split
    · next hnil => simp [hrest] at hnil
    · next d' text hcons =>
      obtain rfl : d = d' := by
        rw [hrest] at hcons
        exact (List.cons.inj hcons).1
      rw [if_pos hd, hrest, takeWhile_isDigit hdigits hend]

lemma digit_of_whole (h : Whole digits) : ∃ d behind, digits = d :: behind ∧ d.isDigit = true := by
  rcases h with rfl | ⟨⟨hne, hdigits⟩, -⟩
  · exact ⟨'0', [], rfl, rfl⟩
  · obtain ⟨d, behind, rfl⟩ := List.exists_cons_of_ne_nil hne
    exact ⟨d, behind, rfl, hdigits d List.mem_cons_self⟩

/-- Nothing stands behind a leading zero. -/
lemma whole_of_zero {text : List Char} (h : '0' :: text = digits ++ rest) (hwhole : Whole digits) :
    digits = ['0'] ∧ text = rest := by
  rcases hwhole with rfl | ⟨⟨hne, -⟩, hzero⟩
  · exact ⟨rfl, List.tail_eq_of_cons_eq h⟩
  · obtain ⟨d, digits, rfl⟩ := List.exists_cons_of_ne_nil hne
    exact absurd (congrArg some (List.cons.inj h).1.symm) hzero

lemma whole_iff_digits (hzero : digits.head? ≠ some '0') : Whole digits ↔ Digits digits := by
  constructor
  · rintro (rfl | h)
    · exact absurd rfl hzero
    · exact h.1
  · exact fun h => .inr ⟨h, hzero⟩

lemma scanWhole_of_zero {text : List Char} (h : c.rest = '0' :: text) :
    scanWhole c = .ok digits ↔ ['0'] = digits ∧ NoDigit text := by
  have hend : (text.head?.map Char.isDigit).getD false = true ↔ ¬ NoDigit text := by
    cases text <;> simp
  simp only [scanWhole, h]
  split
  · next hdigit => simp [hend.mp hdigit, Cursor.failAtNext]
  · next hdigit => simp [not_not.mp (mt hend.mpr hdigit)]

lemma scanWhole_of_ne (h : c.peek? ≠ some '0') : scanWhole c = scanDigits c := by
  unfold scanWhole scanDigits
  split
  · next hnil => simp only [hnil]
  · next hzero => exact absurd (by rw [Cursor.peek?, hzero, List.head?_cons]) h
  · next hrest => simp only [hrest]

lemma scanWhole_eq_ok_iff : scanWhole c = .ok digits ↔
    ∃ rest, c.rest = digits ++ rest ∧ Whole digits ∧ NoDigit rest := by
  by_cases hzero : c.peek? = some '0'
  · obtain ⟨text, hrest⟩ := List.head?_eq_some_iff.mp hzero
    rw [scanWhole_of_zero hrest, hrest]
    constructor
    · rintro ⟨rfl, hend⟩
      exact ⟨text, rfl, .inl rfl, hend⟩
    · rintro ⟨rest, happend, hwhole, hend⟩
      obtain ⟨rfl, rfl⟩ := whole_of_zero happend hwhole
      exact ⟨rfl, hend⟩
  · rw [scanWhole_of_ne hzero, scanDigits_eq_ok_iff]
    refine exists_congr fun rest => and_congr_right fun happend => ?_
    rw [whole_iff_digits]
    intro hfirst
    obtain ⟨behind, rfl⟩ := List.head?_eq_some_iff.mp hfirst
    exact hzero (by rw [Cursor.peek?, happend, List.cons_append, List.head?_cons])

end Digits

/-! ### The parts of a number -/

section Parts

variable {c : Cursor} {fraction : Option (List Char)} {exponent : Option ExponentText}
  {rest : List Char} {n : NumberText}

/-- A fraction does not go on with the rest. -/
def FractionEnds : Option (List Char) → List Char → Prop
  | none, rest => rest.head? ≠ some '.'
  | some _, rest => NoDigit rest

/-- An exponent does not go on with the rest. -/
def ExponentEnds : Option ExponentText → List Char → Prop
  | none, rest => rest.head? ≠ some 'e' ∧ rest.head? ≠ some 'E'
  | some _, rest => NoDigit rest

lemma scanFraction_eq_ok_iff : scanFraction c = .ok fraction ↔
    ∃ rest, Fraction c.rest fraction rest ∧ FractionEnds fraction rest := by
  unfold scanFraction
  split
  · next hpoint =>
    obtain ⟨text, hrest⟩ := List.head?_eq_some_iff.mp hpoint
    rw [functor_map_eq_ok_iff, hrest]
    constructor
    · rintro ⟨digits, hscan, rfl⟩
      obtain ⟨rest, hdigits, h, hend⟩ := scanDigits_eq_ok_iff.mp hscan
      obtain rfl : text = digits ++ rest := by simpa [hrest] using hdigits
      exact ⟨rest, .some rest h, hend⟩
    · rintro ⟨rest, _ | ⟨rest, h⟩, hend⟩
      · exact absurd rfl hend
      · exact ⟨_, scanDigits_eq_ok_iff.mpr ⟨rest, by simp [hrest], h, hend⟩, rfl⟩
  · next hpoint =>
    constructor
    · intro h
      cases h
      exact ⟨_, .none _, hpoint⟩
    · rintro ⟨rest, h, hend⟩
      generalize htext : c.rest = text at h
      cases h with
      | none => rfl
      | some rest h => exact absurd (by rw [Cursor.peek?, htext]; rfl) hpoint

/-- The sign in front of digits. -/
def sign? (text : List Char) : Option Char := text.head?.filter fun x => x == '+' || x == '-'

/-- What stands behind the sign. -/
def unsigned (text : List Char) : List Char := if (sign? text).isSome then text.tail else text

lemma sign?_append_unsigned (text : List Char) : (sign? text).toList ++ unsigned text = text := by
  cases text with
  | nil => rfl
  | cons x text =>
    by_cases hx : (x == '+' || x == '-') = true <;> simp [unsigned, sign?, Option.filter, hx]

lemma sign_of_sign? {text : List Char} {x : Char} (h : sign? text = some x) :
    x = '+' ∨ x = '-' := by
  simpa using (Option.filter_eq_some_iff.mp h).2

/-- Digits are told from signs. -/
lemma sign?_append {sign : Option Char} {digits : List Char}
    (hsign : ∀ x, sign = some x → x = '+' ∨ x = '-') (h : Digits digits) :
    sign? (sign.toList ++ (digits ++ rest)) = sign := by
  cases sign with
  | some x => rcases hsign x rfl with rfl | rfl <;> rfl
  | none =>
    obtain ⟨d, digits, rfl⟩ := List.exists_cons_of_ne_nil h.1
    have hd : d.isDigit = true := h.2 d List.mem_cons_self
    have hplus : d ≠ '+' := by
      rintro rfl
      cases hd
    have hminus : d ≠ '-' := by
      rintro rfl
      cases hd
    simp [sign?, Option.filter, hplus, hminus]

lemma exponent_cons_iff {mark : Char} {text : List Char} (hmark : mark = 'e' ∨ mark = 'E') :
    Exponent (mark :: text) exponent rest ∧ ExponentEnds exponent rest ↔
      ∃ digits, (unsigned text = digits ++ rest ∧ Digits digits ∧ NoDigit rest) ∧
        some ⟨sign? text, digits⟩ = exponent := by
  constructor
  · rintro ⟨h, hend⟩
    cases h with
    | none =>
      simp only [ExponentEnds, List.head?_cons, ne_eq, Option.some.injEq] at hend
      exact absurd hmark (not_or.mpr hend)
    | @some _ sign digits _ _ hsign h =>
      have htext := sign?_append_unsigned (sign.toList ++ (digits ++ rest))
      rw [sign?_append hsign h] at htext ⊢
      exact ⟨digits, ⟨List.append_cancel_left htext, h, hend⟩, rfl⟩
  · rintro ⟨digits, ⟨hdigits, h, hend⟩, rfl⟩
    have hexponent : Exponent (mark :: ((sign? text).toList ++ (digits ++ rest)))
        (some ⟨sign? text, digits⟩) rest := .some rest hmark (fun _ => sign_of_sign?) h
    rw [← hdigits, sign?_append_unsigned] at hexponent
    exact ⟨hexponent, hend⟩

lemma scanExponent_eq_ok_iff : scanExponent c = .ok exponent ↔
    ∃ rest, Exponent c.rest exponent rest ∧ ExponentEnds exponent rest := by
  unfold scanExponent
  split
  · next hmark =>
    obtain ⟨mark, text, hrest, hmark⟩ : ∃ mark text, c.rest = mark :: text ∧
        (mark = 'e' ∨ mark = 'E') := by
      rcases hmark with h | h
      all_goals
        obtain ⟨text, hrest⟩ := List.head?_eq_some_iff.mp h
        exact ⟨_, text, hrest, by simp⟩
    have hsign : (c.tail.peek?.filter fun x => x == '+' || x == '-') = sign? text := by
      simp [sign?, Cursor.peek?, hrest]
    have hunsigned :
        (if (sign? text).isSome then c.tail.tail else c.tail).rest = unsigned text := by
      rw [unsigned, apply_ite Cursor.rest]
      simp [hrest]
    rw [functor_map_eq_ok_iff, hsign]
    simp only [scanDigits_eq_ok_iff, hunsigned, hrest, exponent_cons_iff hmark,
      ← exists_and_right]
    exact exists_comm
  · next hmark =>
    constructor
    · intro h
      cases h
      exact ⟨_, .none _, not_or.mp hmark⟩
    · rintro ⟨rest, h, hend⟩
      generalize htext : c.rest = text at h
      cases h with
      | none => rfl
      | some rest hmark' =>
        simp only [Cursor.peek?, htext, List.head?_cons, Option.some.injEq] at hmark
        exact absurd hmark' hmark

/-! ### How much a number takes -/

lemma append_of_fraction {text : List Char} (h : Fraction text fraction rest) :
    ∃ front, text = front ++ rest ∧ front.length = fractionLength fraction := by
  cases h with
  | none => exact ⟨[], rfl, rfl⟩
  | @some digits _ h => exact ⟨'.' :: digits, rfl, rfl⟩

/-- How many characters an exponent takes. -/
def exponentLength : Option ExponentText → Nat
  | none => 0
  | some e => ExponentText.lead e + e.digits.length

lemma append_of_exponent {text : List Char} (h : Exponent text exponent rest) :
    ∃ front, text = front ++ rest ∧ front.length = exponentLength exponent := by
  cases h with
  | none => exact ⟨[], rfl, rfl⟩
  | @some mark sign digits _ hmark hsign h =>
    refine ⟨mark :: (sign.toList ++ digits), by simp, ?_⟩
    cases sign <;> simp [exponentLength, ExponentText.lead] <;> omega

/-- Whether a number goes on can be told part by part. -/
lemma ends_iff {behind behind' : List Char} (hfraction : Fraction behind n.fraction behind')
    (hexponent : Exponent behind' n.exponent rest) : Ends n rest ↔
      NoDigit behind ∧ FractionEnds n.fraction behind' ∧ ExponentEnds n.exponent rest := by
  obtain ⟨negative, whole, fraction, exponent⟩ := n
  cases hexponent with
  | none rest =>
    cases hfraction <;> cases rest <;> simp [Ends, FractionEnds, ExponentEnds]
    tauto
  | @some mark sign digits rest hmark hsign h =>
    have hdigit : mark.isDigit = false := by rcases hmark with rfl | rfl <;> rfl
    have hpoint : mark ≠ '.' := by rcases hmark with rfl | rfl <;> decide
    cases hfraction <;> cases rest <;> simp [Ends, FractionEnds, ExponentEnds, hdigit, hpoint]

lemma numeral_iff {text : List Char} : Numeral text n rest ↔ ∃ behind behind', Whole n.whole ∧
    text = (if n.negative then ['-'] else []) ++ (n.whole ++ behind) ∧
      Fraction behind n.fraction behind' ∧ Exponent behind' n.exponent rest := by
  constructor
  · rintro ⟨hwhole, hfraction, hexponent⟩
    exact ⟨_, _, hwhole, rfl, hfraction, hexponent⟩
  · rintro ⟨behind, behind', hwhole, rfl, hfraction, hexponent⟩
    exact ⟨hwhole, hfraction, hexponent⟩

lemma append_of_numeral {text : List Char} (h : Numeral text n rest) :
    ∃ front, text = front ++ rest ∧ front.length = n.length := by
  obtain ⟨behind, behind', -, rfl, hfraction, hexponent⟩ := numeral_iff.mp h
  obtain ⟨point, rfl, hpoint⟩ := append_of_fraction hfraction
  obtain ⟨power, rfl, hpower⟩ := append_of_exponent hexponent
  refine ⟨(if n.negative then ['-'] else []) ++ n.whole ++ point ++ power, by simp, ?_⟩
  have hlength : n.length = n.lengthToExponent + exponentLength n.exponent := by
    cases hexponent' : n.exponent <;> simp [length, exponentLength, hexponent']
  rw [hlength, lengthToExponent, ← hpoint, ← hpower]
  cases n.negative <;> simp <;> omega

lemma rest_drop_fractionLength (h : Fraction c.rest fraction rest) :
    (c.drop (fractionLength fraction)).rest = rest := by
  obtain ⟨front, hfront, hlength⟩ := append_of_fraction h
  rw [← hlength]
  exact Cursor.rest_drop_length hfront

/-! ### Whole numbers -/

/-- Where the digits of a number begin. -/
def wholeAt (c : Cursor) : Cursor := if c.peek? == some '-' then c.tail else c

lemma rest_eq_append_wholeAt :
    c.rest = (if c.peek? == some '-' then ['-'] else []) ++ (wholeAt c).rest := by
  unfold wholeAt
  split
  · next hminus =>
    obtain ⟨text, hrest⟩ := List.head?_eq_some_iff.mp (eq_of_beq hminus)
    simp [hrest]
  · rfl

/-- A number is negative just when it begins with a minus sign. -/
lemma wholeAt_of_append {negative : Bool} {digits behind : List Char} (hwhole : Whole digits)
    (h : c.rest = (if negative then ['-'] else []) ++ (digits ++ behind)) :
    (c.peek? == some '-') = negative ∧ (wholeAt c).rest = digits ++ behind := by
  have hminus : (c.peek? == some '-') = negative := by
    cases negative with
    | true => simp [Cursor.peek?, h]
    | false =>
      obtain ⟨d, digits, rfl, hd⟩ := digit_of_whole hwhole
      have hne : d ≠ '-' := by
        rintro rfl
        cases hd
      simp [Cursor.peek?, h, hne]
  refine ⟨hminus, ?_⟩
  have hrest := rest_eq_append_wholeAt (c := c)
  rw [hminus, h] at hrest
  exact (List.append_cancel_left hrest).symm

/-- Numbers are read as the grammar has them. -/
theorem scan_eq_ok_iff : scan c = .ok n ↔ ∃ rest, Numeral c.rest n rest ∧ Ends n rest := by
  have hwholeAt : (if c.peek? == some '-' then c.tail else c) = wholeAt c := rfl
  simp only [scan, bind_eq_ok_iff, pure_eq_ok_iff, scanWhole_eq_ok_iff, scanFraction_eq_ok_iff,
    scanExponent_eq_ok_iff, hwholeAt]
  constructor
  · rintro ⟨whole, ⟨behind, hrest, hwhole, hend⟩, fraction, ⟨behind', hfraction, hend'⟩, exponent,
      ⟨rest, hexponent, hend''⟩, rfl⟩
    have hbehind := Cursor.rest_drop_length hrest
    have hbehind' := rest_drop_fractionLength hfraction
    rw [hbehind] at hfraction
    rw [hbehind'] at hexponent
    refine ⟨rest, ?_, (ends_iff hfraction hexponent).mpr ⟨hend, hend', hend''⟩⟩
    rw [rest_eq_append_wholeAt (c := c), hrest]
    exact numeral_iff.mpr ⟨behind, behind', hwhole, rfl, hfraction, hexponent⟩
  · rintro ⟨rest, h, hends⟩
    -- the parts of the number are where the reader looks for them, one after the other
    obtain ⟨behind, behind', hwhole, hrest, hfraction, hexponent⟩ := numeral_iff.mp h
    obtain ⟨hend, hend', hend''⟩ := (ends_iff hfraction hexponent).mp hends
    obtain ⟨hminus, hat⟩ := wholeAt_of_append hwhole hrest
    have hbehind := Cursor.rest_drop_length hat
    rw [← hbehind] at hfraction
    have hbehind' := rest_drop_fractionLength hfraction
    rw [← hbehind'] at hexponent
    exact ⟨n.whole, ⟨behind, hat, hwhole, hend⟩, n.fraction, ⟨behind', hfraction, hend'⟩,
      n.exponent, ⟨rest, hexponent, hend''⟩, by rw [hminus]⟩

/-- There is one way to take a number apart. -/
lemma numeral_and_ends_iff :
    Numeral c.rest n rest ∧ Ends n rest ↔ scan c = .ok n ∧ (c.drop n.length).rest = rest := by
  have hrest : ∀ rest, Numeral c.rest n rest → (c.drop n.length).rest = rest := by
    intro rest h
    obtain ⟨front, hfront, hlength⟩ := append_of_numeral h
    rw [← hlength]
    exact Cursor.rest_drop_length hfront
  rw [scan_eq_ok_iff]
  constructor
  · rintro ⟨h, hends⟩
    exact ⟨⟨rest, h, hends⟩, hrest rest h⟩
  · rintro ⟨⟨behind, h, hends⟩, rfl⟩
    rw [hrest behind h]
    exact ⟨h, hends⟩

/-- A number begins with a minus sign or a digit. -/
lemma cons_of_numeral {text : List Char} (h : Numeral text n rest) :
    ∃ x behind, text = x :: behind ∧ (x = '-' ∨ x.isDigit = true) := by
  obtain ⟨behind, -, hwhole, rfl, -, -⟩ := numeral_iff.mp h
  obtain ⟨d, digits, hdigits, hd⟩ := digit_of_whole hwhole
  rw [hdigits]
  cases n.negative with
  | true => exact ⟨'-', _, rfl, .inl rfl⟩
  | false => exact ⟨d, _, rfl, .inr hd⟩

/-- Numbers are read as the grammar has them, unless they are out of range. -/
lemma leaves_readNumber {value : Number} : Leaves (readNumber c) value rest ↔
    ∃ n, Numeral c.rest n rest ∧ Ends n rest ∧ n.value? = some value := by
  simp only [← and_assoc, numeral_and_ends_iff]
  unfold readNumber
  split
  · next hscan => simp [hscan]
  · next text hscan =>
    split
    · next hvalue => simp [hscan, hvalue, Cursor.failHere]
    · next hvalue => simp [hscan, hvalue, and_comm]

end Parts

end Syntax

end Json

end TreeSchema
