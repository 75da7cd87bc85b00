/-
Values are read back from what they are written as.

A value is written with a line for each field and each element, two blanks further in for each level
(`Json.text`).  The grammar is followed from left to right as the value is written: a part is read
up to what is written behind it (`value_layout`), and behind a part there is a comma or the end of a
line.

Integers are written in decimal digits.  Doubles are written in the shortest way, and what is said
here is not about them: a value is `Writable` if its numbers are integers of sixty-four bits and no
object in it has two fields of the same name.
-/
import TreeSchema.Binary64.Text
import TreeSchema.Proofs.Entries
import TreeSchema.Proofs.Json.Bounded
import TreeSchema.Proofs.Json.Height
import TreeSchema.Proofs.Json.Syntax.Values
import TreeSchema.Proofs.Text.Decimal

namespace TreeSchema

/-- Decimal digits, with a minus sign in front of them if there is one. -/
def Number.layout : Number → List Char
  | .integer i => (toString i).toList
  | .double x => (DecimalLayout.scientific.text x).toList

namespace Json

/-! ### Writing -/

/-- A character between quotes. -/
def quotedChar (c : Char) : List Char :=
  if c = '"' ∨ c = '\\' then ['\\', c]
  else if isControl c then
    ['\\', 'u', '0', '0', Nat.digitChar (c.toNat / 16), Nat.digitChar (c.toNat % 16)]
  else [c]

/-- A text in quotes. -/
def quoted (s : String) : List Char := '"' :: (s.toList.flatMap quotedChar ++ ['"'])

/-- The end of a line and the blanks in front of the next one. -/
def lineBreak (depth : Nat) : List Char := '\n' :: List.replicate (2 * depth) ' '

mutual

/-- A value as it is written at some levels below the whole document. -/
def layout (depth : Nat) : Json → List Char
  | .null => ['n', 'u', 'l', 'l']
  | .bool true => ['t', 'r', 'u', 'e']
  | .bool false => ['f', 'a', 'l', 's', 'e']
  | .number n => n.layout
  | .string s => quoted s
  | .array elements => '[' :: (elementsLayout depth true elements ++ [']'])
  | .object fields => '\x7b' :: (fieldsLayout depth true fields ++ ['\x7d'])

/-- The elements of an array, of which the first one may be still to come.  The closing bracket
stands on a line of its own, unless there is no element. -/
def elementsLayout (depth : Nat) (first : Bool) : List Json → List Char
  | [] => if first then [] else lineBreak depth
  | v :: rest =>
    (if first then [] else [',']) ++ (lineBreak (depth + 1) ++
      (v.layout (depth + 1) ++ elementsLayout depth false rest))

/-- The fields of an object, of which the first one may be still to come. -/
def fieldsLayout (depth : Nat) (first : Bool) : List (String × Json) → List Char
  | [] => if first then [] else lineBreak depth
  | (name, v) :: rest =>
    (if first then [] else [',']) ++ (lineBreak (depth + 1) ++
      (quoted name ++ (':' :: ' ' :: (v.layout (depth + 1) ++ fieldsLayout depth false rest))))

end

/-- A value as a text of some lines. -/
def text (v : Json) : String := String.ofList (v.layout 0 ++ ['\n'])

/-- All numbers are integers that fit into sixty-four bits, and no object has two fields of the same
name. -/
inductive Writable : Json → Prop where
  | null : Writable .null
  | bool (value : Bool) : Writable (.bool value)
  | integer {i : Int} (hfits : (Number.integer i).Fits) : Writable (.number (.integer i))
  | string (value : String) : Writable (.string value)
  | array {elements : List Json} (helements : ∀ v ∈ elements, Writable v) :
      Writable (.array elements)
  | object {fields : List (String × Json)} (hnames : (Entries.names fields).Nodup)
      (hfields : ∀ field ∈ fields, Writable field.2) : Writable (.object fields)

mutual

/-- Whether a value is writable. -/
def isWritable : Json → Bool
  | .number (.integer i) => decide (-(Nat.pow 2 63 : Int) ≤ i ∧ i < Nat.pow 2 64)
  | .number (.double _) => false
  | .array elements => elementsWritable elements
  | .object fields => decide (Entries.names fields).Nodup && fieldsWritable fields
  | _ => true

/-- Whether all elements are writable. -/
def elementsWritable : List Json → Bool
  | [] => true
  | v :: rest => v.isWritable && elementsWritable rest

/-- Whether the values of all fields are writable. -/
def fieldsWritable : List (String × Json) → Bool
  | [] => true
  | (_, v) :: rest => v.isWritable && fieldsWritable rest

end

lemma elementsWritable_iff {elements : List Json} :
    elementsWritable elements = true ↔ ∀ v ∈ elements, v.isWritable = true := by
  induction elements with
  | nil => simp [elementsWritable]
  | cons v rest ih => simp [elementsWritable, ih]

lemma fieldsWritable_iff {fields : List (String × Json)} :
    fieldsWritable fields = true ↔ ∀ field ∈ fields, field.2.isWritable = true := by
  induction fields with
  | nil => simp [fieldsWritable]
  | cons field rest ih => simp [fieldsWritable, ih]

lemma writable_of_isWritable {v : Json} (h : v.isWritable = true) : v.Writable := by
  match v with
  | .null => exact .null
  | .bool value => exact .bool value
  | .number (.integer i) =>
    rw [isWritable, decide_eq_true_eq] at h
    exact .integer h
  | .number (.double _) => cases h
  | .string value => exact .string value
  | .array elements =>
    rw [isWritable, elementsWritable_iff] at h
    exact .array fun v hv => writable_of_isWritable (h v hv)
  | .object fields =>
    rw [isWritable, Bool.and_eq_true, decide_eq_true_eq, fieldsWritable_iff] at h
    exact .object h.1 fun field hfield => writable_of_isWritable (h.2 field hfield)
  termination_by sizeOf v
  decreasing_by
    · have := List.sizeOf_lt_of_mem hv
      simp only [array.sizeOf_spec]
      omega
    · have := List.sizeOf_lt_of_mem hfield
      obtain ⟨name, v⟩ := field
      simp only [object.sizeOf_spec, Prod.mk.sizeOf_spec] at this ⊢
      omega

open Syntax

/-- What stands behind a value: a comma, the end of a line or nothing. -/
def Follows (rest : List Char) : Prop := ∀ x, rest.head? = some x → x = ',' ∨ x = '\n'

variable {rest : List Char} {depth : Nat}

/-! ### Texts -/

lemma hexDigit?_digitChar {n : Nat} (h : n < 16) :
    Unicode.hexDigit? (Nat.digitChar n) = some n := by
  have hall : ∀ n < 16, Unicode.hexDigit? (Nat.digitChar n) = some n := by decide
  exact hall n h

/-- The escape of a control character stands for it. -/
lemma escape_control {x : Char} (h : isControl x = true) :
    Escape ('u' :: '0' :: '0' :: Nat.digitChar (x.toNat / 16) :: Nat.digitChar (x.toNat % 16) ::
      rest) x rest := by
  have hblank : x < ' ' := by simpa [isControl] using h
  have hlt : x.toNat < 32 := hblank
  have hhigh := hexDigit?_digitChar (show x.toNat / 16 < 16 by omega)
  have hlow := hexDigit?_digitChar (show x.toNat % 16 < 16 by omega)
  have hzero : Unicode.hexDigit? '0' = some 0 := rfl
  have hdigits : HexDigits ['0', '0', Nat.digitChar (x.toNat / 16),
      Nat.digitChar (x.toNat % 16)] := by
    simp [HexDigits, hzero, hhigh, hlow]
  have hvalue : Unicode.hexValue ['0', '0', Nat.digitChar (x.toNat / 16),
      Nat.digitChar (x.toNat % 16)] = x.toNat := by
    simp only [Unicode.hexValue, List.filterMap_cons, hzero, hhigh, hlow, List.filterMap_nil,
      List.foldl_cons, List.foldl_nil]
    omega
  have hescape : Escape _ (Char.ofNat _) rest := .unicode hdigits
    (by simp [hvalue, isLowSurrogate]; omega) (by simp [hvalue, isHighSurrogate]; omega)
  rwa [hvalue, Char.ofNat_toNat] at hescape

/-- The characters of a text are read back. -/
lemma chars_quoted (chars rest : List Char) :
    Chars (chars.flatMap quotedChar ++ '"' :: rest) chars rest := by
  induction chars with
  | nil => exact .close
  | cons x chars ih =>
    rw [List.flatMap_cons, List.append_assoc, quotedChar]
    split
    · next hspecial =>
      refine .escaped (.letter ?_) ih
      rcases hspecial with rfl | rfl <;> rfl
    · next hplain =>
      obtain ⟨hquote, hbackslash⟩ := not_or.mp hplain
      split
      · next hcontrol => exact .escaped (escape_control hcontrol) ih
      · next hcontrol => exact .plain hquote hbackslash (by simpa using hcontrol) ih

/-! ### Numbers -/

/-- The parts of an integer. -/
def integerText (i : Int) : NumberText := ⟨decide (i < 0), Nat.toDigits 10 i.natAbs, none, none⟩

lemma whole_toDigits (n : Nat) : Whole (Nat.toDigits 10 n) := by
  by_cases hn : n = 0
  · exact .inl (by rw [hn]; rfl)
  · exact .inr ⟨⟨Nat.toDigits_ne_nil, fun _ => Text.isDigit_of_mem_toDigits_ten⟩,
      Text.head?_toDigits_ten hn⟩

lemma layout_integer (i : Int) : (Number.integer i).layout =
    (if (integerText i).negative then ['-'] else []) ++ (integerText i).whole := by
  cases i with
  | ofNat n => exact Nat.toList_repr
  | negSucc n =>
    have htext : toString (Int.negSucc n) = "-" ++ Nat.repr (n + 1) := rfl
    rw [Number.layout, htext, String.toList_append, Nat.toList_repr, integerText,
      if_pos (decide_eq_true (Int.negSucc_lt_zero n))]
    rfl

lemma value?_integerText {i : Int} (hfits : (Number.integer i).Fits) :
    (integerText i).value? = some (.integer i) := by
  have hsize : NumberText.digitsValue (Nat.toDigits 10 i.natAbs) = i.natAbs :=
    Text.foldl_toDigits_ten _
  have hpow : Nat.pow 2 63 = 9223372036854775808 ∧ Nat.pow 2 64 = 18446744073709551616 := ⟨rfl, rfl⟩
  obtain ⟨hleast, hmost⟩ := hfits
  have hinteger : (integerText i).integer? = some i := by
    unfold NumberText.integer?
    dsimp only [integerText]
    simp only [hsize, hpow, Option.isSome_none, Bool.or_self, Bool.false_eq_true, if_false,
      decide_eq_true_eq]
    -- there is a minus sign only in front of a number below zero, so never in front of a zero
    split_ifs with hnegative hsmall hsmall
    · rw [Option.some.injEq]
      omega
    · omega
    · rw [Option.some.injEq]
      omega
    · omega
  rw [NumberText.value?, hinteger]

lemma leaf_integer {i : Int} (hfits : (Number.integer i).Fits) (hrest : Follows rest) :
    Leaf ((Number.integer i).layout ++ rest) (.number (.integer i)) rest := by
  have hnumeral : Numeral ((Number.integer i).layout ++ rest) (integerText i) rest := by
    rw [layout_integer, List.append_assoc]
    exact .mk (whole_toDigits _) (.none rest) (.none rest)
  refine .number hnumeral (fun x hx => ?_) (value?_integerText hfits)
  rcases hrest x hx with rfl | rfl <;> simp

/-! ### Values -/

lemma blanks_lineBreak : Blanks (lineBreak depth ++ rest) rest := by
  have hreplicate : ∀ n, Blanks (List.replicate n ' ' ++ rest) rest := by
    intro n
    induction n with
    | zero => exact .none rest
    | succ n ih => exact .more rfl ih
  exact .more rfl (hreplicate _)

/-- What is written in front of an element or a field separates it from what was there before. -/
lemma separator_layout (depth : Nat) (first : Bool) :
    Separator first ((if first then [] else [',']) ++ (lineBreak depth ++ rest)) rest := by
  cases first with
  | true => exact .first blanks_lineBreak
  | false => exact .comma (.none _) blanks_lineBreak

lemma blanks_close (first : Bool) :
    Blanks ((if first then [] else lineBreak depth) ++ rest) rest := by
  cases first with
  | true => exact .none rest
  | false => exact blanks_lineBreak

lemma follows_elementsLayout (vs : List Json) :
    Follows (elementsLayout depth false vs ++ rest) := by
  intro x hx
  cases vs with
  | nil => exact .inr (Option.some.inj hx).symm
  | cons v vs => exact .inl (Option.some.inj hx).symm

lemma follows_fieldsLayout (fields : List (String × Json)) :
    Follows (fieldsLayout depth false fields ++ rest) := by
  intro x hx
  cases fields with
  | nil => exact .inr (Option.some.inj hx).symm
  | cons field fields => exact .inl (Option.some.inj hx).symm

section Brackets

variable {P : List Char → Json → List Char → Prop}

lemma elements_layout {vs : List Json} (first : Bool)
    (h : ∀ v ∈ vs, ∀ rest, Follows rest → P (v.layout (depth + 1) ++ rest) v rest) :
    Elements P first (elementsLayout depth first vs ++ ']' :: rest) vs rest := by
  induction vs generalizing first with
  | nil => exact .close (blanks_close first)
  | cons v vs ih =>
    obtain ⟨hv, hvs⟩ := List.forall_mem_cons.mp h
    -- what stands behind the element are the other ones, or the bracket on a line of its own
    rw [elementsLayout, List.append_assoc, List.append_assoc, List.append_assoc]
    exact .next (separator_layout _ first) (hv _ (follows_elementsLayout vs)) (ih false hvs)

/-- A field as it is written, with its name in quotes. -/
lemma members_field {first : Bool} {name : String} {v : Json} {at_ behind : List Char}
    {fields : List (String × Json)} (hv : P at_ v behind)
    (h : Members P false behind fields rest) :
    Members P first ((if first then [] else [',']) ++ (lineBreak depth ++
      (quoted name ++ ':' :: ' ' :: at_))) ((name, v) :: fields) rest := by
  have hvalue : Blanks (' ' :: at_) at_ := .more rfl (.none at_)
  have hnext := Members.next (separator_layout depth first) (chars_quoted name.toList _) (.none _)
    hvalue hv h
  rw [String.ofList_toList] at hnext
  rw [quoted, List.cons_append, List.append_assoc]
  exact hnext

lemma members_layout {fields : List (String × Json)} (first : Bool)
    (h : ∀ field ∈ fields, ∀ rest, Follows rest →
      P (field.2.layout (depth + 1) ++ rest) field.2 rest) :
    Members P first (fieldsLayout depth first fields ++ '\x7d' :: rest) fields rest := by
  induction fields generalizing first with
  | nil => exact .close (blanks_close first)
  | cons field fields ih =>
    obtain ⟨name, v⟩ := field
    obtain ⟨hv, hfields⟩ := List.forall_mem_cons.mp h
    rw [fieldsLayout]
    simp only [List.append_assoc, List.cons_append]
    exact members_field (hv _ (follows_fieldsLayout fields)) (ih false hfields)

end Brackets

lemma value_of_leaf {text : List Char} {v : Json} (levels : Nat) (h : Leaf text v rest) :
    Value levels text v rest := by
  cases levels with
  | zero => exact h
  | succ levels => exact .inl h

/-- **A value is read up to what is written behind it.** -/
theorem value_layout {v : Json} {levels : Nat} (hv : v.Writable) (hlevels : v.height < levels)
    (hrest : Follows rest) : Value levels (v.layout depth ++ rest) v rest := by
  induction hv generalizing levels depth rest with
  | null => exact value_of_leaf levels (.null rest)
  | bool value =>
    cases value with
    | true => exact value_of_leaf levels (.true rest)
    | false => exact value_of_leaf levels (.false rest)
  | integer hfits => exact value_of_leaf levels (leaf_integer hfits hrest)
  | string value =>
    have hleaf := Leaf.string (chars_quoted value.toList rest)
    rw [String.ofList_toList] at hleaf
    rw [layout, quoted, List.cons_append, List.append_assoc]
    exact value_of_leaf levels hleaf
  | @array elements _ ih =>
    obtain ⟨levels, rfl⟩ := Nat.exists_eq_add_one_of_ne_zero (Nat.ne_zero_of_lt hlevels)
    rw [layout, List.cons_append, List.append_assoc]
    refine .inr (.array (elements_layout true fun v hv rest hrest => ?_))
    have hlt := height_lt_elementsHeight hv
    rw [height] at hlevels
    exact ih v hv (by omega) hrest
  | @object fields hnames _ ih =>
    obtain ⟨levels, rfl⟩ := Nat.exists_eq_add_one_of_ne_zero (Nat.ne_zero_of_lt hlevels)
    have hmembers : Members (Value levels) true
        (fieldsLayout depth true fields ++ '\x7d' :: rest) fields rest := by
      refine members_layout true fun field hfield rest hrest => ?_
      have hlt := height_lt_fieldsHeight hfield
      rw [height] at hlevels
      exact ih field hfield (by omega) hrest
    -- the names are different, so no field takes the place of another one
    have hobject := Bracketed.object hmembers
    rw [Entries.ofList_of_nodup hnames] at hobject
    rw [layout, List.cons_append, List.append_assoc]
    exact .inr hobject

/-- **A document is read back from what it is written as.** -/
theorem isDocument_text {v : Json} (hv : v.Writable) (hlevels : v.height < maxLevels) :
    IsDocument v.text v := by
  refine ⟨['\n'], ⟨v.text.toList, .none _, ?_⟩, .more rfl (.none [])⟩
  rw [text, String.toList_ofList]
  exact value_layout hv hlevels fun x hx => .inr (Option.some.inj hx).symm

end Json

end TreeSchema
