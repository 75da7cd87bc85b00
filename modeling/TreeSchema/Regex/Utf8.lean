/-
Ranges of characters as sequences of ranges of bytes.

The UTF-8 forms of the characters of a range are a union of products of ranges of bytes: in
each product every byte is free to run through its range.  `Utf8.sequences` lists such
products in order.  A range is divided until it is one product, which is so

* when its characters have forms of one length, and
* when, at each byte but the first, either all bytes before it are fixed or it and all after
  it run through all they can be.
-/
import TreeSchema.Regex.Ranges

namespace TreeSchema

namespace Utf8

/-- The bytes of the form of a code point. -/
def encode (n : Nat) : List Nat :=
  if n ≤ 0x7F then [n]
  else if n ≤ 0x7FF then [0xC0 + n / 64, 0x80 + n % 64]
  else if n ≤ 0xFFFF then [0xE0 + n / 4096, 0x80 + n / 64 % 64, 0x80 + n % 64]
  else [0xF0 + n / 262144, 0x80 + n / 4096 % 64, 0x80 + n / 64 % 64, 0x80 + n % 64]

/-- The last code points with forms of one, two and three bytes. -/
def lastOfLength : List Nat := [0x7F, 0x7FF, 0xFFFF]

/-- Where a range is divided so that the bytes behind some byte, which have `size` forms, run
through all they can be wherever that byte is not fixed: the last point of the first part. -/
def blockEnd? (low high size : Nat) : Option Nat :=
  if high / size ≤ low / size then none
  else if low % size ≠ 0 then some (low / size * size + (size - 1))
  else if high % size ≠ size - 1 then some (high / size * size - 1)
  else none

/-- Where a range is divided that is not one product: the last point of the first part. -/
def splitPoint? (low high : Nat) : Option Nat :=
  match lastOfLength.find? fun last => low ≤ last && last < high with
  | some last => some last
  | none =>
    if high ≤ 0x7F then none
    else [64, Nat.pow 64 2, Nat.pow 64 3].findSome? (blockEnd? low high)

theorem blockEnd?_bounds {low high size last : Nat} (h : blockEnd? low high size = some last) :
    low ≤ last ∧ last < high := by
  unfold blockEnd? at h
  by_cases hdiv : high / size ≤ low / size
  · rw [if_pos hdiv] at h
    exact absurd h (by simp)
  · rw [if_neg hdiv] at h
    have hsize : 0 < size := by
      rcases Nat.eq_zero_or_pos size with rfl | hpos
      · exact absurd (by simp) hdiv
      · exact hpos
    have hstep : (low / size + 1) * size ≤ high / size * size :=
      Nat.mul_le_mul_right size (by omega)
    rw [Nat.succ_mul] at hstep
    have hlow := Nat.div_add_mod' low size
    have hhigh := Nat.div_add_mod' high size
    have hmod := Nat.mod_lt low hsize
    split at h
    · cases h
      omega
    · split at h
      · cases h
        omega
      · exact absurd h (by simp)

theorem splitPoint?_bounds {low high last : Nat} (h : splitPoint? low high = some last) :
    low ≤ last ∧ last < high := by
  unfold splitPoint? at h
  split at h
  · next found hfound =>
    cases h
    simpa using List.find?_some hfound
  · split at h
    · exact absurd h (by simp)
    · obtain ⟨size, _, hsize⟩ := List.exists_of_findSome?_eq_some h
      exact blockEnd?_bounds hsize

/-- The products of ranges of bytes that make up the forms of a range of code points. -/
def sequences (low high : Nat) : List Ranges :=
  match h : splitPoint? low high with
  | some last =>
    have := splitPoint?_bounds h
    sequences low last ++ sequences (last + 1) high
  | none => [(encode low).zip (encode high)]
  termination_by high - low

/-- The products for several ranges, in order. -/
def allSequences (ranges : Ranges) : List Ranges := ranges.flatMap fun r => sequences r.1 r.2

end Utf8

end TreeSchema
