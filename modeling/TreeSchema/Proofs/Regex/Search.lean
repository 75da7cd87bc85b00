/-
Searching decides whether an expression is found.

The search moves marks on the places of a text.  What a step of it has to do is said by a relation
on places: the step *leads* along the relation if the places marked after it are just those that
the relation has some marked place lead to (`Marks.Leads`).  Steps made one after the other lead
along the composed relations, a step repeated leads along a number of rounds, and adding marks until
none is new leads along any number of rounds, since there are no more rounds in it than places.

So by induction the search for an expression leads along the stretches that the expression matches
(`leads_ends`), and an expression is found by the search just when it matches some stretch of the
text (`foundIn_iff`).  All of this takes the bounds of repetitions to be in order, the lower one
first; with bounds in the other order nothing is matched.
-/
import Mathlib.Data.List.Basic
import Mathlib.Logic.Relation
import TreeSchema.Regex.Search

namespace TreeSchema

namespace Regex

open Relation

/-- The bounds of every repetition in an expression are in order. -/
def Ordered : Regex → Prop
  | .concat r s => r.Ordered ∧ s.Ordered
  | .either r s => r.Ordered ∧ s.Ordered
  | .times r least most => r.Ordered ∧ ∀ m, most = some m → least ≤ m
  | _ => True

/-- A number of steps of a relation, one after the other. -/
inductive Rounds (R : Nat → Nat → Prop) : Nat → Nat → Nat → Prop where
  | none {i : Nat} : Rounds R 0 i i
  | more {n i j k : Nat} (hstep : R i j) (hrest : Rounds R n j k) : Rounds R (n + 1) i k

lemma Rounds.trans {R : Nat → Nat → Prop} {n m i j k : Nat} (h : Rounds R n i j)
    (h' : Rounds R m j k) : Rounds R (n + m) i k := by
  induction h with
  | none => simpa using h'
  | @more n _ _ _ hstep _ ih =>
    rw [Nat.add_right_comm]
    exact .more hstep (ih h')

/-- Rounds are made one part after the other. -/
lemma Rounds.split {R : Nat → Nat → Prop} {n m i k : Nat} (h : Rounds R (n + m) i k) :
    ∃ j, Rounds R n i j ∧ Rounds R m j k := by
  induction n generalizing i with
  | zero => exact ⟨i, .none, Nat.zero_add m ▸ h⟩
  | succ n ih =>
    rw [Nat.add_right_comm] at h
    cases h with
    | more hstep hrest =>
      obtain ⟨j, hfirst, hsecond⟩ := ih hrest
      exact ⟨j, .more hstep hfirst, hsecond⟩

/-! ### Marks -/

namespace Marks

/-- A place is marked. -/
def Has (marks : Marks) (i : Nat) : Prop := marks[i]? = some true

variable {size n i j : Nat} {marks a b : Marks} {step step' : Marks → Marks}
  {R S : Nat → Nat → Prop}

lemma Has.lt_length (h : marks.Has i) : i < marks.length :=
  (List.getElem?_eq_some_iff.mp h).1

lemma any_eq_true_iff : marks.any = true ↔ ∃ i, marks.Has i := by
  simp [any, Has, List.mem_iff_getElem?]

lemma length_union (hlength : a.length = b.length) : (a.union b).length = a.length := by
  simp [union, hlength]

lemma has_union_iff (hlength : a.length = b.length) :
    (a.union b).Has i ↔ a.Has i ∨ b.Has i := by
  simp only [Has, union, List.getElem?_zipWith]
  rcases Nat.lt_or_ge i a.length with hi | hi
  · have hi' : i < b.length := hlength ▸ hi
    simp [hi, hi']
  · have hi' : b.length ≤ i := hlength ▸ hi
    simp [hi, hi']

/-- Marks are kept where something holds of what stands beside them. -/
lemma has_zipWith_iff {α : Type} {p : α → Bool} {xs : List α} :
    Has (List.zipWith (fun m x => m && p x) marks xs) i ↔
      marks.Has i ∧ ∃ x, xs[i]? = some x ∧ p x = true := by
  simp only [Has, List.getElem?_zipWith]
  cases marks[i]? <;> cases xs[i]? <;> simp

/-- After the step those places are marked that the relation has a marked place lead to. -/
structure Leads (size : Nat) (step : Marks → Marks) (R : Nat → Nat → Prop) : Prop where
  length {marks : Marks} (hlength : marks.length = size) : (step marks).length = size
  has_iff {marks : Marks} (hlength : marks.length = size) {j : Nat} :
    (step marks).Has j ↔ ∃ i, marks.Has i ∧ R i j

lemma Leads.congr (h : Leads size step R) (hiff : ∀ i < size, ∀ j, R i j ↔ S i j) :
    Leads size step S := by
  refine ⟨h.length, fun {marks} hlength {j} => ?_⟩
  rw [h.has_iff hlength]
  exact exists_congr fun i => and_congr_right fun hi => hiff i (hlength ▸ hi.lt_length) j

lemma Leads.comp (h : Leads size step R) (h' : Leads size step' S) :
    Leads size (fun marks => step' (step marks)) (Comp R S) := by
  refine ⟨fun hlength => h'.length (h.length hlength), fun {marks} hlength {k} => ?_⟩
  rw [h'.has_iff (h.length hlength)]
  simp only [h.has_iff hlength, Comp]
  constructor
  · rintro ⟨j, ⟨i, hi, hij⟩, hjk⟩
    exact ⟨i, hi, j, hij, hjk⟩
  · rintro ⟨i, hi, j, hij, hjk⟩
    exact ⟨j, ⟨i, hi, hij⟩, hjk⟩

lemma Leads.union (h : Leads size step R) (h' : Leads size step' S) :
    Leads size (fun marks => (step marks).union (step' marks)) (fun i j => R i j ∨ S i j) := by
  have hsame : ∀ {marks : Marks}, marks.length = size →
      (step marks).length = (step' marks).length :=
    fun hlength => (h.length hlength).trans (h'.length hlength).symm
  refine ⟨fun hlength => (length_union (hsame hlength)).trans (h.length hlength),
    fun {marks} hlength {j} => ?_⟩
  rw [has_union_iff (hsame hlength), h.has_iff hlength, h'.has_iff hlength]
  simp only [and_or_left, exists_or]

/-! ### Repetition -/

/-- A step made `n` times leads along `n` rounds; when no marks are left, none come back. -/
lemma Leads.iterate (h : Leads size step R) (n : Nat) :
    Leads size (iterate step n) (Rounds R n) := by
  induction n with
  | zero =>
    refine ⟨id, fun {marks} hlength {j} => ⟨fun hj => ⟨j, hj, .none⟩, ?_⟩⟩
    rintro ⟨i, hi, hrounds⟩
    cases hrounds
    exact hi
  | succ n ih =>
    have hmore := h.comp ih
    refine ⟨fun {marks} hlength => ?_, fun {marks} hlength {k} => ?_⟩
    · rw [Marks.iterate]
      split
      · exact hmore.length hlength
      · exact hlength
    · have hrounds : (∃ i, marks.Has i ∧ Rounds R (n + 1) i k) ↔
          ∃ i, marks.Has i ∧ Comp R (Rounds R n) i k := by
        refine exists_congr fun i => and_congr_right fun _ => ⟨?_, ?_⟩
        · rintro (_ | ⟨hstep, hrest⟩)
          exact ⟨_, hstep, hrest⟩
        · rintro ⟨j, hstep, hrest⟩
          exact .more hstep hrest
      rw [hrounds, ← hmore.has_iff hlength, Marks.iterate]
      split
      · rfl
      · next hnone =>
        -- without marks there are none after the steps either
        have hempty : ∀ i, ¬ marks.Has i := fun i hi => hnone (any_eq_true_iff.mpr ⟨i, hi⟩)
        rw [hmore.has_iff hlength]
        exact ⟨fun hk => absurd hk (hempty k), fun ⟨i, hi, _⟩ => absurd hi (hempty i)⟩

/-- The marks of a round of saturation: the old ones and those that are one step further. -/
lemma has_larger_iff (h : Leads size step R) (hlength : marks.length = size) :
    (marks.union (step marks)).Has j ↔ marks.Has j ∨ ∃ i, marks.Has i ∧ R i j := by
  rw [has_union_iff (hlength.trans (h.length hlength).symm), h.has_iff hlength]

lemma length_larger (h : Leads size step R) (hlength : marks.length = size) :
    (marks.union (step marks)).length = size :=
  (length_union (hlength.trans (h.length hlength).symm)).trans hlength

/-- When a round brings nothing new, no number of rounds does. -/
lemma has_of_rounds (h : Leads size step R) (hlength : marks.length = size)
    (hsame : marks.union (step marks) = marks) (hi : marks.Has i) (hrounds : Rounds R n i j) :
    marks.Has j := by
  induction hrounds with
  | none => exact hi
  | more hstep _ ih => exact ih (hsame ▸ (has_larger_iff h hlength).mpr (.inr ⟨_, hi, hstep⟩))

/-- Saturation for at most `n` rounds leads along up to `n` rounds. -/
lemma Leads.saturate (h : Leads size step R) (n : Nat) :
    Leads size (saturate step n) (fun i j => ∃ m ≤ n, Rounds R m i j) := by
  induction n with
  | zero =>
    refine ⟨id, fun {marks} hlength {j} => ⟨fun hj => ⟨j, hj, 0, Nat.le_refl 0, .none⟩, ?_⟩⟩
    rintro ⟨i, hi, m, hm, hrounds⟩
    obtain rfl : m = 0 := Nat.le_zero.mp hm
    cases hrounds
    exact hi
  | succ n ih =>
    refine ⟨fun {marks} hlength => ?_, fun {marks} hlength {j} => ?_⟩
    · rw [Marks.saturate]
      split
      · exact hlength
      · exact ih.length (length_larger h hlength)
    · rw [Marks.saturate]
      split
      · next hsame =>
        refine ⟨fun hj => ⟨j, hj, 0, Nat.zero_le _, .none⟩, ?_⟩
        rintro ⟨i, hi, m, -, hrounds⟩
        exact has_of_rounds h hlength hsame hi hrounds
      · rw [ih.has_iff (length_larger h hlength)]
        simp only [has_larger_iff h hlength]
        constructor
        · rintro ⟨i, hi | ⟨i', hi', hstep⟩, m, hm, hrounds⟩
          · exact ⟨i, hi, m, Nat.le_succ_of_le hm, hrounds⟩
          · exact ⟨i', hi', m + 1, Nat.succ_le_succ hm, .more hstep hrounds⟩
        · rintro ⟨i, hi, m, hm, hrounds⟩
          cases hrounds with
          | none => exact ⟨j, .inl hi, 0, Nat.zero_le _, .none⟩
          | more hstep hrest =>
            exact ⟨_, .inr ⟨i, hi, hstep⟩, _, Nat.le_of_succ_le_succ hm, hrest⟩

lemma union_cons {x y : Bool} : union (x :: a) (y :: b) = (x || y) :: union a b := rfl

lemma count_union_le (hlength : a.length = b.length) :
    (a.union b).count false ≤ a.count false := by
  induction a generalizing b with
  | nil => simp [union]
  | cons x a ih =>
    cases b with
    | nil => simp at hlength
    | cons y b =>
      have hrest := ih (Nat.succ.inj hlength)
      rw [union_cons, List.count_cons, List.count_cons]
      cases x <;> cases y <;> simp <;> omega

/-- A round that brings something new leaves fewer places without marks. -/
lemma count_union_lt (hlength : a.length = b.length) (hnew : a.union b ≠ a) :
    (a.union b).count false < a.count false := by
  induction a generalizing b with
  | nil => simp [union] at hnew
  | cons x a ih =>
    cases b with
    | nil => simp at hlength
    | cons y b =>
      have hle := count_union_le (Nat.succ.inj hlength)
      rw [union_cons] at hnew
      rw [union_cons, List.count_cons, List.count_cons]
      -- the new mark is at the head or behind it
      by_cases hhead : (x || y) = x
      · have hrest := ih (Nat.succ.inj hlength) fun hsame => hnew (by rw [hhead, hsame])
        rw [hhead]
        omega
      · obtain ⟨rfl, rfl⟩ : x = false ∧ y = true := by
          revert hhead
          cases x <;> cases y <;> decide
        simp
        omega

/-- Saturation brings all that is new if it has a round for each place without a mark. -/
lemma saturate_saturated (h : Leads size step R) (hlength : marks.length = size)
    (hn : marks.count false ≤ n) :
    (saturate step n marks).union (step (saturate step n marks)) = saturate step n marks := by
  have hsame : ∀ {marks : Marks}, marks.length = size → marks.length = (step marks).length :=
    fun hlength => hlength.trans (h.length hlength).symm
  induction n generalizing marks with
  | zero =>
    change marks.union (step marks) = marks
    by_contra hnew
    have hlt := count_union_lt (hsame hlength) hnew
    omega
  | succ n ih =>
    rw [Marks.saturate]
    split
    · assumption
    · next hnew =>
      have hlt := count_union_lt (hsame hlength) hnew
      exact ih (length_larger h hlength) (by omega)

/-- Saturation for as many rounds as there are places leads along any number of rounds. -/
lemma Leads.saturate_size (h : Leads size step R) :
    Leads size (Marks.saturate step size) (fun i j => ∃ m, Rounds R m i j) := by
  have hbounded := h.saturate size
  refine ⟨hbounded.length, fun {marks} hlength {j} => ⟨fun hj => ?_, ?_⟩⟩
  · obtain ⟨i, hi, m, -, hrounds⟩ := (hbounded.has_iff hlength).mp hj
    exact ⟨i, hi, m, hrounds⟩
  · rintro ⟨i, hi, m, hrounds⟩
    have hstart := (hbounded.has_iff hlength).mpr ⟨i, hi, 0, Nat.zero_le _, .none⟩
    have hsaturated := saturate_saturated h hlength (hlength ▸ List.count_le_length)
    exact has_of_rounds h (hbounded.length hlength) hsaturated hstart hrounds

end Marks

/-! ### What repetitions match -/

variable {text : List Char} {r s : Regex} {i j k n : Nat}

/-- Stretches lie in the text. -/
lemma Matches.bounds (h : Matches text r i j) : i ≤ text.length ∧ j ≤ text.length := by
  induction h with
  | empty hi => exact ⟨hi, hi⟩
  | char hc _ =>
    have hlt := (List.getElem?_eq_some_iff.mp hc).1
    exact ⟨Nat.le_of_lt hlt, hlt⟩
  | assert hi _ => exact ⟨hi, hi⟩
  | concat _ _ ih ih' => exact ⟨ih.1, ih'.2⟩
  | left _ ih => exact ih
  | right _ ih => exact ih
  | stop hi => exact ⟨hi, hi⟩
  | more _ _ _ ih ih' => exact ⟨ih.1, ih'.2⟩

lemma matches_times_of_rounds {least : Nat} {most : Option Nat}
    (hrounds : Rounds (Matches text r) n i k) (hi : i ≤ text.length) (hleast : least ≤ n)
    (hmost : ∀ m, most = some m → n ≤ m) : Matches text (.times r least most) i k := by
  induction hrounds generalizing least most with
  | none =>
    obtain rfl : least = 0 := Nat.le_zero.mp hleast
    exact .stop hi
  | @more n _ _ _ hstep _ ih =>
    refine .more (fun hzero => ?_) hstep (ih hstep.bounds.2 (by omega) fun m hm => ?_)
    · have := hmost 0 hzero
      omega
    · obtain ⟨m', hm', rfl⟩ := Option.map_eq_some_iff.mp hm
      have := hmost m' hm'
      omega

/-- A repetition matches what takes a number of rounds within its bounds. -/
lemma matches_times_iff {least : Nat} {most : Option Nat} :
    Matches text (.times r least most) i k ↔ i ≤ text.length ∧
      ∃ n, least ≤ n ∧ (∀ m, most = some m → n ≤ m) ∧ Rounds (Matches text r) n i k := by
  constructor
  · intro h
    refine ⟨h.bounds.1, ?_⟩
    -- the bounds sink from round to round, so they are not fixed in the induction
    generalize hr : Regex.times r least most = whole at h
    induction h generalizing least most with
    | stop =>
      cases hr
      exact ⟨0, Nat.le_refl 0, fun m _ => Nat.zero_le m, .none⟩
    | more hmost hstep _ _ ih =>
      cases hr
      obtain ⟨n, hn, hupper, hrounds⟩ := ih rfl
      refine ⟨n + 1, by omega, fun m hm => ?_, .more hstep hrounds⟩
      have hle := hupper (m - 1) (by rw [hm]; rfl)
      have hpos : m ≠ 0 := fun hzero => hmost (hzero ▸ hm)
      omega
    | _ => cases hr
  · rintro ⟨hi, n, hleast, hmost, hrounds⟩
    exact matches_times_of_rounds hrounds hi hleast hmost

/-! ### The search -/

lemma getElem?_placesFrom (last : Option Char) :
    (Haystack.placesFrom last text)[i]? =
      if i ≤ text.length then some (if i = 0 then last else text[i - 1]?, text[i]?) else none := by
  induction text generalizing last i with
  | nil => cases i <;> simp [Haystack.placesFrom]
  | cons c rest ih =>
    cases i with
    | zero => simp [Haystack.placesFrom]
    | succ i =>
      rw [Haystack.placesFrom, List.getElem?_cons_succ, ih]
      cases i <;> simp

/-- The places of a text have the neighbours that assertions ask about. -/
lemma getElem?_places :
    (Haystack.ofText text).places[i]? =
      if i ≤ text.length then some (before text i, text[i]?) else none :=
  getElem?_placesFrom none

lemma length_places : (Haystack.ofText text).places.length = text.length + 1 := by
  have hlength : ∀ last, (Haystack.placesFrom last text).length = text.length + 1 := by
    induction text with
    | nil => exact fun _ => rfl
    | cons c rest ih => exact fun _ => congrArg Nat.succ (ih _)
  exact hlength none

section Steps

open Marks (Leads)

lemma leads_empty :
    Leads (text.length + 1) (ends (Haystack.ofText text) .empty) (Matches text .empty) := by
  refine ⟨id, fun {marks} hlength {j} => ⟨fun hj => ?_, ?_⟩⟩
  · have hlt := hj.lt_length
    exact ⟨j, hj, .empty (Nat.le_of_lt_succ (Nat.lt_of_lt_of_eq hlt hlength))⟩
  · rintro ⟨i, hi, hmatches⟩
    cases hmatches
    exact hi

/-- The marks move on by one place where the next character is in the set. -/
lemma leads_char (set : CharSet) :
    Leads (text.length + 1) (ends (Haystack.ofText text) (.char set))
      (Matches text (.char set)) := by
  refine ⟨fun {marks} hlength => ?_, fun {marks} hlength {j} => ?_⟩
  · simp [ends, Haystack.ofText, hlength]
  · rw [ends]
    cases j with
    | zero =>
      refine iff_of_false (by simp [Marks.Has]) ?_
      rintro ⟨i, -, hmatches⟩
      cases hmatches
    | succ j =>
      have hstep : Marks.Has (false :: List.zipWith (fun m c => m && set.contains c) marks text)
          (j + 1) ↔ marks.Has j ∧ ∃ c, text[j]? = some c ∧ set.contains c = true :=
        Marks.has_zipWith_iff
      rw [show (Haystack.ofText text).text = text from rfl, hstep]
      constructor
      · rintro ⟨hj, c, hc, hmem⟩
        exact ⟨j, hj, .char hc hmem⟩
      · rintro ⟨i, hi, hmatches⟩
        cases hmatches with
        | char hc hmem => exact ⟨hi, _, hc, hmem⟩

/-- The marks stay where the assertion holds. -/
lemma leads_assert (a : Assertion) :
    Leads (text.length + 1) (ends (Haystack.ofText text) (.assert a))
      (Matches text (.assert a)) := by
  refine ⟨fun {marks} hlength => ?_, fun {marks} hlength {j} => ?_⟩
  · simp [ends, length_places, hlength]
  · rw [ends, Marks.has_zipWith_iff, getElem?_places]
    constructor
    · rintro ⟨hj, place, hplace, hholds⟩
      have hle : j ≤ text.length := Nat.le_of_lt_succ (Nat.lt_of_lt_of_eq hj.lt_length hlength)
      rw [if_pos hle] at hplace
      cases hplace
      exact ⟨j, hj, .assert hle hholds⟩
    · rintro ⟨i, hi, hmatches⟩
      cases hmatches with
      | assert hle hholds => exact ⟨hi, _, if_pos hle, hholds⟩

/-- First come the rounds that there have to be, then those that there may be. -/
lemma leads_times {least : Nat} {most : Option Nat}
    (h : Leads (text.length + 1) (ends (Haystack.ofText text) r) (Matches text r))
    (hbounds : ∀ m, most = some m → least ≤ m) :
    Leads (text.length + 1) (ends (Haystack.ofText text) (.times r least most))
      (Matches text (.times r least most)) := by
  have hstart := h.iterate least
  cases most with
  | none =>
    have hsearch : ends (Haystack.ofText text) (.times r least none) = fun marks =>
        Marks.saturate (ends (Haystack.ofText text) r) (text.length + 1)
          (Marks.iterate (ends (Haystack.ofText text) r) least marks) := by
      funext marks
      simp only [ends, length_places]
    rw [hsearch]
    refine (hstart.comp h.saturate_size).congr fun i hi k => ?_
    rw [matches_times_iff]
    constructor
    · rintro ⟨j, hrounds, m, hmore⟩
      exact ⟨Nat.le_of_lt_succ hi, least + m, Nat.le_add_right _ _, nofun, hrounds.trans hmore⟩
    · rintro ⟨-, n, hleast, -, hrounds⟩
      obtain ⟨m, rfl⟩ := Nat.exists_eq_add_of_le hleast
      obtain ⟨j, hfirst, hrest⟩ := hrounds.split
      exact ⟨j, hfirst, m, hrest⟩
  | some most =>
    have hle := hbounds most rfl
    have hsearch : ends (Haystack.ofText text) (.times r least (some most)) = fun marks =>
        Marks.saturate (ends (Haystack.ofText text) r) (most - least)
          (Marks.iterate (ends (Haystack.ofText text) r) least marks) := by
      funext marks
      simp only [ends]
    rw [hsearch]
    refine (hstart.comp (h.saturate (most - least))).congr fun i hi k => ?_
    rw [matches_times_iff]
    constructor
    · rintro ⟨j, hrounds, m, hm, hmore⟩
      refine ⟨Nat.le_of_lt_succ hi, least + m, Nat.le_add_right _ _, ?_, hrounds.trans hmore⟩
      rintro _ ⟨⟩
      omega
    · rintro ⟨-, n, hleast, hmost, hrounds⟩
      obtain ⟨m, rfl⟩ := Nat.exists_eq_add_of_le hleast
      obtain ⟨j, hfirst, hrest⟩ := hrounds.split
      have := hmost most rfl
      exact ⟨j, hfirst, m, by omega, hrest⟩

/-- **The search for an expression leads along the stretches that the expression matches.** -/
theorem leads_ends (h : r.Ordered) :
    Leads (text.length + 1) (ends (Haystack.ofText text) r) (Matches text r) := by
  induction r with
  | empty => exact leads_empty
  | char set => exact leads_char set
  | assert a => exact leads_assert a
  | concat r s ih ih' =>
    refine ((ih h.1).comp (ih' h.2)).congr fun i _ k => ⟨?_, ?_⟩
    · rintro ⟨j, hr, hs⟩
      exact .concat hr hs
    · rintro (_ | _ | _ | ⟨hr, hs⟩)
      exact ⟨_, hr, hs⟩
  | either r s ih ih' =>
    refine ((ih h.1).union (ih' h.2)).congr fun i _ k => ⟨?_, ?_⟩
    · rintro (hr | hs)
      · exact .left hr
      · exact .right hs
    · rintro (_ | _ | _ | _ | hr | hs)
      · exact .inl hr
      · exact .inr hs
  | times r least most ih => exact leads_times (ih h.1) h.2

end Steps

/-- **The search finds an expression just when the expression matches some stretch.** -/
theorem foundIn_iff {text : String} (h : r.Ordered) :
    r.foundIn text = true ↔ r.FoundIn text.toList := by
  have hlength : (Haystack.ofText text.toList).everywhere.length = text.toList.length + 1 := by
    rw [Haystack.everywhere, List.length_map, length_places]
  have heverywhere : ∀ i ≤ text.toList.length, (Haystack.ofText text.toList).everywhere.Has i := by
    intro i hi
    rw [Marks.Has, Haystack.everywhere, List.getElem?_map, getElem?_places, if_pos hi]
    rfl
  simp only [foundIn, Marks.any_eq_true_iff, (leads_ends h).has_iff hlength, FoundIn]
  constructor
  · rintro ⟨j, i, -, hmatches⟩
    exact ⟨i, j, hmatches⟩
  · rintro ⟨i, j, hmatches⟩
    exact ⟨j, i, heverywhere i hmatches.bounds.1, hmatches⟩

end Regex

end TreeSchema
