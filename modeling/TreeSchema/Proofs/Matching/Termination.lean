/-
Matching comes to an end.

A step of matching carries no bound that is used up, and the schemas in a registry may refer to
themselves, to each other and to nothing at all.  That matching ends has to be read off the
steps.  Each of them makes a goal smaller in one respect and leaves it alone in those that count
for more: first the value, then the number of names that are left to open, then the schema
(`Calls.measure_lt`).  Names are left because the opened ones are registered and no two of them
are the same (`InOrder`), so on one value no more names are opened than there are.

`Registry.Answers` describes a run without saying that there is one.  A run takes the goals of
a step in order, up to the first one that decides, and where matching would go on for ever there
is no run.  The result is that there always is one, and that it ends with the answer of matching
(`matching_terminates`).
-/
import Mathlib.Data.List.Perm.Subperm
import Mathlib.Data.Prod.Lex
import Mathlib.Logic.Relation
import TreeSchema.Proofs.Matching.Goals

namespace TreeSchema

namespace Registry

open Relation

variable {r : Registry} {g g' : Goal}

/-! ### Goals get smaller -/

/-- What gets smaller: first the value, then the number of names left to open, then the schema. -/
noncomputable def measure (r : Registry) (g : Goal) : Nat ×ₗ Nat ×ₗ Nat :=
  toLex (sizeOf g.value, toLex (r.namesLeft g.opened, sizeOf g.schema))

/-- Each step makes the measure smaller. -/
theorem Calls.measure_lt (h : r.Calls g g') : r.measure g' < r.measure g := by
  rcases calls_cases h with ⟨name, entry, hschema, hnew, hresolve, rfl⟩ | hdescends | hnarrows
  · -- the schema of the name may be larger, but there is one name less to open
    have hless : r.namesLeft (name :: g.opened) < r.namesLeft g.opened :=
      namesLeft_lt (contains_of_resolveFrom hresolve) hnew (by simp +contextual) (by simp)
    exact Prod.Lex.right _ (Prod.Lex.left _ _ hless)
  · exact Prod.Lex.left _ _ hdescends.sizeOf_lt
  · have hsmaller := hnarrows.sizeOf_lt
    obtain ⟨parts, part, -, -, rfl⟩ := hnarrows
    exact Prod.Lex.right _ (Prod.Lex.right _ hsmaller)

/-- There is no endless sequence of steps. -/
theorem wellFounded_calls (r : Registry) : WellFounded fun g' g => r.Calls g g' :=
  Subrelation.wf (fun h => Calls.measure_lt h) (InvImage.wf r.measure wellFounded_lt)

/-! ### Runs -/

/-- A run of matching that ends with an answer.  It takes the goals of a step in order and goes no
further than to the first one that decides. -/
inductive Answers (r : Registry) : Goal → Bool → Prop where
  | settled {g : Goal} {answer : Bool} (h : r.reduce g = .settled answer) : Answers r g answer
  | all {g : Goal} {goals : List Goal} (h : r.reduce g = .all goals)
      (hgoals : ∀ goal ∈ goals, Answers r goal true) : Answers r g true
  | notAll {g goal : Goal} {before after : List Goal}
      (h : r.reduce g = .all (before ++ goal :: after))
      (hbefore : ∀ goal ∈ before, Answers r goal true) (hgoal : Answers r goal false) :
      Answers r g false
  | any {g goal : Goal} {before after : List Goal}
      (h : r.reduce g = .any (before ++ goal :: after))
      (hbefore : ∀ goal ∈ before, Answers r goal false) (hgoal : Answers r goal true) :
      Answers r g true
  | notAny {g : Goal} {goals : List Goal} (h : r.reduce g = .any goals)
      (hgoals : ∀ goal ∈ goals, Answers r goal false) : Answers r g false

lemma exists_first {α : Type} {p : α → Bool} {xs : List α} (h : xs.any p = true) :
    ∃ before x after, xs = before ++ x :: after ∧ (∀ y ∈ before, p y = false) ∧ p x = true := by
  have hfound : (xs.find? p).isSome = true := List.find?_isSome.mpr (List.any_eq_true.mp h)
  obtain ⟨x, hx⟩ := Option.isSome_iff_exists.mp hfound
  obtain ⟨hp, before, after, hxs, hbefore⟩ := List.find?_eq_some_iff_append.mp hx
  exact ⟨before, x, after, hxs, fun y hy => by simpa using hbefore y hy, hp⟩

/-- All goals of a step have runs, so the step has one. -/
lemma answers_of_goals (h : ∀ goal ∈ (r.reduce g).goals, r.Answers goal (r.answer goal)) :
    r.Answers g (r.answer g) := by
  rw [← answer_reduce]
  cases hreduce : r.reduce g with
  | settled answer => exact .settled hreduce
  | all goals =>
    simp only [hreduce, Reduct.goals] at h
    cases hall : goals.all r.answer with
    | true =>
      rw [Reduct.answer, hall]
      have htrue := List.all_eq_true.mp hall
      exact .all hreduce fun goal hmem => htrue goal hmem ▸ h goal hmem
    | false =>
      -- the first goal that does not hold decides
      rw [Reduct.answer, hall]
      rw [List.all_eq_not_any_not, Bool.not_eq_false'] at hall
      obtain ⟨before, goal, after, rfl, hbefore, hgoal⟩ := exists_first hall
      simp only [Bool.not_eq_false', Bool.not_eq_true'] at hbefore hgoal
      refine .notAll hreduce (fun other hmem => ?_) (hgoal ▸ h goal (by simp))
      exact hbefore other hmem ▸ h other (List.mem_append_left _ hmem)
  | any goals =>
    simp only [hreduce, Reduct.goals] at h
    cases hany : goals.any r.answer with
    | true =>
      rw [Reduct.answer, hany]
      obtain ⟨before, goal, after, rfl, hbefore, hgoal⟩ := exists_first hany
      refine .any hreduce (fun other hmem => ?_) (hgoal ▸ h goal (by simp))
      exact hbefore other hmem ▸ h other (List.mem_append_left _ hmem)
    | false =>
      rw [Reduct.answer, hany]
      have hfalse : ∀ goal ∈ goals, r.answer goal = false := by simpa using hany
      exact .notAny hreduce fun goal hmem => hfalse goal hmem ▸ h goal hmem

/-- Every goal has a run, which ends with the answer of matching. -/
theorem answers_answer (r : Registry) (g : Goal) : r.Answers g (r.answer g) := by
  induction g using (wellFounded_calls r).induction with
  | _ g ih =>
    -- the measure is smaller for what the goal is reduced to, so there are runs for all of it
    exact answers_of_goals ih

/-- A run ends with the answer of matching. -/
theorem Answers.answer_eq {answer : Bool} (h : r.Answers g answer) : r.answer g = answer := by
  induction h with
  | settled h => rw [← answer_reduce, h, Reduct.answer]
  | all h _ ih =>
    rw [← answer_reduce, h, Reduct.answer]
    exact List.all_eq_true.mpr ih
  | @notAll g goal before after h _ _ _ ih =>
    rw [← answer_reduce, h, Reduct.answer]
    exact List.all_eq_false.mpr ⟨goal, by simp, by simp [ih]⟩
  | @any g goal before after h _ _ _ ih =>
    rw [← answer_reduce, h, Reduct.answer]
    exact List.any_eq_true.mpr ⟨goal, by simp, ih⟩
  | notAny h _ ih =>
    rw [← answer_reduce, h, Reduct.answer]
    exact List.any_eq_false.mpr fun goal hmem => by simp [ih goal hmem]

lemma answers_iff {answer : Bool} : r.Answers g answer ↔ answer = r.answer g :=
  ⟨fun h => h.answer_eq.symm, fun h => h ▸ answers_answer r g⟩

/-! ### Opened names -/

/-- The names opened on the value are registered, and no two of them are the same. -/
structure InOrder (r : Registry) (g : Goal) : Prop where
  distinct : g.opened.Nodup
  registered : ∀ name ∈ g.opened, r.contains name = true

/-- What a run may come to. -/
def Visits (r : Registry) : Goal → Goal → Prop := ReflTransGen r.Calls

/-- Goals that follow one another with no descent, counting the names opened on the way. -/
inductive OnOneValue (r : Registry) (g : Goal) : Nat → Goal → Prop where
  | start : OnOneValue r g 0 g
  | opens {n : Nat} {g' g'' : Goal} (h : OnOneValue r g n g') (hstep : r.Opens g' g'') :
      OnOneValue r g (n + 1) g''
  | narrows {n : Nat} {g' g'' : Goal} (h : OnOneValue r g n g') (hstep : g'.Narrows g'') :
      OnOneValue r g n g''

lemma inOrder_of_opened_nil (h : g.opened = []) : r.InOrder g := ⟨by simp [h], by simp [h]⟩

lemma InOrder.opens (hg : r.InOrder g) (h : r.Opens g g') : r.InOrder g' := by
  obtain ⟨name, entry, -, hnew, hresolve, rfl⟩ := h
  have hname := contains_of_resolveFrom hresolve
  refine ⟨List.nodup_cons.mpr ⟨hnew, hg.distinct⟩, ?_⟩
  exact List.forall_mem_cons.mpr ⟨hname, hg.registered⟩

lemma InOrder.narrows (hg : r.InOrder g) (h : g.Narrows g') : r.InOrder g' := by
  obtain ⟨parts, part, -, -, rfl⟩ := h
  exact ⟨hg.distinct, hg.registered⟩

/-- A step keeps the opened names registered and distinct. -/
theorem InOrder.calls (hg : r.InOrder g) (h : r.Calls g g') : r.InOrder g' := by
  rcases calls_cases h with hopens | hdescends | hnarrows
  · exact hg.opens hopens
  · exact inOrder_of_opened_nil hdescends.2.1
  · exact hg.narrows hnarrows

theorem InOrder.visits (hg : r.InOrder g) (h : r.Visits g g') : r.InOrder g' := by
  induction h with
  | refl => exact hg
  | tail _ hstep ih => exact ih.calls hstep

lemma InOrder.onOneValue {n : Nat} (hg : r.InOrder g) (h : r.OnOneValue g n g') : r.InOrder g' := by
  induction h with
  | start => exact hg
  | opens _ hstep ih => exact ih.opens hstep
  | narrows _ hstep ih => exact ih.narrows hstep

lemma OnOneValue.length_opened {n : Nat} (h : r.OnOneValue g n g') :
    g'.opened.length = g.opened.length + n := by
  induction h with
  | start => rfl
  | opens _ hstep ih =>
    obtain ⟨name, entry, -, -, -, rfl⟩ := hstep
    simp [ih, Nat.add_assoc]
  | narrows _ hstep ih =>
    obtain ⟨parts, part, -, -, rfl⟩ := hstep
    exact ih

lemma InOrder.length_opened_le (h : r.InOrder g) : g.opened.length ≤ r.size := by
  have hnames : g.opened ⊆ r.names := fun name hmem =>
    mem_names_of_contains (h.registered name hmem)
  have hle := (h.distinct.subperm hnames).length_le
  simpa [names, Entries.names, size] using hle

/-- On one value no more names are opened than there are. -/
theorem InOrder.opened_le {n : Nat} (hg : r.InOrder g) (h : r.OnOneValue g n g') : n ≤ r.size := by
  have hle := (hg.onOneValue h).length_opened_le
  rw [h.length_opened] at hle
  omega

/-! ### The result -/

/-- **Matching terminates**, whatever the registry, the schema, the value and the depth.

* There is a run, and it ends with the answer of matching and with no other.
* Wherever a run comes to, the names opened on the value are registered and no two of them are
  the same, and no more names are opened from there on one value than there are.
* Each step from there opens a name, or descends to a smaller value, or narrows the schema to a
  smaller one, and it makes a well-founded measure smaller. -/
theorem matching_terminates (r : Registry) (depth : Nat) (s : Schema) (v : Json) :
    (∀ answer, r.Answers ⟨depth, [], s, v⟩ answer ↔ answer = r.accepts depth s v) ∧
    (∀ g, r.Visits ⟨depth, [], s, v⟩ g →
      g.opened.Nodup ∧ (∀ name ∈ g.opened, r.contains name = true) ∧
      (∀ n g', r.OnOneValue g n g' → n ≤ r.size) ∧
      ∀ g', r.Calls g g' →
        (r.Opens g g' ∨ (g.Descends g' ∧ sizeOf g'.value < sizeOf g.value) ∨
          (g.Narrows g' ∧ sizeOf g'.schema < sizeOf g.schema)) ∧
        r.measure g' < r.measure g) ∧
    WellFounded fun g' g => r.Calls g g' := by
  have hstart : r.InOrder ⟨depth, [], s, v⟩ := inOrder_of_opened_nil rfl
  refine ⟨fun answer => answers_iff, fun g hvisits => ?_, wellFounded_calls r⟩
  have hg := hstart.visits hvisits
  refine ⟨hg.distinct, hg.registered, fun n g' h => hg.opened_le h, fun g' h => ⟨?_, h.measure_lt⟩⟩
  exact (calls_cases h).imp_right fun hstep =>
    hstep.imp (fun hdescends => ⟨hdescends, hdescends.sizeOf_lt⟩) fun hnarrows =>
      ⟨hnarrows, hnarrows.sizeOf_lt⟩

end Registry

end TreeSchema
