/-
The trail of matching.

A run of matching keeps all opened names on one trail, those of the present value at the end.  It
is in order (`Trail.InOrder`) if the frames from the base on are those of the present value, and the
frames before belong to values above it.  Each way to go on keeps it in order: opening a name puts a
frame of the present value at the end, and going down makes all frames those of values above.

So it does not matter whether a name is looked for in all frames or in those of the present value
only (`Scan.exact_all`): the others are at other places.  An action *settles* if it has the same
answer for all such ways to look, leaves the trail as it was, and visits no place but with a trail
in order.  Whatever is put together from actions that settle settles, also where an answer cuts the
rest off, and by the recursion of `Registry.matchesWithin` so does the whole run, with the answer of
matching (`Registry.settles_track`).
-/
import Mathlib.Tactic.Lemma
import TreeSchema.Matching.Trail
import TreeSchema.Proofs.Json.Pointers
import TreeSchema.Proofs.Matching.Equations

namespace TreeSchema

open Json (Step)

/-! ### Trails in order -/

namespace Trail

/-- The names opened on the present value, the last one first. -/
def opened (t : Trail) : List String := ((t.frames.drop t.base).map Frame.name).reverse

/-- The frames from the base on are at the place, and those before are at places above it. -/
structure InOrder (t : Trail) (place : List Step) : Prop where
  base_le : t.base ≤ t.frames.length
  here : ∀ frame ∈ t.frames.drop t.base, frame.place = place
  above : ∀ frame ∈ t.frames.take t.base, frame.place <+: place ∧ frame.place ≠ place

variable {t : Trail} {place : List Step} {name : String} {step : Step}

@[simp] lemma depth_push (frame : Frame) : (t.push frame).depth = t.depth := rfl

@[simp] lemma depth_descend : t.descend.depth = t.depth + 1 := rfl

@[simp] lemma pop_push (frame : Frame) : (t.push frame).pop = t := by
  simp [push, pop]

@[simp] lemma ascendTo_descend : t.descend.ascendTo t = t := rfl

@[simp] lemma opened_descend : t.descend.opened = [] := by
  simp [descend, opened]

lemma drop_push (h : t.base ≤ t.frames.length) (frame : Frame) :
    (t.push frame).frames.drop t.base = t.frames.drop t.base ++ [frame] :=
  List.drop_append_of_le_length h

lemma take_push (h : t.base ≤ t.frames.length) (frame : Frame) :
    (t.push frame).frames.take t.base = t.frames.take t.base :=
  List.take_append_of_le_length h

lemma opened_push (h : t.base ≤ t.frames.length) (frame : Frame) :
    (t.push frame).opened = frame.name :: t.opened := by
  have hopened : (t.push frame).opened =
      (((t.push frame).frames.drop t.base).map Frame.name).reverse := rfl
  rw [hopened, drop_push h]
  simp [opened]

lemma framesFrom?_of_le {index : Nat} (h : index ≤ t.frames.length) :
    t.framesFrom? index = some (t.frames.drop index) :=
  if_pos h

lemma inOrder_empty : InOrder empty [] := by
  constructor <;> simp [empty]

lemma InOrder.push (ht : t.InOrder place) (name : String) :
    (t.push ⟨name, place⟩).InOrder place := by
  have hlength : (t.push ⟨name, place⟩).frames.length = t.frames.length + 1 := by
    simp [Trail.push]
  refine ⟨?_, fun frame hframe => ?_, fun frame hframe => ?_⟩
  · have hbase : t.base ≤ t.frames.length := ht.base_le
    show t.base ≤ (t.push ⟨name, place⟩).frames.length
    omega
  · have hmem : frame ∈ t.frames.drop t.base ++ [⟨name, place⟩] :=
      drop_push ht.base_le ⟨name, place⟩ ▸ hframe
    rcases List.mem_append.mp hmem with hold | hnew
    · exact ht.here frame hold
    · rw [List.mem_singleton.mp hnew]
  · have hmem : frame ∈ t.frames.take t.base := take_push ht.base_le ⟨name, place⟩ ▸ hframe
    exact ht.above frame hmem

/-- One step further down, all frames belong to values above. -/
lemma InOrder.descend (ht : t.InOrder place) (step : Step) :
    t.descend.InOrder (place ++ [step]) := by
  have hlonger : ∀ other : List Step, other <+: place →
      other <+: place ++ [step] ∧ other ≠ place ++ [step] := by
    intro other hother
    refine ⟨hother.trans (List.prefix_append _ _), fun heq => ?_⟩
    have hle := hother.length_le
    rw [heq, List.length_append, List.length_singleton] at hle
    omega
  refine ⟨Nat.le_refl _, ?_, ?_⟩
  · intro frame hframe
    simp [Trail.descend] at hframe
  · intro frame hframe
    have hmem : frame ∈ t.frames.take t.base ++ t.frames.drop t.base := by
      simpa [Trail.descend] using hframe
    rcases List.mem_append.mp hmem with habove | hhere
    · exact hlonger _ (ht.above frame habove).1
    · exact hlonger _ (ht.here frame hhere ▸ List.prefix_rfl)

/-- At its place, the frame of a name is from the base on. -/
lemma InOrder.mem_drop_iff (ht : t.InOrder place) :
    ⟨name, place⟩ ∈ t.frames.drop t.base ↔ name ∈ t.opened := by
  simp only [opened, List.mem_reverse, List.mem_map]
  constructor
  · intro h
    exact ⟨_, h, rfl⟩
  · rintro ⟨frame, hframe, rfl⟩
    rw [← ht.here frame hframe]
    exact hframe

end Trail

/-! ### Where names are looked for -/

namespace Scan

/-- The frames that are looked at tell whether a name is opened on the present value. -/
def Exact (scan : Scan) : Prop :=
  ∀ (t : Trail) (place : List Step), t.InOrder place →
    ∃ frames, scan t = some frames ∧ ∀ name, ⟨name, place⟩ ∈ frames ↔ name ∈ t.opened

theorem exact_current : current.Exact := by
  intro t place ht
  exact ⟨_, Trail.framesFrom?_of_le ht.base_le, fun name => ht.mem_drop_iff⟩

/-- **All frames tell no more than those from the base on.** -/
theorem exact_all : all.Exact := by
  intro t place ht
  refine ⟨t.frames, Trail.framesFrom?_of_le (Nat.zero_le _), fun name => ?_⟩
  rw [← ht.mem_drop_iff]
  constructor
  · intro h
    rw [← List.take_append_drop t.base t.frames] at h
    rcases List.mem_append.mp h with habove | hhere
    · -- the frames below the base are at other places
      exact absurd rfl (ht.above _ habove).2
    · exact hhere
  · exact List.mem_of_mem_drop

end Scan

/-! ### Actions that settle -/

/-- The visit was to the value at its place, the trail was in order, and it was left as it was. -/
structure Visit.InOrder (document : Json) (visit : Visit) : Prop where
  value : document.follow? visit.place = some visit.value
  trail : visit.before.InOrder visit.place
  restored : visit.after = visit.before

/-- However it looks for names, the action has the answer, leaves the trail as it was, and makes
the same visits, all of them in order. -/
def Settles (document : Json) (t : Trail) (action : Scan → Tracked Bool) (answer : Bool) : Prop :=
  ∃ visits : List Visit, (∀ visit ∈ visits, visit.InOrder document) ∧
    ∀ scan : Scan, scan.Exact → ∀ earlier : List Visit,
      (action scan).run ⟨t, earlier⟩ = some (answer, ⟨t, earlier ++ visits⟩)

open Tracked

@[simp] lemma run_trail (run : Run) : trail.run run = some (run.trail, run) := rfl

@[simp] lemma run_setTrail (t : Trail) (run : Run) :
    (setTrail t).run run = some ((), { run with trail := t }) := rfl

@[simp] lemma run_record (visit : Visit) (run : Run) :
    (record visit).run run = some ((), { run with visits := run.visits ++ [visit] }) := rfl

section

variable {document v child : Json} {t : Trail} {place : List Step} {answer : Bool}

lemma settles_pure (answer : Bool) : Settles document t (fun _ => pure answer) answer :=
  ⟨[], by simp, by simp⟩

/-- What comes next may depend on the answer. -/
lemma Settles.andThen {action : Scan → Tracked Bool} {next : Bool → Scan → Tracked Bool}
    {last : Bool} (h : Settles document t action answer)
    (hnext : Settles document t (next answer) last) :
    Settles document t (fun scan => action scan >>= fun found => next found scan) last := by
  obtain ⟨visits, hvisits, hrun⟩ := h
  obtain ⟨more, hmore, hrest⟩ := hnext
  refine ⟨visits ++ more, List.forall_mem_append.mpr ⟨hvisits, hmore⟩,
    fun scan hscan earlier => ?_⟩
  simp [hrun scan hscan, hrest scan hscan]

/-- One after the other, up to the first `false`. -/
lemma Settles.all {α : Type} {xs : List α} {action : Scan → α → Tracked Bool} {answers : α → Bool}
    (h : ∀ x ∈ xs, Settles document t (fun scan => action scan x) (answers x)) :
    Settles document t (fun scan => xs.allM (action scan)) (xs.all answers) := by
  induction xs with
  | nil => exact settles_pure true
  | cons x xs ih =>
    refine (h x List.mem_cons_self).andThen ?_
    rw [List.all_cons]
    cases answers x with
    | false => exact settles_pure false
    | true => exact ih fun y hy => h y (List.mem_cons_of_mem _ hy)

/-- One after the other, up to the first `true`. -/
lemma Settles.any {α : Type} {xs : List α} {action : Scan → α → Tracked Bool} {answers : α → Bool}
    (h : ∀ x ∈ xs, Settles document t (fun scan => action scan x) (answers x)) :
    Settles document t (fun scan => xs.anyM (action scan)) (xs.any answers) := by
  induction xs with
  | nil => exact settles_pure false
  | cons x xs ih =>
    refine (h x List.mem_cons_self).andThen ?_
    rw [List.any_cons]
    cases answers x with
    | true => exact settles_pure true
    | false => exact ih fun y hy => h y (List.mem_cons_of_mem _ hy)

end

namespace Registry

variable {document v child : Json} {t : Trail} {place : List Step} {answer : Bool} {r : Registry}
  {limit : Nat} {s : Schema} {name : String} {entry : SchemaEntry}

/-- A visit adds itself to the visits. -/
lemma settles_visit (hvalue : document.follow? place = some v) (ht : t.InOrder place)
    (h : Settles document t (fun scan => r.trackForm scan limit place v s) answer) :
    Settles document t (fun scan => r.track scan limit place v s) answer := by
  obtain ⟨visits, hvisits, hrun⟩ := h
  have hvisit : Visit.InOrder document ⟨place, v, s, t, answer, t⟩ := ⟨hvalue, ht, rfl⟩
  refine ⟨visits ++ [⟨place, v, s, t, answer, t⟩], ?_, fun scan hscan earlier => ?_⟩
  · exact List.forall_mem_append.mpr ⟨hvisits, List.forall_mem_singleton.mpr hvisit⟩
  · simp [track, hrun scan hscan]

/-- A name that is opened already is not opened again. -/
lemma settles_opened (ht : t.InOrder place) (hopened : name ∈ t.opened) :
    Settles document t (fun scan => r.trackName scan limit place v name) false := by
  refine ⟨[], by simp, fun scan hscan earlier => ?_⟩
  obtain ⟨frames, hframes, hmem⟩ := hscan t place ht
  simp [trackName, hframes, (hmem name).mpr hopened]

/-- A name that leads nowhere is not opened. -/
lemma settles_unresolved {why : ResolveError} (ht : t.InOrder place)
    (hresolve : r.resolve name = .error why) :
    Settles document t (fun scan => r.trackName scan limit place v name) false := by
  refine ⟨[], by simp, fun scan hscan earlier => ?_⟩
  obtain ⟨frames, hframes, -⟩ := hscan t place ht
  simp [trackName, hframes, hresolve]

/-- A name is opened, and its frame is taken off again. -/
lemma settles_opening (ht : t.InOrder place) (hnew : name ∉ t.opened)
    (hresolve : r.resolve name = .ok entry)
    (h : Settles document (t.push ⟨name, place⟩)
      (fun scan => r.track scan limit place v entry.schema) answer) :
    Settles document t (fun scan => r.trackName scan limit place v name) answer := by
  obtain ⟨visits, hvisits, hrun⟩ := h
  refine ⟨visits, hvisits, fun scan hscan earlier => ?_⟩
  obtain ⟨frames, hframes, hmem⟩ := hscan t place ht
  have hclosed : ⟨name, place⟩ ∉ frames := fun h => hnew ((hmem name).mp h)
  simp [trackName, hframes, hclosed, hresolve, hrun scan hscan]

/-- One level further down, unless that is too deep; and back again. -/
lemma settles_below (h : Settles document t.descend (fun scan => r.track scan limit place v s)
      (r.accepts (limit - (t.depth + 1)) s v)) :
    Settles document t (fun scan => r.trackBelow scan limit place v s)
      (r.acceptsBelow (limit - t.depth) s v) := by
  obtain ⟨visits, hvisits, hrun⟩ := h
  rcases Nat.lt_or_ge t.depth limit with hlt | hle
  · have hdepth : limit - t.depth = limit - (t.depth + 1) + 1 := by omega
    rw [hdepth, acceptsBelow_succ]
    refine ⟨visits, hvisits, fun scan hscan earlier => ?_⟩
    have hnot : ¬ limit ≤ t.depth := by omega
    simp [trackBelow, hnot, hrun scan hscan]
  · have hdepth : limit - t.depth = 0 := by omega
    rw [hdepth, acceptsBelow_zero]
    refine ⟨[], by simp, fun scan hscan earlier => ?_⟩
    simp [trackBelow, hle]

/-! ### The whole run -/

lemma matchesWithin_object_eq {depth : Nat} {opened : List String}
    {properties : List (String × Schema)} {required : List String} :
    r.matchesWithin depth opened (.object properties required) v =
      ((v.form == .object && required.all fun name => (v.field? name).isSome) &&
        properties.all fun (name, sub) => (v.field? name).all (r.acceptsBelow depth sub)) := by
  rw [Bool.eq_iff_iff, matchesWithin_object]
  simp only [Bool.and_eq_true, beq_iff_eq, List.all_eq_true, Option.all_eq_true, Prod.forall,
    and_assoc]
  refine and_congr_right fun _ => and_congr_right fun _ => ?_
  exact ⟨fun h name sub hmem child => h name sub child hmem,
    fun h name sub child hmem => h name sub hmem child⟩

lemma matchesWithin_array_eq {depth : Nat} {opened : List String} {items : Option Schema}
    {least most : Option Nat} : r.matchesWithin depth opened (.array items least most) v =
      ((v.form == .array && Schema.admitsLength least most v.elements.length) &&
        items.all fun item => v.elements.zipIdx.all fun (child, _) =>
          r.acceptsBelow depth item child) := by
  have hall : ∀ item, (v.elements.zipIdx.all fun (child, _) => r.acceptsBelow depth item child) =
      v.elements.all fun child => r.acceptsBelow depth item child := by
    intro item
    rw [← List.zipIdx_map_fst 0 v.elements, List.all_map, List.zipIdx_map_fst]
    rfl
  rw [Bool.eq_iff_iff, matchesWithin_array]
  simp only [hall, Bool.and_eq_true, beq_iff_eq, List.all_eq_true, Option.all_eq_true, and_assoc]

lemma matchesWithin_allOf_eq {depth : Nat} {opened : List String} {parts : List Schema} :
    r.matchesWithin depth opened (.allOf parts) v =
      parts.all fun part => r.matchesWithin depth opened part v := by
  rw [Bool.eq_iff_iff, matchesWithin_allOf, List.all_eq_true]

lemma matchesWithin_anyOf_eq {depth : Nat} {opened : List String} {parts : List Schema} :
    r.matchesWithin depth opened (.anyOf parts) v =
      parts.any fun part => r.matchesWithin depth opened part v := by
  rw [Bool.eq_iff_iff, matchesWithin_anyOf, List.any_eq_true]

/-- **Matching along a trail settles**, with the answer of matching. -/
theorem settles_track (r : Registry) (limit : Nat) {t : Trail} {place : List Step} (s : Schema)
    (v : Json) (hvalue : document.follow? place = some v) (ht : t.InOrder place) :
    Settles document t (fun scan => r.track scan limit place v s)
      (r.matchesWithin (limit - t.depth) t.opened s v) := by
  refine settles_visit hvalue ht ?_
  -- the cases are those of `matchesWithin`, and so is what gets less
  match s with
  | .any =>
    simp only [trackForm, matchesWithin_any]
    exact settles_pure true
  | .leaf c =>
    simp only [trackForm, matchesWithin_leaf]
    exact settles_pure (c.admits v)
  | .ref name =>
    simp only [trackForm]
    rw [matchesWithin]
    by_cases hopened : name ∈ t.opened
    · rw [dif_pos hopened]
      exact settles_opened ht hopened
    · rw [dif_neg hopened]
      split
      · next hresolve => exact settles_unresolved ht hresolve
      · next entry hresolve =>
        -- the schema of the name may be larger, but there is one name less to open
        have hless : r.namesLeft (t.push ⟨name, place⟩).opened < r.namesLeft t.opened := by
          rw [Trail.opened_push ht.base_le]
          exact namesLeft_lt (contains_of_resolveFrom hresolve) hopened
            (by simp +contextual) (by simp)
        have hentry := settles_track r limit entry.schema v hvalue (ht.push name)
        rw [Trail.depth_push, Trail.opened_push ht.base_le] at hentry
        exact settles_opening ht hopened hresolve hentry
  | .object properties required =>
    simp only [trackForm, matchesWithin_object_eq]
    split
    · next hobject =>
      rw [hobject, Bool.true_and]
      refine Settles.all ?_
      rintro ⟨name, sub⟩ -
      dsimp only
      cases hfield : v.field? name with
      | none => exact settles_pure true
      | some child =>
        have hchild := settles_track r limit sub child (Json.follow?_field hvalue hfield)
          (ht.descend (.field name))
        rw [Trail.depth_descend, Trail.opened_descend] at hchild
        exact settles_below hchild
    · next hobject =>
      rw [Bool.eq_false_iff.mpr hobject, Bool.false_and]
      exact settles_pure false
  | .array items least most =>
    rw [matchesWithin_array_eq]
    cases harray : v.form == .array && Schema.admitsLength least most v.elements.length with
    | false =>
      cases items <;> simpa [trackForm, harray] using settles_pure false
    | true =>
      rw [Bool.true_and]
      cases items with
      | none =>
        simp only [trackForm, harray, if_true]
        exact settles_pure true
      | some item =>
        simp only [trackForm, harray, if_true]
        refine Settles.all ?_
        rintro ⟨child, index⟩ hmem
        have helement := List.mem_zipIdx_iff_getElem?.mp hmem
        have hchild := settles_track r limit item child (Json.follow?_element hvalue helement)
          (ht.descend (.element index))
        rw [Trail.depth_descend, Trail.opened_descend] at hchild
        exact settles_below hchild
  | .allOf parts =>
    simp only [trackForm, matchesWithin_allOf_eq]
    exact Settles.all fun part hpart => settles_track r limit part v hvalue ht
  | .anyOf parts =>
    simp only [trackForm, matchesWithin_anyOf_eq]
    exact Settles.any fun part hpart => settles_track r limit part v hvalue ht
  termination_by (sizeOf v, r.namesLeft t.opened, sizeOf s)
  decreasing_by
    · exact Prod.Lex.right _ (Prod.Lex.left _ _ hless)
    · exact Prod.Lex.left _ _ (Json.sizeOf_field_lt hfield)
    · exact Prod.Lex.left _ _ (Json.sizeOf_element_lt (List.mem_of_getElem? helement))
    · have hless := List.sizeOf_lt_of_mem hpart
      exact Prod.Lex.right _ (Prod.Lex.right _ (by simp; omega))
    · have hless := List.sizeOf_lt_of_mem hpart
      exact Prod.Lex.right _ (Prod.Lex.right _ (by simp; omega))

/-- What is asked first is what is answered last. -/
lemma track_getLast? {scan : Scan} {before after : Run}
    (h : (r.track scan limit place v s).run before = some (answer, after)) :
    after.visits.getLast? = some ⟨place, v, s, before.trail, answer, after.trail⟩ := by
  simp only [track, StateT.run_bind, run_trail, Option.bind_eq_bind, Option.bind_some] at h
  obtain ⟨⟨found, run⟩, -, h⟩ := Option.bind_eq_some_iff.mp h
  simp only [run_record, Option.bind_some, StateT.run_pure, Option.pure_def,
    Option.some.injEq, Prod.mk.injEq] at h
  obtain ⟨rfl, rfl⟩ := h
  exact List.getLast?_concat

/-- **It is enough to look at the frames of the present value.**  Matching along a trail comes to
an end, with the answer of matching and an empty trail.  On the way there it visits the
same with the same answers if all frames are looked at; and wherever it comes, what is from the
base on belongs to the present value, what is before belongs to values above, and the trail is left
as it was found. -/
theorem acceptsAlong_current_all (r : Registry) (limit : Nat) (s : Schema) (v : Json) :
    ∃ visits : List Visit,
      r.acceptsAlong .current limit s v = some (r.accepts limit s v, ⟨.empty, visits⟩) ∧
        r.acceptsAlong .all limit s v = some (r.accepts limit s v, ⟨.empty, visits⟩) ∧
          visits.getLast? = some ⟨[], v, s, .empty, r.accepts limit s v, .empty⟩ ∧
            ∀ visit ∈ visits, visit.InOrder v := by
  have hsettles : Settles v .empty (fun scan => r.track scan limit [] v s) (r.accepts limit s v) :=
    settles_track r limit s v rfl Trail.inOrder_empty
  obtain ⟨visits, hvisits, hrun⟩ := hsettles
  have hcurrent := hrun _ Scan.exact_current []
  have hall := hrun _ Scan.exact_all []
  exact ⟨visits, hcurrent, hall, track_getLast? hcurrent, hvisits⟩

end Registry

end TreeSchema
