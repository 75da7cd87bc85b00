/-
What holds of every value that is read.

A text is read as a value by one recursion over levels of brackets, with one loop for the
elements of a list and one for the members of an object.  A property of values that holds of
words, texts and the numbers that are read, and that lists and objects inherit from what is in
them, holds of all values that texts are read as (`of_readValue`).  Of an object it may be used
that its fields have different names, because a field that is read again takes the place of the
first one.
-/
import TreeSchema.Json.Reader
import TreeSchema.Proofs.Entries
import TreeSchema.Proofs.Results

namespace TreeSchema

namespace Json

/-! ### Loops -/

section Loops

variable {α σ : Type} {P : α → Prop} {I : σ → Prop}

/-- What holds of every element that is read holds of the elements of a list. -/
lemma forall_of_readElements {element : (c : Cursor) → Except Fault (Reading c.size α)}
    (helement : ∀ c r, element c = .ok r → P r.value) {limit : Nat} {seen : List α} {c : Cursor}
    {inside : c.size < limit} {r : Reading limit (List α)}
    (h : readElements element limit seen c inside = .ok r) (hseen : ∀ a ∈ seen, P a) :
    ∀ a ∈ r.value, P a := by
  fun_induction readElements element limit seen c inside with
  | case1 => cases h
  | case2 =>
    cases h
    simpa using hseen
  | case3 => cases h
  | case4 seen c inside here hnext found hfound hshorter ih =>
    refine ih h (List.forall_mem_cons.mpr ⟨?_, hseen⟩)
    exact helement here found (mapError_eq_ok_iff.mp hfound)

/-- What every member preserves holds of the state behind an object. -/
lemma invariant_of_readMembers
    {member : σ → String → (c : Cursor) → Except Fault (Reading c.size σ)}
    (hmember : ∀ state name c r, I state → member state name c = .ok r → I r.value) {limit : Nat}
    {first : Bool} {state : σ} {c : Cursor} {inside : c.size < limit} {r : Reading limit σ}
    (h : readMembers member limit first state c inside = .ok r) (hstate : I state) :
    I r.value := by
  fun_induction readMembers member limit first state c inside with
  | case1 => cases h
  | case2 =>
    cases h
    exact hstate
  | case3 => cases h
  | case4 => cases h
  | case5 first state c inside here hnext hhere key hkey found hfound hshorter ih =>
    exact ih h (hmember _ _ _ _ hstate hfound)

/-- The value of a member is what is read behind its colon. -/
lemma of_readMember {value : (c : Cursor) → Except Fault (Reading c.size α)}
    (hvalue : ∀ c r, value c = .ok r → P r.value) {name : String} {c : Cursor}
    {r : Reading c.size α} (h : readMember name value c = .ok r) : P r.value := by
  unfold readMember at h
  split at h
  · cases h
  · next here _ =>
    obtain ⟨found, hfound, rfl⟩ := map_eq_ok_iff.mp h
    exact hvalue here found (mapError_eq_ok_iff.mp hfound)

/-- The fields of an object have different names, and what holds of every value that is read holds
of their values. -/
lemma entries_of_readMembers {value : (c : Cursor) → Except Fault (Reading c.size α)}
    (hvalue : ∀ c r, value c = .ok r → P r.value) {limit : Nat} {first : Bool} {c : Cursor}
    {inside : c.size < limit} {r : Reading limit (Entries α)}
    (h : readMembers (entry value) limit first [] c inside = .ok r) :
    r.value.names.Nodup ∧ ∀ field ∈ r.value, P field.2 := by
  refine invariant_of_readMembers
    (I := fun fields => fields.names.Nodup ∧ ∀ field ∈ fields, P field.2)
    (fun fields name c r hfields hr => ?_) h ⟨.nil, by simp⟩
  obtain ⟨member, hmember, rfl⟩ := map_eq_ok_iff.mp hr
  refine ⟨Entries.nodup_names_put hfields.1, fun field hfield => ?_⟩
  rcases Entries.mem_put hfield with rfl | hold
  · exact of_readMember hvalue hmember
  · exact hfields.2 field hold

end Loops

/-! ### Values -/

lemma value_of_readWord {letters : List Char} {value : Json} {c : Cursor} {hpos : 0 < c.size}
    {r : Reading c.size Json} (h : readWord letters value c hpos = .ok r) : r.value = value := by
  unfold readWord at h
  split at h
  · cases h
  · cases h
    rfl

/-- A property that holds of words, texts and numbers, and that lists and objects inherit. -/
structure Inherited (P : Json → Prop) : Prop where
  null : P .null
  bool : ∀ value, P (.bool value)
  number : ∀ c r, readNumber c = .ok r → P (.number r.value)
  string : ∀ value, P (.string value)
  array : ∀ elements, (∀ v ∈ elements, P v) → P (.array elements)
  object : ∀ fields, (Entries.names fields).Nodup → (∀ field ∈ fields, P field.2) →
    P (.object fields)

namespace Inherited

variable {P : Json → Prop}

lemma of_readScalar (hP : Inherited P) {c : Cursor} {r : Reading c.size Json}
    (h : readScalar c = .ok r) : P r.value := by
  unfold readScalar at h
  split at h
  · cases h
  · dsimp only at h
    split_ifs at h
    · rw [value_of_readWord h]
      exact hP.null
    · rw [value_of_readWord h]
      exact hP.bool true
    · rw [value_of_readWord h]
      exact hP.bool false
    · obtain ⟨found, -, rfl⟩ := map_eq_ok_iff.mp h
      exact hP.string found.value
    · obtain ⟨found, hfound, rfl⟩ := map_eq_ok_iff.mp h
      exact hP.number c found hfound
    · cases h

lemma of_readValue (hP : Inherited P) {levels : Nat} {c : Cursor} {r : Reading c.size Json}
    (h : readValue levels c = .ok r) : P r.value := by
  induction levels generalizing c with
  | zero =>
    unfold readValue at h
    obtain ⟨found, hfound, rfl⟩ := map_eq_ok_iff.mp h
    split at hfound
    · cases hfound
    · dsimp only at hfound
      split_ifs at hfound
      · cases hfound
      · cases hfound
      · exact hP.of_readScalar (r := found) hfound
  | succ levels ih =>
    unfold readValue at h
    obtain ⟨found, hfound, rfl⟩ := map_eq_ok_iff.mp h
    split at hfound
    · cases hfound
    · dsimp only at hfound
      split_ifs at hfound
      -- what is in brackets is read with one level less
      · obtain ⟨list, hlist, rfl⟩ := map_eq_ok_iff.mp hfound
        exact hP.array _ (forall_of_readElements (fun _ _ => ih) hlist (by simp))
      · obtain ⟨fields, hfields, rfl⟩ := map_eq_ok_iff.mp hfound
        obtain ⟨hnames, hvalues⟩ := entries_of_readMembers (fun _ _ => ih) hfields
        exact hP.object _ hnames hvalues
      · exact hP.of_readScalar (r := found) hfound

/-- **What is inherited holds of all values that texts are read as.** -/
theorem of_ofTextBeginning (hP : Inherited P) {text : String} {v : Json}
    (h : ofTextBeginning text = .ok v) : P v := by
  obtain ⟨r, hr, rfl⟩ := map_eq_ok_iff.mp h
  exact hP.of_readValue hr

end Inherited

end Json

end TreeSchema
