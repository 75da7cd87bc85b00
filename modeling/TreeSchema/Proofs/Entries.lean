/-
Names that do not repeat.

Nothing in the type of a list of entries keeps a name from coming twice, but no list that is
made by `Entries.put` has such a name.  Where names do not repeat, an entry is found under its
name (`get?_of_mem`), so being in the list and being found are the same.
-/
import Mathlib.Data.List.Forall2
import Mathlib.Data.List.Nodup
import Mathlib.Data.List.Perm.Subperm
import Mathlib.Tactic.Lemma
import TreeSchema.Entries

namespace TreeSchema

namespace Entries

variable {α β : Type} {es : Entries α} {name : String} {new value : α}

@[simp] lemma names_nil : names ([] : Entries α) = [] := rfl

@[simp] lemma names_cons (entry : String × α) (es : Entries α) :
    names (entry :: es) = entry.1 :: names es := rfl

lemma mem_names_of_mem (h : (name, value) ∈ es) : name ∈ es.names := List.mem_map_of_mem h

/-- Entries that stand side by side under the same names. -/
lemma names_eq_of_forall₂ {R : String × α → String × β → Prop} {es' : Entries β}
    (hR : ∀ entry other, R entry other → entry.1 = other.1) (h : List.Forall₂ R es es') :
    es'.names = es.names := by
  induction h with
  | nil => rfl
  | cons hfirst _ ih => simp [hR _ _ hfirst, ih]

lemma get?_of_mem (hnames : es.names.Nodup) (h : (name, value) ∈ es) :
    es.get? name = some value := by
  induction es with
  | nil => cases h
  | cons entry rest ih =>
    obtain ⟨key, old⟩ := entry
    obtain ⟨hkey, hrest⟩ := List.nodup_cons.mp hnames
    rcases List.mem_cons.mp h with heq | h
    · cases heq
      simp [get?]
    · have hne : key ≠ name := fun heq => hkey (heq ▸ mem_names_of_mem h)
      simpa [get?, hne] using ih hrest h

lemma isSome_get?_iff : (es.get? name).isSome = true ↔ name ∈ es.names := by
  induction es with
  | nil => simp [get?]
  | cons entry rest ih =>
    obtain ⟨key, old⟩ := entry
    by_cases hkey : key = name
    · simp [get?, hkey]
    · simp [get?, hkey, Ne.symm hkey, ih]

/-- A list that has all names of another one, and is no longer than it, has the same names. -/
lemma perm_names {es' : Entries β} (hnames : es.names.Nodup) (hlength : es'.length = es.length)
    (hsub : es.names ⊆ es'.names) : es.names.Perm es'.names :=
  (hnames.subperm hsub).perm_of_length_le (by simp [names, hlength])

/-! ### Putting -/

lemma names_put_of_mem (h : name ∈ es.names) : (es.put name new).names = es.names := by
  induction es with
  | nil => cases h
  | cons entry rest ih =>
    obtain ⟨key, old⟩ := entry
    by_cases hkey : key = name
    · simp [put, hkey]
    · have hrest : name ∈ names rest := (List.mem_cons.mp h).resolve_left (Ne.symm hkey)
      simp [put, hkey, ih hrest]

lemma put_of_not_mem (h : name ∉ es.names) : es.put name new = es ++ [(name, new)] := by
  induction es with
  | nil => rfl
  | cons entry rest ih =>
    obtain ⟨key, old⟩ := entry
    obtain ⟨hkey, hrest⟩ := List.ne_and_not_mem_of_not_mem_cons h
    rw [put, if_neg (Ne.symm hkey), ih hrest, List.cons_append]

lemma names_put_of_not_mem (h : name ∉ es.names) :
    (es.put name new).names = es.names ++ [name] := by
  rw [put_of_not_mem h]
  simp [names]

lemma nodup_names_put (hnames : es.names.Nodup) : (es.put name new).names.Nodup := by
  by_cases hmem : name ∈ es.names
  · rwa [names_put_of_mem hmem]
  · rw [names_put_of_not_mem hmem]
    exact List.nodup_append_comm.mp (List.nodup_cons.mpr ⟨hmem, hnames⟩)

/-- Entries under different names are kept as they stand. -/
lemma ofList_of_nodup (hnames : es.names.Nodup) : Entries.ofList es = es := by
  have hfoldl : ∀ seen : Entries α, (seen ++ es).names.Nodup →
      es.foldl (fun kept entry => Entries.put kept entry.1 entry.2) seen = seen ++ es := by
    clear hnames
    induction es with
    | nil => simp
    | cons entry rest ih =>
      intro seen hnodup
      have hnew : entry.1 ∉ seen.names := by
        rw [names, List.map_append] at hnodup
        exact fun hmem => (List.nodup_append.mp hnodup).2.2 _ hmem _ List.mem_cons_self rfl
      rw [List.append_cons] at hnodup ⊢
      rw [List.foldl_cons, put_of_not_mem hnew, ih _ hnodup]
  exact hfoldl [] hnames

/-- What is in a list after putting is new, or it was there before. -/
lemma mem_put {entry : String × α} (h : entry ∈ es.put name new) :
    entry = (name, new) ∨ entry ∈ es := by
  induction es with
  | nil => exact .inl (List.mem_singleton.mp h)
  | cons first rest ih =>
    obtain ⟨key, old⟩ := first
    by_cases hkey : key = name
    · rw [put, if_pos hkey, hkey] at h
      rcases List.mem_cons.mp h with rfl | h
      · exact .inl rfl
      · exact .inr (List.mem_cons_of_mem _ h)
    · rw [put, if_neg hkey] at h
      rcases List.mem_cons.mp h with rfl | h
      · exact .inr List.mem_cons_self
      · exact (ih h).imp_right (List.mem_cons_of_mem _)

end Entries

end TreeSchema
