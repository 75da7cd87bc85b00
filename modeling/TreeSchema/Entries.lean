/-
Named entries in a fixed order.

Objects, field schemas, catalogs and registries are all lists of named entries that
keep the order in which the names first came.  `Entries.put` gives an old name a new
value where it stands and adds a new name at the end, so names never repeat in a
list built by it.
-/

namespace TreeSchema

/-- Values under names, in order. -/
abbrev Entries (α : Type) : Type := List (String × α)

namespace Entries

variable {α β : Type}

/-- The value under a name. -/
def get? : Entries α → String → Option α
  | [], _ => none
  | (key, value) :: rest, name => if key = name then some value else get? rest name

/-- The names in order. -/
def names (es : Entries α) : List String := es.map Prod.fst

/-- Whether a name has a value. -/
def has (es : Entries α) (name : String) : Bool := (es.get? name).isSome

/-- Sets the value under a name: in place when the name is there, at the end
otherwise. -/
def put : Entries α → String → α → Entries α
  | [], name, new => [(name, new)]
  | (key, value) :: rest, name, new =>
    if key = name then (key, new) :: rest else (key, value) :: put rest name new

/-- The entries of a list, a repeated name keeping its first place and its last
value. -/
def ofList (pairs : List (String × α)) : Entries α :=
  pairs.foldl (fun es (name, value) => es.put name value) []

theorem get?_mem {es : Entries α} {name : String} {value : α}
    (h : es.get? name = some value) : (name, value) ∈ es := by
  induction es with
  | nil => cases h
  | cons entry rest ih =>
    obtain ⟨key, old⟩ := entry
    by_cases hkey : key = name
    · simp only [get?, hkey, if_true, Option.some.injEq] at h
      simp [hkey, h]
    · simp only [get?, hkey, if_false] at h
      exact List.mem_cons_of_mem _ (ih h)

theorem get?_put_self (es : Entries α) (name : String) (new : α) :
    (es.put name new).get? name = some new := by
  induction es with
  | nil => simp [put, get?]
  | cons entry rest ih =>
    obtain ⟨key, old⟩ := entry
    by_cases hkey : key = name <;> simp [put, get?, hkey, ih]

theorem get?_put_of_ne (es : Entries α) {name other : String} (new : α)
    (hne : name ≠ other) : (es.put name new).get? other = es.get? other := by
  induction es with
  | nil => simp [put, get?, hne]
  | cons entry rest ih =>
    obtain ⟨key, old⟩ := entry
    by_cases hkey : key = name
    · simp [put, get?, hkey, hne]
    · by_cases hother : key = other
      · subst hother
        simp [put, get?, Ne.symm hne]
      · simp [put, get?, hkey, hother, ih]

end Entries

end TreeSchema
