/-
Resolution of names.

A name may be registered for a bare reference to another name.  Resolution follows such
references until it comes to any other schema.  It fails at a name that is not registered and
at a name that it has come by before.  Because the names on the way are registered and all
different, there are fewer and fewer of them left, and resolution always ends.
-/
import TreeSchema.Registry.Basic

namespace TreeSchema

/-- Why a name leads to no schema. -/
inductive ResolveError where
  | notRegistered (name : String)
  /-- The names on the way, the last of which came before. -/
  | cycle (names : List String)
  deriving DecidableEq, Repr

def ResolveError.message : ResolveError → String
  | .notRegistered name => "schema `" ++ name ++ "` is not registered"
  | .cycle names => "reference cycle: " ++ String.intercalate " -> " names

namespace Registry

/-! ### Names that are left -/

/-- How many of the registered names are not in a list. -/
def namesLeft (r : Registry) (visited : List String) : Nat :=
  (r.names.filter fun name => !visited.contains name).length

theorem mem_names_of_contains {r : Registry} {name : String} (h : r.contains name = true) :
    name ∈ r.names := by
  obtain ⟨entry, hentry⟩ := Option.isSome_iff_exists.mp h
  exact List.mem_map.mpr ⟨_, Entries.get?_mem hentry, rfl⟩

theorem length_unvisited_le (names : List String) {visited more : List String}
    (hmore : ∀ x, x ∈ visited → x ∈ more) :
    (names.filter fun x => !more.contains x).length
      ≤ (names.filter fun x => !visited.contains x).length := by
  induction names with
  | nil => exact Nat.le_refl _
  | cons x rest ih =>
    by_cases hx : x ∈ more
    · by_cases hv : x ∈ visited <;> simp [hx, hv] <;> simp at ih <;> omega
    · have hv : x ∉ visited := fun hv => hx (hmore x hv)
      simpa [hx, hv] using ih

theorem length_unvisited_lt {names visited more : List String} {name : String}
    (hmem : name ∈ names) (hnew : name ∉ visited) (hmore : ∀ x, x ∈ visited → x ∈ more)
    (hname : name ∈ more) :
    (names.filter fun x => !more.contains x).length
      < (names.filter fun x => !visited.contains x).length := by
  induction names with
  | nil => cases hmem
  | cons x rest ih =>
    rcases List.mem_cons.mp hmem with rfl | hrest
    · have hle := length_unvisited_le rest hmore
      simp only [List.contains_eq_mem] at hle
      simp [hname, hnew]
      omega
    · have hlt := ih hrest
      simp only [List.contains_eq_mem] at hlt
      by_cases hx : x ∈ more
      · by_cases hv : x ∈ visited <;> simp [hx, hv] <;> omega
      · have hv : x ∉ visited := fun hv => hx (hmore x hv)
        simp [hx, hv]
        omega

/-- A registered name that is not in a list leaves fewer names when it is added. -/
theorem namesLeft_lt {r : Registry} {visited more : List String} {name : String}
    (hregistered : r.contains name = true) (hnew : name ∉ visited)
    (hmore : ∀ x, x ∈ visited → x ∈ more) (hname : name ∈ more) :
    r.namesLeft more < r.namesLeft visited :=
  length_unvisited_lt (mem_names_of_contains hregistered) hnew hmore hname

/-! ### Following references -/

/-- Follows references from a name, after having come by others. -/
def resolveFrom (r : Registry) (visited : List String) (name : String) :
    Except ResolveError SchemaEntry :=
  if hnew : name ∈ visited then .error (.cycle (visited ++ [name]))
  else
    match hlookup : r.lookup? name with
    | none => .error (.notRegistered name)
    | some entry =>
      match entry.schema.alias? with
      | some next =>
        have hless : r.namesLeft (visited ++ [name]) < r.namesLeft visited :=
          namesLeft_lt (by simp [contains, hlookup]) hnew (by simp +contextual) (by simp)
        r.resolveFrom (visited ++ [name]) next
      | none => .ok entry
  termination_by r.namesLeft visited

/-- The entry that a name leads to. -/
def resolve (r : Registry) (name : String) : Except ResolveError SchemaEntry :=
  r.resolveFrom [] name

theorem contains_of_resolveFrom {r : Registry} {visited : List String} {name : String}
    {entry : SchemaEntry} (h : r.resolveFrom visited name = .ok entry) :
    r.contains name = true := by
  unfold resolveFrom at h
  split at h
  · cases h
  · split at h
    · cases h
    · next hlookup => simp [contains, hlookup]

end Registry

end TreeSchema
