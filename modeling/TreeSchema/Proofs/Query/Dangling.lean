/-
Dangling references.

The check for dangling references looks at each stored schema by itself, and follows no reference.
What it finds are the references to names that are not registered, in the order in which the schemas
are stored and in which references stand in them, and as often as they stand there.

Yet it tells what happens when references are followed.  If it finds nothing, the registered names
are closed.  Matching goes from a schema that refers to no other names to schemas that refer to no
other names (`references_mem_of_calls`), and the walk from alias to alias does not leave them.  So
no run from a registered name comes to a reference that is lost on the way
(`dangling_guarantees`).  One that goes round in a circle is not lost, as all names on it are
registered.
-/
import TreeSchema.Proofs.Matching.Termination
import TreeSchema.Proofs.Query.Locality
import TreeSchema.Proofs.Registry.Outcomes
import TreeSchema.Proofs.Schema.Places

namespace TreeSchema

namespace Registry

open Relation

/-- Resolution of a name comes to an entry, or it goes round in a circle. -/
def NotLost (r : Registry) (name : String) : Prop :=
  (∃ entry, r.resolve name = .ok entry) ∨ ∃ chain, r.resolve name = .error (.cycle chain)

variable {r : Registry} {names : Set String} {name other : String} {s : Schema} {g g' : Goal}

/-! ### What the check finds -/

/-- The check for one entry. -/
lemma enumerates_missing (r : Registry) (owner : String) (entry : SchemaEntry) :
    Enumerates
      (fun place (found : String × String) => found.1 = owner ∧
        entry.schema.at? place = some (.ref found.2) ∧ r.contains found.2 = false)
      ((entry.schema.references.filter fun name => !r.contains name).map fun name =>
        (owner, name)) := by
  refine ((entry.schema.enumerates_references.filter _).map _).congr fun place found => ?_
  obtain ⟨owner', missing⟩ := found
  simp only [Bool.not_eq_true', Prod.mk.injEq]
  constructor
  · rintro ⟨_, ⟨hplace, hmissing⟩, rfl, rfl⟩
    exact ⟨rfl, hplace, hmissing⟩
  · rintro ⟨rfl, hplace, hmissing⟩
    exact ⟨missing, ⟨hplace, hmissing⟩, rfl, rfl⟩

lemma enumerates_dangling (r : Registry) :
    Enumerates
      (fun place (found : String × String) => ∃ i path entry, place = i :: path ∧
        r.entries[i]? = some (found.1, entry) ∧ entry.schema.at? path = some (.ref found.2) ∧
        r.contains found.2 = false)
      r.dangling := by
  refine Enumerates.congr (Enumerates.flatMap fun entry _ => r.enumerates_missing entry.1 entry.2)
    fun place found => ?_
  constructor
  · rintro ⟨i, path, ⟨owner, entry⟩, rfl, hentry, rfl, hplace, hmissing⟩
    exact ⟨i, path, entry, rfl, hentry, hplace, hmissing⟩
  · rintro ⟨i, path, entry, rfl, hentry, hplace, hmissing⟩
    exact ⟨i, path, (found.1, entry), rfl, hentry, rfl, hplace, hmissing⟩

/-! ### Matching does not leave a closed set -/

/-- A step from a schema that refers to names of a closed set goes to one that does. -/
lemma references_mem_of_calls (hclosed : r.Closed names)
    (hg : ∀ x ∈ g.schema.references, x ∈ names) (h : r.Calls g g') :
    ∀ x ∈ g'.schema.references, x ∈ names := by
  have hchild : g'.schema ∈ g.schema.children → ∀ x ∈ g'.schema.references, x ∈ names :=
    fun hmem x hx => hg x (Schema.mem_references_of_mem_children hmem hx)
  rcases h.inversion with ⟨name, entry, hschema, -, hresolve, rfl⟩ | ⟨-, hmem⟩ | hnarrows
  · have hname : name ∈ names := hg name (by simp [hschema, Schema.references])
    exact hclosed.references_of_resolve hname hresolve
  · exact hchild hmem
  · exact hchild hnarrows.mem_children

lemma references_mem_of_visits (hclosed : r.Closed names)
    (hg : ∀ x ∈ g.schema.references, x ∈ names) (h : r.Visits g g') :
    ∀ x ∈ g'.schema.references, x ∈ names := by
  induction h with
  | refl => exact hg
  | tail _ hstep ih => exact references_mem_of_calls hclosed ih hstep

/-! ### What the check guarantees -/

lemma notLost_of_closed (hclosed : r.Closed {name | name ∈ r.names}) (hname : name ∈ r.names) :
    r.NotLost name := by
  cases hresolve : r.resolve name with
  | ok entry => exact .inl ⟨entry, hresolve⟩
  | error why =>
    cases why with
    | cycle chain => exact .inr ⟨chain, hresolve⟩
    | notRegistered missing =>
      -- the walk would have left the registered names
      obtain ⟨hleads, hlookup⟩ := resolve_eq_notRegistered_iff.mp hresolve
      have hmissing : missing ∈ r.names := hclosed.mem_of_leadsTo hname hleads
      rw [← contains_iff_mem_names, contains, hlookup] at hmissing
      cases hmissing

/-- A schema that matching may begin with when a value is matched with a registered name: a
reference to the name, the schema under it, or the one of a query for it. -/
inductive StartsAt (r : Registry) (name : String) : Schema → Prop where
  | reference : StartsAt r name (.ref name)
  | stored {s : Schema} (h : r.schema? name = some s) : StartsAt r name s
  | query {s : Schema} {q : Query} (hq : q.Names name) (h : r.prepare q = .ok s) :
      StartsAt r name s

lemma StartsAt.references_mem (h : r.StartsAt name s) (hclosed : r.Closed names)
    (hname : name ∈ names) : ∀ x ∈ s.references, x ∈ names := by
  cases h with
  | reference => simpa [Schema.references] using hname
  | stored h => exact hclosed name hname s h
  | query hq h =>
    exact references_mem_of_schemaOfName hclosed hname ((prepare_of_names r hq).symm.trans h)

/-- **What the check for dangling references guarantees.**

* It finds the references to names that are not registered, each with the name of the stored schema
  that it stands in: in the order of the entries and, in an entry, of the places, and as often as
  the references stand there.
* If it finds nothing, a registered name resolves or leads round in a circle, and so does every
  reference that matching comes to from a registered name, on any value and to any depth. -/
theorem dangling_guarantees (r : Registry) :
    Enumerates
      (fun place (found : String × String) => ∃ i path entry, place = i :: path ∧
        r.entries[i]? = some (found.1, entry) ∧ entry.schema.at? path = some (.ref found.2) ∧
        r.contains found.2 = false)
      r.dangling ∧
    (r.dangling = [] → ∀ name, r.contains name = true →
      r.NotLost name ∧
      ∀ s, r.StartsAt name s → ∀ depth v g other, r.Visits ⟨depth, [], s, v⟩ g →
        g.schema = .ref other → r.NotLost other) := by
  refine ⟨r.enumerates_dangling, fun hdangling name hcontains => ?_⟩
  have hclosed := closed_names_of_dangling hdangling
  have hname := mem_names_of_contains hcontains
  refine ⟨notLost_of_closed hclosed hname, fun s hs depth v g other hvisits hother => ?_⟩
  have hmem := references_mem_of_visits hclosed (hs.references_mem hclosed hname) hvisits other
  exact notLost_of_closed hclosed (hmem (by simp [hother, Schema.references]))

/-- A stem may have a shoot and be covered with ivy. -/
def stem : Schema := .object [("shoot", .ref "Shoot"), ("cover", .ref "Ivy")] []

/-- A shoot is a stem, and of ivy it is only known that it is ivy. -/
def brambles : Registry where
  entries := [("Stem", { schema := stem }), ("Shoot", { schema := .ref "Stem" }),
    ("Ivy", { schema := .ref "Ivy" })]

lemma brambles_calls_shoot (depth : Nat) (v : Json) :
    brambles.Calls ⟨depth, [], .ref "Shoot", v⟩ ⟨depth, ["Shoot"], stem, v⟩ := by
  have hstep : brambles.AliasStep "Shoot" "Stem" := ⟨_, rfl, rfl⟩
  have hresolve : brambles.resolve "Shoot" = .ok { schema := stem } :=
    resolve_eq_ok_iff.mpr ⟨"Stem", .single hstep, rfl, rfl⟩
  simp [Calls, reduce, hresolve, Reduct.goals]

/-- No reference dangles among the brambles, and none that a shoot leads to is lost, though the one
to ivy goes round in a circle. -/
theorem brambles_not_lost :
    brambles.dangling = [] ∧ brambles.contains "Shoot" = true ∧
    ∃ g, brambles.Visits
        ⟨3, [], .ref "Shoot", .object [("shoot", .object [("cover", .null)])]⟩ g ∧
      g.schema = .ref "Ivy" ∧ brambles.NotLost "Ivy" := by
  have hshoot : brambles.Calls
      ⟨3, ["Shoot"], stem, .object [("shoot", .object [("cover", .null)])]⟩
      ⟨2, [], .ref "Shoot", .object [("cover", .null)]⟩ := .head _
  have hcover : brambles.Calls ⟨2, ["Shoot"], stem, .object [("cover", .null)]⟩
      ⟨1, [], .ref "Ivy", .null⟩ := .head _
  have hvisits : brambles.Visits
      ⟨3, [], .ref "Shoot", .object [("shoot", .object [("cover", .null)])]⟩
      ⟨1, [], .ref "Ivy", .null⟩ :=
    (((ReflTransGen.single (brambles_calls_shoot 3 _)).tail hshoot).tail
      (brambles_calls_shoot 2 _)).tail hcover
  refine ⟨by decide, by decide, _, hvisits, rfl, ?_⟩
  have hruns := ((dangling_guarantees brambles).2 (by decide) "Shoot" (by decide)).2
  exact hruns _ .reference 3 _ _ "Ivy" hvisits rfl

end Registry

end TreeSchema
