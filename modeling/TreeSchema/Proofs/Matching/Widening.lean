/-
Changing what names stand for.

Matching follows names wherever they lead, through aliases, in circles and into fields and
elements.  Seen step by step, two registries that differ under one name only may be matched
against in quite different ways: other names are opened, other circles are cut off.  But
matching computes conformance, and conformance looks a name up in one place, so there it is
enough to compare what the registries hold under the name.

`Registry.WidensOn` compares two registries name by name: all that conforms to the schema of
a name in the first conforms to the schema of that name in the second.  Then all that conforms to
any schema in the first conforms to it in the second (`ConformsWithin.widen`).  To bind a
new name, or to replace a schema by a union in which it is a part, widens a registry; to
replace a schema by an intersection narrows it (`accepts_of_rebound`).
-/
import TreeSchema.Proofs.Matching.Conformance
import TreeSchema.Proofs.Registry.Reach
import TreeSchema.Proofs.Registry.Storage

namespace TreeSchema

namespace Registry

/-- Whatever conforms, by the second registry, to what the first one holds under a name of the
set also conforms to what the second one holds there. -/
def WidensOn (names : Set String) (r r' : Registry) : Prop :=
  ∀ name ∈ names, ∀ found, r.schema? name = some found →
    ∃ wider, r'.schema? name = some wider ∧
      ∀ depth v, r'.ConformsWithin depth found v → r'.ConformsWithin depth wider v

variable {r r' : Registry} {names : Set String} {name : String} {depth : Nat} {s : Schema}
  {v : Json}

lemma ConformsWithin.ref_of_schema? (hfound : r.schema? name = some s)
    (h : r.ConformsWithin depth s v) : r.ConformsWithin depth (.ref name) v := by
  obtain ⟨entry, hlookup, rfl⟩ := lookup_of_schema? hfound
  exact .ref hlookup h

/-- **Conformance is monotone in what names stand for.**  Only the names count that the schema
leads to. -/
theorem ConformsWithin.widen (hwidens : WidensOn names r r') (hclosed : r.Closed names)
    (hs : ∀ name ∈ s.references, name ∈ names) (h : r.ConformsWithin depth s v) :
    r'.ConformsWithin depth s v := by
  induction h with
  | any => exact .any
  | @ref depth name entry v hlookup _ ih =>
    have hname : name ∈ names := hs name (by simp [Schema.references])
    have hfound := schema?_of_lookup hlookup
    obtain ⟨wider, hwider, hconforms⟩ := hwidens name hname _ hfound
    exact .ref_of_schema? hwider (hconforms depth v (ih (hclosed name hname _ hfound)))
  | leaf hadmits => exact .leaf hadmits
  | object hform hrequired hlevel _ ih =>
    refine .object hform hrequired hlevel fun name sub child hmem hfield => ?_
    exact ih name sub child hmem hfield fun x hx => hs x (Schema.mem_references_object hmem hx)
  | array hform hlength hlevel _ ih =>
    refine .array hform hlength hlevel fun item hitem child hchild => ?_
    subst hitem
    exact ih item rfl child hchild fun x hx => hs x (Schema.mem_references_array hx)
  | allOf _ ih =>
    exact .allOf fun part hpart => ih part hpart fun x hx =>
      hs x (Schema.mem_references_allOf hpart hx)
  | anyOf hmem _ ih => exact .anyOf hmem (ih fun x hx => hs x (Schema.mem_references_anyOf hmem hx))

/-- What a registry accepts, one that is wider everywhere accepts too. -/
lemma accepts_of_widensOn_univ (hwidens : WidensOn Set.univ r r')
    (h : r.accepts depth s v = true) : r'.accepts depth s v = true := by
  rw [accepts_iff_conformsWithin] at h ⊢
  exact h.widen hwidens closed_univ fun name _ => Set.mem_univ name

/-! ### Agreement -/

lemma AgreeOn.widensOn (h : AgreeOn names r r') : WidensOn names r r' :=
  fun name hname found hfound => ⟨found, (h name hname).trans hfound, fun _ _ hv => hv⟩

/-- **Registries that agree wherever a schema leads accept the same values for it.** -/
theorem AgreeOn.accepts_eq (h : AgreeOn names r r') (hclosed : r.Closed names)
    (hs : ∀ name ∈ s.references, name ∈ names) (depth : Nat) (v : Json) :
    r'.accepts depth s v = r.accepts depth s v := by
  rw [Bool.eq_iff_iff, accepts_iff_conformsWithin, accepts_iff_conformsWithin]
  exact ⟨fun hv => hv.widen h.symm.widensOn (h.closed hclosed) hs,
    fun hv => hv.widen h.widensOn hclosed hs⟩

/-! ### One name -/

/-- Storing leaves all other names alone. -/
lemma agreeOn_store (r : Registry) (name : String) (entry : SchemaEntry) :
    AgreeOn {name}ᶜ r (r.store name entry).1 := by
  intro other hother
  rw [schema?, schema?, lookup?_store_of_ne (Ne.symm hother)]

/-- Registries that agree but for one name are as wide as they are under that name. -/
lemma AgreeOn.widensOn_univ (h : AgreeOn {name}ᶜ r r') (hname : WidensOn {name} r r') :
    WidensOn Set.univ r r' := by
  intro other _
  by_cases heq : other = name
  · exact hname other heq
  · exact h.widensOn other heq

/-- **Matching is monotone in the registry.**  Let two registries agree but for one name, which may
be anywhere: in the schema, behind aliases, on circles, below fields and elements.

* If the name is new, nothing is lost, whatever it stands for now.
* If its schema has become a part of a union, nothing is lost.
* If its schema has become a part of an intersection, nothing is gained. -/
theorem accepts_of_rebound (hothers : AgreeOn {name}ᶜ r r') (depth : Nat) (s : Schema) (v : Json) :
    (r.schema? name = none → r.accepts depth s v = true → r'.accepts depth s v = true) ∧
    (∀ old parts, r.schema? name = some old → old ∈ parts → r'.schema? name = some (.anyOf parts) →
      r.accepts depth s v = true → r'.accepts depth s v = true) ∧
    (∀ old parts, r.schema? name = some old → old ∈ parts → r'.schema? name = some (.allOf parts) →
      r'.accepts depth s v = true → r.accepts depth s v = true) := by
  refine ⟨fun hnew => ?_, fun old parts hold hmem hunion => ?_,
    fun old parts hold hmem hintersection => ?_⟩
  · refine accepts_of_widensOn_univ (hothers.widensOn_univ ?_)
    rintro _ rfl found hfound
    simp [hnew] at hfound
  · refine accepts_of_widensOn_univ (hothers.widensOn_univ ?_)
    rintro _ rfl found hfound
    obtain rfl : old = found := Option.some.inj (hold.symm.trans hfound)
    exact ⟨.anyOf parts, hunion, fun _ _ hv => .anyOf hmem hv⟩
  · refine accepts_of_widensOn_univ (hothers.symm.widensOn_univ ?_)
    rintro _ rfl found hfound
    obtain rfl : .allOf parts = found := Option.some.inj (hintersection.symm.trans hfound)
    refine ⟨old, hold, fun _ _ hv => ?_⟩
    cases hv with
    | allOf hparts => exact hparts old hmem

/-- A twig, a leaf or a text. -/
def twig : Schema := .anyOf [.ref "Twig", .ref "Leaf", .ofKind .string]

/-- Twigs that are twigs of twigs.  What a leaf is remains open. -/
def hedge : Registry where
  entries := [("Twig", { schema := twig })]

/-- A text remains a twig when leaves become twigs and when twigs may also be null, and it is a twig
because it is one of the twigs that are not null. -/
theorem hedge_accepts_text :
    hedge.schema? "Leaf" = none ∧ hedge.schema? "Twig" = some twig ∧
      (hedge.store "Leaf" { schema := .ref "Twig" }).1.accepts 0 (.ref "Twig")
        (.string "oak") = true ∧
      (hedge.store "Twig" { schema := .anyOf [.null, twig] }).1.accepts 0 (.ref "Twig")
        (.string "oak") = true ∧
      (hedge.store "Twig" { schema := .allOf [twig, .ofKind .string] }).1.accepts 0 (.ref "Twig")
        (.string "oak") = true ∧
      hedge.accepts 0 (.ref "Twig") (.string "oak") = true := by
  have hkind : ∀ r : Registry, r.ConformsWithin 0 (.ofKind .string) (.string "oak") :=
    fun _ => .leaf rfl
  have hhedge : hedge.accepts 0 (.ref "Twig") (.string "oak") = true :=
    accepts_iff_conformsWithin.mpr (.ref rfl (.anyOf (by simp) (hkind hedge)))
  have hnarrow : (hedge.store "Twig" { schema := .allOf [twig, .ofKind .string] }).1.accepts 0
      (.ref "Twig") (.string "oak") = true := by
    refine accepts_iff_conformsWithin.mpr (.ref rfl (.allOf fun part hpart => ?_))
    rcases List.mem_cons.mp hpart with rfl | hpart
    · exact .anyOf (by simp) (hkind _)
    · obtain rfl := List.mem_singleton.mp hpart
      exact hkind _
  refine ⟨rfl, rfl, ?_, ?_, hnarrow, ?_⟩
  · exact (accepts_of_rebound (agreeOn_store hedge "Leaf" _) 0 _ _).1 rfl hhedge
  · exact (accepts_of_rebound (agreeOn_store hedge "Twig" _) 0 _ _).2.1 twig _ rfl (by simp) rfl
      hhedge
  · exact (accepts_of_rebound (agreeOn_store hedge "Twig" _) 0 _ _).2.2 twig _ rfl (by simp) rfl
      hnarrow

end Registry

end TreeSchema
