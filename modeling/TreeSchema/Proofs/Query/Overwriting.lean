/-
Overwriting a schema with an equal one.

A registry that is given a schema which equals the one it has keeps the one it has.  Nothing is
lost by that.  Equal schemas are alike, and what conforms to a schema conforms to every schema that
is alike, also when the schemas that names stand for are replaced by alike ones
(`ConformsWithin.restate`).  Names lead to alike schemas then, or to none for the same reason, and
so all queries have the same answers (`Restates.queries`).
-/
import TreeSchema.Proofs.Matching.Relaxation
import TreeSchema.Proofs.Registry.Storage
import TreeSchema.Proofs.Schema.Alike
import TreeSchema.Proofs.Schema.Flawless
import TreeSchema.Query
import TreeSchema.Registry.Registration

namespace TreeSchema

open Schema (Alike)

/-- Both fail for the same reason, or both give something, and the two are related. -/
inductive SameOutcome {ε α : Type} (R : α → α → Prop) : Except ε α → Except ε α → Prop where
  | error (why : ε) : SameOutcome R (.error why) (.error why)
  | ok {a b : α} (h : R a b) : SameOutcome R (.ok a) (.ok b)

lemma SameOutcome.map_eq {ε α β : Type} {R : α → α → Prop} {x y : Except ε α} {f g : α → β}
    (h : SameOutcome R x y) (hfg : ∀ a b, R a b → f a = g b) : x.map f = y.map g := by
  cases h with
  | error why => rfl
  | ok hab => exact congrArg Except.ok (hfg _ _ hab)

/-- Of alike schemas the second asks for no more than the first one. -/
lemma Schema.Alike.relaxes {s t : Schema} (h : Alike s t) : Schema.Relaxes Alike s t := by
  cases h with
  | refl => exact .refl .refl s
  | leaf hadmits => exact .leaf fun v hv => hadmits v ▸ hv
  | object hnames hproperties =>
    refine .object fun name t ht => ?_
    obtain ⟨⟨_, s⟩, hs, rfl⟩ :=
      List.mem_map.mp ((hnames name).mpr (Entries.mem_names_of_mem ht))
    exact ⟨s, hs, hproperties _ s t hs ht⟩
  | @array items items' _ _ hsome hitems =>
    refine .array fun t ht => ?_
    obtain ⟨s, hs⟩ : ∃ s, items = some s := Option.isSome_iff_exists.mp (by rw [hsome, ht]; rfl)
    exact ⟨s, hs, hitems s t hs ht⟩
  | allOf hlength hparts =>
    exact .allOf fun _ ht => exists_left_of_forall₂ (forall₂_of_getElem? hlength hparts) ht
  | anyOf hlength hparts =>
    exact .anyOf fun _ hs => exists_right_of_forall₂ (forall₂_of_getElem? hlength hparts) hs

namespace Registry

/-- Under each name two registries hold alike schemas, or none. -/
structure Restates (r r' : Registry) : Prop where
  contains : ∀ name, r.contains name = r'.contains name
  alike : ∀ name entry entry', r.lookup? name = some entry → r'.lookup? name = some entry' →
    Alike entry.schema entry'.schema

variable {r r' : Registry} {name : String} {entry old : SchemaEntry} {s t : Schema} {depth : Nat}
  {v : Json}

lemma Restates.symm (h : Restates r r') : Restates r' r :=
  ⟨fun name => (h.contains name).symm,
    fun name _ _ hlookup hlookup' => (h.alike name _ _ hlookup' hlookup).symm⟩

lemma Restates.lookup (h : Restates r r') (hlookup : r.lookup? name = some entry) :
    ∃ entry', r'.lookup? name = some entry' ∧ Alike entry.schema entry'.schema := by
  have hcontains : r'.contains name = true := by
    rw [← h.contains name, Registry.contains, hlookup, Option.isSome_some]
  obtain ⟨entry', hlookup'⟩ := Option.isSome_iff_exists.mp hcontains
  exact ⟨entry', hlookup', h.alike name entry entry' hlookup hlookup'⟩

lemma Restates.lookup_none (h : Restates r r') (hlookup : r.lookup? name = none) :
    r'.lookup? name = none := by
  have hcontains : r'.contains name = false := by
    rw [← h.contains name, Registry.contains, hlookup, Option.isSome_none]
  exact Option.isNone_iff_eq_none.mp (Option.isSome_eq_false_iff.mp hcontains)

/-! ### Conformance -/

/-- **What conforms to a schema conforms to every alike one**, whichever of two alike schemas each
name stands for. -/
theorem ConformsWithin.restate (hr : Restates r r') (hs : Alike s t)
    (h : r.ConformsWithin depth s v) : r'.ConformsWithin depth t v :=
  h.relax (fun _ _ halike => halike.relaxes) (fun _ _ hlookup => hr.lookup hlookup) hs

lemma Restates.accepts_eq (hr : Restates r r') (hs : Alike s t) (depth : Nat) (v : Json) :
    r.accepts depth s v = r'.accepts depth t v := by
  rw [Bool.eq_iff_iff, accepts_iff_conformsWithin, accepts_iff_conformsWithin]
  exact ⟨fun h => h.restate hr hs, fun h => h.restate hr.symm hs.symm⟩

/-! ### Resolution -/

/-- A name leads to alike schemas, or to none for the same reason. -/
lemma Restates.resolveFrom (hr : Restates r r') (visited : List String) (name : String) :
    SameOutcome (fun entry entry' => Alike entry.schema entry'.schema)
      (r.resolveFrom visited name) (r'.resolveFrom visited name) := by
  fun_induction Registry.resolveFrom r visited name with
  | case1 visited name hvisited =>
    rw [Registry.resolveFrom, dif_pos hvisited]
    exact .error _
  | case2 visited name hnew hlookup =>
    rw [resolveFrom_of_lookup_none hnew (hr.lookup_none hlookup)]
    exact .error _
  | case3 visited name hnew found hlookup next halias hless ih =>
    obtain ⟨found', hlookup', halike⟩ := hr.lookup hlookup
    rw [Schema.alias?_eq_some_iff] at halias
    rw [halias] at halike
    generalize hschema : found'.schema = s at halike
    cases halike with
    | refl =>
      rw [resolveFrom_of_aliasStep hnew ⟨found', hlookup', hschema⟩]
      exact ih
  | case4 visited name hnew found hlookup halias =>
    obtain ⟨found', hlookup', halike⟩ := hr.lookup hlookup
    rw [resolveFrom_of_lookup hnew hlookup' (halike.alias?_eq ▸ halias)]
    exact .ok halike

lemma Restates.schemaOfName (hr : Restates r r') (name : String) :
    SameOutcome Alike (r.schemaOfName name) (r'.schemaOfName name) := by
  have hresolve : SameOutcome _ (r.resolve name) (r'.resolve name) := hr.resolveFrom [] name
  unfold Registry.schemaOfName
  generalize r.resolve name = x, r'.resolve name = y at hresolve
  cases hresolve with
  | error why => exact .error _
  | ok halike => exact .ok halike

lemma Restates.dereference (hr : Restates r r') (s : Schema) :
    SameOutcome Alike (r.dereference s) (r'.dereference s) := by
  unfold Registry.dereference
  cases s.alias? with
  | none => exact .ok (.refl s)
  | some name => exact hr.schemaOfName name

lemma Restates.prepare (hr : Restates r r') (q : Query) :
    SameOutcome Alike (r.prepare q) (r'.prepare q) := by
  cases q with
  | name name => exact hr.schemaOfName name
  | schema s =>
    cases hvalid : s.validate with
    | ok _ =>
      simp only [Registry.prepare, hvalid]
      exact hr.dereference s
    | error why =>
      simp only [Registry.prepare, hvalid]
      exact .error _
  | json v =>
    cases v with
    | string name => exact hr.schemaOfName name
    | object fields =>
      cases hentry : Definition.entryOfJson (.object fields) with
      | ok entry =>
        simp only [Registry.prepare, hentry]
        exact hr.dereference entry.schema
      | error why =>
        simp only [Registry.prepare, hentry]
        exact .error _
    | _ => exact .error _

/-- **Registries that hold alike schemas give the same answers.** -/
theorem Restates.queries (hr : Restates r r') (q : Query) (depth : Nat) (v : Json) :
    r.test depth v q = r'.test depth v q ∧ r.find depth v q = r'.find depth v q ∧
      r.count depth v q = r'.count depth v q := by
  have haccepts : ∀ s t, Alike s t → r.accepts depth s = r'.accepts depth t :=
    fun s t hs => funext fun u => hr.accepts_eq hs depth u
  have hprepare := hr.prepare q
  exact ⟨hprepare.map_eq fun s t hs => by rw [haccepts s t hs],
    hprepare.map_eq fun s t hs => by rw [haccepts s t hs],
    hprepare.map_eq fun s t hs => by rw [haccepts s t hs]⟩

/-! ### Overwriting -/

/-- The registry with an entry put under a name, whatever is there. -/
def overwrite (r : Registry) (name : String) (entry : SchemaEntry) : Registry :=
  ⟨Entries.put r.entries name (entry.withDefaultId name)⟩

lemma restates_self (r : Registry) : Restates r r := by
  refine ⟨fun _ => rfl, fun name entry entry' hlookup hlookup' => ?_⟩
  obtain rfl := Option.some.inj (hlookup.symm.trans hlookup')
  exact .refl _

lemma restates_overwrite (hlookup : r.lookup? name = some old)
    (halike : Alike old.schema entry.schema) : Restates r (r.overwrite name entry) := by
  have hself : (r.overwrite name entry).lookup? name = some (entry.withDefaultId name) :=
    Entries.get?_put_self _ _ _
  have hother : ∀ other, name ≠ other → (r.overwrite name entry).lookup? other = r.lookup? other :=
    fun other hne => Entries.get?_put_of_ne _ _ hne
  refine ⟨fun other => ?_, fun other found found' hfound hfound' => ?_⟩
  · by_cases heq : name = other
    · subst heq
      rw [contains, contains, hlookup, hself]
      rfl
    · rw [contains, contains, hother other heq]
  · by_cases heq : name = other
    · subst heq
      obtain rfl := Option.some.inj (hlookup.symm.trans hfound)
      obtain rfl := Option.some.inj (hself.symm.trans hfound')
      exact halike
    · rw [hother other heq] at hfound'
      obtain rfl := Option.some.inj (hfound.symm.trans hfound')
      exact .refl _

/-- **Equal schemas cannot be told apart.**  They accept the same values, whatever names stand for.
And it does not matter that a registry keeps its schema when it is given an equal one: if it took
the other one instead, all queries would have the same answers. -/
theorem equal_schemas_interchangeable :
    (∀ a b : Schema, a.IsBuilt → b.IsBuilt → a.same b = true →
      ∀ (r : Registry) depth v, r.accepts depth a v = r.accepts depth b v) ∧
    ∀ (r : Registry) (name : String) (old entry : SchemaEntry), r.lookup? name = some old →
      old.same (entry.withDefaultId name) = true → old.schema.IsBuilt → entry.schema.IsBuilt →
      r.store name entry = (r, false) ∧
      (entry.schema.validate = .ok () → r.register name entry = .ok (r, false)) ∧
      ∀ q depth v,
        r.test depth v q = (r.overwrite name entry).test depth v q ∧
        r.find depth v q = (r.overwrite name entry).find depth v q ∧
        r.count depth v q = (r.overwrite name entry).count depth v q := by
  constructor
  · intro a b ha hb h r depth v
    exact (restates_self r).accepts_eq (Schema.alike_of_same ha hb h) depth v
  · intro r name old entry hlookup hsame hold hentry
    have hstore : r.store name entry = (r, false) :=
      store_of_holds (holds_iff.mpr ⟨old, hlookup, hsame⟩)
    have hschema := SchemaEntry.schema_same_of_same hsame
    have halike : Alike old.schema entry.schema := Schema.alike_of_same hold hentry hschema
    refine ⟨hstore, fun hvalid => ?_, (restates_overwrite hlookup halike).queries⟩
    rw [register, hvalid, hstore]

/-- Two coordinates. -/
def place (x y : Int) : Json := .object [("x", .number (.integer x)), ("y", .number (.integer y))]

/-- The coordinates in the other order. -/
def turned (x y : Int) : Json := .object [("y", .number (.integer y)), ("x", .number (.integer x))]

/-- Tokens of one kind, with a place and a size. -/
def token : Schema :=
  .object [("kind", .leaf { pattern := some (.exact "id") }),
    ("at", .leaf { choices := some [place 1 2] }), ("size", .leaf { minimum := some ⟨0⟩ })] ["kind"]

/-- The same tokens by another pattern, with fields in another order, and with a signed zero. -/
def retold (p : Pattern) : Schema :=
  .object [("size", .leaf { minimum := some ⟨0x8000000000000000⟩ }),
    ("kind", .leaf { pattern := some p }), ("at", .leaf { choices := some [turned 1 2] })] ["kind"]

def tokens : Registry where
  entries := [("Token", { id := some "Token", schema := token })]

def identifier : Json :=
  .object [("kind", .string "id"), ("at", place 1 2), ("size", .number (.integer 0))]

/-- The other pattern is read from the source of the first one. -/
theorem tokens_keep_token :
    ∃ p, Pattern.ofSource? "^id$" = some p ∧
      tokens.accepts 1 token identifier = tokens.accepts 1 (retold p) identifier ∧
      tokens.register "Token" { schema := retold p } = .ok (tokens, false) ∧
      tokens.test 1 identifier (.name "Token") =
        (tokens.overwrite "Token" { schema := retold p }).test 1 identifier (.name "Token") := by
  have hsource : (Pattern.exact "id").source = "^id$" := rfl
  obtain ⟨p, hread, hwritten, -⟩ : ∃ p, Pattern.ofSource? (Pattern.exact "id").source = some p ∧
      p.same (Pattern.exact "id") = true ∧ ∀ text, p.admits text = true ↔ text = "id" :=
    Pattern.ofSource?_exact (List.all_eq_true.mp (by decide)) (by decide) (by decide)
  have hp : p.source = "^id$" := (beq_iff_eq.mp hwritten).trans hsource
  have hpattern : ∀ q : Pattern, q.Constructed → Schema.IsBuilt (.leaf { pattern := some q }) :=
    fun q hq => Schema.isBuilt_leaf_iff.mpr ⟨by rintro _ ⟨⟩; exact hq, by rintro _ ⟨⟩⟩
  have hminimum : ∀ x, Schema.IsBuilt (.leaf { minimum := some x }) :=
    fun x => Schema.isBuilt_leaf_iff.mpr ⟨by rintro _ ⟨⟩, by rintro _ ⟨⟩⟩
  have hchoice : ∀ v : Json, v.Keyed → Schema.IsBuilt (.leaf { choices := some [v] }) :=
    fun v hv => Schema.isBuilt_leaf_iff.mpr ⟨by rintro _ ⟨⟩, by rintro _ ⟨⟩; simpa using hv⟩
  have hplace : (place 1 2).Keyed := .object (by decide) (by simpa using ⟨.number _, .number _⟩)
  have hturned : (turned 1 2).Keyed := .object (by decide) (by simpa using ⟨.number _, .number _⟩)
  have htoken : token.IsBuilt := Schema.isBuilt_object (by decide) (by
    simpa using ⟨hpattern _ (.exact "id"), hchoice _ hplace, hminimum _⟩)
  have hretold : (retold p).IsBuilt := Schema.isBuilt_object (by simp [Entries.names]) (by
    simpa using ⟨hminimum _, hpattern p (.ofSource (by rw [hp, ← hsource, hread])),
      hchoice _ hturned⟩)
  have hsame : token.same (retold p) = true := by
    have hkind : ({ pattern := some (.exact "id") } : Constraint).same { pattern := some p } =
        true := by
      simp [Constraint.same, sameOption, Pattern.same, hp, hsource]
    have hat : ({ choices := some [place 1 2] } : Constraint).same
        { choices := some [turned 1 2] } = true := by decide
    have hsize : ({ minimum := some ⟨0⟩ } : Constraint).same
        { minimum := some ⟨0x8000000000000000⟩ } = true := by decide
    simp [token, retold, Schema.same, Schema.sameProperties, Entries.get?, hkind, hat, hsize]
  have hvalid : (retold p).validate = .ok () :=
    Schema.validate_eq_ok_iff.mpr (by simp [retold, Constraint.flaw?])
  obtain ⟨haccepts, hregistry⟩ := equal_schemas_interchangeable
  obtain ⟨-, hregister, hqueries⟩ := hregistry tokens "Token"
    { id := some "Token", schema := token } { schema := retold p } rfl
    (by simp [SchemaEntry.same, SchemaEntry.withDefaultId, hsame]) htoken hretold
  exact ⟨p, hsource ▸ hread, haccepts token (retold p) htoken hretold hsame tokens 1 _,
    hregister hvalid, (hqueries (.name "Token") 1 identifier).1⟩

end Registry

end TreeSchema
