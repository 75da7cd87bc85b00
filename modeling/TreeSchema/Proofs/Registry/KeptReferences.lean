/-
References in catalogs.

What is registered for a catalog refers to what the definitions of the catalog keep, and to nothing
else.  Where definitions keep all that is written in them, the dangling references are those that
are written to names without a definition.  In general some of these are not found
(`references_not_iff_refersTo`), since a definition can be written in such a way that a part of it
makes no difference.  Those that are found are exactly the ones that are kept (`references_kept`).
-/
import TreeSchema.Proofs.Catalog
import TreeSchema.Proofs.Definition.Kept
import TreeSchema.Proofs.Registry.Reach
import TreeSchema.Proofs.Registry.Storage
import TreeSchema.Registry.Registration

namespace TreeSchema

open Relation

namespace Definition

variable {d : Definition} {name : String}

/-- Nothing that stands in the definition is left out. -/
def WastesNothing (d : Definition) : Prop :=
  d.ShapeMatters ∧ ∀ parts, d.anyOf = some parts → ∀ part ∈ parts, ¬ part.AsksNothing

lemma wastesNothing_of_none (hnames : d.kindNames = none) (hany : d.anyOf = none) :
    d.WastesNothing := by
  refine ⟨by simp [ShapeMatters, hnames], fun parts hparts => ?_⟩
  rw [hany] at hparts
  cases hparts

lemma PartOf.keptIn {sub : Definition} (h : sub.PartOf d) (hd : d.WastesNothing) :
    sub.KeptIn d := by
  cases h with
  | property hproperties hmem => exact .shape hd.1 (.property hproperties hmem)
  | item hitem => exact .shape hd.1 (.item hitem)
  | allOf hparts hmem => exact .allOf hparts hmem
  | anyOf hparts hmem => exact .anyOf hparts hmem (hd.2 _ hparts)

lemma Keeps.refersTo (h : d.Keeps name) : d.RefersTo name := by
  obtain ⟨q, hq, hreference⟩ := h
  induction hq with
  | refl => exact .here hreference
  | tail _ hsub ih => exact .part hsub.takenUpIn.partOf ih

/-- If nothing is left out anywhere, all references are kept. -/
lemma RefersTo.keeps (h : d.RefersTo name)
    (hwaste : ∀ q : Definition, ReflTransGen PartOf q d → q.WastesNothing) : d.Keeps name := by
  induction h with
  | here hreference => exact ⟨_, .refl, hreference⟩
  | part hpart _ ih =>
    have hsub := ih fun q hq => hwaste q (hq.tail hpart)
    exact hsub.of_part (hpart.keptIn (hwaste _ .refl))

end Definition

namespace Registry

open Catalog (DefinesEntry)
open Definition (PartOf ReadsAs)

variable {r : Registry} {v : Json} {count : Nat} {owner missing : String}

/-- In a catalog, the name is kept by the definition under another name, and has no definition
itself. -/
def LacksKept (v : Json) (owner missing : String) : Prop :=
  missing ∉ Entries.names v.fields ∧
    ∃ u d, (owner, u) ∈ v.fields ∧ ReadsAs u d ∧ d.Keeps missing

/-- The entry that a value defines refers to what the definition keeps. -/
lemma mem_references_entry_iff {u : Json} {entry : SchemaEntry} {name : String}
    (h : Definition.entryOfJson u = .ok entry) :
    name ∈ entry.schema.references ↔ ∃ d, ReadsAs u d ∧ d.Keeps name := by
  obtain ⟨d, hd, hentry⟩ := Definition.entryOfJson_eq_ok_iff.mp h
  rw [Definition.mem_references_iff (Definition.schema_of_entry hentry)]
  refine ⟨fun hname => ⟨d, hd, hname⟩, ?_⟩
  rintro ⟨d', hd', hname⟩
  rwa [Except.ok.inj (hd.symm.trans hd')]

lemma mem_dangling_importCatalog_iff (hv : v.Keyed)
    (h : empty.importCatalog v = .ok (r, count)) :
    (owner, missing) ∈ r.dangling ↔ LacksKept v owner missing := by
  obtain ⟨entries, hentries, hr⟩ := map_eq_ok_iff.mp h
  obtain ⟨rfl, -⟩ := Prod.mk.inj hr
  have hdefines := (Catalog.ofJson_eq_ok_iff.mp hentries).2
  have hnames : Entries.names entries = Entries.names v.fields := Catalog.names_of_ofJson hentries
  -- the entries are stored as they are, but for their identities
  have hstored : (empty.storeAll entries).entries =
      entries.map fun entry => (entry.1, entry.2.withDefaultId entry.1) :=
    entries_storeAll (Catalog.registrable_of_ofJson hv hentries).names (by simp [empty, names])
  have hregistered : (empty.storeAll entries).names = Entries.names v.fields := by
    rw [names, hstored, ← hnames]
    simp [Entries.names, Function.comp_def]
  have hentry : (∃ entry, (owner, entry) ∈ (empty.storeAll entries).entries ∧
      missing ∈ entry.schema.references) ↔
      ∃ entry ∈ entries, entry.1 = owner ∧ missing ∈ entry.2.schema.references := by
    simp only [hstored, List.mem_map, Prod.mk.injEq]
    constructor
    · rintro ⟨_, ⟨entry, hmem, howner, rfl⟩, hmissing⟩
      exact ⟨entry, hmem, howner, hmissing⟩
    · rintro ⟨entry, hmem, howner, hmissing⟩
      exact ⟨_, ⟨entry, hmem, howner, rfl⟩, hmissing⟩
  have hfield : (∃ entry ∈ entries, entry.1 = owner ∧ missing ∈ entry.2.schema.references) ↔
      ∃ field ∈ v.fields, field.1 = owner ∧ ∃ d, ReadsAs field.2 d ∧ d.Keeps missing :=
    exists_mem_iff_of_forall₂ hdefines fun field _ entry hdefine => by
      rw [hdefine.1, mem_references_entry_iff hdefine.2]
  rw [mem_dangling_iff, hregistered, hentry, hfield]
  refine and_congr_right fun _ => ?_
  constructor
  · rintro ⟨⟨_, u⟩, hmem, rfl, d, hd, hkeeps⟩
    exact ⟨u, d, hmem, hd, hkeeps⟩
  · rintro ⟨u, d, hmem, hd, hkeeps⟩
    exact ⟨(owner, u), hmem, rfl, d, hd, hkeeps⟩

/-- An import from a text is one of the value that the text begins with. -/
lemma importText_eq_ok {text : String} (h : empty.importText text = .ok (r, count)) :
    ∃ v, Json.ofTextBeginning text = .ok v ∧ empty.importCatalog v = .ok (r, count) := by
  unfold importText Catalog.ofTextBeginning at h
  split at h
  · next v hv => exact ⟨v, hv, h⟩
  · cases h

/-- **The references in a catalog are found as far as they are kept.**

* The schema of a definition refers to the names that the definition keeps.
* These are all that are written in it, if nothing in it is left out anywhere.
* After a catalog has been imported into the empty registry, the dangling references are those that
  the catalog keeps to names that it does not define.
* So it is after an import from a text. -/
theorem references_kept :
    (∀ (d : Definition) s, d.schema = .ok s → ∀ name, name ∈ s.references ↔ d.Keeps name) ∧
    (∀ (d : Definition), (∀ q : Definition, ReflTransGen PartOf q d → q.WastesNothing) →
      ∀ name, d.Keeps name ↔ d.RefersTo name) ∧
    (∀ v r count, v.Keyed → empty.importCatalog v = .ok (r, count) →
      ∀ owner missing, (owner, missing) ∈ r.dangling ↔ LacksKept v owner missing) ∧
    ∀ text r count, empty.importText text = .ok (r, count) →
      ∃ v, Json.ofTextBeginning text = .ok v ∧
        ∀ owner missing, (owner, missing) ∈ r.dangling ↔ LacksKept v owner missing := by
  refine ⟨fun d s h name => Definition.mem_references_iff h, fun d hwaste name => ?_,
    fun v r count hv h owner missing => mem_dangling_importCatalog_iff hv h,
    fun text r count h => ?_⟩
  · exact ⟨Definition.Keeps.refersTo, fun h => h.keeps hwaste⟩
  · obtain ⟨v, hv, himport⟩ := importText_eq_ok h
    have hkeyed := Json.keyed_of_ofTextBeginning hv
    exact ⟨v, hv, fun owner missing => mem_dangling_importCatalog_iff hkeyed himport⟩

/-- Leaves are in a list. -/
def leaves : Definition where
  items := some { reference := some "Leaf" }

/-- A bud is one by name or anything at all. -/
def bud : Definition where
  anyOf := some [{ reference := some "Bud" }, {}]

/-- A branch may have leaves and a bud. -/
def branch : Definition where
  properties := some [("leaves", leaves), ("bud", bud)]

/-- A stump has no parts, and so no leaves. -/
def stump : Definition where
  kindNames := some (.many ["null"])
  properties := some [("leaves", leaves)]

/-- What a branch is written as. -/
def writtenBranch : Json := .object
  [("properties", .object
    [("leaves", .object [("items", .object [("$ref", .string "Leaf")])]),
      ("bud", .object [("anyOf", .array [.object [("$ref", .string "Bud")], .object []])])])]

/-- The catalog of branches. -/
def sprigs : Json := .object [("Branch", writtenBranch)]

/-- What is registered for branches. -/
def sprigEntries : List (String × SchemaEntry) :=
  let fields := [("leaves", .array (some (.ref "Leaf")) none none), ("bud", .any)]
  [("Branch", { schema := .object fields [] })]

/-- A text that begins with a catalog. -/
def sprigText : String := "\x7b\"Branch\":\x7b\"$ref\":\"Leaf\"\x7d\x7d"

lemma keyed_sprigs : sprigs.Keyed := by
  have hone : ∀ name v, v.Keyed → Json.Keyed (.object [(name, v)]) := fun name _ hv =>
    .object (List.nodup_singleton name) (List.forall_mem_singleton.mpr hv)
  have hbud : Json.Keyed (.array [.object [("$ref", .string "Bud")], .object []]) := by
    refine .array (List.forall_mem_cons.mpr ⟨hone _ _ (.string _), ?_⟩)
    exact List.forall_mem_singleton.mpr (.object .nil (by simp))
  refine hone _ _ (hone _ _ (.object (by decide) (List.forall_mem_cons.mpr ⟨?_, ?_⟩)))
  · exact hone _ _ (hone _ _ (.string _))
  · exact List.forall_mem_singleton.mpr (hone _ _ hbud)

lemma importCatalog_sprigs :
    empty.importCatalog sprigs = .ok (empty.storeAll sprigEntries, 1) := rfl

/-- The schema of a stump does not refer to leaves, and the check after the import does not find the
reference to a bud, though both are written. -/
theorem references_not_iff_refersTo :
    (¬ ∀ (d : Definition) s, d.schema = .ok s → ∀ name, name ∈ s.references ↔ d.RefersTo name) ∧
    ¬ ∀ v r count, v.Keyed → empty.importCatalog v = .ok (r, count) →
      ∀ owner u d missing, (owner, u) ∈ v.fields → ReadsAs u d → d.RefersTo missing →
        missing ∉ Entries.names v.fields → (owner, missing) ∈ r.dangling := by
  constructor
  · intro h
    have hpart : leaves.PartOf stump := .property rfl List.mem_cons_self
    have hrefers : stump.RefersTo "Leaf" := .part hpart (.part (.item rfl) (.here rfl))
    have hname : "Leaf" ∈ (Schema.ofKind .null).references :=
      (h stump _ rfl "Leaf").mpr hrefers
    exact absurd hname (by decide)
  · intro h
    have hpart : bud.PartOf branch := .property rfl (List.mem_cons_of_mem _ List.mem_cons_self)
    have hrefers : branch.RefersTo "Bud" :=
      .part hpart (.part (.anyOf rfl List.mem_cons_self) (.here rfl))
    have hdangling : ("Branch", "Bud") ∈ (empty.storeAll sprigEntries).dangling :=
      h sprigs _ _ keyed_sprigs importCatalog_sprigs _ writtenBranch branch _ List.mem_cons_self
        rfl hrefers (by decide)
    exact absurd hdangling (by decide)

/-- What is written for leaves makes a difference. -/
lemma wastesNothing_leaves {q : Definition} (hq : ReflTransGen PartOf q leaves) :
    q.WastesNothing := by
  have hwhole : leaves.WastesNothing := Definition.wastesNothing_of_none rfl rfl
  have hitem : Definition.WastesNothing { reference := some "Leaf" } :=
    Definition.wastesNothing_of_none rfl rfl
  rcases hq.cases_tail with heq | ⟨sub, hq, hpart⟩
  · exact heq ▸ hwhole
  · cases hpart with
    | item h =>
      obtain rfl := Option.some.inj h
      rcases hq.cases_tail with heq | ⟨_, -, hpart⟩
      · exact heq ▸ hitem
      · cases hpart with
        | _ h => cases h
    | _ h => cases h

/-- A reference to leaves is kept in a list of leaves, and found in the catalogs of branches. -/
theorem leaves_kept :
    "Leaf" ∈ (Schema.array (some (.ref "Leaf")) none none).references ∧
    leaves.Keeps "Leaf" ∧
    ("Branch", "Leaf") ∈ (empty.storeAll sprigEntries).dangling ∧
    ∃ v, Json.ofTextBeginning sprigText = .ok v ∧ LacksKept v "Branch" "Leaf" := by
  have hkeeps : leaves.Keeps "Leaf" :=
    (references_kept.2.1 leaves (fun _ hq => wastesNothing_leaves hq) "Leaf").mpr
      (.part (.item rfl) (.here rfl))
  have hmatters : branch.ShapeMatters := by simp [Definition.ShapeMatters, branch]
  have hbranch : branch.Keeps "Leaf" :=
    hkeeps.of_part (.shape hmatters (.property rfl List.mem_cons_self))
  refine ⟨(references_kept.1 leaves _ rfl "Leaf").mpr hkeeps, hkeeps, ?_, ?_⟩
  · refine (references_kept.2.2.1 sprigs _ _ keyed_sprigs importCatalog_sprigs _ _).mpr ?_
    exact ⟨by decide, writtenBranch, branch, List.mem_cons_self, rfl, hbranch⟩
  · have hdangling : (empty.importText sprigText).toOption.map (fun answer => answer.1.dangling) =
        some [("Branch", "Leaf")] := by decide +kernel
    obtain ⟨⟨r, count⟩, himport, hdangling⟩ := Option.map_eq_some_iff.mp hdangling
    have himport := toOption_eq_some_iff.mp himport
    obtain ⟨v, hv, hfound⟩ := references_kept.2.2.2 sprigText r count himport
    exact ⟨v, hv, (hfound _ _).mp (by simp [hdangling])⟩

end Registry

end TreeSchema
