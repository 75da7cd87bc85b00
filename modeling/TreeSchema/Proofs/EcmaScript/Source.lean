/-
The text of the catalog of ECMAScript syntax trees.

The catalog is written out as schemas, and it comes as a text of definitions
(`EcmaScript.source`).  The registry that this text is imported into has the same names and gives the
same answers to all queries (`exists_importText_source`).

It is only the patterns that keep it from being the same registry: those of the catalog are made for
the name of an entry, and those of the text are read from their source.
-/
import TreeSchema.Proofs.EcmaScript.Tags
import TreeSchema.Proofs.Registry.Exporting

namespace TreeSchema

namespace EcmaScript

open Registry (ecmaScript)
open Schema (Definable NormalConjuncts NormalDisjuncts definable_object_iff definable_array_iff
  definable_allOf_iff definable_anyOf_iff)

variable {name : String} {families required : List String} {fields : List (String × Schema)}
  {s : Schema}

/-! ### What fields hold -/

lemma definable_ofKind {kind : Kind} (h : kind.isShape = false) :
    (Schema.ofKind kind).Definable := by
  refine .leaf ⟨.inl rfl, ?_, nofun, nofun, rfl⟩ nofun
  rintro _ ⟨⟩
  exact h

lemma definable_atLeast (bound : Nat) : (atLeast bound).Definable := by
  refine .leaf ⟨.inl rfl, ?_, nofun, fun _ => .inl rfl, rfl⟩ nofun
  rintro _ ⟨⟩
  rfl

lemma definable_choices {kind : Option Kind} (hkind : kind.all fun k => !k.isShape)
    (choices : List Json) : (Schema.leaf { kind := kind, choices := some choices }).Definable := by
  refine .leaf ⟨.inr rfl, ?_, nofun, nofun, rfl⟩ nofun
  rintro k rfl
  simpa using hkind

lemma definable_exactly (hname : name ∈ ecmaScript.names) : (exactly name).Definable := by
  refine .leaf ⟨.inl rfl, ?_, fun _ => rfl, nofun, rfl⟩ ?_
  · rintro _ ⟨⟩
    rfl
  · rintro _ ⟨⟩
    obtain ⟨p, hp, -, hadmits⟩ := ofSource?_tag hname
    refine ⟨p, hp, fun text => ?_⟩
    rw [Bool.eq_iff_iff, hadmits, Pattern.admits_exact_iff]

/-- A schema that stands for itself in compositions. -/
def isSimple : Schema → Bool
  | .any => false
  | .allOf _ => false
  | .anyOf _ => false
  | _ => true

lemma ne_of_isSimple (h : isSimple s = true) :
    s ≠ .any ∧ (∀ inner, s ≠ .allOf inner) ∧ ∀ inner, s ≠ .anyOf inner := by
  cases s <;> simp [isSimple] at h ⊢

lemma definable_oneOf_iff {parts : List Schema} (hlength : 2 ≤ parts.length)
    (hsimple : parts.all isSimple = true) :
    (oneOf parts).Definable ↔ ∀ part ∈ parts, part.Definable := by
  have hnormal : NormalDisjuncts parts := by
    refine ⟨hlength, fun part hpart => ?_⟩
    obtain ⟨hany, -, hanyOf⟩ := ne_of_isSimple (List.all_eq_true.mp hsimple part hpart)
    exact ⟨hany, hanyOf⟩
  rw [oneOf, definable_anyOf_iff, and_iff_right hnormal]

lemma definable_optional_iff (h : isSimple s = true) : (optional s).Definable ↔ s.Definable := by
  have hnull : Schema.null.Definable := definable_ofKind rfl
  have hsimple : [s, .null].all isSimple = true := by
    rw [List.all_cons, h]
    rfl
  have hparts : (optional s).Definable ↔ ∀ part ∈ [s, .null], part.Definable :=
    definable_oneOf_iff le_rfl hsimple
  simp [hparts, hnull]

lemma definable_listOf_iff : (listOf s).Definable ↔ s.Definable := by
  simp [listOf, definable_array_iff, Schema.lengthFlaw?]

lemma definable_fields_iff (hnames : (fields.map Prod.fst).Nodup) (hrequired : required.Nodup) :
    (Schema.object fields required).Definable ↔ ∀ field ∈ fields, field.2.Definable := by
  rw [definable_object_iff, Entries.names, and_iff_right hnames, and_iff_right hrequired]

/-! ### Entries -/

lemma definable_family (hfamilies : 2 ≤ families.length) :
    (family name families).2.schema.Definable := by
  have hnormal : NormalConjuncts (families.map a) :=
    ⟨by simpa using hfamilies, List.forall_mem_map.mpr fun _ _ => ⟨nofun, nofun⟩⟩
  exact .allOf hnormal (List.forall_mem_map.mpr fun other _ => .ref other)

/-- The nodes of some families that have certain fields. -/
lemma definable_node_iff (hfamilies : families ≠ []) (hnames : (fields.map Prod.fst).Nodup)
    (hrequired : required.Nodup) :
    (Schema.allOf (families.map a ++ [.object fields required])).Definable ↔
      ∀ field ∈ fields, field.2.Definable := by
  have hnormal : NormalConjuncts (families.map a ++ [.object fields required]) := by
    refine ⟨?_, List.forall_mem_append.mpr ⟨List.forall_mem_map.mpr fun _ _ => ⟨nofun, nofun⟩,
      List.forall_mem_singleton.mpr ⟨nofun, nofun⟩⟩⟩
    have := List.length_pos_iff.mpr hfamilies
    simp
    omega
  rw [definable_allOf_iff, and_iff_right hnormal, List.forall_mem_append,
    and_iff_right (List.forall_mem_map.mpr fun other _ => .ref other), List.forall_mem_singleton,
    definable_fields_iff hnames hrequired]

lemma definable_untagged_iff (hfamilies : families ≠ []) (hnames : (fields.map Prod.fst).Nodup) :
    (untagged name families fields).2.schema.Definable ↔ ∀ field ∈ fields, field.2.Definable :=
  definable_node_iff hfamilies hnames hnames

lemma definable_tagged_iff (hfamilies : families ≠ [])
    (hnames : ("type" :: fields.map Prod.fst).Nodup) :
    (tagged name families fields).2.schema.Definable ↔
      (exactly name).Definable ∧ ∀ field ∈ fields, field.2.Definable := by
  rw [← List.forall_mem_cons (p := fun field : String × Schema => field.2.Definable)
    (a := ("type", exactly name))]
  exact definable_node_iff hfamilies hnames (List.nodup_cons.mp hnames).2

/-- The schemas of all entries can be written. -/
lemma definable_of_mem : ∀ entry ∈ entries, entry.2.schema.Definable := by
  have htags : ∀ entry ∈ entries, (exactly entry.1).Definable :=
    fun entry hmem => definable_exactly (Entries.mem_names_of_mem hmem)
  -- name by name, so that the tagged entries find theirs
  simp only [entries, general, statements, declarations, expressions, patterns, clauses, leaves,
    markup, operators, tagged, untagged, family, synonym, words, entry, List.forall_mem_append,
    List.forall_mem_cons] at htags
  simp (disch := decide) only [entries, general, statements, declarations, expressions, patterns,
    clauses, leaves, markup, operators, definable_tagged_iff, definable_untagged_iff,
    definable_family, synonym, words, entry, htags, a, Definable.ref, text, boolean, integer,
    number, Schema.null, definable_ofKind, definable_atLeast, word, definable_choices,
    definable_optional_iff, definable_oneOf_iff, definable_listOf_iff, record,
    definable_fields_iff, List.forall_mem_append, List.forall_mem_cons, List.not_mem_nil,
    false_imp_iff, implies_true, and_true]

/-! ### The document -/

/-- The text of the catalog. -/
def source : String := (Catalog.document entries).text

/-- What a tagged entry asks for besides its families is written as an object without a `type`. -/
example : (Catalog.definitionOf (tagged "EmptyStatement" ["Statement"] [])).written.text =
    String.join ["\x7b\n", "  \"allOf\": [\n", "    \x7b\n", "      \"$ref\": \"Statement\"\n",
      "    \x7d,\n", "    \x7b\n", "      \"properties\": \x7b\n", "        \"type\": \x7b\n",
      "          \"pattern\": \"^EmptyStatement$\"\n", "        \x7d\n", "      \x7d\n",
      "    \x7d\n", "  ]\n", "\x7d\n"] := by
  decide +kernel

lemma writable_of_mem : ∀ entry ∈ entries, (Catalog.definitionOf entry).written.Writable := by
  have hall : ∀ entry ∈ entries, (Catalog.definitionOf entry).written.isWritable = true := by
    decide +kernel
  exact fun entry hmem => Json.writable_of_isWritable (hall entry hmem)

lemma exportable : ecmaScript.Exportable where
  names := by decide +kernel
  identified := by decide +kernel
  definable := definable_of_mem
  writable := writable_of_mem
  height := by decide +kernel

/-- **The catalog is what its text is imported as:** eighty-three entries under the same names and
with the same identities, which give the same answers to all queries. -/
theorem exists_importText_source :
    ∃ r, Registry.empty.importText source = .ok (r, 83) ∧ r.names = ecmaScript.names ∧
      (∀ name, (r.lookup? name).bind SchemaEntry.id =
        (ecmaScript.lookup? name).bind SchemaEntry.id) ∧
      ∀ q depth v, r.test depth v q = ecmaScript.test depth v q ∧
        r.find depth v q = ecmaScript.find depth v q ∧
        r.count depth v q = ecmaScript.count depth v q := by
  have hsize : ecmaScript.size = 83 := rfl
  rw [← hsize]
  exact Registry.exists_importText_document exportable

end EcmaScript

end TreeSchema
