/-
Schemas that ask for no more than others.

To see that everything that conforms to one schema conforms to another one, it is enough to compare
them one level at a time.  `Schema.Relaxes R` does so for one level: the two are of the same form,
and where the second asks for something, the first asks for it as well, by way of parts that are
related by `R`.  A relation is a *relaxation* if whatever it relates compares like that.

Then conformance goes over from the first of two related schemas to the second one, although
schemas lead by names to further schemas, in circles too, as long as the names stand for related
schemas (`ConformsWithin.relax`).  The induction is over the derivation of conformance, so it
comes to an end where the schemas themselves do not.
-/
import TreeSchema.Proofs.Matching.Conformance

namespace TreeSchema

namespace Schema

/-- The second schema is of the form of the first one, and what it asks for the first one asks for
too, as far as related parts do. -/
inductive Relaxes (R : Schema → Schema → Prop) : Schema → Schema → Prop where
  | any : Relaxes R .any .any
  | ref (name : String) : Relaxes R (.ref name) (.ref name)
  | leaf {c d : Constraint} (hadmits : ∀ v, c.admits v = true → d.admits v = true) :
      Relaxes R (.leaf c) (.leaf d)
  | object {ps qs : List (String × Schema)} {required : List String}
      (hproperties : ∀ name t, (name, t) ∈ qs → ∃ s, (name, s) ∈ ps ∧ R s t) :
      Relaxes R (.object ps required) (.object qs required)
  | array {items items' : Option Schema} {least most : Option Nat}
      (hitems : ∀ t, items' = some t → ∃ s, items = some s ∧ R s t) :
      Relaxes R (.array items least most) (.array items' least most)
  | allOf {ss ts : List Schema} (hparts : ∀ t ∈ ts, ∃ s ∈ ss, R s t) :
      Relaxes R (.allOf ss) (.allOf ts)
  | anyOf {ss ts : List Schema} (hparts : ∀ s ∈ ss, ∃ t ∈ ts, R s t) :
      Relaxes R (.anyOf ss) (.anyOf ts)

/-- Of related schemas the second asks for no more than the first one. -/
def Relaxation (R : Schema → Schema → Prop) : Prop := ∀ s t, R s t → Relaxes R s t

variable {R : Schema → Schema → Prop} {s t u : Schema}

lemma Relaxes.refl (hR : ∀ s, R s s) (s : Schema) : Relaxes R s s := by
  cases s with
  | any => exact .any
  | ref name => exact .ref name
  | leaf c => exact .leaf fun _ h => h
  | object => exact .object fun _ t ht => ⟨t, ht, hR t⟩
  | array => exact .array fun t ht => ⟨t, ht, hR t⟩
  | allOf => exact .allOf fun t ht => ⟨t, ht, hR t⟩
  | anyOf => exact .anyOf fun s hs => ⟨s, hs, hR s⟩

lemma Relaxes.trans (hR : ∀ s t u, R s t → R t u → R s u) (hst : Relaxes R s t)
    (htu : Relaxes R t u) : Relaxes R s u := by
  cases hst with
  | any => exact htu
  | ref => exact htu
  | leaf hadmits =>
    cases htu with
    | leaf hadmits' => exact .leaf fun v hv => hadmits' v (hadmits v hv)
  | object hproperties =>
    cases htu with
    | object hproperties' =>
      refine .object fun name u hu => ?_
      obtain ⟨t, ht, htu⟩ := hproperties' name u hu
      obtain ⟨s, hs, hst⟩ := hproperties name t ht
      exact ⟨s, hs, hR s t u hst htu⟩
  | array hitems =>
    cases htu with
    | array hitems' =>
      refine .array fun u hu => ?_
      obtain ⟨t, ht, htu⟩ := hitems' u hu
      obtain ⟨s, hs, hst⟩ := hitems t ht
      exact ⟨s, hs, hR s t u hst htu⟩
  | allOf hparts =>
    cases htu with
    | allOf hparts' =>
      refine .allOf fun u hu => ?_
      obtain ⟨t, ht, htu⟩ := hparts' u hu
      obtain ⟨s, hs, hst⟩ := hparts t ht
      exact ⟨s, hs, hR s t u hst htu⟩
  | anyOf hparts =>
    cases htu with
    | anyOf hparts' =>
      refine .anyOf fun s hs => ?_
      obtain ⟨t, ht, hst⟩ := hparts s hs
      obtain ⟨u, hu, htu⟩ := hparts' t ht
      exact ⟨u, hu, hR s t u hst htu⟩

end Schema

namespace Registry

open Schema (Relaxation)

/-- What the first registry holds under a name is related to what the second one holds there. -/
def RelatedBy (R : Schema → Schema → Prop) (r r' : Registry) : Prop :=
  ∀ name entry, r.lookup? name = some entry →
    ∃ entry', r'.lookup? name = some entry' ∧ R entry.schema entry'.schema

variable {R : Schema → Schema → Prop} {r r' : Registry} {s t : Schema} {depth : Nat} {v : Json}

/-- **What conforms to a schema conforms to every related one that asks for no more**, where names
stand for related schemas. -/
theorem ConformsWithin.relax (hR : Relaxation R) (hr : RelatedBy R r r') (hs : R s t)
    (h : r.ConformsWithin depth s v) : r'.ConformsWithin depth t v := by
  induction h generalizing t with
  | any =>
    cases hR _ _ hs with
    | any => exact .any
  | ref hlookup _ ih =>
    cases hR _ _ hs with
    | ref =>
      obtain ⟨entry', hlookup', hentry⟩ := hr _ _ hlookup
      exact .ref hlookup' (ih hentry)
  | leaf hadmits =>
    cases hR _ _ hs with
    | leaf hadmits' => exact .leaf (hadmits' _ hadmits)
  | object hform hrequired hlevel _ ih =>
    cases hR _ _ hs with
    | object hproperties =>
      refine .object hform hrequired (fun name t child ht hchild => ?_)
        fun name t child ht hchild => ?_
      · obtain ⟨s, hs, -⟩ := hproperties name t ht
        exact hlevel name s child hs hchild
      · obtain ⟨s, hs, hst⟩ := hproperties name t ht
        exact ih name s child hs hchild hst
  | array hform hlength hlevel _ ih =>
    cases hR _ _ hs with
    | array hitems =>
      refine .array hform hlength (fun t ht child hchild => ?_) fun t ht child hchild => ?_
      · obtain ⟨s, hs, -⟩ := hitems t ht
        exact hlevel s hs child hchild
      · obtain ⟨s, hs, hst⟩ := hitems t ht
        exact ih s hs child hchild hst
  | allOf _ ih =>
    cases hR _ _ hs with
    | allOf hparts =>
      refine .allOf fun t ht => ?_
      obtain ⟨s, hs, hst⟩ := hparts t ht
      exact ih s hs hst
  | anyOf hmem _ ih =>
    cases hR _ _ hs with
    | anyOf hparts =>
      obtain ⟨t, ht, hst⟩ := hparts _ hmem
      exact .anyOf ht (ih hst)

end Registry

end TreeSchema
