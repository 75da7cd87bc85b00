/-
A pointer selects what its steps lead to.

A step is written as a token without slashes, so a pointer is split into the tokens of its steps,
and each token is read back as the step that it was written for (`child?_text`).  A name may look
like an index and an index like a name, so what a token means is decided by the value that it is
read at; the value that a step leads to is of the right sort.

So a written pointer selects what its steps lead to (`at?_pointerText`), and the places of the
traversal are such steps: every node can be had again by the pointer to it (`at?_of_mem_nodes`).
Indices are read as numbers of sixty-four bits, and no array is longer than that.
-/
import Mathlib.Algebra.Group.Nat.Defs
import TreeSchema.Proofs.Text.Decimal
import TreeSchema.Proofs.Text.Split
import TreeSchema.Proofs.Traversal

namespace TreeSchema

namespace Json

variable {v child : Json} {step : Step} {steps : List Step}

/-! ### Steps -/

lemma follow?_append (steps more : List Step) (v : Json) :
    follow? (steps ++ more) v = (follow? steps v).bind (follow? more) := by
  induction steps generalizing v with
  | nil => rfl
  | cons step steps ih =>
    have hrest : follow? (steps ++ more) = fun child => (follow? steps child).bind (follow? more) :=
      funext ih
    cases step <;> simp only [List.cons_append, follow?, Option.bind_assoc, hrest]

lemma follow?_cons (step : Step) (steps : List Step) (v : Json) :
    follow? (step :: steps) v = (follow? [step] v).bind (follow? steps) :=
  follow?_append [step] steps v

lemma follow?_field {document v child : Json} {place : List Step} {name : String}
    (hvalue : follow? place document = some v) (hfield : v.field? name = some child) :
    follow? (place ++ [.field name]) document = some child := by
  rw [follow?_append, hvalue]
  simp [follow?, hfield]

lemma follow?_element {document v child : Json} {place : List Step} {index : Nat}
    (hvalue : follow? place document = some v) (helement : v.elements[index]? = some child) :
    follow? (place ++ [.element index]) document = some child := by
  rw [follow?_append, hvalue]
  simp [follow?, helement]

/-! ### Tokens -/

lemma unescapeToken_escapeToken (token : List Char) :
    unescapeToken (escapeToken token) = token := by
  induction token with
  | nil => rfl
  | cons c rest ih =>
    by_cases htilde : c = '~'
    · subst htilde
      simp [escapeToken, unescapeToken, ih]
    · by_cases hslash : c = '/'
      · subst hslash
        simp [escapeToken, unescapeToken, ih]
      · simp [escapeToken, unescapeToken, ih, htilde]

lemma unescapeToken_of_notMem {token : List Char} (h : '~' ∉ token) :
    unescapeToken token = token := by
  induction token with
  | nil => rfl
  | cons c rest ih =>
    obtain ⟨hc, hrest⟩ : '~' ≠ c ∧ '~' ∉ rest := by simpa using h
    rw [unescapeToken, ih hrest]
    · rintro _ rfl
      exact absurd rfl hc
    · rintro _ rfl
      exact absurd rfl hc

/-- No slash stands in a token. -/
lemma slash_notMem_text (step : Step) : '/' ∉ step.text.toList := by
  cases step with
  | field name =>
    rw [Step.text, String.toList_ofList]
    generalize name.toList = token
    fun_induction escapeToken token <;> simp_all [eq_comm]
  | element index =>
    rw [Step.text, Nat.toString_eq_repr, Nat.toList_repr]
    exact Text.notMem_toDigits_ten rfl index

/-- The digits of a number are read as that number. -/
lemma indexOfToken?_toDigits {index : Nat} (h : index < 2 ^ 64) :
    indexOfToken? (Nat.toDigits 10 index) = some index := by
  have hdigits : (Nat.toDigits 10 index).all Char.isDigit = true :=
    List.all_eq_true.mpr fun _ => Text.isDigit_of_mem_toDigits_ten
  have hzero : (Nat.toDigits 10 index).head? = some '0' → (Nat.toDigits 10 index).length = 1 := by
    intro hfirst
    by_cases hindex : index = 0
    · rw [hindex]
      rfl
    · exact absurd hfirst (Text.head?_toDigits_ten hindex)
  have hlt : index < Nat.pow 2 64 := h
  rw [indexOfToken?, Text.foldl_toDigits_ten, if_neg (by simpa [hdigits, Nat.toDigits_ne_nil]),
    if_pos hlt]

/-- **The token of a step selects what the step leads to.** -/
theorem child?_text (hindex : ∀ index, step = .element index → index < 2 ^ 64)
    (h : follow? [step] v = some child) :
    v.child? (unescapeToken step.text.toList) = some child := by
  cases step with
  | field name =>
    obtain ⟨_, hfield, ⟨⟩⟩ := Option.bind_eq_some_iff.mp h
    cases v with
    | object fields =>
      rw [Step.text, String.toList_ofList, unescapeToken_escapeToken, child?, String.ofList_toList]
      exact hfield
    | _ => cases hfield
  | element index =>
    obtain ⟨_, helement, ⟨⟩⟩ := Option.bind_eq_some_iff.mp h
    cases v with
    | array elements =>
      rw [Step.text, Nat.toString_eq_repr, Nat.toList_repr,
        unescapeToken_of_notMem (Text.notMem_toDigits_ten rfl index), child?,
        indexOfToken?_toDigits (hindex index rfl)]
      exact helement
    | _ => cases helement

/-! ### Pointers -/

lemma toList_pointerText (steps : List Step) :
    (pointerText steps).toList = (steps.map fun step => step.text.toList).flatMap ('/' :: ·) := by
  rw [pointerText, String.toList_join, List.flatMap_map, List.flatMap_map]
  simp only [String.toList_append]
  rfl

lemma at?_of_slash {pointer : String} {tokens : List Char} (h : pointer.toList = '/' :: tokens)
    (v : Json) : v.at? pointer =
      (Text.split '/' tokens).foldlM (fun v token => v.child? (unescapeToken token)) v := by
  rw [at?, h]
  rfl

/-- **The pointer of some steps selects what they lead to.** -/
theorem at?_pointerText {u : Json} (hindices : ∀ index, .element index ∈ steps → index < 2 ^ 64)
    (h : follow? steps v = some u) : v.at? (pointerText steps) = some u := by
  have htokens : ∀ {steps v}, (∀ index, .element index ∈ steps → index < 2 ^ 64) →
      follow? steps v = some u →
      (steps.map fun step => step.text.toList).foldlM
        (fun v token => v.child? (unescapeToken token)) v = some u := by
    intro steps
    induction steps with
    | nil => exact fun _ h => h
    | cons step steps ih =>
      intro v hindices h
      rw [follow?_cons] at h
      obtain ⟨child, hchild, hrest⟩ := Option.bind_eq_some_iff.mp h
      have hindex : ∀ index, step = .element index → index < 2 ^ 64 :=
        fun index hstep => hindices index (hstep ▸ List.mem_cons_self)
      rw [List.map_cons, List.foldlM_cons, child?_text hindex hchild]
      exact ih (fun index hmem => hindices index (List.mem_cons_of_mem _ hmem)) hrest
  cases steps with
  | nil => exact h
  | cons step steps =>
    have hfree : ∀ token ∈ steps.map fun step => step.text.toList, '/' ∉ token := by
      intro token hmem
      obtain ⟨next, -, rfl⟩ := List.mem_map.mp hmem
      exact slash_notMem_text next
    have hpointer := toList_pointerText (step :: steps)
    rw [List.map_cons, List.flatMap_cons, List.cons_append] at hpointer
    rw [at?_of_slash hpointer, Text.split_pieces (slash_notMem_text step) hfree]
    exact htokens hindices h

/-! ### Places of nodes -/

lemma NodeAt.follow? {v node : Json} {steps : List Step} (h : v.NodeAt steps node) :
    follow? steps v = some node := by
  induction h with
  | self v => rfl
  | field hfield _ _ ih => rw [Json.follow?, hfield, Option.bind_some, ih]
  | element hfield helement _ _ ih =>
    rw [Json.follow?, hfield, Option.bind_some, Json.follow?, helement, Option.bind_some, ih]

lemma DocumentNodeAt.follow? {document node : Json} {steps : List Step}
    (h : document.DocumentNodeAt steps node) : follow? steps document = some node := by
  cases h with
  | node _ h => exact h.follow?
  | element helement _ h => rw [Json.follow?, helement, Option.bind_some, h.follow?]

/-- **Every node that the traversal visits is selected by the pointer to it.** -/
theorem at?_of_mem_nodes {document node : Json} (hdocument : document.Keyed)
    (hindices : ∀ index, .element index ∈ steps → index < 2 ^ 64)
    (h : (steps, node) ∈ document.nodes) : document.at? (pointerText steps) = some node :=
  at?_pointerText hindices ((mem_nodes_iff hdocument).mp h).follow?

/-- A name with a slash in it, and an index. -/
example : pointerText [.field "a/b", .element 10] = "/a~1b/10" := by decide

end Json

end TreeSchema
