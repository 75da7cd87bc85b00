/-
The traversal is the pre-order of a document.

A document is visited by a loop with a stack.  What the loop will still put out can be said without
the loop: the pre-orders of the values on the stack, one after the other, from the top
(`walk_eq_flatMap`).  Every round keeps to this, because the pre-order of a node is the node and
then the pre-orders of the nodes next below it.

From the pre-order one sees what the traversal is for.  Every node that can be reached over nodes is
visited, no place is visited twice, and no place after one below it.  Queries look at the nodes in
that order (`nodes_in_preorder`).
-/
import TreeSchema.Proofs.Json.Keyed
import TreeSchema.Query

namespace TreeSchema

namespace Json

variable {v child : Json} {found : Located} {steps : List Step}

/-! ### Pre-order -/

lemma sizeOf_lt_of_mem_branches (h : found ∈ v.branches) : sizeOf found.2 < sizeOf v := by
  refine Nat.lt_of_le_of_lt ?_ (weight_branches_lt v)
  generalize v.branches = stack at h
  induction h with
  | head rest =>
    rw [weight]
    omega
  | tail other _ ih =>
    rw [weight]
    omega

/-- A value and the nodes below it in pre-order. -/
def preorder (v : Json) : List Located :=
  ([], v) :: v.branches.attach.flatMap fun ⟨found, _⟩ =>
    found.2.preorder.map (Located.under found.1)
  termination_by sizeOf v
  decreasing_by
    next hfound => exact sizeOf_lt_of_mem_branches hfound

/-- The pre-order of a value that is found below another one, as seen from there. -/
def Located.preorder (found : Located) : List Located :=
  found.2.preorder.map (Located.under found.1)

lemma preorder_eq (v : Json) : v.preorder = ([], v) :: v.branches.flatMap Located.preorder := by
  have hattach : v.branches.attach.flatMap (fun ⟨found, _⟩ =>
      found.2.preorder.map (Located.under found.1)) = v.branches.flatMap Located.preorder := by
    rw [List.flatMap_subtype fun _ _ => rfl, List.unattach_attach]
    rfl
  rw [preorder, hattach]

lemma under_under (outer inner : List Step) :
    Located.under outer ∘ Located.under inner = Located.under (outer ++ inner) := by
  funext found
  simp [Located.under]

lemma preorder_under (steps : List Step) (found : Located) :
    (found.under steps).preorder = found.preorder.map (Located.under steps) := by
  rw [Located.preorder, Located.preorder, List.map_map, under_under]
  rfl

/-- What is found comes first in its pre-order, and then what is next below it. -/
lemma preorder_located (found : Located) : found.preorder =
    found :: (found.2.branches.map (Located.under found.1)).flatMap Located.preorder := by
  have hbelow : (found.2.branches.flatMap Located.preorder).map (Located.under found.1) =
      (found.2.branches.map (Located.under found.1)).flatMap Located.preorder := by
    simp only [List.map_flatMap, List.flatMap_map, preorder_under]
  rw [Located.preorder, preorder_eq, List.map_cons, hbelow]
  simp [Located.under]

/-- **What the loop puts out are the pre-orders of what is on the stack.** -/
theorem walk_eq_flatMap (stack : List Located) : walk stack = stack.flatMap Located.preorder := by
  fun_induction walk stack with
  | case1 => rfl
  | case2 found rest children ih =>
    rw [ih, pushAll_reverse, List.flatMap_append, List.flatMap_cons, preorder_located,
      List.cons_append]

lemma nodes_eq_flatMap (document : Json) :
    document.nodes = document.branch.flatMap Located.preorder := by
  rw [nodes, pushAll_reverse, List.append_nil, walk_eq_flatMap]

/-! ### The values in pre-order -/

/-- A value and then, for each of its fields in order, what is listed for the field if it is a node
and for the nodes that it has as elements if it is not. -/
def listing (v : Json) : List Json :=
  v :: v.fields.attach.flatMap fun ⟨field, _⟩ =>
    if field.2.isNode then field.2.listing
    else (field.2.elements.filter isNode).attach.flatMap fun ⟨element, _⟩ => element.listing
  termination_by sizeOf v
  decreasing_by
    · next hfield _ => exact sizeOf_lt_of_mem_fields hfield
    · next hfield _ helement =>
      exact Nat.lt_trans (sizeOf_element_lt (List.mem_of_mem_filter helement))
        (sizeOf_lt_of_mem_fields hfield)

lemma listing_eq (v : Json) : v.listing = v :: v.fields.flatMap fun field =>
    if field.2.isNode then field.2.listing
    else (field.2.elements.filter isNode).flatMap listing := by
  rw [listing]
  congr 1
  have hfield : ∀ (field : String × Json) (_ : field ∈ v.fields),
      (if field.2.isNode then field.2.listing
        else (field.2.elements.filter isNode).attach.flatMap fun ⟨element, _⟩ => element.listing) =
      if field.2.isNode then field.2.listing
        else (field.2.elements.filter isNode).flatMap listing := by
    intro field _
    rw [List.flatMap_subtype fun _ _ => rfl, List.unattach_attach]
  rw [List.flatMap_subtype hfield, List.unattach_attach]

lemma map_snd_elementNodes (index : Nat) (vs : List Json) :
    (elementNodes index vs).map Prod.snd = vs.filter isNode := by
  induction vs generalizing index with
  | nil => rfl
  | cons v rest ih =>
    rw [elementNodes, List.filter_cons]
    split
    · rw [List.map_cons, ih]
    · exact ih _

/-- The values in the pre-orders of some places are those listed for the values there. -/
lemma map_snd_flatMap_preorder {stack : List Located}
    (h : ∀ found ∈ stack, found.2.preorder.map Prod.snd = found.2.listing) :
    (stack.flatMap Located.preorder).map Prod.snd = (stack.map Prod.snd).flatMap listing := by
  rw [List.map_flatMap, List.flatMap_map]
  refine List.flatMap_congr fun found hfound => ?_
  rw [← h found hfound, Located.preorder, List.map_map]
  rfl

lemma map_snd_branch (v : Json) :
    v.branch.map Prod.snd = if v.isNode then [v] else v.elements.filter isNode := by
  unfold branch
  split
  · rfl
  · exact map_snd_elementNodes 0 _

/-- The values in pre-order are those listed. -/
lemma map_snd_preorder (v : Json) : v.preorder.map Prod.snd = v.listing := by
  have hbelow : (v.branches.flatMap Located.preorder).map Prod.snd =
      (v.branches.map Prod.snd).flatMap listing := by
    refine map_snd_flatMap_preorder fun found hfound => ?_
    have hlt := sizeOf_lt_of_mem_branches hfound
    exact map_snd_preorder found.2
  have hvalues : v.branches.map Prod.snd = v.fields.flatMap fun field =>
      if field.2.isNode then [field.2] else field.2.elements.filter isNode := by
    rw [branches, List.map_flatMap]
    refine List.flatMap_congr fun field _ => ?_
    rw [← map_snd_branch]
    exact List.map_map
  rw [preorder_eq, listing_eq, List.map_cons, hbelow, hvalues, List.flatMap_assoc]
  congr 1
  refine List.flatMap_congr fun field _ => ?_
  split <;> simp
  termination_by sizeOf v

/-! ### What is visited -/

/-- There is a node at some steps below a value, and so there is at each stop on the way: in a
field, or among the elements of a field. -/
inductive NodeAt : Json → List Step → Json → Prop where
  | self (v : Json) : NodeAt v [] v
  | field {v child node : Json} {name : String} {steps : List Step}
      (hfield : v.field? name = some child) (hnode : child.isNode = true)
      (h : NodeAt child steps node) : NodeAt v (.field name :: steps) node
  | element {v list child node : Json} {name : String} {index : Nat} {steps : List Step}
      (hfield : v.field? name = some list) (helement : list.elements[index]? = some child)
      (hnode : child.isNode = true) (h : NodeAt child steps node) :
      NodeAt v (.field name :: .element index :: steps) node

/-- There is a node at some steps of a document, which is a node itself or an array of nodes. -/
inductive DocumentNodeAt (document : Json) : List Step → Json → Prop where
  | node {steps : List Step} {node : Json} (hnode : document.isNode = true)
      (h : document.NodeAt steps node) : DocumentNodeAt document steps node
  | element {index : Nat} {child node : Json} {steps : List Step}
      (helement : document.elements[index]? = some child) (hnode : child.isNode = true)
      (h : child.NodeAt steps node) : DocumentNodeAt document (.element index :: steps) node

lemma Keyed.field {name : String} (hv : v.Keyed) (h : v.field? name = some child) :
    child.Keyed := by
  have hmem := Entries.get?_mem h
  cases hv with
  | object _ hfields => exact hfields _ hmem
  | _ => cases hmem

lemma Keyed.element (hv : v.Keyed) (h : child ∈ v.elements) : child.Keyed := by
  cases hv with
  | array helements => exact helements _ h
  | _ => cases h

/-- A node is no array. -/
lemma elements_of_isNode (h : v.isNode = true) : v.elements = [] := by
  cases v with
  | array elements => cases h
  | _ => rfl

lemma mem_elementNodes_iff {index : Nat} {vs : List Json} :
    found ∈ elementNodes index vs ↔ ∃ i child, vs[i]? = some child ∧ child.isNode = true ∧
      found = ([.element (index + i)], child) := by
  induction vs generalizing index with
  | nil => simp [elementNodes]
  | cons v rest ih =>
    have hrest : found ∈ elementNodes (index + 1) rest ↔ ∃ i child,
        (v :: rest)[i + 1]? = some child ∧ child.isNode = true ∧
          found = ([.element (index + (i + 1))], child) := by
      simp only [ih, List.getElem?_cons_succ, Nat.add_assoc, Nat.add_comm 1]
    rw [← Nat.or_exists_add_one, ← hrest, elementNodes]
    split
    · next hnode => simp [hnode]
    · next hnode => simp [hnode]

/-- A value is the node next to it, or its elements are the nodes next to it. -/
lemma mem_branch_iff : found ∈ v.branch ↔ (v.isNode = true ∧ found = ([], v)) ∨
    ∃ i child, v.elements[i]? = some child ∧ child.isNode = true ∧
      found = ([.element i], child) := by
  unfold branch
  split
  · next hnode => simp [hnode, elements_of_isNode hnode]
  · next hnode => simp [hnode, mem_elementNodes_iff]

lemma mem_branches_iff (hv : v.Keyed) : found ∈ v.branches ↔
    ∃ name field inner, v.field? name = some field ∧ inner ∈ field.branch ∧
      found = inner.under [.field name] := by
  have hfield : ∀ name field, (name, field) ∈ v.fields ↔ v.field? name = some field := by
    intro name field
    refine ⟨fun h => ?_, Entries.get?_mem⟩
    cases hv with
    | object hnames _ => exact Entries.get?_of_mem hnames h
    | _ => cases h
  simp only [branches, List.mem_flatMap, List.mem_map, Prod.exists, hfield]
  grind

lemma mem_located_preorder_iff (h : ∀ below node, (below, node) ∈ found.2.preorder ↔
    found.2.NodeAt below node) {node : Json} : (steps, node) ∈ found.preorder ↔
      ∃ below, steps = found.1 ++ below ∧ found.2.NodeAt below node := by
  simp only [Located.preorder, List.mem_map, Prod.exists, h, Located.under, Prod.mk.injEq]
  grind

/-- The pre-order of a value has the nodes that are below it, with the steps to them. -/
lemma mem_preorder_iff {v node : Json} {steps : List Step} (hv : v.Keyed) :
    (steps, node) ∈ v.preorder ↔ v.NodeAt steps node := by
  have hlocated : ∀ found ∈ v.branches, found.2.Keyed → ((steps, node) ∈ found.preorder ↔
      ∃ below, steps = found.1 ++ below ∧ found.2.NodeAt below node) := by
    intro found hfound hkeyed
    have hlt := sizeOf_lt_of_mem_branches hfound
    exact mem_located_preorder_iff fun _ _ => mem_preorder_iff hkeyed
  rw [preorder_eq, List.mem_cons, List.mem_flatMap]
  constructor
  · rintro (heq | ⟨found, hfound, hmem⟩)
    · cases heq
      exact .self v
    · obtain ⟨name, field, inner, hfield, hinner, rfl⟩ := (mem_branches_iff hv).mp hfound
      rcases mem_branch_iff.mp hinner with ⟨hnode, rfl⟩ | ⟨i, child, hi, hnode, rfl⟩
      · obtain ⟨below, rfl, h⟩ := (hlocated _ hfound (hv.field hfield)).mp hmem
        exact .field hfield hnode h
      · have hchild := (hv.field hfield).element (List.mem_of_getElem? hi)
        obtain ⟨below, rfl, h⟩ := (hlocated _ hfound hchild).mp hmem
        exact .element hfield hi hnode h
  · rintro (_ | @⟨_, child, _, name, _, hfield, hnode, h⟩ |
      @⟨_, list, child, _, name, i, _, hfield, hi, hnode, h⟩)
    · exact .inl rfl
    · have hfound : ([.field name], child) ∈ v.branches := (mem_branches_iff hv).mpr
        ⟨name, child, ([], child), hfield, mem_branch_iff.mpr (.inl ⟨hnode, rfl⟩), rfl⟩
      exact .inr ⟨_, hfound, (hlocated _ hfound (hv.field hfield)).mpr ⟨_, rfl, h⟩⟩
    · have hfound : ([.field name, .element i], child) ∈ v.branches := (mem_branches_iff hv).mpr
        ⟨name, list, ([.element i], child), hfield,
          mem_branch_iff.mpr (.inr ⟨i, child, hi, hnode, rfl⟩), rfl⟩
      have hchild := (hv.field hfield).element (List.mem_of_getElem? hi)
      exact .inr ⟨_, hfound, (hlocated _ hfound hchild).mpr ⟨_, rfl, h⟩⟩
  termination_by sizeOf v

/-- The nodes that are visited are those of the document. -/
lemma mem_nodes_iff (hv : v.Keyed) {node : Json} :
    (steps, node) ∈ v.nodes ↔ v.DocumentNodeAt steps node := by
  rw [nodes_eq_flatMap, List.mem_flatMap]
  constructor
  · rintro ⟨found, hfound, hmem⟩
    rcases mem_branch_iff.mp hfound with ⟨hnode, rfl⟩ | ⟨i, child, hi, hnode, rfl⟩
    · obtain ⟨below, rfl, h⟩ := (mem_located_preorder_iff fun _ _ => mem_preorder_iff hv).mp hmem
      exact .node hnode h
    · have hchild := hv.element (List.mem_of_getElem? hi)
      obtain ⟨below, rfl, h⟩ :=
        (mem_located_preorder_iff fun _ _ => mem_preorder_iff hchild).mp hmem
      exact .element hi hnode h
  · rintro (⟨hnode, h⟩ | @⟨i, child, _, _, hi, hnode, h⟩)
    · exact ⟨_, mem_branch_iff.mpr (.inl ⟨hnode, rfl⟩),
        (mem_located_preorder_iff fun _ _ => mem_preorder_iff hv).mpr ⟨_, rfl, h⟩⟩
    · have hchild := hv.element (List.mem_of_getElem? hi)
      exact ⟨_, mem_branch_iff.mpr (.inr ⟨i, child, hi, hnode, rfl⟩),
        (mem_located_preorder_iff fun _ _ => mem_preorder_iff hchild).mpr ⟨_, rfl, h⟩⟩

/-! ### The order of places -/

/-- The second place is neither the first one nor above it. -/
def NotAbove (a b : Located) : Prop := ¬ b.1 <+: a.1

/-- Neither place is above the other one, and they are different. -/
def Apart (a b : Located) : Prop := ¬ a.1 <+: b.1 ∧ ¬ b.1 <+: a.1

/-- What is below places that are apart is not above each other. -/
lemma Apart.notAbove_below {a b x y : Located} (h : Apart a b) (hx : x ∈ a.preorder)
    (hy : y ∈ b.preorder) : NotAbove x y := by
  obtain ⟨below, -, rfl⟩ := List.mem_map.mp hx
  obtain ⟨below', -, rfl⟩ := List.mem_map.mp hy
  intro hprefix
  -- two beginnings of one way are beginnings of each other
  have hb : b.1 <+: a.1 ++ below.1 := (List.prefix_append _ _).trans hprefix
  rcases List.prefix_or_prefix_of_prefix (List.prefix_append a.1 below.1) hb with hab | hba
  · exact h.1 hab
  · exact h.2 hba

/-- If some places are apart and the values at them are visited from above, so are all together. -/
lemma pairwise_flatMap_preorder {stack : List Located} (hstack : stack.Pairwise Apart)
    (h : ∀ found ∈ stack, found.2.preorder.Pairwise NotAbove) :
    (stack.flatMap Located.preorder).Pairwise NotAbove := by
  refine List.pairwise_flatMap.mpr ⟨fun found hfound => ?_, ?_⟩
  · refine List.pairwise_map.mpr ((h found hfound).imp fun {a b} hab hprefix => hab ?_)
    exact (List.prefix_append_right_inj _).mp hprefix
  · refine hstack.imp ?_
    intro a b hab x hx y hy
    exact hab.notAbove_below hx hy

lemma pairwise_elementNodes (index : Nat) (vs : List Json) :
    (elementNodes index vs).Pairwise Apart := by
  induction vs generalizing index with
  | nil => exact .nil
  | cons v rest ih =>
    rw [elementNodes]
    split
    · refine List.pairwise_cons.mpr ⟨fun found hfound => ?_, ih _⟩
      obtain ⟨i, child, -, -, rfl⟩ := mem_elementNodes_iff.mp hfound
      simp [Apart]
      omega
    · exact ih _

lemma pairwise_branch (v : Json) : v.branch.Pairwise Apart := by
  unfold branch
  split
  · exact List.pairwise_singleton _ _
  · exact pairwise_elementNodes _ _

lemma pairwise_branches (hv : v.Keyed) : v.branches.Pairwise Apart := by
  have hnames : v.fields.Pairwise fun a b => a.1 ≠ b.1 := by
    cases hv with
    | object hnames _ => exact List.pairwise_map.mp hnames
    | _ => exact .nil
  refine List.pairwise_flatMap.mpr ⟨fun field _ => ?_, hnames.imp fun {a b} hab x hx y hy => ?_⟩
  · refine List.pairwise_map.mpr ((pairwise_branch field.2).imp fun {a b} hab => ?_)
    simpa [Apart, Located.under] using hab
  · obtain ⟨inner, -, rfl⟩ := List.mem_map.mp hx
    obtain ⟨inner', -, rfl⟩ := List.mem_map.mp hy
    simp [Apart, Located.under, hab, Ne.symm hab]

/-- No place in a pre-order comes twice or behind one below it. -/
lemma pairwise_preorder {v : Json} (hv : v.Keyed) : v.preorder.Pairwise NotAbove := by
  rw [preorder_eq, List.pairwise_cons]
  constructor
  · rintro found hfound hprefix
    obtain ⟨next, hnext, hfound⟩ := List.mem_flatMap.mp hfound
    obtain ⟨below, -, rfl⟩ := List.mem_map.mp hfound
    obtain ⟨name, field, inner, -, -, rfl⟩ := (mem_branches_iff hv).mp hnext
    simp [Located.under] at hprefix
  · refine pairwise_flatMap_preorder (pairwise_branches hv) fun found hfound => ?_
    have hlt := sizeOf_lt_of_mem_branches hfound
    refine pairwise_preorder ?_
    obtain ⟨name, field, inner, hfield, hinner, rfl⟩ := (mem_branches_iff hv).mp hfound
    rcases mem_branch_iff.mp hinner with ⟨-, rfl⟩ | ⟨i, child, hi, -, rfl⟩
    · exact hv.field hfield
    · exact (hv.field hfield).element (List.mem_of_getElem? hi)
  termination_by sizeOf v

/-- No place in a document is visited twice or behind one below it. -/
lemma pairwise_nodes (hv : v.Keyed) : v.nodes.Pairwise NotAbove := by
  rw [nodes_eq_flatMap]
  refine pairwise_flatMap_preorder (pairwise_branch v) fun found hfound => pairwise_preorder ?_
  rcases mem_branch_iff.mp hfound with ⟨-, rfl⟩ | ⟨i, child, hi, -, rfl⟩
  · exact hv
  · exact hv.element (List.mem_of_getElem? hi)

/-- **The traversal lists the nodes of a document in pre-order:** each of them once, and none behind
one below it.  A query finds those that it says yes to, in that order, and counts them. -/
theorem nodes_in_preorder {root : Json} (hroot : root.Keyed) :
    root.nodes.map Prod.snd =
        (if root.isNode then root.listing else (root.elements.filter isNode).flatMap listing) ∧
      (∀ steps node, (steps, node) ∈ root.nodes ↔ root.DocumentNodeAt steps node) ∧
      root.nodes.Pairwise NotAbove ∧
      ∀ (r : Registry) depth q s, r.prepare q = .ok s →
        r.find depth root q = .ok (root.nodes.filter fun found =>
          (r.test depth found.2 q).toOption == some true) ∧
        r.count depth root q = (r.find depth root q).map List.length := by
  refine ⟨?_, fun _ _ => mem_nodes_iff hroot, pairwise_nodes hroot, fun r depth q s hs => ?_⟩
  · rw [nodes_eq_flatMap, map_snd_flatMap_preorder fun _ _ => map_snd_preorder _, map_snd_branch]
    split <;> simp
  · have htest : ∀ found : Located, ((r.test depth found.2 q).toOption == some true) =
        r.accepts depth s found.2 := by
      intro found
      simp [Registry.test, hs, Except.map, Except.toOption]
    simp [Registry.find, Registry.count, hs, Except.map, htest, List.countP_eq_length_filter]

/-- A name in a program. -/
def mention : Json := .object [("type", .string "Identifier"), ("name", .string "a")]

/-- A statement around the name. -/
def statement : Json :=
  .object [("type", .string "ExpressionStatement"), ("expression", mention)]

/-- A program with a hole between its statements and a field that is no node. -/
def program : Json :=
  .object [("type", .string "Program"), ("loc", .object [("line", .number (.integer 1))]),
    ("body", .array [statement, .null, mention])]

lemma listing_program : program.listing = [program, statement, mention, mention] := by
  have hmention : mention.listing = [mention] := listing_eq mention
  have hstatement : statement.listing = [statement, mention] := by
    have hbelow : statement.listing = statement :: (mention.listing ++ []) :=
      listing_eq statement
    rw [hbelow, hmention]
    rfl
  have hbelow : program.listing =
      program :: (statement.listing ++ (mention.listing ++ []) ++ []) := listing_eq program
  rw [hbelow, hstatement, hmention]
  rfl

/-- The name in the statement is visited in its place, and a query counts what it finds. -/
theorem program_in_preorder :
    (program.Keyed ∧
      Registry.empty.prepare (.schema (.object [] ["name"])) = .ok (.object [] ["name"])) ∧
      program.nodes.map Prod.snd = [program, statement, mention, mention] ∧
      ([.field "body", .element 0, .field "expression"], mention) ∈ program.nodes ∧
      program.nodes.Pairwise NotAbove ∧
      Registry.empty.count 8 program (.schema (.object [] ["name"])) =
        (Registry.empty.find 8 program (.schema (.object [] ["name"]))).map List.length := by
  have hmention : mention.Keyed := by
    refine .object (by decide) (List.forall_mem_cons.mpr ⟨.string _, ?_⟩)
    exact List.forall_mem_singleton.mpr (.string _)
  have hstatement : statement.Keyed := by
    refine .object (by decide) (List.forall_mem_cons.mpr ⟨.string _, ?_⟩)
    exact List.forall_mem_singleton.mpr hmention
  have hline : Keyed (.object [("line", .number (.integer 1))]) :=
    .object (by decide) (List.forall_mem_singleton.mpr (.number _))
  have hbody : Keyed (.array [statement, .null, mention]) := by
    refine .array (List.forall_mem_cons.mpr ⟨hstatement, ?_⟩)
    exact List.forall_mem_cons.mpr ⟨.null, List.forall_mem_singleton.mpr hmention⟩
  have hprogram : program.Keyed := by
    refine .object (by decide) (List.forall_mem_cons.mpr ⟨.string _, ?_⟩)
    exact List.forall_mem_cons.mpr ⟨hline, List.forall_mem_singleton.mpr hbody⟩
  have hprepare : Registry.empty.prepare (.schema (.object [] ["name"])) =
      .ok (.object [] ["name"]) := rfl
  obtain ⟨hvalues, hmem, hpairwise, hqueries⟩ := nodes_in_preorder hprogram
  have hvisited : program.DocumentNodeAt [.field "body", .element 0, .field "expression"] mention :=
    .node rfl (.element rfl rfl rfl (.field rfl rfl (.self mention)))
  exact ⟨⟨hprogram, hprepare⟩, hvalues.trans listing_program, (hmem _ _).mpr hvisited, hpairwise,
    (hqueries .empty 8 _ _ hprepare).2⟩

end Json

end TreeSchema
