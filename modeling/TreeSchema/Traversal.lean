/-
The nodes of a syntax tree.

A node is an object with a text in its field `type`.  The nodes next below it are those in
its fields, which hold one node or an array of them; other objects and arrays in arrays are
not looked into.  `Json.nodes` lists the nodes of a whole document in pre-order, each with the
steps to it.  A document that is an array stands for the list of the nodes in it.

The list is made by a loop with a stack of what is still to be visited.  A node that is visited
leaves the stack, and the nodes next below it are put there in its place, the last one first, so
that the first one is on top.  Together they are smaller than the node, so the loop ends.
-/
import TreeSchema.Json.Pointer

namespace TreeSchema

namespace Json

/-- A value and the steps to it. -/
abbrev Located : Type := List Step × Json

/-- What is below a value, as seen from one step further out. -/
def Located.under (steps : List Step) (found : Located) : Located := (steps ++ found.1, found.2)

/-- The nodes among values, each with its index, counted from the first one's. -/
def elementNodes (index : Nat) : List Json → List Located
  | [] => []
  | v :: rest =>
    if v.isNode then ([.element index], v) :: elementNodes (index + 1) rest
    else elementNodes (index + 1) rest

/-- The node that a value is, or the nodes that it is an array of. -/
def branch (v : Json) : List Located :=
  if v.isNode then [([], v)] else elementNodes 0 v.elements

/-- The nodes next below a value. -/
def branches (v : Json) : List Located :=
  v.fields.flatMap fun (name, value) => value.branch.map (Located.under [.field name])

/-! ### What is to be visited gets less -/

/-- The size of the values on a stack. -/
noncomputable def weight : List Located → Nat
  | [] => 0
  | found :: rest => sizeOf found.2 + weight rest

theorem weight_append (left right : List Located) :
    weight (left ++ right) = weight left + weight right := by
  induction left with
  | nil => simp [weight]
  | cons found rest ih =>
    rw [List.cons_append, weight, weight, ih]
    omega

theorem weight_map_under (steps : List Step) (found : List Located) :
    weight (found.map (Located.under steps)) = weight found := by
  induction found with
  | nil => rfl
  | cons first rest ih =>
    rw [List.map_cons, weight, weight, ih]
    rfl

theorem weight_elementNodes_le (index : Nat) (vs : List Json) :
    weight (elementNodes index vs) ≤ sizeOf vs := by
  induction vs generalizing index with
  | nil => simp [elementNodes, weight]
  | cons v rest ih =>
    have hrest := ih (index + 1)
    rw [elementNodes, List.cons.sizeOf_spec]
    split
    · simp only [weight]
      omega
    · omega

theorem weight_branch_le (v : Json) : weight v.branch ≤ sizeOf v := by
  unfold branch
  split
  · exact Nat.le_refl _
  · cases v with
    | array elements =>
      have hle := weight_elementNodes_le 0 elements
      rw [Json.array.sizeOf_spec]
      exact Nat.le_trans hle (Nat.le_add_left _ _)
    | _ => exact Nat.zero_le _

theorem sizeOf_pos (v : Json) : 0 < sizeOf v := by
  cases v <;> simp +arith

/-- The nodes next below a value are smaller than it, all together. -/
theorem weight_branches_lt (v : Json) : weight v.branches < sizeOf v := by
  cases v with
  | object fields =>
    rw [Json.object.sizeOf_spec, branches, Json.fields]
    suffices h : weight (fields.flatMap fun (name, value) =>
        value.branch.map (Located.under [.field name])) ≤ sizeOf fields by
      omega
    induction fields with
    | nil => exact Nat.zero_le _
    | cons field rest ih =>
      obtain ⟨name, value⟩ := field
      have hbranch := weight_branch_le value
      rw [List.flatMap_cons, weight_append, weight_map_under, List.cons.sizeOf_spec,
        Prod.mk.sizeOf_spec]
      omega
  | _ => exact sizeOf_pos _

/-- Puts values on a stack one after the other, which leaves the last one on top. -/
def pushAll (stack found : List Located) : List Located :=
  found.foldl (fun stack top => top :: stack) stack

theorem pushAll_reverse (stack found : List Located) :
    pushAll stack found.reverse = found ++ stack := by
  induction found with
  | nil => rfl
  | cons first rest ih =>
    rw [pushAll] at ih ⊢
    rw [List.reverse_cons, List.foldl_append, ih]
    rfl

/-! ### Pre-order -/

/-- Visits the values on a stack, from the top.  The nodes next below a value come in its place. -/
def walk (stack : List Located) : List Located :=
  match stack with
  | [] => []
  | found :: rest =>
    let children := found.2.branches.map (Located.under found.1)
    found :: walk (pushAll rest children.reverse)
  termination_by weight stack
  decreasing_by
    rw [pushAll_reverse, weight_append, weight_map_under, weight]
    have hlt := weight_branches_lt found.2
    omega

/-- The nodes of a document in pre-order. -/
def nodes (document : Json) : List Located := walk (pushAll [] document.branch.reverse)

end Json

end TreeSchema
