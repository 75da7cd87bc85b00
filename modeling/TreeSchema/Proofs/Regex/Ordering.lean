/-
Bounds in order.

Whatever is read as a regular expression has the bounds of its repetitions in order, the lower one
first (`Spells.ordered`), as the search takes them to be.  A move adds only what is in order,
closing a row or a group adds no repetition, and so the state of the reading stays in order from
round to round.
-/
import TreeSchema.Proofs.Pattern
import TreeSchema.Proofs.Regex.Moves
import TreeSchema.Proofs.Regex.Reading

namespace TreeSchema

namespace Regex

variable {st next : State} {text rest left : List Char} {c : Char}

lemma ordered_eithers {rs : List Regex} (h : ∀ r ∈ rs, r.Ordered) : (eithers rs).Ordered := by
  induction rs with
  | nil => trivial
  | cons r rs ih =>
    obtain ⟨hr, hrs⟩ := List.forall_mem_cons.mp h
    cases rs with
    | nil => exact hr
    | cons => exact ⟨hr, ih hrs⟩

/-- The bounds of all repetitions in the items are in order. -/
def OrderedItems (items : List Item) : Prop := ∀ p, Item.piece p ∈ items → p.regex.Ordered

/-- The bounds of all repetitions in a group are in order. -/
structure Group.Ordered (g : Group) : Prop where
  branches : ∀ p ∈ g.branches, p.regex.Ordered
  items : OrderedItems g.items

/-- The bounds of all repetitions that have been read are in order. -/
structure State.Ordered (st : State) : Prop where
  group : st.group.Ordered
  outer : ∀ around ∈ st.outer, around.group.Ordered

lemma ordered_closeRow {items : List Item} (h : OrderedItems items) :
    (closeRow items).regex.Ordered := by
  refine ordered_concats fun r hr => ?_
  obtain ⟨p, hp, rfl⟩ := List.mem_map.mp hr
  obtain ⟨item, hitem, heq⟩ := List.mem_filterMap.mp hp
  cases item with
  | piece q =>
    cases heq
    exact h p (List.mem_reverse.mp hitem)
  | directive => cases heq

namespace Group.Ordered

variable {g : Group}

lemma ordered_branches (h : g.Ordered) :
    ∀ p ∈ closeRow g.items :: g.branches, p.regex.Ordered :=
  List.forall_mem_cons.mpr ⟨ordered_closeRow h.items, h.branches⟩

lemma close (h : g.Ordered) : g.close.regex.Ordered := by
  refine ordered_eithers fun r hr => ?_
  obtain ⟨p, hp, rfl⟩ := List.mem_map.mp hr
  exact h.ordered_branches p (List.mem_reverse.mp hp)

lemma branch (h : g.Ordered) : g.branch.Ordered :=
  ⟨h.ordered_branches, fun _ hmem => nomatch hmem⟩

lemma add_piece {p : Piece} (h : g.Ordered) (hp : p.regex.Ordered) :
    (g.add (.piece p)).Ordered := by
  refine ⟨h.branches, fun q hq => ?_⟩
  rcases List.mem_cons.mp hq with heq | hq
  · cases heq
    exact hp
  · exact h.items q hq

lemma add_directive (h : g.Ordered) : (g.add .directive).Ordered :=
  ⟨h.branches, fun q hq => h.items q ((List.mem_cons.mp hq).resolve_left fun heq => nomatch heq)⟩

lemma modifyLast? {g' : Group} {f : Piece → Piece} (h : g.Ordered)
    (hf : ∀ p : Piece, p.regex.Ordered → (f p).regex.Ordered) (heq : g.modifyLast? f = some g') :
    g'.Ordered := by
  obtain ⟨branches, items⟩ := g
  rw [Group.modifyLast?] at heq
  split at heq
  · next p items hitems =>
    cases heq
    cases hitems
    have hinit : Group.Ordered ⟨branches, items⟩ :=
      ⟨h.branches, fun q hq => h.items q (List.mem_cons_of_mem _ hq)⟩
    exact hinit.add_piece (hf p (h.items p List.mem_cons_self))
  · cases heq

end Group.Ordered

/-- There is nothing in a new group. -/
lemma ordered_empty : ({} : Group).Ordered := ⟨List.forall_mem_nil _, fun _ hmem => nomatch hmem⟩

namespace State.Ordered

/-- A group that is entered is open around the new one. -/
lemma opened {number : Option Nat} (h : st.Ordered) :
    ∀ around ∈ (⟨st.group, st.flags, number⟩ : Open) :: st.outer, around.group.Ordered :=
  List.forall_mem_cons.mpr ⟨h.group, h.outer⟩

lemma make? {move : Move} (h : st.Ordered) (hmove : move.Ordered)
    (hmake : move.make? st = some next) : next.Ordered := by
  cases move with
  | enter flags =>
    cases hmake
    exact ⟨ordered_empty, h.opened⟩
  | enterNumbered =>
    cases hmake
    exact ⟨ordered_empty, h.opened⟩
  | enterNamed name =>
    obtain ⟨-, hmake⟩ := Option.ite_none_left_eq_some.mp hmake
    cases hmake
    exact ⟨ordered_empty, h.opened⟩
  | change flags =>
    cases hmake
    exact ⟨h.group.add_directive, h.outer⟩
  | branch =>
    cases hmake
    exact ⟨h.group.branch, h.outer⟩
  | push p =>
    cases hmake
    exact ⟨h.group.add_piece hmove, h.outer⟩
  | repeated bounds turned =>
    obtain ⟨group, hgroup, rfl⟩ := Option.map_eq_some_iff.mp hmake
    have hrepeated : ∀ p : Piece, p.regex.Ordered →
        (p.repeated bounds.1 bounds.2 (st.flags.short != turned)).regex.Ordered :=
      fun p hp => ⟨hp, hmove⟩
    exact ⟨h.group.modifyLast? hrepeated hgroup, h.outer⟩

lemma leave? (h : st.Ordered) (hleave : st.leave? = some next) : next.Ordered := by
  rw [State.leave?] at hleave
  split at hleave
  · cases hleave
  · next around outer houter =>
    cases hleave
    obtain ⟨haround, houter⟩ := List.forall_mem_cons.mp (houter ▸ h.outer)
    exact ⟨haround.add_piece h.group.close, houter⟩

/-- A round keeps the bounds in order. -/
lemma step? (h : st.Ordered) (hread : (Regex.step? st c rest).map Taken.seen = some (next, left)) :
    next.Ordered := by
  by_cases hc : c = ')'
  · subst hc
    rw [seen_step?_close] at hread
    obtain ⟨next', hleave, heq⟩ := Option.map_eq_some_iff.mp hread
    cases heq
    exact h.leave? hleave
  · obtain ⟨move?, hmoves, hordered⟩ := moves_step? st.flags hc rest
    obtain ⟨⟨move, left'⟩, hmove, heq⟩ :=
      Option.bind_eq_some_iff.mp ((hmoves st rfl).symm.trans hread)
    obtain ⟨next', hmake, heq⟩ := Option.map_eq_some_iff.mp heq
    cases heq
    exact h.make? (hordered move _ hmove) hmake

/-- A run keeps the bounds in order. -/
lemma reach (h : st.Ordered) (text : List Char) : (st.reach text).1.Ordered := by
  induction st, text using reach_induction with
  | hend st text hgap => rwa [reach_end hgap]
  | hstuck st text c rest hgap hread => rwa [reach_stuck hgap hread]
  | hstep st text c rest next left hgap hread ih =>
    rw [reach_step hgap hread]
    exact ih (h.step? hread)

end State.Ordered

/-- An expression that is spelled has its bounds in order. -/
theorem Spells.ordered {e : Piece} (h : Spells text e) : e.regex.Ordered := by
  obtain ⟨st, hreach, -, rfl⟩ := h
  have hinitial : ({} : State).Ordered := ⟨ordered_empty, List.forall_mem_nil _⟩
  have hrun := hinitial.reach text
  rw [hreach] at hrun
  exact hrun.group.close

end Regex

end TreeSchema
