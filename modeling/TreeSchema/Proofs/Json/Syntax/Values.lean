/-
Values are read as the grammar has them.

A reader of values passes over the blanks in front of a value, and what it reads and leaves is what
the grammar derives behind these blanks (`ReadsAs`).  If this holds of the reader of elements, it
holds of the reader of lists and objects of them; as values are read level by level, it holds of all
of them (`readsAs_readValue`).

Two readers of whole texts follow.  One of them reads documents and nothing else
(`ofText_eq_ok_iff`).  The other one reads the value that a text begins with, whatever the rest is
(`ofTextBeginning_eq_ok_iff`).
-/
import TreeSchema.Proofs.Json.Syntax.Numbers

namespace TreeSchema

namespace Json

namespace Syntax

/-! ### Leaves -/

section Leaf

variable {c : Cursor} {letters text rest : List Char} {x : Char} {v : Json}

lemma expectWord_iff :
    (∃ next, expectWord letters c = .ok next ∧ next.rest = rest) ↔ c.rest = letters ++ rest := by
  induction letters generalizing c with
  | nil => simp [expectWord]
  | cons letter letters ih =>
    unfold expectWord
    split
    · next hrest => simp [hrest, Cursor.failHere]
    · next x text hrest =>
      split
      · next hx => rw [ih, Cursor.rest_tail, hrest, hx, List.tail_cons, List.cons_append,
          List.cons_inj_right]
      · next hx => simp [hrest, hx, Cursor.failAtNext]

lemma leaves_readWord {value : Json} {hpos : 0 < c.size} :
    Leaves (readWord letters value c hpos) v rest ↔
      c.rest.tail = letters ++ rest ∧ value = v := by
  rw [← Cursor.rest_tail, ← expectWord_iff]
  unfold readWord
  split
  · next hword => simp [hword]
  · next hword => simp [hword, and_comm]

/-- Of which kind a leaf is can be told by its first character. -/
lemma leaf_cons_iff : Leaf (x :: text) v rest ↔
    x = 'n' ∧ text = ['u', 'l', 'l'] ++ rest ∧ .null = v ∨
    x = 't' ∧ text = ['r', 'u', 'e'] ++ rest ∧ .bool true = v ∨
    x = 'f' ∧ text = ['a', 'l', 's', 'e'] ++ rest ∧ .bool false = v ∨
    x = '"' ∧ (∃ chars, Chars text chars rest ∧ .string (String.ofList chars) = v) ∨
    (x = '-' ∨ x.isDigit = true) ∧ ∃ value, (∃ n, Numeral (x :: text) n rest ∧ Ends n rest ∧
      n.value? = some value) ∧ .number value = v := by
  constructor
  · intro h
    generalize htext : x :: text = at_ at h
    cases h with
    | number h hends hvalue =>
      obtain ⟨y, behind, hat, hy⟩ := cons_of_numeral h
      obtain ⟨rfl, -⟩ := List.cons.inj (htext.trans hat)
      subst htext
      exact .inr (.inr (.inr (.inr ⟨hy, _, ⟨_, h, hends, hvalue⟩, rfl⟩)))
    | string h =>
      obtain ⟨rfl, rfl⟩ := List.cons.inj htext
      exact .inr (.inr (.inr (.inl ⟨rfl, _, h, rfl⟩)))
    | _ =>
      obtain ⟨rfl, rfl⟩ := List.cons.inj htext
      simp
  · rintro (⟨rfl, rfl, rfl⟩ | ⟨rfl, rfl, rfl⟩ | ⟨rfl, rfl, rfl⟩ | ⟨rfl, chars, h, rfl⟩ |
      ⟨-, value, ⟨n, h, hends, hvalue⟩, rfl⟩)
    · exact .null rest
    · exact .true rest
    · exact .false rest
    · exact .string h
    · exact .number h hends hvalue

lemma not_leaf_nil : ¬ Leaf [] v rest := by
  intro h
  generalize htext : [] = text at h
  cases h with
  | number h =>
    obtain ⟨y, behind, hat, -⟩ := cons_of_numeral h
    cases htext.trans hat
  | _ => cases htext

/-- Leaves are read as the grammar has them. -/
lemma leaves_readScalar : Leaves (readScalar c) v rest ↔ Leaf c.rest v rest := by
  unfold readScalar
  split
  · next hpeek =>
    have hrest : c.rest = [] := List.head?_eq_none_iff.mp hpeek
    simp [hrest, not_leaf_nil, Cursor.failHere]
  · next x hpeek =>
    obtain ⟨text, hrest⟩ := List.head?_eq_some_iff.mp hpeek
    rw [hrest, leaf_cons_iff]
    dsimp only
    split_ifs with hn ht hf hquote hnumber
    · subst hn
      simp [leaves_readWord, hrest]
    · subst ht
      simp [leaves_readWord, hrest]
    · subst hf
      simp [leaves_readWord, hrest]
    · subst hquote
      simp [readString, leaves_readChars, hrest]
    · simp [hn, ht, hf, hquote, hnumber, leaves_readNumber, hrest]
    · simp [hn, ht, hf, hquote, hnumber, Cursor.failAtNext]

end Leaf

/-! ### Lists -/

section Lists

variable {α : Type} {P : List Char → α → List Char → Prop}
  {element : (c : Cursor) → Except Fault (Reading c.size α)} {c here : Cursor} {first : Bool}
  {text at_ rest : List Char} {v : α} {vs : List α}

/-- Something that does not begin with a blank or the end of a list. -/
def Opens (text : List Char) : Prop :=
  ∃ x behind, text = x :: behind ∧ Cursor.isBlank x = false ∧ x ≠ ']'

lemma Opens.noBlank (h : Opens text) : NoBlank text := by
  obtain ⟨x, behind, rfl, hx, -⟩ := h
  exact noBlank_cons_iff.mpr hx

/-- A reader reads what a relation derives behind the blanks in front. -/
structure ReadsAs (read : (c : Cursor) → Except Fault (Reading c.size α))
    (P : List Char → α → List Char → Prop) : Prop where
  leaves_iff : ∀ {c v rest}, Leaves (read c) v rest ↔ ∃ at_, Blanks c.rest at_ ∧ P at_ v rest
  opens : ∀ {text v rest}, P text v rest → Opens text

lemma ReadsAs.leaves_iff_of_noBlank (h : ReadsAs element P) (hc : NoBlank c.rest) :
    Leaves (element c) v rest ↔ P c.rest v rest := by
  simp [h.leaves_iff, blanks_iff_of_noBlank hc]

lemma nextElement?_eq_none_iff :
    nextElement? first c = .ok none ↔ c.skipBlanks.peek? = some ']' := by
  unfold nextElement?
  dsimp only
  split
  · next hpeek => simp [hpeek, Cursor.failHere]
  · next x hpeek =>
    by_cases hx : x = ']'
    · simp [hpeek, hx]
    · rw [if_neg hx, hpeek, Option.some.injEq, iff_false_right hx]
      intro h
      repeat' split at h
      all_goals cases h

lemma nextElement?_of_separator (h : Separator first c.rest at_) (hat : Opens at_) :
    ∃ here, nextElement? first c = .ok (some here) ∧ here.rest = at_ := by
  have hnext := (separator_iff hat.noBlank).mp h
  obtain ⟨x, behind, rfl, -, hx⟩ := hat
  rcases hnext with ⟨rfl, hrest⟩ | ⟨rfl, hcomma, hrest⟩
  · have hpeek : c.skipBlanks.peek? = some x := by rw [Cursor.peek?, hrest, List.head?_cons]
    exact ⟨_, by simp [nextElement?, hpeek, hx], hrest⟩
  · have hpeek : c.skipBlanks.tail.skipBlanks.peek? = some x := by
      rw [Cursor.peek?, hrest, List.head?_cons]
    exact ⟨_, by simp [nextElement?, hcomma, hpeek, hx], hrest⟩

lemma separator_of_nextElement? (h : nextElement? first c = .ok (some here)) :
    Separator first c.rest here.rest ∧ NoBlank here.rest := by
  unfold nextElement? at h
  dsimp only at h
  split at h
  · cases h
  · next x hpeek =>
    split_ifs at h with hx hfirst hcomma
    · cases h
    · cases h
      exact ⟨(separator_iff noBlank_skipBlanks).mpr (.inl ⟨hfirst, rfl⟩), noBlank_skipBlanks⟩
    · -- behind a comma the reader has to look once more, but succeeds in one way only
      rw [hcomma] at hpeek
      have hsecond := Bool.eq_false_iff.mpr hfirst
      repeat' split at h
      all_goals cases h
      exact ⟨(separator_iff noBlank_skipBlanks).mpr (.inr ⟨hsecond, hpeek, rfl⟩),
        noBlank_skipBlanks⟩
    · cases h

/-- What is next in a list tells what may be written there. -/
lemma elements_iff_of_nextElement? (h : ReadsAs element P) : Elements P first c.rest vs rest ↔
    match nextElement? first c with
    | .error _ => False
    | .ok none => [] = vs ∧ c.skipBlanks.tail.rest = rest
    | .ok (some here) => ∃ v behind vs', Leaves (element here) v behind ∧
        Elements P false behind vs' rest ∧ v :: vs' = vs := by
  constructor
  · intro helements
    cases helements with
    | close hclose =>
      obtain ⟨hbracket, hrest⟩ := (blanks_cons_iff rfl).mp hclose
      rw [nextElement?_eq_none_iff.mpr hbracket]
      exact ⟨rfl, hrest⟩
    | @next _ _ at_ behind _ v vs hseparator hv hvs =>
      obtain ⟨here, hnext, rfl⟩ := nextElement?_of_separator hseparator (h.opens hv)
      rw [hnext]
      have hleaves := (h.leaves_iff_of_noBlank (h.opens hv).noBlank).mpr hv
      exact ⟨v, behind, vs, hleaves, hvs, rfl⟩
  · intro hnext'
    split at hnext'
    · cases hnext'
    · next hnext =>
      obtain ⟨rfl, rfl⟩ := hnext'
      exact .close ((blanks_cons_iff rfl).mpr ⟨nextElement?_eq_none_iff.mp hnext, rfl⟩)
    · next here hnext =>
      obtain ⟨v, behind, vs', hv, hvs, rfl⟩ := hnext'
      obtain ⟨hseparator, hnoBlank⟩ := separator_of_nextElement? hnext
      exact .next hseparator ((h.leaves_iff_of_noBlank hnoBlank).mp hv) hvs

/-- Lists are read as the grammar has them: the elements come behind those that have been seen. -/
lemma leaves_readElements (h : ReadsAs element P) {limit : Nat} {seen : List α}
    {inside : c.size < limit} : Leaves (readElements element limit seen c inside) vs rest ↔
      ∃ vs', Elements P seen.isEmpty c.rest vs' rest ∧ seen.reverse ++ vs' = vs := by
  fun_induction readElements element limit seen c inside with
  | case1 seen c inside fault hnext =>
    simp [elements_iff_of_nextElement? h, hnext]
  | case2 seen c inside hnext =>
    simp only [elements_iff_of_nextElement? h, hnext, Leaves.ok_iff]
    simp [and_comm]
  | case3 seen c inside here hnext fault hfound =>
    simp [elements_iff_of_nextElement? h, hnext, Leaves.not_of_within_eq_error hfound]
  | case4 seen c inside here hnext found hfound hshorter ih =>
    -- what the element leaves is where the reader goes on
    rw [ih]
    simp [elements_iff_of_nextElement? h, hnext, Leaves.iff_of_within_eq_ok hfound]

end Lists

/-! ### Objects -/

section Objects

variable {α : Type} {P : List Char → α → List Char → Prop}
  {value : (c : Cursor) → Except Fault (Reading c.size α)} {c here : Cursor} {first : Bool}
  {key rest : List Char} {v : α} {members : List (String × α)}

lemma nextKey?_eq_none_iff :
    nextKey? first c = .ok none ↔ c.skipBlanks.peek? = some '\x7d' := by
  unfold nextKey?
  dsimp only
  split
  · next hpeek => simp [hpeek, Cursor.failHere]
  · next x hpeek =>
    by_cases hx : x = '\x7d'
    · simp [hpeek, hx]
    · rw [if_neg hx, hpeek, Option.some.injEq, iff_false_right hx]
      intro h
      repeat' split at h
      all_goals cases h

lemma nextKey?_iff : (∃ here, nextKey? first c = .ok (some here) ∧ here.rest = key) ↔
    Separator first c.rest ('"' :: key) := by
  have hquote : NoBlank ('"' :: key) := noBlank_cons_iff.mpr rfl
  simp only [separator_iff hquote, Cursor.rest_eq_cons_iff]
  unfold nextKey?
  dsimp only
  split
  · next hpeek => simp [hpeek, Cursor.failHere]
  · next x hpeek =>
    split_ifs with hx hfirst hquote hcomma
    · simp [hpeek, hx]
    · simp [hpeek, hfirst, hquote]
    · simp [hpeek, hfirst, hquote, Cursor.failAtNext]
    · split
      · next hpeek' => simp [hfirst, hpeek', Cursor.failHere]
      · next y hpeek' =>
        split_ifs with hquote hbracket
        · simp [hpeek, hcomma, hfirst, hpeek', hquote]
        · simp [hfirst, hpeek', hquote, Cursor.failAtNext]
        · simp [hfirst, hpeek', hquote, Cursor.failAtNext]
    · simp [hpeek, hfirst, hcomma, Cursor.failAtNext]

lemma expectColon_iff :
    (∃ next, expectColon c = .ok next ∧ next.rest = rest) ↔ Blanks c.rest (':' :: rest) := by
  rw [blanks_cons_iff rfl]
  unfold expectColon
  dsimp only
  split
  · next hpeek => simp [hpeek, Cursor.failHere]
  · next x hpeek =>
    split
    · next hx => simp [hpeek, hx]
    · next hx => simp [hpeek, hx, Cursor.failAtNext]

/-- Members are read as the grammar has them. -/
lemma leaves_readMember (h : ReadsAs value P) (name : String) :
    Leaves (readMember name value c) v rest ↔
      ∃ behind at_, Blanks c.rest (':' :: behind) ∧ Blanks behind at_ ∧ P at_ v rest := by
  simp only [← expectColon_iff]
  unfold readMember
  split
  · next hcolon => simp [hcolon]
  · next here hcolon => simp [hcolon, h.leaves_iff]

lemma leaves_readString {limit : Nat} {inside : c.size < limit} {s : String} :
    Leaves (readString c inside) s rest ↔
      ∃ chars, Chars c.rest chars rest ∧ String.ofList chars = s :=
  leaves_readChars

/-- What is next in an object tells what may be written there. -/
lemma members_iff_of_nextKey? (h : ReadsAs value P) : Members P first c.rest members rest ↔
    match nextKey? first c with
    | .error _ => False
    | .ok none => [] = members ∧ c.skipBlanks.tail.rest = rest
    | .ok (some here) => ∃ key v behind members',
        readString here (Nat.lt_succ_self here.size) = .ok key ∧
        Leaves (readMember key.value value key.next) v behind ∧
        Members P false behind members' rest ∧ (key.value, v) :: members' = members := by
  constructor
  · intro hmembers
    cases hmembers with
    | close hclose =>
      obtain ⟨hbracket, hrest⟩ := (blanks_cons_iff rfl).mp hclose
      rw [nextKey?_eq_none_iff.mpr hbracket]
      exact ⟨rfl, hrest⟩
    | next hseparator hchars hcolon hvalue hv hmembers =>
      obtain ⟨here, hnext, rfl⟩ := nextKey?_iff.mpr hseparator
      have hleaves : Leaves (readString here (Nat.lt_succ_self here.size)) _ _ :=
        leaves_readString.mpr ⟨_, hchars, rfl⟩
      obtain ⟨key, hkey, hname, rfl⟩ := hleaves
      rw [hnext, ← hname]
      have hmember := (leaves_readMember h key.value).mpr ⟨_, _, hcolon, hvalue, hv⟩
      exact ⟨key, _, _, _, hkey, hmember, hmembers, rfl⟩
  · intro hnext'
    split at hnext'
    · cases hnext'
    · next hnext =>
      obtain ⟨rfl, rfl⟩ := hnext'
      exact .close ((blanks_cons_iff rfl).mpr ⟨nextKey?_eq_none_iff.mp hnext, rfl⟩)
    · next here hnext =>
      obtain ⟨key, v, behind, members', hkey, hmember, hmembers, rfl⟩ := hnext'
      obtain ⟨chars, hchars, hname⟩ := leaves_readString.mp ⟨key, hkey, rfl, rfl⟩
      obtain ⟨at_, at', hcolon, hvalue, hv⟩ := (leaves_readMember h key.value).mp hmember
      rw [← hname]
      exact .next (nextKey?_iff.mp ⟨here, hnext, rfl⟩) hchars hcolon hvalue hv hmembers

/-- Objects are read as the grammar has them: the members are put to those that have been seen. -/
lemma leaves_readMembers (h : ReadsAs value P) {limit : Nat} {state entries : Entries α}
    {inside : c.size < limit} :
    Leaves (readMembers (entry value) limit first state c inside) entries rest ↔
      ∃ members, Members P first c.rest members rest ∧
        members.foldl (fun es (name, v) => es.put name v) state = entries := by
  fun_induction readMembers (entry value) limit first state c inside with
  | case1 first state c inside fault hnext =>
    obtain ⟨inner, hnext⟩ := exists_of_within_eq_error hnext
    simp [members_iff_of_nextKey? h, hnext]
  | case2 first state c inside hnext =>
    simp only [members_iff_of_nextKey? h, mapError_eq_ok_iff.mp hnext, Leaves.ok_iff]
    simp [and_comm]
  | case3 first state c inside here hnext hhere fault hkey =>
    obtain ⟨inner, hkey⟩ := exists_of_within_eq_error hkey
    simp [members_iff_of_nextKey? h, mapError_eq_ok_iff.mp hnext, hkey]
  | case4 first state c inside here hnext hhere key hkey fault hfound =>
    have hmember := map_eq_error_iff.mp hfound
    simp [members_iff_of_nextKey? h, mapError_eq_ok_iff.mp hnext, mapError_eq_ok_iff.mp hkey,
      hmember]
  | case5 first state c inside here hnext hhere key hkey found hfound hshorter ih =>
    obtain ⟨member, hmember, rfl⟩ := map_eq_ok_iff.mp hfound
    rw [ih]
    simp [members_iff_of_nextKey? h, mapError_eq_ok_iff.mp hnext, mapError_eq_ok_iff.mp hkey,
      hmember, Reading.map]

end Objects

/-! ### Values -/

section Values

variable {c : Cursor} {levels : Nat} {text rest : List Char} {v : Json}

lemma opens_of_leaf (h : Leaf text v rest) : Opens text := by
  cases h with
  | number h =>
    obtain ⟨x, behind, rfl, hx⟩ := cons_of_numeral h
    refine ⟨x, behind, rfl, ?_, ?_⟩
    · by_contra hblank
      simp only [Cursor.isBlank, Bool.not_eq_false, Bool.or_eq_true, beq_iff_eq] at hblank
      rcases hblank with ((rfl | rfl) | rfl) | rfl <;> simp at hx
    · rintro rfl
      simp at hx
  | _ => exact ⟨_, _, rfl, rfl, by decide⟩

lemma opens_of_value (h : Value levels text v rest) : Opens text := by
  cases levels with
  | zero => exact opens_of_leaf h
  | succ levels =>
    rcases h with h | ⟨_⟩ | ⟨_⟩
    · exact opens_of_leaf h
    · exact ⟨_, _, rfl, rfl, by decide⟩
    · exact ⟨_, _, rfl, rfl, by decide⟩

lemma not_bracketed_nil {P : List Char → Json → List Char → Prop} :
    ¬ Bracketed P [] v rest := by
  rintro ⟨⟩

lemma bracketed_iff {P : List Char → Json → List Char → Prop} {x : Char} :
    Bracketed P (x :: text) v rest ↔
      x = '[' ∧ (∃ vs, Elements P true text vs rest ∧ .array vs = v) ∨
      x = '\x7b' ∧ (∃ members, Members P true text members rest ∧
        .object (Entries.ofList members) = v) := by
  constructor
  · rintro (h | h)
    · exact .inl ⟨rfl, _, h, rfl⟩
    · exact .inr ⟨rfl, _, h, rfl⟩
  · rintro (⟨rfl, vs, h, rfl⟩ | ⟨rfl, members, h, rfl⟩)
    · exact .array h
    · exact .object h

lemma not_leaf_list {behind : List Char} : ¬ Leaf ('[' :: behind) v rest := by
  simp [leaf_cons_iff]

lemma not_leaf_object {behind : List Char} : ¬ Leaf ('\x7b' :: behind) v rest := by
  simp [leaf_cons_iff]

lemma value_zero_iff : Value 0 text v rest ↔ Leaf text v rest := Iff.rfl

lemma value_succ_iff : Value (levels + 1) text v rest ↔
    Leaf text v rest ∨ Bracketed (Value levels) text v rest := Iff.rfl

/-- Only what stands behind all the blanks can open something. -/
lemma exists_blanks_iff {P : List Char → Json → List Char → Prop}
    (hP : ∀ text v rest, P text v rest → Opens text) :
    (∃ at_, Blanks c.rest at_ ∧ P at_ v rest) ↔ P c.skipBlanks.rest v rest := by
  constructor
  · rintro ⟨at_, hblanks, h⟩
    rw [(blanks_iff_skipBlanks (hP _ _ _ h).noBlank).mp hblanks]
    exact h
  · exact fun h => ⟨_, blanks_skipBlanks, h⟩

/-- Values are read as the grammar has them. -/
theorem readsAs_readValue : ReadsAs (readValue levels) (Value levels) := by
  induction levels with
  | zero =>
    refine ⟨fun {c v rest} => ?_, opens_of_value⟩
    rw [exists_blanks_iff (P := Value 0) fun _ _ _ => opens_of_value, value_zero_iff]
    unfold readValue
    dsimp only
    rw [Leaves.widen_iff]
    split
    · next hpeek =>
      have hrest : c.skipBlanks.rest = [] := List.head?_eq_none_iff.mp hpeek
      simp [hrest, not_leaf_nil, Cursor.failHere]
    · next x hpeek =>
      obtain ⟨text, hrest⟩ := List.head?_eq_some_iff.mp hpeek
      -- no level is left for brackets, neither to the reader nor to the grammar
      split_ifs with hlist hobject
      · simp [hrest, hlist, not_leaf_list, Cursor.failAtNext]
      · simp [hrest, hobject, not_leaf_object, Cursor.failAtNext]
      · exact leaves_readScalar
  | succ levels ih =>
    refine ⟨fun {c v rest} => ?_, opens_of_value⟩
    rw [exists_blanks_iff (P := Value (levels + 1)) fun _ _ _ => opens_of_value, value_succ_iff]
    unfold readValue
    dsimp only
    rw [Leaves.widen_iff]
    split
    · next hpeek =>
      have hrest : c.skipBlanks.rest = [] := List.head?_eq_none_iff.mp hpeek
      simp [hrest, not_leaf_nil, not_bracketed_nil, Cursor.failHere]
    · next x hpeek =>
      obtain ⟨text, hrest⟩ := List.head?_eq_some_iff.mp hpeek
      rw [hrest, bracketed_iff]
      split_ifs with hlist hobject
      · simp [hrest, hlist, not_leaf_list, readList, leaves_readElements ih]
      · simp [hrest, hobject, not_leaf_object, readObject, leaves_readMembers ih, Entries.ofList]
      · simp [leaves_readScalar, hrest, hlist, hobject]

end Values

end Syntax

/-! ### Whole texts -/

section Texts

variable {text : String} {v v' : Json} {rest rest' : List Char}

lemma beginsWith_iff :
    BeginsWith text v rest ↔ Leaves (readValue maxLevels (Cursor.start text)) v rest :=
  (Syntax.readsAs_readValue.leaves_iff (c := Cursor.start text)).symm

/-- A text begins with one value at most. -/
theorem BeginsWith.unique (h : BeginsWith text v rest) (h' : BeginsWith text v' rest') :
    v = v' ∧ rest = rest' := by
  obtain ⟨r, hr, rfl, rfl⟩ := beginsWith_iff.mp h
  obtain ⟨r', hr', rfl, rfl⟩ := beginsWith_iff.mp h'
  cases hr.symm.trans hr'
  exact ⟨rfl, rfl⟩

/-- What is read of a text is the value that it begins with. -/
theorem ofTextBeginning_eq_ok_iff :
    ofTextBeginning text = .ok v ↔ ∃ rest, BeginsWith text v rest := by
  simp [beginsWith_iff, ofTextBeginning, Leaves]

/-- Documents are read, and nothing else. -/
theorem ofText_eq_ok_iff : ofText text = .ok v ↔ IsDocument text v := by
  have hend : ∀ c : Cursor, Syntax.Blanks c.rest [] ↔ ¬ c.skipBlanks.peek?.isSome = true := by
    intro c
    rw [Syntax.blanks_iff_skipBlanks Syntax.noBlank_nil]
    simp [Cursor.peek?]
  simp only [ofText, bind_eq_ok_iff, IsDocument, beginsWith_iff]
  constructor
  · rintro ⟨r, hr, hresult⟩
    split at hresult
    · cases hresult
    · next hnone =>
      cases hresult
      exact ⟨r.next.rest, ⟨r, hr, rfl, rfl⟩, (hend r.next).mpr hnone⟩
  · rintro ⟨rest, ⟨r, hr, rfl, rfl⟩, hblanks⟩
    refine ⟨r, hr, ?_⟩
    rw [if_neg ((hend r.next).mp hblanks)]
    rfl

end Texts

end Json

end TreeSchema
