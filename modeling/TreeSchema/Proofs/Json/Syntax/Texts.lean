/-
Texts are read as the grammar has them.

A reader is compared with the grammar by what it gives and what it leaves: `Leaves x a rest` says
that `x` has read `a` and that `rest` follows.  For each reader there is one equivalence, which says
that it reads and leaves just what the relation of the grammar derives.  As the readers go from one
character to the next, each relation is first taken apart by the next character, and the
equivalence then holds step by step.
-/
import TreeSchema.Proofs.Json.Syntax.Basic
import TreeSchema.Proofs.Results

namespace TreeSchema

namespace Json

/-! ### What is left of a text -/

namespace Cursor

variable {c : Cursor}

@[simp] lemma rest_tail : c.tail.rest = c.rest.tail := by
  obtain ⟨_ | _, _⟩ := c <;> rfl

@[simp] lemma rest_drop {n : Nat} : (c.drop n).rest = c.rest.drop n := by
  induction n generalizing c with
  | zero => rfl
  | succ n ih => rw [drop, ih, rest_tail, List.drop_tail]

lemma rest_eq_cons_iff {x : Char} {text : List Char} :
    c.rest = x :: text ↔ c.peek? = some x ∧ c.tail.rest = text := by
  rw [peek?, rest_tail]
  cases c.rest <;> simp

lemma rest_drop_length {front rest : List Char} (h : c.rest = front ++ rest) :
    (c.drop front.length).rest = rest := by
  rw [rest_drop, h, List.drop_left]

lemma rest_skipBlanks : c.skipBlanks.rest = c.rest.dropWhile isBlank :=
  rest_drop_length List.takeWhile_append_dropWhile.symm

end Cursor

/-! ### What a reader leaves -/

lemma exists_of_within_eq_error {α : Type} {segment : Segment} {x : Except Fault α} {fault : Fault}
    (h : within segment x = .error fault) : ∃ inner, x = .error inner := by
  cases x with
  | ok a => cases h
  | error inner => exact ⟨inner, rfl⟩

/-- Something has been read, and a rest follows. -/
def Leaves {limit : Nat} {α : Type} (x : Except Fault (Reading limit α)) (a : α)
    (rest : List Char) : Prop :=
  ∃ r, x = .ok r ∧ r.value = a ∧ r.next.rest = rest

namespace Leaves

variable {limit : Nat} {α β : Type} {x : Except Fault (Reading limit α)} {a : α}
  {rest : List Char}

@[simp] lemma ok_iff {r : Reading limit α} :
    Leaves (.ok r) a rest ↔ r.value = a ∧ r.next.rest = rest := by
  simp [Leaves]

@[simp] lemma error_iff {fault : Fault} :
    ¬ Leaves (.error fault : Except Fault (Reading limit α)) a rest := by
  simp [Leaves]

@[simp] lemma map_iff {f : α → β} {b : β} :
    Leaves (x.map (Reading.map f)) b rest ↔ ∃ a, Leaves x a rest ∧ f a = b := by
  cases x <;> simp [Except.map, Reading.map, and_comm]

@[simp] lemma widen_iff {larger : Nat} {h : limit ≤ larger} :
    Leaves (x.map (·.widen h)) a rest ↔ Leaves x a rest := by
  cases x <;> simp [Except.map, Reading.widen]

@[simp] lemma within_iff {segment : Segment} :
    Leaves (within segment x) a rest ↔ Leaves x a rest := by
  cases x <;> simp [within, Except.mapError]

lemma iff_of_within_eq_ok {segment : Segment} {r : Reading limit α}
    (h : within segment x = .ok r) : Leaves x a rest ↔ r.value = a ∧ r.next.rest = rest := by
  rw [mapError_eq_ok_iff.mp h, ok_iff]

lemma not_of_within_eq_error {segment : Segment} {fault : Fault}
    (h : within segment x = .error fault) : ¬ Leaves x a rest := by
  obtain ⟨inner, rfl⟩ := exists_of_within_eq_error h
  exact error_iff

end Leaves

namespace Syntax

/-! ### Blanks -/

section Blanks

variable {text at_ rest : List Char} {c : Cursor}

/-- The text does not begin with a blank. -/
def NoBlank (text : List Char) : Prop := ∀ x, text.head? = some x → Cursor.isBlank x = false

@[simp] lemma noBlank_nil : NoBlank [] := by
  intro x hx
  cases hx

@[simp] lemma noBlank_cons_iff {x : Char} : NoBlank (x :: rest) ↔ Cursor.isBlank x = false := by
  simp [NoBlank]

lemma blanks_skipBlanks : Blanks c.rest c.skipBlanks.rest := by
  rw [Cursor.rest_skipBlanks]
  induction c.rest with
  | nil => exact .none []
  | cons x text ih =>
    rw [List.dropWhile_cons]
    split
    · next hx => exact .more hx ih
    · exact .none _

lemma noBlank_skipBlanks : NoBlank c.skipBlanks.rest := by
  intro x hx
  have hfirst := List.head?_dropWhile_not Cursor.isBlank c.rest
  rw [← Cursor.rest_skipBlanks, hx] at hfirst
  simpa using hfirst

/-- Passing over blanks stops at the first thing that is none. -/
lemma blanks_iff_skipBlanks (hat : NoBlank at_) : Blanks c.rest at_ ↔ c.skipBlanks.rest = at_ := by
  constructor
  · intro h
    rw [Cursor.rest_skipBlanks]
    generalize c.rest = text at h
    induction h with
    | none rest =>
      cases rest with
      | nil => rfl
      | cons x rest => simp [noBlank_cons_iff.mp hat]
    | more hx _ ih => simpa [hx] using ih hat
  · rintro rfl
    exact blanks_skipBlanks

lemma blanks_iff_of_noBlank (h : NoBlank text) : Blanks text at_ ↔ text = at_ := by
  constructor
  · rintro (_ | ⟨hx, -⟩)
    · rfl
    · rw [noBlank_cons_iff.mp h] at hx
      cases hx
  · rintro rfl
    exact .none text

/-- What stands behind blanks can be seen once they have been passed over. -/
lemma blanks_cons_iff {x : Char} (hx : Cursor.isBlank x = false) :
    Blanks c.rest (x :: rest) ↔ c.skipBlanks.peek? = some x ∧ c.skipBlanks.tail.rest = rest := by
  rw [blanks_iff_skipBlanks (noBlank_cons_iff.mpr hx), Cursor.rest_eq_cons_iff]

lemma separator_iff {first : Bool} (hat : NoBlank at_) : Separator first c.rest at_ ↔
    first = true ∧ c.skipBlanks.rest = at_ ∨
    first = false ∧ c.skipBlanks.peek? = some ',' ∧ c.skipBlanks.tail.skipBlanks.rest = at_ := by
  constructor
  · rintro (⟨h⟩ | ⟨h, h'⟩)
    · exact .inl ⟨rfl, (blanks_iff_skipBlanks hat).mp h⟩
    · obtain ⟨hcomma, rfl⟩ := (blanks_cons_iff rfl).mp h
      exact .inr ⟨rfl, hcomma, (blanks_iff_skipBlanks hat).mp h'⟩
  · rintro (⟨rfl, h⟩ | ⟨rfl, hcomma, h⟩)
    · exact .first ((blanks_iff_skipBlanks hat).mpr h)
    · exact .comma ((blanks_cons_iff rfl).mpr ⟨hcomma, rfl⟩) ((blanks_iff_skipBlanks hat).mpr h)

end Blanks

/-! ### Escapes -/

section Escapes

variable {c : Cursor} {n high : Nat} {x : Char} {text rest : List Char}

lemma not_escape_nil : ¬ Escape [] x rest := by
  rintro ⟨⟩

lemma escape_iff_of_ne {first : Char} (hu : first ≠ 'u') :
    Escape (first :: text) x rest ↔ escapedChar? first = some x ∧ text = rest := by
  constructor
  · rintro (h | _ | _)
    · exact ⟨h, rfl⟩
    all_goals contradiction
  · rintro ⟨h, rfl⟩
    exact .letter h

lemma hexEscape_eq_ok_iff : hexEscape c = .ok n ↔
    ∃ digits rest, c.rest = digits ++ rest ∧ HexDigits digits ∧ Unicode.hexValue digits = n := by
  unfold hexEscape
  constructor
  · intro h
    dsimp only at h
    split at h
    · next hdigits =>
      cases h
      refine ⟨_, _, (List.take_append_drop 4 c.rest).symm, ⟨hdigits.1, ?_⟩, rfl⟩
      exact List.all_eq_true.mp hdigits.2
    · cases h
  · rintro ⟨digits, rest, hrest, ⟨hlength, hdigits⟩, rfl⟩
    have htake : c.rest.take 4 = digits := by
      rw [hrest, ← hlength, List.take_left]
    simp only [htake]
    rw [if_pos ⟨hlength, List.all_eq_true.mpr hdigits⟩]

/-- The rest behind four digits. -/
lemma rest_drop_four {digits : List Char} (hdigits : HexDigits digits)
    (h : c.rest = digits ++ rest) : (c.drop 4).rest = rest := by
  rw [← hdigits.1]
  exact Cursor.rest_drop_length h

lemma readLowSurrogate_iff :
    (∃ next, readLowSurrogate high c = .ok (x, next) ∧ next.rest = rest) ↔
      ∃ low, c.rest = '\\' :: 'u' :: (low ++ rest) ∧ HexDigits low ∧
        isLowSurrogate (Unicode.hexValue low) = true ∧
        joinSurrogates high (Unicode.hexValue low) = x := by
  constructor
  · rintro ⟨next, h, rfl⟩
    unfold readLowSurrogate at h
    split at h
    · cases h
    · next hrest =>
      split at h
      · cases h
      · next text =>
        obtain ⟨n, hn, h⟩ := bind_eq_ok_iff.mp h
        obtain ⟨low, behind, hbehind, hlow, rfl⟩ := hexEscape_eq_ok_iff.mp hn
        have hnext : (c.drop 6).rest = behind := rest_drop_four (c := c.tail.tail) hlow hbehind
        split at h
        · next hlow' =>
          obtain ⟨rfl, rfl⟩ := Prod.mk.inj (pure_eq_ok_iff.mp h)
          refine ⟨low, ?_, hlow, hlow', rfl⟩
          rw [hnext, ← hbehind]
          simp [hrest]
        · cases h
      · cases h
    · cases h
  · rintro ⟨low, hrest, hlow, hlow', rfl⟩
    have hbehind : c.tail.tail.rest = low ++ rest := by simp [hrest]
    have hn := hexEscape_eq_ok_iff.mpr ⟨low, rest, hbehind, hlow, rfl⟩
    refine ⟨c.drop 6, ?_, rest_drop_four (c := c.tail.tail) hlow hbehind⟩
    simp [readLowSurrogate, hrest, hn, hlow']

lemma escape_of_readUnicodeEscape {next : Cursor} (h : readUnicodeEscape c = .ok (x, next)) :
    Escape ('u' :: c.rest) x next.rest := by
  obtain ⟨n, hn, h⟩ := bind_eq_ok_iff.mp h
  obtain ⟨digits, behind, hrest, hdigits, rfl⟩ := hexEscape_eq_ok_iff.mp hn
  have hbehind : (c.drop 4).rest = behind := rest_drop_four hdigits hrest
  split at h
  · cases h
  · next hlow =>
    split at h
    · next hhigh =>
      obtain ⟨low, hlow', hdigits', hsurrogate, rfl⟩ := readLowSurrogate_iff.mp ⟨next, h, rfl⟩
      rw [hrest, ← hbehind, hlow']
      exact .pair hdigits hdigits' hhigh hsurrogate
    · next hhigh =>
      cases h
      rw [hrest, hbehind]
      exact .unicode hdigits (by simpa using hlow) (by simpa using hhigh)

lemma exists_readUnicodeEscape (h : Escape ('u' :: c.rest) x rest) :
    ∃ next, readUnicodeEscape c = .ok (x, next) ∧ next.rest = rest := by
  generalize htext : 'u' :: c.rest = text at h
  cases h with
  | letter h =>
    -- no letter that stands for a character is a `u`
    obtain ⟨rfl, -⟩ := List.cons.inj htext
    cases h
  | @unicode digits rest hdigits hlow hhigh =>
    have hrest := (List.cons.inj htext).2
    have hn := hexEscape_eq_ok_iff.mpr ⟨digits, rest, hrest, hdigits, rfl⟩
    refine ⟨c.drop 4, ?_, rest_drop_four hdigits hrest⟩
    simp [readUnicodeEscape, hn, hlow, hhigh]
  | @pair high low rest hdigits hdigits' hhigh hlow =>
    have hrest := (List.cons.inj htext).2
    have hn := hexEscape_eq_ok_iff.mpr ⟨high, _, hrest, hdigits, rfl⟩
    have hfirst : isLowSurrogate (Unicode.hexValue high) = false := by
      simp only [isLowSurrogate, isHighSurrogate, Bool.and_eq_true, decide_eq_true_eq,
        Bool.and_eq_false_iff, decide_eq_false_iff_not] at hhigh ⊢
      omega
    obtain ⟨next, hnext, hnext'⟩ := readLowSurrogate_iff.mpr
      ⟨low, rest_drop_four hdigits hrest, hdigits', hlow, rfl⟩
    refine ⟨next, ?_, hnext'⟩
    simpa [readUnicodeEscape, hn, hfirst, hhigh] using hnext

lemma readUnicodeEscape_iff :
    (∃ next, readUnicodeEscape c = .ok (x, next) ∧ next.rest = rest) ↔
      Escape ('u' :: c.rest) x rest := by
  constructor
  · rintro ⟨next, h, rfl⟩
    exact escape_of_readUnicodeEscape h
  · exact exists_readUnicodeEscape

lemma readEscape_iff :
    (∃ next, readEscape c = .ok (x, next) ∧ next.rest = rest) ↔ Escape c.rest x rest := by
  unfold readEscape
  split
  · next hrest =>
    simp [hrest, Cursor.failHere, not_escape_nil]
  · next text hrest =>
    rw [readUnicodeEscape_iff, Cursor.rest_tail, hrest, List.tail_cons]
  · next y text hu hrest =>
    rw [hrest, escape_iff_of_ne hu]
    split <;> simp_all [Cursor.failAtNext]

lemma not_escape_of_readEscape {fault : Fault} (h : readEscape c = .error fault) :
    ¬ Escape c.rest x rest := by
  rw [← readEscape_iff, h]
  simp

/-- What is read of an escape is all that the grammar has for it. -/
lemma escape_iff_of_readEscape {meant : Char} {next : Cursor}
    (h : readEscape c = .ok (meant, next)) :
    Escape c.rest x rest ↔ meant = x ∧ next.rest = rest := by
  rw [← readEscape_iff, h]
  simp

end Escapes

/-! ### Characters -/

section Chars

variable {x : Char} {text chars rest : List Char}

lemma not_chars_nil : ¬ Chars [] chars rest := by
  rintro ⟨⟩

lemma chars_quote_iff : Chars ('"' :: text) chars rest ↔ chars = [] ∧ text = rest := by
  constructor
  · rintro (_ | _)
    · exact ⟨rfl, rfl⟩
    · contradiction
  · rintro ⟨rfl, rfl⟩
    exact .close

lemma chars_backslash_iff : Chars ('\\' :: text) chars rest ↔
    ∃ x behind chars', Escape text x behind ∧ Chars behind chars' rest ∧ chars = x :: chars' := by
  constructor
  · rintro (_ | _ | ⟨hx, h⟩)
    · contradiction
    · exact ⟨_, _, _, hx, h, rfl⟩
  · rintro ⟨x, behind, chars', hx, h, rfl⟩
    exact .escaped hx h

lemma chars_plain_iff (hquote : x ≠ '"') (hbackslash : x ≠ '\\') :
    Chars (x :: text) chars rest ↔
      isControl x = false ∧ ∃ chars', Chars text chars' rest ∧ chars = x :: chars' := by
  constructor
  · rintro (_ | ⟨-, -, hcontrol, h⟩ | _)
    · contradiction
    · exact ⟨hcontrol, _, h, rfl⟩
    · contradiction
  · rintro ⟨hcontrol, chars', h, rfl⟩
    exact .plain hquote hbackslash hcontrol h

/-- Characters that need no backslash stand for themselves. -/
lemma chars_of_plain (word : List Char)
    (h : ∀ x ∈ word, x ≠ '"' ∧ x ≠ '\\' ∧ isControl x = false) :
    Chars (word ++ '"' :: rest) word rest := by
  induction word with
  | nil => exact .close
  | cons x word ih =>
    obtain ⟨⟨hquote, hbackslash, hcontrol⟩, hword⟩ := List.forall_mem_cons.mp h
    exact .plain hquote hbackslash hcontrol (ih hword)

/-- Texts are read as the grammar has them: the characters up to the closing quote come behind those
that have been seen. -/
lemma leaves_readChars {limit : Nat} {seen : List Char} {c : Cursor} {inside : c.size < limit}
    {s : String} :
    Leaves (readChars limit seen c inside) s rest ↔
      ∃ chars, Chars c.rest chars rest ∧ String.ofList (seen.reverse ++ chars) = s := by
  fun_induction readChars limit seen c inside with
  | case1 seen c inside hrest => simp [hrest, not_chars_nil, Cursor.failHere]
  | case2 seen c inside text hrest => simp [hrest, chars_quote_iff, and_comm]
  | case3 seen c inside text fault hescape hrest =>
    have htext : c.tail.rest = text := by simp [hrest]
    have hnone : ∀ x behind, ¬ Escape text x behind := by
      rw [← htext]
      exact fun x behind => not_escape_of_readEscape hescape
    simp [hrest, chars_backslash_iff, hnone]
  | case4 seen c inside text meant next hescape hrest hsize hx hnext ih =>
    have htext : c.tail.rest = text := by simp [hrest]
    have hone : ∀ x behind, Escape text x behind ↔ meant = x ∧ next.rest = behind := by
      rw [← htext]
      exact fun x behind => escape_iff_of_readEscape hescape
    simp [hrest, chars_backslash_iff, hone, ih]
  | case5 seen c inside x text hrest hsize hquote hbackslash hcontrol =>
    simp [hrest, chars_plain_iff hquote hbackslash, hcontrol, Cursor.failAtNext]
  | case6 seen c inside x text hrest hsize hquote hbackslash hcontrol ih =>
    simp [hrest, chars_plain_iff hquote hbackslash, hcontrol, ih]

end Chars

end Syntax

end Json

end TreeSchema
