/-
Definitions from JSON text.

The text is read straight into a definition.  That is stricter and laxer than going by way
of a value: a keyword must not come twice, not even with a null, and the values of other
fields are only passed over.  What a list or object is expected to be is known before it is
read, so a wrong one is refused in front of its bracket, while a wrong leaf is refused
behind it.

A `type` can be of several forms.  It is read as a value first, so that it is known to be
wrong only when the reader is behind it already; the place of the error is where the list or
object around it could go on.
-/
import TreeSchema.Definition.OfJson
import TreeSchema.Json.Skip

namespace TreeSchema

namespace Json

variable {α : Type}

/-- Where reading goes on inside a bracket that is given up: behind its closing one or a
comma that must not come, if they are next. -/
def Bracket.giveUp : Bracket → Cursor → Cursor
  | .object, c =>
    let here := c.skipBlanks
    if here.peek? = some '\x7d' then here.tail else here
  | .list, c =>
    let here := c.skipBlanks
    if here.peek? = some ']' then here.tail
    else if here.peek? = some ',' then here.tail.skipBlanks
    else here

/-- Reads a leaf and takes it as a value of the type expected. -/
def readLeaf (expected : Expected) (take : Json → Except Misshape α) (c : Cursor) :
    Except Fault (Reading c.size α) :=
  if c.peek? = some '[' then c.refuse (.wrongType .list expected)
  else if c.peek? = some '\x7b' then c.refuse (.wrongType .object expected)
  else
    match readScalar c with
    | .error fault => .error fault
    | .ok r =>
      match take r.value with
      | .error why => r.next.refuse why
      | .ok value => .ok ⟨value, r.next, r.shorter⟩

/-- Refuses what comes next, which is no list or object as expected. -/
def refuseNext (expected : Expected) (c : Cursor) : Except Fault (Reading c.size α) :=
  readLeaf expected (fun v => .error (v.misfit expected)) c

/-- Reads a list where one is expected, if there is a level left for it. -/
def readListFor (levels : Nat) (element : (c : Cursor) → Except Fault (Reading c.size α))
    (c : Cursor) : Except Fault (Reading c.size (List α)) :=
  if h : c.peek? = some '[' then
    if levels = 0 then c.failAtNext .nestedTooDeep
    else readList element c (Cursor.size_pos_of_peek? h)
  else refuseNext .list c

/-- Reads an object of values where one is expected, if there is a level left for it. -/
def readEntriesFor (levels : Nat) (value : (c : Cursor) → Except Fault (Reading c.size α))
    (c : Cursor) : Except Fault (Reading c.size (Entries α)) :=
  if h : c.peek? = some '\x7b' then
    if levels = 0 then c.failAtNext .nestedTooDeep
    else readObject (entry value) [] c (Cursor.size_pos_of_peek? h)
  else refuseNext .object c

/-- Reads what may also be a null. -/
def readUnlessNull (value : (c : Cursor) → Except Fault (Reading c.size α)) (c : Cursor) :
    Except Fault (Reading c.size (Option α)) :=
  let here := c.skipBlanks
  let result : Except Fault (Reading here.size (Option α)) :=
    if here.peek? = some 'n' then (readScalar here).map (Reading.map fun _ => none)
    else (value here).map (Reading.map some)
  result.map (·.widen (Cursor.size_skipBlanks_le c))

/-- Reads behind blanks. -/
def afterBlanks (value : (c : Cursor) → Except Fault (Reading c.size α)) (c : Cursor) :
    Except Fault (Reading c.size α) :=
  (value c.skipBlanks).map (·.widen (Cursor.size_skipBlanks_le c))

end Json

namespace Definition

open Json (Bracket Cursor Fault Reading)

/-- A reader for each keyword, of its values. -/
abbrev KeywordReader : Type :=
  (keyword : Keyword) → (c : Cursor) → Except Fault (Reading c.size keyword.Value)

/-! ### The two ways to write a definition -/

/-- A definition of which some keywords have been read, be it with a value or a null. -/
structure Draft where
  definition : Definition := {}
  seen : List Keyword := []

/-- The draft after one more keyword. -/
def Draft.add (draft : Draft) (keyword : Keyword) : Option keyword.Value → Draft
  | none => { draft with seen := keyword :: draft.seen }
  | some v => ⟨draft.definition.set keyword v, keyword :: draft.seen⟩

/-- Reads what follows the key of a member into a draft. -/
def readDraftMember (read : KeywordReader) (draft : Draft) (name : String) (c : Cursor) :
    Except Fault (Reading c.size Draft) :=
  match Keyword.ofName? name with
  | none => (Json.readMember name Json.skipValue c).map (Reading.map fun _ => draft)
  | some keyword =>
    if draft.seen.contains keyword then
      (Bracket.object.giveUp c).refuse (.repeatedKeyword name)
    else
      (Json.readMember name (Json.readUnlessNull (read keyword)) c).map
        (Reading.map (draft.add keyword))

/-- The end of a list in which all keywords have their place taken: nothing more may come. -/
def readListEnd (c : Cursor) : Except Fault Cursor :=
  let here := c.skipBlanks
  match here.peek? with
  | none => here.failHere .endInList
  | some x =>
    if x = ']' then .ok here.tail
    else if x = ',' then
      let next := here.tail.skipBlanks
      if next.peek? = some ']' then next.failAtNext .trailingComma
      else next.failAtNext .trailingCharacters
    else here.failAtNext .trailingCharacters

theorem size_readListEnd_le {c next : Cursor} (h : readListEnd c = .ok next) :
    next.size ≤ c.size := by
  unfold readListEnd at h
  have hblanks := Json.Cursor.size_skipBlanks_le c
  dsimp only at h
  repeat' split at h
  all_goals cases h
  rw [Json.Cursor.size_tail]
  omega

/-- Reads a list of values for the given keywords into a definition. -/
def readPositions (read : KeywordReader) (limit : Nat) (d : Definition) (index : Nat) :
    List Keyword → (c : Cursor) → c.size < limit → Except Fault (Reading limit Definition)
  | [], c, inside =>
    match h : readListEnd c with
    | .error fault => .error fault
    | .ok next => .ok ⟨d, next, Nat.lt_of_le_of_lt (size_readListEnd_le h) inside⟩
  | keyword :: keywords, c, inside =>
    match hnext : Json.nextElement? (index == 0) c with
    | .error fault => .error fault
    | .ok none => .ok ⟨d, c.skipBlanks.tail, by
        have := Json.Cursor.size_skipBlanks_le c
        rw [Json.Cursor.size_tail]
        omega⟩
    | .ok (some here) =>
      match Json.within (.index index) (Json.readUnlessNull (read keyword) here) with
      | .error fault => .error fault
      | .ok r =>
        have hle := Json.size_nextElement?_le hnext
        have hshorter := r.shorter
        let filled := match r.value with
          | none => d
          | some v => d.set keyword v
        readPositions read limit filled (index + 1) keywords r.next (by omega)

/-- Reads a definition, if there is a level left for it.  The readers for keywords are told
which bracket is around them. -/
def readWith (levels : Nat) (read : Bracket → KeywordReader) (c : Cursor) :
    Except Fault (Reading c.size Definition) :=
  if h : c.peek? = some '\x7b' then
    if levels = 0 then c.failAtNext .nestedTooDeep
    else
      (Json.readObject (readDraftMember (read .object)) {} c (Json.Cursor.size_pos_of_peek? h)).map
        (Reading.map Draft.definition)
  else if h : c.peek? = some '[' then
    if levels = 0 then c.failAtNext .nestedTooDeep
    else
      have hpos := Json.Cursor.size_pos_of_peek? h
      readPositions (read .list) c.size {} 0 Keyword.all c.tail (Json.Cursor.size_tail_lt hpos)
  else Json.refuseNext .definition c

/-! ### Keywords -/

/-- Reads the names of kinds inside a bracket. -/
def readKindNames (levels : Nat) (around : Bracket) (c : Cursor) :
    Except Fault (Reading c.size KindNames) :=
  match Json.readValue levels c with
  | .error fault => .error fault
  | .ok r =>
    match KindNames.ofJson r.value with
    | .error why => (around.giveUp r.next).refuse why
    | .ok names => .ok ⟨names, r.next, r.shorter⟩

def readString : (c : Cursor) → Except Fault (Reading c.size String) :=
  Json.afterBlanks (Json.readLeaf .string Json.asString)

/-- Reads the value of a keyword inside a bracket; `inner` reads the keywords of the
definitions in it. -/
def readKeywordWith (levels : Nat) (inner : Bracket → KeywordReader) (around : Bracket) :
    KeywordReader
  | .id => readString
  | .reference => readString
  | .type => readKindNames levels around
  | .pattern => readString
  | .enum => Json.afterBlanks (Json.readListFor levels (Json.readValue (levels - 1)))
  | .minimum => Json.afterBlanks (Json.readLeaf .double Json.asDouble)
  | .maximum => Json.afterBlanks (Json.readLeaf .double Json.asDouble)
  | .properties => Json.afterBlanks (Json.readEntriesFor levels (inner .object .items))
  | .required => Json.afterBlanks (Json.readListFor levels readString)
  | .items => Json.afterBlanks (readWith levels inner)
  | .minItems => Json.afterBlanks (Json.readLeaf .size Json.asSize)
  | .maxItems => Json.afterBlanks (Json.readLeaf .size Json.asSize)
  | .allOf => Json.afterBlanks (Json.readListFor levels (inner .list .items))
  | .anyOf => Json.afterBlanks (Json.readListFor levels (inner .list .items))

/-- Reads the value of a keyword inside a bracket, with so many levels of brackets left. -/
def readKeyword : (levels : Nat) → Bracket → KeywordReader
  | 0 => readKeywordWith 0 fun _ _ c => c.failAtNext .nestedTooDeep
  | levels + 1 => readKeywordWith (levels + 1) (readKeyword levels)

/-- The definition that a text begins with, whatever follows it. -/
def ofTextBeginning (text : String) : Except Fault Definition :=
  (readKeyword Json.maxLevels .object .items (Cursor.start text)).map Reading.value

/-- The catalog of definitions that a text begins with, whatever follows it. -/
def catalogOfTextBeginning (text : String) : Except Fault (Entries Definition) :=
  (readKeyword Json.maxLevels .object .properties (Cursor.start text)).map Reading.value

end Definition

end TreeSchema
