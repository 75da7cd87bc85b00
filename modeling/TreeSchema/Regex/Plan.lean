/-
The plan of the machine that is built for an expression.

Before a machine is built, an expression is brought into a simpler form: rows in rows and
branches in branches are spread out, characters in a row become one text, a choice between
single characters becomes a class, and what all branches begin with is moved in front of
the choice.  `Plan.row`, `Plan.choice`, `Plan.repeated` and `Plan.ofSet` build plans in this
form, so a plan is what a machine is built from, and its size says how large the machine is;
see `Plan.fits`.
-/
import TreeSchema.Regex.Basic
import TreeSchema.Regex.Ranges

namespace TreeSchema

namespace Regex

/-- The plan of a machine. -/
inductive Plan where
  /-- Nothing to read. -/
  | empty
  /-- The given characters, of which there are some. -/
  | text (chars : List Char)
  /-- A character in one of the ranges; `ascii` when the class knows ASCII alone. -/
  | oneOf (ascii : Bool) (ranges : Ranges)
  | look (assertion : Assertion)
  /-- A number of times in a row, preferably many or, if `short`, few. -/
  | times (plan : Plan) (least : Nat) (most : Option Nat) (short : Bool)
  /-- A group that is remembered under a number. -/
  | group (number : Nat) (plan : Plan)
  | row (parts : List Plan)
  | choice (branches : List Plan)

namespace Plan

/-! ### Comparing plans -/

mutual

/-- Whether two plans are the same. -/
def same : Plan → Plan → Bool
  | .empty, .empty => true
  | .text a, .text b => a == b
  | .oneOf ascii a, .oneOf ascii' b => ascii == ascii' && a == b
  | .look a, .look b => a == b
  | .times a least most short, .times b least' most' short' =>
    a.same b && least == least' && most == most' && short == short'
  | .group n a, .group m b => n == m && a.same b
  | .row as, .row bs => sameAll as bs
  | .choice as, .choice bs => sameAll as bs
  | _, _ => false

/-- Whether two lists of plans are the same. -/
def sameAll : List Plan → List Plan → Bool
  | [], [] => true
  | a :: as, b :: bs => a.same b && sameAll as bs
  | _, _ => false

end

/-! ### Lengths -/

/-- The least of some lengths; none if one is missing. -/
def leastOf : List (Option Nat) → Option Nat
  | [] => none
  | [length] => length
  | length :: rest => do return min (← length) (← leastOf rest)

/-- The greatest of some lengths; none if one is missing. -/
def greatestOf : List (Option Nat) → Option Nat
  | [] => none
  | [length] => length
  | length :: rest => do return max (← length) (← greatestOf rest)

/-- The sum of some lengths; none if one is missing. -/
def sumOf : List (Option Nat) → Option Nat
  | [] => some 0
  | length :: rest => do return (← length) + (← sumOf rest)

/-- The bytes of a text. -/
def textLength (chars : List Char) : Nat := chars.foldl (fun n c => n + c.utf8Size) 0

/-- The bytes that the form of a code point takes. -/
def pointLength (n : Nat) : Nat :=
  if n ≤ 0x7F then 1 else if n ≤ 0x7FF then 2 else if n ≤ 0xFFFF then 3 else 4

mutual

/-- The least number of bytes that are read; none if nothing can be. -/
def minLength : Plan → Option Nat
  | .empty => some 0
  | .text chars => some (textLength chars)
  | .oneOf _ ranges => ranges.head?.map fun r => pointLength r.1
  | .look _ => some 0
  | .times plan least _ _ => plan.minLength.map (least * ·)
  | .group _ plan => plan.minLength
  | .row parts => sumOf (minLengths parts)
  | .choice branches => leastOf (minLengths branches)

/-- The least numbers of bytes that several plans read. -/
def minLengths : List Plan → List (Option Nat)
  | [] => []
  | plan :: rest => plan.minLength :: minLengths rest

end

mutual

/-- The greatest number of bytes that are read; none if there is no bound or nothing can be. -/
def maxLength : Plan → Option Nat
  | .empty => some 0
  | .text chars => some (textLength chars)
  | .oneOf _ ranges => ranges.getLast?.map fun r => pointLength r.2
  | .look _ => some 0
  | .times plan _ most _ => do return (← most) * (← plan.maxLength)
  | .group _ plan => plan.maxLength
  | .row parts => sumOf (maxLengths parts)
  | .choice branches => greatestOf (maxLengths branches)

/-- The greatest numbers of bytes that several plans read. -/
def maxLengths : List Plan → List (Option Nat)
  | [] => []
  | plan :: rest => plan.maxLength :: maxLengths rest

end

/-- Whether a plan reads nothing, whatever it is tried on. -/
def readsNothing (plan : Plan) : Bool := plan.maxLength == some 0

/-! ### Anchors -/

mutual

/-- Whether a plan asks for the beginning of the text before it reads anything. -/
def anchoredAtStart : Plan → Bool
  | .look a => a == .textStart
  | .times plan least _ _ => 0 < least && plan.anchoredAtStart
  | .group _ plan => plan.anchoredAtStart
  | .row parts => rowAnchoredAtStart parts
  | .choice branches => allAnchoredAtStart branches
  | _ => false

/-- Whether plans in a row ask for the beginning: one does, and those before it read nothing. -/
def rowAnchoredAtStart : List Plan → Bool
  | [] => false
  | plan :: rest => plan.anchoredAtStart || (plan.readsNothing && rowAnchoredAtStart rest)

/-- Whether each of several plans asks for the beginning. -/
def allAnchoredAtStart : List Plan → Bool
  | [] => true
  | plan :: rest => plan.anchoredAtStart && allAnchoredAtStart rest

end

mutual

/-- Whether a plan asks for the end of the text after it has read everything. -/
def anchoredAtEnd : Plan → Bool
  | .look a => a == .textEnd
  | .times plan least _ _ => 0 < least && plan.anchoredAtEnd
  | .group _ plan => plan.anchoredAtEnd
  | .row parts => rowAnchoredAtEnd parts
  | .choice branches => allAnchoredAtEnd branches
  | _ => false

/-- Whether plans in a row ask for the end: one does, and those behind it read nothing. -/
def rowAnchoredAtEnd : List Plan → Bool
  | [] => false
  | plan :: rest => rowAnchoredAtEnd rest || (rest.all readsNothing && plan.anchoredAtEnd)

/-- Whether each of several plans asks for the end. -/
def allAnchoredAtEnd : List Plan → Bool
  | [] => true
  | plan :: rest => plan.anchoredAtEnd && allAnchoredAtEnd rest

end

/-! ### Building plans -/

/-- The plan that reads nothing in any text. -/
def never : Plan := .oneOf true []

/-- The plan of a class.  One character alone is a text. -/
def ofRanges (ascii : Bool) (ranges : Ranges) : Plan :=
  match ranges with
  | [] => never
  | [(low, high)] => if low = high then .text [Char.ofNat low] else .oneOf ascii ranges
  | _ => .oneOf ascii ranges

/-- The plan of a set of characters. -/
def ofSet (ascii : Bool) (set : CharSet) : Plan := ofRanges ascii set.ranges

/-- The parts of a plan in a row. -/
def parts : Plan → List Plan
  | .empty => []
  | .row parts => parts
  | plan => [plan]

/-- Puts a plan in front of others, a text together with a text. -/
def prepend (plan : Plan) (rest : List Plan) : List Plan :=
  match plan, rest with
  | .text a, .text b :: rest => .text (a ++ b) :: rest
  | _, _ => plan :: rest

/-- One plan after the other. -/
def ofRow (plans : List Plan) : Plan :=
  match (plans.flatMap parts).foldr prepend [] with
  | [] => .empty
  | [plan] => plan
  | parts => .row parts

/-- The branches of a plan. -/
def branches : Plan → List Plan
  | .choice branches => branches
  | plan => [plan]

/-- The ranges of a plan that reads just one character. -/
def asRanges? : Plan → Option Ranges
  | .text [c] => some [(c.toNat, c.toNat)]
  | .oneOf _ ranges => some ranges
  | _ => none

/-- One plan or another, of plans that begin differently. -/
def ofBranches (plans : List Plan) : Plan :=
  match plans.flatMap branches with
  | [] => never
  | [plan] => plan
  | branches =>
    match branches.mapM asRanges? with
    | some ranges => ofRanges false (Ranges.joined ranges.flatten)
    | none => .choice branches

/-- How many parts two rows have in common at the front. -/
def commonLength : List Plan → List Plan → Nat
  | a :: as, b :: bs => if a.same b then commonLength as bs + 1 else 0
  | _, _ => 0

/-- The parts of a row of several; there are none in any other plan. -/
def rowParts : Plan → List Plan
  | .row parts => parts
  | _ => []

/-- How many parts all plans have in common at the front. -/
def commonFront : List Plan → Nat
  | [] => 0
  | first :: others =>
    others.foldl (fun n plan => min n (commonLength first.rowParts plan.rowParts))
      first.rowParts.length

/-- One plan or another.  What all begin with comes before the choice. -/
def ofChoice (plans : List Plan) : Plan :=
  match ofBranches plans with
  | .choice branches =>
    match commonFront branches with
    | 0 => .choice branches
    | n =>
      let front := (branches.head?.map rowParts).getD []
      ofRow (front.take n ++ [ofBranches (branches.map fun plan => ofRow (plan.rowParts.drop n))])
  | plan => plan

/-- A plan a number of times.  What reads nothing need not be done twice. -/
def repeated (plan : Plan) (least : Nat) (most : Option Nat) (short : Bool) : Plan :=
  let (least, most) :=
    if plan.readsNothing then (min least 1, some (min (most.getD 1) 1)) else (least, most)
  if most = some 0 then .empty
  else if least = 1 ∧ most = some 1 then plan
  else .times plan least most short

end Plan

end Regex

end TreeSchema
