/-
How large the machine of a plan is.

Two machines are built for a plan, one that reads the bytes of a text forward and one that
reads them backward.  Each is a numbered list of states: those that read a byte, with a list
of steps for several ranges of bytes; those with a list of branches; and those that
pass on.  A state takes 32 bytes, a step in a list 8 and a branch in a list 4.  A `Tally`
counts them while a machine is built state by state, and `Plan.fits` compares the outcome with
the limit.  Tallies only grow, so building stops as soon as one is over the limit.

A class beyond ASCII takes one state for each node of the trie of its `Utf8.sequences`, but
nodes that lead to the same states by the same bytes are shared: a table remembers nodes by
a hash of what they are, one in each slot, and a node that is still there is not built
again.  Which nodes are forgotten depends on the numbers of the states, so a class that is
repeated need not take equally many states each time.
-/
import Std.Data.HashMap
import TreeSchema.Regex.Plan
import TreeSchema.Regex.Utf8

namespace TreeSchema

namespace Regex

/-- Which way a machine reads. -/
inductive Direction where
  | forward
  | backward
  deriving DecidableEq, Repr

/-! ### Counting -/

/-- What has been built of a machine. -/
structure Tally where
  states : Nat := 0
  /-- The bytes of the lists of steps and branches. -/
  listed : Nat := 0

namespace Tally

/-- The most bytes that a machine may take. -/
def limit : Nat := 10 * Nat.pow 2 20

/-- What a machine takes. -/
def bytes (t : Tally) : Nat := 32 * t.states + t.listed

/-- Whether a machine has grown over the limit. -/
def isOver (t : Tally) : Bool := limit < t.bytes

/-- More states without lists. -/
def addStates (n : Nat) (t : Tally) : Tally := { t with states := t.states + n }

/-- More branches in the lists of states. -/
def addBranches (n : Nat) (t : Tally) : Tally := { t with listed := t.listed + 4 * n }

/-- A state with a list of steps. -/
def addSteps (n : Nat) (t : Tally) : Tally := ⟨t.states + 1, t.listed + 8 * n⟩

/-- A state with a list of branches. -/
def addFork (n : Nat) (t : Tally) : Tally := (t.addStates 1).addBranches n

/-- Takes a step a number of times, or until the limit is passed. -/
def iterate (step : Tally → Tally) : Nat → Tally → Tally
  | 0, t => t
  | n + 1, t => if t.isOver then t else iterate step n (step t)

end Tally

/-! ### Remembered nodes -/

/-- A table that remembers under each of its slots the last thing built there, with the number
of its state. -/
abbrev Memory (α : Type) : Type := Std.HashMap Nat (α × Nat)

/-- The hash of some numbers. -/
def hashOf (numbers : List Nat) : Nat :=
  (numbers.foldl (fun h n => (h ^^^ n.toUInt64) * 1099511628211)
    (14695981039346656037 : UInt64)).toNat

/-- The state of something, if it is remembered. -/
def Memory.recall? {α : Type} [DecidableEq α] (memory : Memory α) (slot : Nat) (thing : α) :
    Option Nat :=
  match memory[slot]? with
  | some (known, state) => if known = thing then some state else none
  | none => none

/-! ### Classes beyond ASCII, forward -/

/-- A range of bytes and the state that they lead to. -/
structure Step where
  low : Nat
  high : Nat
  next : Nat
  deriving DecidableEq, Repr

/-- A node of a trie to which steps may still be added.  It is not known yet where the last
range leads. -/
structure Node where
  steps : List Step
  last : Option (Nat × Nat)

/-- The steps of a node, the last of which leads to a state. -/
def Node.sealed (node : Node) (next : Nat) : List Step :=
  match node.last with
  | some (low, high) => node.steps ++ [⟨low, high, next⟩]
  | none => node.steps

/-- A trie under construction: what is counted and which nodes are remembered. -/
structure Trie where
  tally : Tally
  memory : Memory (List Step) := {}

namespace Trie

/-- How many nodes are remembered at most. -/
def slots : Nat := 10000

/-- The state of a node, a new one unless it is remembered. -/
def state (trie : Trie) (steps : List Step) : Nat × Trie :=
  let slot := hashOf (steps.flatMap fun s => [s.low, s.high, s.next]) % slots
  match trie.memory.recall? slot steps with
  | some state => (state, trie)
  | none =>
    let state := trie.tally.states
    (state, ⟨trie.tally.addSteps steps.length, trie.memory.insert slot (steps, state)⟩)

/-- The state of the first of some nodes in a row, of which each last range leads to the next
node, and the last one to `target`. -/
def finish (target : Nat) (trie : Trie) : List Node → Nat × Trie
  | [] => (target, trie)
  | node :: deeper =>
    let (next, trie) := trie.finish target deeper
    trie.state (node.sealed next)

/-- Adds a sequence to the nodes that are open.  As long as it runs along the last ranges nothing
changes; behind that, the open nodes are finished and new ones opened. -/
def add (target : Nat) (trie : Trie) : List Node → Ranges → List Node × Trie
  | node :: deeper, range :: ranges =>
    if node.last = some range then
      let (deeper, trie) := add target trie deeper ranges
      (node :: deeper, trie)
    else
      let (next, trie) := finish target trie deeper
      (⟨node.sealed next, some range⟩ :: ranges.map fun range => ⟨[], some range⟩, trie)
  | nodes, _ => (nodes, trie)

/-- The states for some sequences. -/
def build (sequences : List Ranges) (t : Tally) : Tally :=
  let target := t.states
  let step (pending : List Node × Trie) (sequence : Ranges) : List Node × Trie :=
    if pending.2.tally.isOver then pending else add target pending.2 pending.1 sequence
  let (nodes, trie) := sequences.foldl step ([⟨[], none⟩], ⟨t.addStates 1, {}⟩)
  (finish target trie nodes).2.tally

end Trie

/-! ### Classes beyond ASCII, backward -/

/-- Chains of states, one for each byte of a sequence, under construction. -/
structure Chains where
  tally : Tally
  memory : Memory Step := {}

namespace Chains

/-- How many states are remembered at most. -/
def slots : Nat := 1000

/-- The state that reads a range in front of another state, a new one unless it is
remembered. -/
def state (chains : Chains) (next : Nat) (range : Nat × Nat) : Nat × Chains :=
  let step : Step := ⟨range.1, range.2, next⟩
  let slot := hashOf [next, range.1, range.2] % slots
  match chains.memory.recall? slot step with
  | some state => (state, chains)
  | none =>
    let state := chains.tally.states
    (state, ⟨chains.tally.addStates 1, chains.memory.insert slot (step, state)⟩)

/-- The chain of a sequence, which ends at `target`, and a branch to it. -/
def add (target : Nat) (chains : Chains) (sequence : Ranges) : Chains :=
  let (_, chains) := sequence.foldl (fun (next, chains) range => state chains next range)
    (target, chains)
  { chains with tally := chains.tally.addBranches 1 }

/-- The states for some sequences: one with a branch to each chain, and the one where they
end. -/
def build (sequences : List Ranges) (t : Tally) : Tally :=
  let target := t.states + 1
  let step (chains : Chains) (sequence : Ranges) : Chains :=
    if chains.tally.isOver then chains else add target chains sequence
  (sequences.foldl step ⟨t.addStates 2, {}⟩).tally

end Chains

/-- The states for a class of characters. -/
def classStates (d : Direction) (ranges : Ranges) (t : Tally) : Tally :=
  if ranges.all fun r => r.2 < 128 then (t.addStates 1).addSteps ranges.length
  else
    match d with
    | .forward => Trie.build (Utf8.allSequences ranges) t
    | .backward => Chains.build (Utf8.allSequences ranges) t

/-! ### Choices between texts -/

/-- The runs of texts between those that are empty. -/
def runs : List (List Nat) → List (List (List Nat))
  | [] => [[]]
  | text :: rest =>
    if text.isEmpty then [] :: runs rest
    else
      match runs rest with
      | run :: others => (text :: run) :: others
      | [] => [[text]]

/-- The texts with at most one empty text in front of the first that is not empty. -/
def withoutRepeatedEnd (texts : List (List Nat)) : List (List Nat) :=
  let leading := texts.takeWhile List.isEmpty
  leading.take 1 ++ texts.drop leading.length

/-- What follows each byte that texts begin with, byte by byte. -/
def continuations (texts : List (List Nat)) : List (List (List Nat)) :=
  (texts.filterMap List.head?).eraseDups.map fun byte =>
    (texts.filter fun text => text.head? == some byte).map List.tail

/-- The states for a choice between texts of at most `depth` bytes.  Texts with the same first
byte share a step, unless one that ends here stands between them, because the earlier text is
preferred. -/
def choiceStates : (depth : Nat) → List (List Nat) → Tally → Tally
  | 0, _, t => t
  | depth + 1, texts, t =>
    if t.isOver then t
    else
      let runs := runs (withoutRepeatedEnd texts)
      let t := runs.foldl (fun t run =>
        let next := continuations run
        let t := match next with
          | [] => t
          | [_] => (t.addStates 1).addBranches 1
          | _ => (t.addSteps next.length).addBranches 1
        (next.filter fun texts => !texts.all List.isEmpty).foldl
          (fun t texts => choiceStates depth texts t) t) t
      t.addFork (runs.length - 1)

namespace Plan

/-! ### Plans -/

/-- The characters of a plan that is a text. -/
def asText? : Plan → Option (List Char)
  | .text chars => some chars
  | _ => none

/-- The bytes of a text in the order in which they are read. -/
def bytesOf (d : Direction) (chars : List Char) : List Nat :=
  let bytes := chars.flatMap fun c => Utf8.encode c.toNat
  match d with
  | .forward => bytes
  | .backward => bytes.reverse

mutual

/-- Whether the last state of a plan has branches, so that one more is needed to go on from
it: this is so where a repetition ends that has no upper bound. -/
def endsInLoop (d : Direction) : Plan → Bool
  | .times plan least most _ =>
    match most with
    | none => 0 < least || (plan.minLength.any fun length => 0 < length)
    | some most => least == most && plan.endsInLoop d
  | .group _ plan =>
    match d with
    | .forward => false
    | .backward => plan.endsInLoop d
  | .row parts => rowEndsInLoop d parts
  | _ => false

/-- Whether the part of a row that is read last ends in a loop. -/
def rowEndsInLoop (d : Direction) : List Plan → Bool
  | [] => false
  | plan :: rest =>
    match d with
    | .forward => if rest.isEmpty then plan.endsInLoop d else rowEndsInLoop d rest
    | .backward => plan.endsInLoop d

end

/-- The branch to go on from the last state of a plan, if it needs one. -/
def link (d : Direction) (plan : Plan) (t : Tally) : Tally :=
  if plan.endsInLoop d then t.addBranches 1 else t

mutual

/-- The states for a plan. -/
def build (d : Direction) (plan : Plan) (t : Tally) : Tally :=
  if t.isOver then t
  else
    match plan with
    | .empty => t.addStates 1
    | .text chars => t.addStates (textLength chars)
    | .oneOf _ ranges => classStates d ranges t
    | .look _ => t.addStates 1
    | .times plan least most _ =>
      let copy (t : Tally) : Tally := link d plan (plan.build d t)
      match most with
      | none =>
        if 0 < least then (Tally.iterate copy least t).addFork 1
        else if plan.minLength.any fun length => 0 < length then
          (copy (t.addStates 1)).addBranches 1
        else ((copy t).addStates 3).addBranches 4
      | some most =>
        if least = most then plan.build d (Tally.iterate copy (least - 1) t)
        else if least = 0 ∧ most = 1 then (copy (t.addStates 1)).addFork 2
        else
          let fixed := if least = 0 then t.addStates 1 else Tally.iterate copy least t
          Tally.iterate (fun t => (copy (t.addStates 1)).addBranches 2) (most - least)
            (fixed.addStates 1)
    | .group _ plan =>
      match d with
      | .forward => (link d plan (plan.build d (t.addStates 1))).addStates 1
      | .backward => plan.build d t
    | .row parts => buildRow d parts t
    | .choice branches =>
      match branches.mapM asText? with
      | some texts =>
        let texts := texts.map (bytesOf d)
        choiceStates ((texts.map List.length).foldl max 0) texts (t.addStates 1)
      | none => buildBranches d 0 branches t

/-- The states for plans in a row, which are built in the order in which they read. -/
def buildRow (d : Direction) (parts : List Plan) (t : Tally) : Tally :=
  match parts with
  | [] => t
  | plan :: rest =>
    match d with
    | .forward =>
      if rest.isEmpty then plan.build d t else buildRow d rest (link d plan (plan.build d t))
    | .backward =>
      let t := buildRow d rest t
      plan.build d (match rest with
        | next :: _ => link d next t
        | [] => t)

/-- The states for the branches of a choice, of which `built` are there already.  The state that
chooses and the one where they meet are built behind the second. -/
def buildBranches (d : Direction) (built : Nat) (branches : List Plan) (t : Tally) : Tally :=
  match branches with
  | [] => t
  | plan :: rest =>
    let t := (link d plan (plan.build d t)).addBranches 1
    buildBranches d (built + 1) rest (if built = 1 then t.addStates 2 else t)

end

/-- Whether a match can begin at one place only, read in a direction. -/
def anchored (d : Direction) (plan : Plan) : Bool :=
  match d with
  | .forward => plan.anchoredAtStart
  | .backward => plan.anchoredAtEnd

/-- What the whole machine of a plan takes.  In front there is a loop over any bytes, unless a
match can begin at one place only; forward, two states remember where a match begins and
ends. -/
def tally (d : Direction) (plan : Plan) : Tally :=
  let start : Tally :=
    if plan.anchored d then Tally.addStates 1 {}
    else ((Tally.addStates 2 {}).addSteps 1).addBranches 2
  match d with
  | .forward => (link d plan (plan.build d (start.addStates 1))).addStates 2
  | .backward => (link d plan (plan.build d start)).addStates 1

/-- Whether both machines of a plan keep to the limit. -/
def fits (plan : Plan) : Bool :=
  !(plan.tally .forward).isOver && !(plan.tally .backward).isOver

end Plan

end Regex

end TreeSchema
