import Std.Data.HashMap
import TokenPattern.Regex.Outline
import TokenPattern.Regex.Utf8

/-!
# What an automaton takes

The library for which the engine stands in (`Regex.Engine`) makes an automaton over bytes out of an
expression, and refuses one that takes too much memory.  The functions here count the states and
edges of this automaton without building it: `Outline.count` goes through an outline and adds up what
every part needs.

**Measure.**  A state takes 32 bytes, an edge out of a branching state 4 and an edge for an interval
of bytes 8.  A count that exceeds `memoryLimit` stops.

**Directions.**  The automaton that reads forward also marks what is captured.  The one that reads
backward does not; it takes the parts of a sequence, and the bytes of a character, in reverse.

**Sets.**  The states for a set of characters are shared where they accept the same bytes.  Known
states are kept in a table of fixed size, in which a new state takes the place of another one with
the same slot; so the numbers of the states have an influence on what is shared.
-/

namespace TokenPattern

/-- The number of bytes that an automaton may take. -/
def memoryLimit : Nat := 10485760

/-- What an automaton has so far: states, the bytes of their edges, and the states for the present
set of characters, by their slot. -/
structure Usage where
  states : Nat
  edges : Nat
  known : Std.HashMap Nat (List Nat × Nat)

namespace Usage

/-- Nothing yet. -/
def initial : Usage := ⟨0, 0, ∅⟩

/-- The number of bytes. -/
def bytes (u : Usage) : Nat := 32 * u.states + u.edges

end Usage

/-- Counting, which fails beyond the limit. -/
abbrev Count (α : Type) := StateT Usage Option α

namespace Count

/-! ## States and edges -/

/-- Adds the bytes of edges. -/
def addEdges (n : Nat) : Count Unit := fun u =>
  let u := { u with edges := u.edges + n }
  if u.bytes ≤ memoryLimit then some ((), u) else none

/-- Adds a state with the bytes of its edges, and returns its number. -/
def addState (n : Nat) : Count Nat := fun u =>
  let id := u.states
  let u := { u with states := u.states + 1, edges := u.edges + n }
  if u.bytes ≤ memoryLimit then some (id, u) else none

/-- Adds some states without edges of their own. -/
def addStates : Nat → Count Unit
  | 0 => pure ()
  | n + 1 => do
    let _ ← addState 0
    addStates n

/-- Adds the edge out of the end of a part, which takes room if the end branches. -/
def leave (branches : Bool) : Count Unit := if branches then addEdges 4 else pure ()

/-! ## Known states -/

/-- Forgets the states for a set. -/
def forget : Count Unit := fun u => some ((), { u with known := ∅ })

/-- The slot of a key in a table with some capacity. -/
def slot (capacity : Nat) (key : List Nat) : Nat :=
  let hash := key.foldl (fun (h : UInt64) n => (h ^^^ n.toUInt64) * 1099511628211)
    14695981039346656037
  hash.toNat % capacity

/-- The number of the state with a key, which is added if it is not known. -/
def stateFor (capacity : Nat) (key : List Nat) (edges : Nat) : Count Nat := do
  let place := slot capacity key
  let fresh : Count Nat := do
    let id ← addState edges
    modify fun u => { u with known := u.known.insert place (key, id) }
    pure id
  match (← get).known[place]? with
  | some (other, id) => if other == key then pure id else fresh
  | none => fresh

/-! ## Sets of characters -/

/-- Divides a list into runs whose members have the same first element, and takes it off. -/
def runs : List (List Utf8.ByteRange) → List (Utf8.ByteRange × List (List Utf8.ByteRange))
  | [] => []
  | [] :: rest => runs rest
  | (range :: tail) :: rest =>
    match runs rest with
    | (range', tails) :: others =>
      if range = range' then (range, tail :: tails) :: others
      else (range, [tail]) :: (range', tails) :: others
    | [] => [(range, [tail])]

/-- The state from which some sequences of at most `depth` bytes lead to `target`. -/
def forwardState (target : Nat) : Nat → List (List Utf8.ByteRange) → Count Nat
  | 0, _ => pure target
  | depth + 1, sequences => do
    let edges ← (runs sequences).mapM fun run => do
      let next ← if run.2.all List.isEmpty then pure target else forwardState target depth run.2
      pure [run.1.1, run.1.2, next]
    stateFor 10000 edges.flatten (8 * edges.length)

/-- A set that is read forward. -/
def forwardSet (sequences : List (List Utf8.ByteRange)) : Count Unit := do
  let target ← addState 0
  let _ ← forwardState target 4 sequences
  pure ()

/-- The states for one sequence that is read backward, so that its first byte leads to the end. -/
def backwardSequence (next : Nat) : List Utf8.ByteRange → Count Unit
  | [] => addEdges 4
  | range :: rest => do
    let id ← stateFor 1000 [next, range.1, range.2] 0
    backwardSequence id rest

/-- A set that is read backward. -/
def backwardSet (sequences : List (List Utf8.ByteRange)) : Count Unit := do
  let _ ← addState 0
  let next ← addState 0
  sequences.forM (backwardSequence next)

/-- A set of characters. -/
def set (isForward : Bool) (intervals : List (Nat × Nat)) : Count Unit :=
  if intervals.all fun interval => interval.2 < 0x80 then do
    let _ ← addState 0
    let _ ← addState (8 * intervals.length)
    pure ()
  else do
    let sequences := intervals.flatMap fun interval => Utf8.sequences interval.1 interval.2
    forget
    if isForward then forwardSet sequences else backwardSet sequences

/-! ## Choices between literals -/

/-- What follows a byte, for every byte that some texts begin with. -/
def groupByByte : List (List Nat) → List (Nat × List (List Nat)) → List (Nat × List (List Nat))
  | [], groups => groups
  | [] :: rest, groups => groupByByte rest groups
  | (byte :: tail) :: rest, groups =>
    groupByByte rest
      (if groups.any fun g => g.1 = byte then
        groups.map fun g => if g.1 = byte then (byte, g.2 ++ [tail]) else g
      else groups ++ [(byte, [tail])])

/-- Divides texts at those that have ended.  Several that end before any other text count once. -/
def chunks (current : List (List Nat)) (hasEnded hasByte : Bool) :
    List (List Nat) → List (List (List Nat))
  | [] => [current.reverse]
  | [] :: rest =>
    if hasEnded && !hasByte then chunks current hasEnded hasByte rest
    else current.reverse :: chunks [] true hasByte rest
  | text :: rest => chunks (text :: current) hasEnded true rest

/-- The states of the tree of some texts of at most `depth` bytes: one for the bytes of every chunk,
and one that branches to the chunks and, between them, to the end. -/
def tree : Nat → List (List Nat) → Count Unit
  | 0, _ => pure ()
  | depth + 1, texts => do
    let parts := (chunks [] false false texts).map fun chunk => groupByByte chunk []
    parts.forM fun groups => do
      groups.forM fun group =>
        if group.2.all List.isEmpty then pure () else tree depth group.2
      match groups.length with
      | 0 => pure ()
      | 1 => addStates 1
      | n => let _ ← addState (8 * n)
    let used := (parts.filter fun groups => !groups.isEmpty).length
    let _ ← addState (4 * (used + (parts.length - 1)))

/-- A choice between literals. -/
def literals (isForward : Bool) (texts : List (List Char)) : Count Unit := do
  let _ ← addState 0
  let texts := texts.map fun chars =>
    let bytes := chars.flatMap fun c => Utf8.encode c.toNat
    if isForward then bytes else bytes.reverse
  tree ((texts.map List.length).foldl max 0 + 1) texts

/-! ## Combinations -/

/-- One part after the other; the result tells whether the end branches. -/
def sequence : List (Count Bool) → Count Bool
  | [] => do
    let _ ← addState 0
    pure false
  | [part] => part
  | part :: rest => do
    leave (← part)
    sequence rest

/-- A part, some times and then once. -/
def times (part : Count Bool) : Nat → Count Bool
  | 0 => part
  | n + 1 => do
    leave (← part)
    times part n

/-- A part, exactly some times. -/
def exactly (part : Count Bool) : Nat → Count Bool
  | 0 => sequence []
  | n + 1 => times part n

/-- A part that may be left out, some times; every one branches to the part and to the end. -/
def optional (part : Count Bool) (branches : Bool) : Nat → Count Bool
  | 0 => do
    leave branches
    pure false
  | n + 1 => do
    leave branches
    let _ ← addState 8
    optional part (← part) n

/-- A part, any number of times. -/
def star (part : Count Bool) (needsInput : Bool) : Count Bool := do
  if needsInput then
    let _ ← addState 4
    leave (← part)
    pure true
  else
    leave (← part)
    let _ ← addState 8
    let _ ← addState 8
    let _ ← addState 0
    pure false

/-- A part, at least some times and at most some times. -/
def repetition (part : Count Bool) (needsInput : Bool) (min : Nat) : Option Nat → Count Bool
  | none =>
    match min with
    | 0 => star part needsInput
    | min + 1 => do
      leave (← times part min)
      let _ ← addState 4
      pure true
  | some max =>
    if min = max then exactly part min
    else if min = 0 && max = 1 then do
      let _ ← addState 8
      leave (← part)
      let _ ← addState 0
      pure false
    else do
      let branches ← exactly part min
      let _ ← addState 0
      optional part branches (max - min)

/-- The branches of a choice: each has an edge to it and one from its end. -/
def branches : List (Count Bool) → Count Unit
  | [] => pure ()
  | part :: rest => do
    addEdges 4
    leave (← part)
    branches rest

/-- A choice.  The states for branching and for the end come behind the second branch. -/
def choice : List (Count Bool) → Count Bool
  | first :: second :: rest => do
    branches [first, second]
    let _ ← addState 0
    let _ ← addState 0
    branches rest
    pure false
  | parts => sequence parts

end Count

namespace Outline

/-! ## Outlines -/

/-- The characters of a literal. -/
def literal? : Outline → Option (List Char)
  | literal chars => some chars
  | _ => none

mutual

/-- Counts what an outline needs, and tells whether its end branches. -/
def count (isForward : Bool) : Outline → Count Bool
  | empty | assert _ _ => do
    Count.addStates 1
    pure false
  | literal chars => do
    Count.addStates (chars.flatMap fun c => Utf8.encode c.toNat).length
    pure false
  | set intervals => do
    Count.set isForward intervals
    pure false
  | capture inner =>
    if isForward then do
      Count.addStates 1
      Count.leave (← inner.count isForward)
      Count.addStates 1
      pure false
    else inner.count isForward
  | repetition inner min max _ =>
    Count.repetition (inner.count isForward) inner.needsInput min max
  | concat items =>
    let parts := counts isForward items
    Count.sequence (if isForward then parts else parts.reverse)
  | choice branches =>
    match branches.mapM literal? with
    | some texts => do
      Count.literals isForward texts
      pure false
    | none => Count.choice (counts isForward branches)

/-- The counts of some outlines. -/
def counts (isForward : Bool) : List Outline → List (Count Bool)
  | [] => []
  | o :: rest => o.count isForward :: counts isForward rest

end

end Outline

end TokenPattern
