import TokenPattern.Yaml.Token

/-!
# The nodes of a YAML text

`trees?` reads all documents of a text as trees of nodes.  A scalar keeps its text and whether it
has quotes, because only the reader of a document knows what it should be.  What is left out is a
plain scalar without characters.

**Anchors.**  An anchor gives a number to the node behind it: how many different names the document
has had so far.  A reference means the number that its name was given last.  References are followed
only when the whole document is known (`TokenPattern.Yaml.View`), and a number then stands for the
last node that it was given to, which may stand behind the reference, or around it.
-/

namespace TokenPattern.Yaml

/-- A part of a document. -/
inductive Node where
  /-- A text, and whether it is without quotes. -/
  | scalar (text : String) (isPlain : Bool)
  /-- What stands for the node with a number. -/
  | reference (number : Nat)
  | sequence (items : List Node)
  | mapping (pairs : List (Node × Node))
deriving Inhabited

/-- What is left out. -/
def absent : Node := .scalar "" true

/-! ## Anchors -/

/-- The names of a document so far, with their numbers, and all nodes that were given a number, in
order.  A node that is still being read is left out. -/
structure Anchors where
  names : List (String × Nat)
  given : Array (Nat × Node)

namespace Anchors

/-- No names. -/
def none : Anchors := ⟨[], #[]⟩

/-- Gives a number to a name. -/
def setName (name : String) (number : Nat) : List (String × Nat) → List (String × Nat)
  | [] => [(name, number)]
  | (n, k) :: rest =>
    if n = name then (n, number) :: rest else (n, k) :: setName name number rest

/-- Gives a number to the node behind an anchor, which is still to be read. -/
def enter (a : Anchors) (name : String) : Anchors :=
  let number := a.names.length
  ⟨setName name number a.names, a.given.push (number, absent)⟩

/-- Adds the node behind the anchor with a place in the order. -/
def close (a : Anchors) (place : Nat) (n : Node) : Anchors :=
  { a with given := a.given.modify place fun e => (e.1, n) }

/-- The nodes by their numbers: for every number the last node that it was given to. -/
def nodes (a : Anchors) : Array Node :=
  a.given.foldl (fun nodes e =>
    if e.1 < nodes.size then nodes.setIfInBounds e.1 e.2 else nodes.push e.2) #[]

end Anchors

/-- What is left of the tokens, and the anchors so far. -/
structure Rest where
  anchors : Anchors
  tokens : List Token

/-! ## Nodes -/

/-- Whether a node is left out before these tokens, in a block collection. -/
def endsBlockNode : List Token → Bool
  | .entry :: _ | .key :: _ | .value :: _ | .blockEnd :: _ => true
  | _ => false

/-- Whether the value of a pair is left out before these tokens, in a block mapping. -/
def endsBlockPair : List Token → Bool
  | .key :: _ | .value :: _ | .blockEnd :: _ => true
  | _ => false

/-- Whether an item is left out before these tokens, in a block sequence. -/
def endsBlockItem : List Token → Bool
  | .entry :: _ | .blockEnd :: _ => true
  | _ => false

/-- Whether a node is left out before these tokens, in a flow collection. -/
def endsFlowNode : List Token → Bool
  | .value :: _ | .comma :: _ | .closeSequence :: _ | .closeMapping :: _ => true
  | _ => false

/-- Whether the key of a pair that is an item of a flow sequence is left out before these tokens. -/
def endsItemKey : List Token → Bool
  | .value :: _ | .comma :: _ | .closeSequence :: _ => true
  | _ => false

/-- Whether a node has some content before these tokens. -/
def startsContent (block indentless : Bool) : List Token → Bool
  | .scalar _ _ :: _ | .openSequence :: _ | .openMapping :: _ => true
  | .blockSequence :: _ | .blockMapping :: _ => block
  | .entry :: _ => indentless
  | _ => false

/-- Skips the comma before every entry of a flow collection but the first. -/
def skipComma? (first : Bool) : List Token → Option (List Token)
  | .comma :: rest => if first then none else some rest
  | tokens => if first then some tokens else none

mutual

/-- Reads a node.  `block` tells whether a block collection may stand here, and `indentless` whether
the items of a sequence may stand here without further indentation. -/
def node? (block indentless : Bool) : Nat → Rest → Option (Node × Rest)
  | 0, _ => none
  | fuel + 1, r =>
    match r.tokens with
    | .reference name :: tokens =>
      (r.anchors.names.lookup name).map fun number =>
        (.reference number, { r with tokens := tokens })
    | .anchor name :: tokens => do
      let place := r.anchors.given.size
      let opened : Rest := ⟨r.anchors.enter name, tokens⟩
      let (n, r) ← if startsContent block indentless tokens then
          content? block indentless fuel opened
        else some (absent, opened)
      pure (n, { r with anchors := r.anchors.close place n })
    | _ => content? block indentless fuel r

/-- Reads a node behind its anchor. -/
def content? (block indentless : Bool) : Nat → Rest → Option (Node × Rest)
  | 0, _ => none
  | fuel + 1, r =>
    match r.tokens with
    | .scalar text isPlain :: tokens =>
      some (.scalar text isPlain, { r with tokens := tokens })
    | .openSequence :: tokens => do
      let (items, r) ← flowItems? true fuel { r with tokens := tokens }
      pure (.sequence items, r)
    | .openMapping :: tokens => do
      let (pairs, r) ← flowPairs? true fuel { r with tokens := tokens }
      pure (.mapping pairs, r)
    | .blockSequence :: tokens =>
      if block then do
        let (items, r) ← blockItems? fuel { r with tokens := tokens }
        pure (.sequence items, r)
      else none
    | .blockMapping :: tokens =>
      if block then do
        let (pairs, r) ← blockPairs? fuel { r with tokens := tokens }
        pure (.mapping pairs, r)
      else none
    | .entry :: _ =>
      if indentless then do
        let (items, r) ← indentlessItems? fuel r
        pure (.sequence items, r)
      else none
    | _ => none

/-- Reads the items of a block sequence up to its end. -/
def blockItems? : Nat → Rest → Option (List Node × Rest)
  | 0, _ => none
  | fuel + 1, r =>
    match r.tokens with
    | .entry :: tokens => do
      let r := { r with tokens := tokens }
      let (n, r) ← if endsBlockItem tokens then some (absent, r) else node? true false fuel r
      let (others, r) ← blockItems? fuel r
      pure (n :: others, r)
    | .blockEnd :: tokens => some ([], { r with tokens := tokens })
    | _ => none

/-- Reads the items of a sequence that stands without further indentation in a mapping. -/
def indentlessItems? : Nat → Rest → Option (List Node × Rest)
  | 0, _ => none
  | fuel + 1, r =>
    match r.tokens with
    | .entry :: tokens => do
      let r := { r with tokens := tokens }
      let (n, r) ← if endsBlockNode tokens then some (absent, r) else node? true false fuel r
      let (others, r) ← indentlessItems? fuel r
      pure (n :: others, r)
    | _ => some ([], r)

/-- Reads the pairs of a block mapping up to its end. -/
def blockPairs? : Nat → Rest → Option (List (Node × Node) × Rest)
  | 0, _ => none
  | fuel + 1, r =>
    match r.tokens with
    | .blockEnd :: tokens => some ([], { r with tokens := tokens })
    | .key :: tokens => do
      let r := { r with tokens := tokens }
      let (k, r) ← if endsBlockPair tokens then some (absent, r) else node? true true fuel r
      let (v, r) ← blockValue? fuel r
      let (others, r) ← blockPairs? fuel r
      pure ((k, v) :: others, r)
    | _ => none

/-- Reads the value of a pair in a block mapping. -/
def blockValue? : Nat → Rest → Option (Node × Rest)
  | 0, _ => none
  | fuel + 1, r =>
    match r.tokens with
    | .value :: tokens =>
      let r := { r with tokens := tokens }
      if endsBlockPair tokens then some (absent, r) else node? true true fuel r
    | _ => some (absent, r)

/-- Reads the items of a flow sequence up to its end; an item may be a single pair.  Where the key
of such a pair is left out, the token that ends it is lost.  -/
def flowItems? (first : Bool) : Nat → Rest → Option (List Node × Rest)
  | 0, _ => none
  | fuel + 1, r =>
    match r.tokens with
    | .closeSequence :: tokens => some ([], { r with tokens := tokens })
    | _ => do
      let tokens ← skipComma? first r.tokens
      match tokens with
      | .closeSequence :: tokens => pure ([], { r with tokens := tokens })
      | .key :: tokens => do
        let r := { r with tokens := tokens }
        let (k, r) ← if endsItemKey tokens then some (absent, { r with tokens := tokens.tail })
          else node? false false fuel r
        let (v, r) ← flowValue? fuel r
        let (others, r) ← flowItems? false fuel r
        pure (.mapping [(k, v)] :: others, r)
      | tokens => do
        let (n, r) ← node? false false fuel { r with tokens := tokens }
        let (others, r) ← flowItems? false fuel r
        pure (n :: others, r)

/-- Reads the pairs of a flow mapping up to its end; the value of a pair may be left out. -/
def flowPairs? (first : Bool) : Nat → Rest → Option (List (Node × Node) × Rest)
  | 0, _ => none
  | fuel + 1, r =>
    match r.tokens with
    | .closeMapping :: tokens => some ([], { r with tokens := tokens })
    | _ => do
      let tokens ← skipComma? first r.tokens
      match tokens with
      | .closeMapping :: tokens => pure ([], { r with tokens := tokens })
      | .key :: tokens => do
        let r := { r with tokens := tokens }
        let (k, r) ← if endsFlowNode tokens then some (absent, r) else node? false false fuel r
        let (v, r) ← flowValue? fuel r
        let (others, r) ← flowPairs? false fuel r
        pure ((k, v) :: others, r)
      | tokens => do
        let (k, r) ← node? false false fuel { r with tokens := tokens }
        let (others, r) ← flowPairs? false fuel r
        pure ((k, absent) :: others, r)

/-- Reads the value of a pair in a flow collection. -/
def flowValue? : Nat → Rest → Option (Node × Rest)
  | 0, _ => none
  | fuel + 1, r =>
    match r.tokens with
    | .value :: tokens =>
      let r := { r with tokens := tokens }
      if endsFlowNode tokens then some (absent, r) else node? false false fuel r
    | _ => some (absent, r)

end

/-! ## Documents -/

/-- A document: its outermost node, and the nodes that references stand for, by their numbers. -/
structure Tree where
  root : Node
  targets : Array Node

/-- Whether a document without content ends before these tokens. -/
def endsDocument : List Token → Bool
  | [] | .documentStart :: _ | .documentEnd :: _ => true
  | _ => false

/-- Reads the content of one document. -/
def document? (tokens : List Token) : Option (Tree × List Token) :=
  if endsDocument tokens then some (⟨absent, #[]⟩, tokens)
  else
    (node? true false (2 * tokens.length + 2) ⟨.none, tokens⟩).map fun (n, r) =>
      (⟨n, r.anchors.nodes⟩, r.tokens)

/-- Reads the documents behind another one. -/
def nextDocuments? : Nat → List Token → Option (List Tree)
  | 0, _ => none
  | fuel + 1, tokens =>
    match tokens with
    | [] => some []
    | .documentEnd :: rest => nextDocuments? fuel rest
    | .documentStart :: rest => do
      let (tree, rest) ← document? rest
      let others ← nextDocuments? fuel rest
      pure (tree :: others)
    | _ => none

/-- Reads all documents; only the first may stand without a mark. -/
def documents? (tokens : List Token) : Option (List Tree) :=
  let fuel := tokens.length + 1
  match tokens with
  | [] | .documentStart :: _ => nextDocuments? fuel tokens
  | .documentEnd :: _ => none
  | _ => do
    let (tree, rest) ← document? tokens
    let others ← nextDocuments? fuel rest
    pure (tree :: others)

/-- Reads the documents of a text. -/
def trees? (text : String) : Option (List Tree) := do documents? (← tokens? text)

/-- An anchor makes its name known. -/
theorem Anchors.lookup_enter (a : Anchors) (name : String) :
    (a.enter name).names.lookup name = some a.names.length := by
  simp only [enter]
  generalize a.names.length = number
  induction a.names with
  | nil => simp [setName]
  | cons e rest ih =>
    obtain ⟨n, k⟩ := e
    simp only [setName]
    split
    · rename_i h
      simp [h]
    · rename_i h
      have : (name == n) = false := by simp [Ne.symm h]
      simp [List.lookup_cons, this, ih]

end TokenPattern.Yaml
