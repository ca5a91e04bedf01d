import TokenPattern.Trace

/-!
# The account of a run as a table

One line for every token that was read, below a heading, and then what the run came to.
-/

namespace TokenPattern

/-- A text with blanks in front of it up to a width. -/
def Text.alignRight (width : Nat) (text : String) : String :=
  String.ofList (List.replicate (width - text.length) ' ') ++ text

namespace RunTrace

/-- The widths of the columns. -/
def widths : List Nat := [8, 6, 5, 5]

/-- The line of one token. -/
def row (s : StepTrace) : String :=
  "  ".intercalate
    (List.zipWith (fun width n => Text.alignRight width (diagnostic n)) widths
      [s.position, s.frontierBefore, s.edgesTried, s.frontierAfter])

/-- The lines of the table. -/
def table (t : RunTrace) : List String :=
  ["position  before  tried  after"] ++ t.steps.map row ++
    ["accepted " ++ diagnostic t.accepted ++ " (peak frontier " ++ diagnostic t.peakFrontier ++
      ")"] ++
    (match t.haltedAt with
      | some position => ["halted after " ++ diagnostic position ++ " tokens"]
      | none => []) ++
    (match t.error with
      | some e => ["error: " ++ e.message]
      | none => [])

end RunTrace

end TokenPattern
