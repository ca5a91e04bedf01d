import TokenPattern.Text.Diagnostic

/-!
# Capture markers

An edge of a compiled pattern carries the boundaries of the named groups that are crossed on it, in
the order in which they are crossed.  A list of markers is written by its sides: `starts` and
`stops` are the names opened and closed on it.
-/

namespace TokenPattern

/-- A group boundary: the place where a group with a name opens or closes. -/
inductive Marker where
  | start (name : String)
  | stop (name : String)
deriving DecidableEq, Hashable

namespace Marker

/-- The name of the group. -/
def name : Marker → String
  | start n | stop n => n

/-- The name of the group, if this is where it opens. -/
def start? : Marker → Option String
  | start n => some n
  | stop _ => none

/-- The name of the group, if this is where it closes. -/
def stop? : Marker → Option String
  | start _ => none
  | stop n => some n

instance : Diagnostic Marker :=
  ⟨fun m => match m with
    | start n => Diagnostic.applied "Start" [diagnostic n]
    | stop n => Diagnostic.applied "Stop" [diagnostic n]⟩

/-- The names opened, in order. -/
def starts (markers : List Marker) : List String := markers.filterMap start?

/-- The names closed, in order. -/
def stops (markers : List Marker) : List String := markers.filterMap stop?

end Marker

end TokenPattern
