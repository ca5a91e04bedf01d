import TokenPattern.Text.Quoted

/-!
# Diagnostic text

`Diagnostic α` gives the text that stands for a value of `α` in diagnostics, in the notation of
constructor terms: `Leaf(x)` for arguments by position, `Capture { name: "n", inner: x }` for
arguments by name, `[x, y]` for sequences and `{k: v}` for maps.
-/

namespace TokenPattern

/-- Values with a diagnostic text. -/
class Diagnostic (α : Type) where
  text : α → String

/-- The diagnostic text of a value. -/
def diagnostic {α : Type} [Diagnostic α] (a : α) : String := Diagnostic.text a

namespace Diagnostic

/-! ## Layout -/

/-- The items in order, a comma and a blank between neighbours. -/
def separated (items : List String) : String := ", ".intercalate items

/-- A sequence between brackets. -/
def sequence (items : List String) : String := "[" ++ separated items ++ "]"

/-- A set or a map between braces. -/
def braced (items : List String) : String := "\x7b" ++ separated items ++ "\x7d"

/-- An entry of a map, or a named argument. -/
def entry (key value : String) : String := key ++ ": " ++ value

/-- A constructor with its arguments by position. -/
def applied (name : String) (arguments : List String) : String :=
  name ++ "(" ++ separated arguments ++ ")"

/-- A constructor with its arguments by name. -/
def record (name : String) (fields : List (String × String)) : String :=
  name ++ " \x7b " ++ separated (fields.map fun f => entry f.1 f.2) ++ " \x7d"

/-! ## Instances -/

instance : Diagnostic String := ⟨Text.quote⟩

instance : Diagnostic Char := ⟨Text.quoteChar⟩

instance : Diagnostic Nat := ⟨Nat.repr⟩

instance : Diagnostic UInt8 := ⟨fun n => n.toNat.repr⟩

instance : Diagnostic Int := ⟨fun n => if n < 0 then "-" ++ n.natAbs.repr else n.natAbs.repr⟩

instance : Diagnostic Bool := ⟨fun b => if b then "true" else "false"⟩

instance {α : Type} [Diagnostic α] : Diagnostic (List α) :=
  ⟨fun items => sequence (items.map diagnostic)⟩

instance {α : Type} [Diagnostic α] : Diagnostic (Option α) :=
  ⟨fun a? => match a? with
    | some a => applied "Some" [diagnostic a]
    | none => "None"⟩

end Diagnostic

end TokenPattern
