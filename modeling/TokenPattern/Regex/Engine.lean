import TokenPattern.Regex.Tree

/-!
# Engines of regular expressions

Matching texts by regular expressions is the work of a library that does not belong to this project.
`Regex.Engine` is what is used of it: a text is compiled, or refused with a reason, and a compiled
expression is looked for somewhere in a text.  What is made of an engine is defined, and proved, for
any one.

`Regex.builtin` is the engine that stands in for the library where the project is run.  Its parts are
the other modules under `Regex`.  They follow the documented syntax of the library, its meaning and
its limits on depth and size, but nothing else of it: not how it searches, nor its wording of errors.
-/

namespace TokenPattern.Regex

/-- A library of regular expressions. -/
structure Engine where
  /-- A compiled expression. -/
  Compiled : Type
  /-- Compiles a text, or says why it cannot. -/
  compile : String → Except String Compiled
  /-- Whether an expression matches some part of a text. -/
  finds : Compiled → String → Bool

/-- The engine of this project. -/
def builtin : Engine where
  Compiled := Regex
  compile text := (parse text).mapError Fault.message
  finds := matchesIn

end TokenPattern.Regex
