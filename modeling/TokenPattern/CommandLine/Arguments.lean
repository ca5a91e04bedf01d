import TokenPattern.Document.Plain
import TokenPattern.Word

/-!
# Arguments of a command

Every command declares which options it takes, which of them has a value, and which operands it
needs.  `readArguments` reads arguments against such a declaration.

Options and operands may come in any order.  An option may occur once.  Behind two hyphens
everything is an operand, and a lone hyphen is one, too.  The first fault counts, and asking for
help counts like a fault.
-/

namespace TokenPattern.CommandLine

/-- What a command takes. -/
structure Declaration where
  /-- Options without a value. -/
  switches : List String
  /-- Options with a count as their value. -/
  counts : List String
  /-- The names of the operands, all of which are needed. -/
  operands : List String

/-- What was given. -/
structure Arguments where
  switches : List String
  counts : List (String × Nat)
  /-- The operands, the last first. -/
  operands : List String

/-- Why arguments are not read. -/
inductive Stop where
  /-- Help was asked for. -/
  | help
  /-- The arguments do not fit. -/
  | usage (reason : String)
deriving DecidableEq

namespace Arguments

/-- Nothing given. -/
def none : Arguments := ⟨[], [], []⟩

/-- Whether a switch was given. -/
def has (a : Arguments) (option : String) : Bool := a.switches.contains option

/-- The value of an option. -/
def count? (a : Arguments) (option : String) : Option Nat := a.counts.lookup option

end Arguments

/-! ## Values -/

/-- A count of at most 64 bits, perhaps with a plus sign. -/
def readCount? (text : String) : Option Nat :=
  let digits := match text.toList with
    | '+' :: rest => rest
    | cs => cs
  match Document.digitsInBase? 10 digits with
  | some n => if Word.fits n then some n else .none
  | .none => .none

/-- Whether an argument looks like an option. -/
def isOption (argument : String) : Bool :=
  match argument.toList with
  | '-' :: _ :: _ => true
  | _ => false

/-- Divides an option from a value behind an equals sign. -/
def splitOption (argument : String) : String × Option String :=
  let cs := argument.toList
  let name := String.ofList (cs.takeWhile (· != '='))
  match cs.dropWhile (· != '=') with
  | _ :: value => (name, some (String.ofList value))
  | [] => (name, .none)

/-! ## Single arguments -/

variable (d : Declaration)

/-- Takes an operand. -/
def takeOperand (a : Arguments) (operand : String) : Except Stop Arguments :=
  if a.operands.length < d.operands.length then
    .ok { a with operands := operand :: a.operands }
  else .error (.usage ("unexpected argument '" ++ operand ++ "' found"))

/-- Takes a switch. -/
def takeSwitch (a : Arguments) (option : String) : Except Stop Arguments :=
  if a.has option then
    .error (.usage ("the argument '" ++ option ++ "' cannot be used multiple times"))
  else .ok { a with switches := option :: a.switches }

/-- Takes an option with its value. -/
def takeCount (a : Arguments) (option value : String) : Except Stop Arguments :=
  if (a.count? option).isSome then
    .error (.usage ("the argument '" ++ option ++ "' cannot be used multiple times"))
  else
    match readCount? value with
    | some n => .ok { a with counts := (option, n) :: a.counts }
    | .none => .error (.usage ("invalid value '" ++ value ++ "' for '" ++ option ++ "'"))

/-- Whether an argument asks for help: letters behind one hyphen are options of their own. -/
def asksForHelp (argument : String) : Bool :=
  argument = "--help" || "-h".toList.isPrefixOf argument.toList

/-- Takes an option that has no value of its own left to read. -/
def takeOption (a : Arguments) (argument : String) : Except Stop Arguments :=
  if asksForHelp argument then .error .help
  else
    match splitOption argument with
    | (option, .none) =>
      if d.switches.contains option then takeSwitch a option
      else .error (.usage ("unexpected argument '" ++ option ++ "' found"))
    | (option, some value) =>
      if d.counts.contains option then takeCount a option value
      else .error (.usage ("unexpected value '" ++ value ++ "' for '" ++ option ++ "' found"))

/-! ## All arguments -/

/-- Checks that all operands were given, and puts them in order. -/
def complete (a : Arguments) : Except Stop Arguments :=
  if a.operands.length < d.operands.length then
    .error (.usage ("the following required arguments were not provided: " ++
      ", ".intercalate (d.operands.drop a.operands.length)))
  else .ok { a with operands := a.operands.reverse }

/-- Takes arguments in order behind those that were taken. -/
def takeAll (a : Arguments) : List String → Except Stop Arguments
  | [] => .ok a
  | argument :: rest =>
    if argument = "--" then rest.foldlM (takeOperand d) a
    else if d.counts.contains argument then
      match rest with
      | [] => .error (.usage ("a value is required for '" ++ argument ++ "'"))
      | value :: rest =>
        if isOption value then
          .error (.usage ("a value is required for '" ++ argument ++ "'"))
        else do
          let a ← takeCount a argument value
          takeAll a rest
    else if isOption argument then do
      let a ← takeOption d a argument
      takeAll a rest
    else do
      let a ← takeOperand d a argument
      takeAll a rest

/-- Reads the arguments of a command. -/
def readArguments (arguments : List String) : Except Stop Arguments := do
  let a ← takeAll d .none arguments
  complete d a

end TokenPattern.CommandLine
