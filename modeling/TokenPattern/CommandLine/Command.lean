import TokenPattern.CommandLine.Arguments
import TokenPattern.CommandLine.Help

/-!
# Commands

`Command.parse` reads a command from the arguments of the program: the name of the command first,
then the options and operands that the command declares.  Where there is no command, `NoCommand`
tells whether help was asked for or the arguments do not fit.
-/

namespace TokenPattern.CommandLine

/-- How an input is matched. -/
structure MatchOptions where
  pattern : String
  input : String
  words : Bool
  joined : Bool
  maxFrontier : Option Nat
  trace : Bool

/-- What can be asked for. -/
inductive Command where
  /-- Print every way in which an input matches. -/
  | find (options : MatchOptions)
  /-- Validate a pattern file. -/
  | check (pattern : String) (words : Bool)
  /-- Print the matcher types. -/
  | info

/-- Why there is no command. -/
inductive NoCommand where
  | help (topic : HelpTopic)
  | usage (reason : String)

/-- What the command for matching takes. -/
def findDeclaration : Declaration :=
  ⟨["--words", "--joined", "--trace"], ["--max-frontier"], ["<PATTERN>", "<INPUT>"]⟩

/-- What the command for validating takes. -/
def checkDeclaration : Declaration := ⟨["--words"], [], ["<PATTERN>"]⟩

/-- What the command for listing takes. -/
def infoDeclaration : Declaration := ⟨[], [], []⟩

/-- Reads arguments, with help on a topic. -/
def readFor (topic : HelpTopic) (d : Declaration) (arguments : List String) :
    Except NoCommand Arguments :=
  match readArguments d arguments with
  | .ok a => .ok a
  | .error .help => .error (.help topic)
  | .error (.usage reason) => .error (.usage reason)

namespace Command

/-- The operand at a place. -/
def operand (a : Arguments) (index : Nat) : String := a.operands.getD index ""

/-- Reads a command and its arguments. -/
def parse : List String → Except NoCommand Command
  | [] => .error (.usage "a command is required")
  | name :: rest =>
    match name with
    | "match" => do
      let a ← readFor .find findDeclaration rest
      pure (find ⟨operand a 0, operand a 1, a.has "--words", a.has "--joined",
        a.count? "--max-frontier", a.has "--trace"⟩)
    | "check" => do
      let a ← readFor .check checkDeclaration rest
      pure (check (operand a 0) (a.has "--words"))
    | "info" => do
      let _ ← readFor .info infoDeclaration rest
      pure info
    | "help" =>
      match rest with
      | [] => .error (.help .all)
      | [topic] =>
        match HelpTopic.ofName? topic with
        | some topic => .error (.help topic)
        | none => .error (.usage ("unrecognized subcommand '" ++ topic ++ "'"))
      | _ => .error (.usage "unexpected argument found")
    | _ =>
      if asksForHelp name then .error (.help .all)
      else .error (.usage ("unrecognized subcommand '" ++ name ++ "'"))

/-- The pattern file that a command reads. -/
def patternFile? : Command → Option String
  | find options => some options.pattern
  | check pattern _ => some pattern
  | info => none

end Command

end TokenPattern.CommandLine
