import TokenPattern.CommandLine.Command
import TokenPattern.CommandLine.PatternFile
import TokenPattern.Match.Encode
import TokenPattern.Program
import TokenPattern.Registry.Words
import TokenPattern.Trace.Table

/-!
# What commands come to

`Command.report` says what a command prints and with which code it ends, given the content of the
pattern file that it names.  So a command decides nothing by itself that depends on the outside
world but for this content.
-/

namespace TokenPattern.CommandLine

/-! ## What commands print -/

/-- Loads and compiles a pattern. -/
def compilePattern {τ : Type} (r : Registry τ τ) (c : PatternConfig) :
    Except String (Program τ τ) :=
  match r.load c with
  | .ok e => .ok (Program.compile e)
  | .error e => .error ("pattern invalid: " ++ e.message)

/-- Tokens as the command line takes and prints them. -/
structure TokenStyle (τ : Type) where
  registry : Registry τ τ
  split : String → List τ
  text : τ → String

/-- A token for every character. -/
def TokenStyle.characters : TokenStyle Char :=
  ⟨.charactersAndCase, String.toList, String.singleton⟩

/-- A token for every word. -/
def TokenStyle.words : TokenStyle String := ⟨.wordsAndCase, Text.words, id⟩

namespace TokenStyle

variable {τ : Type}

/-- A trail as a document: its tokens one by one, or all in one text. -/
def trail (s : TokenStyle τ) (joined : Bool) (tokens : List τ) : Document :=
  if joined then .string (String.join (tokens.map s.text))
  else .array (tokens.map fun t => .string (s.text t))

/-- What matching an input prints. -/
def output (s : TokenStyle τ) (options : MatchOptions) (c : PatternConfig) :
    Except String String := do
  let p ← compilePattern s.registry c
  let limits := match options.maxFrontier with
    | some max => ⟨some max⟩
    | none => Limits.default
  let p := p.withLimits limits
  let input := s.split options.input
  if options.trace then pure ("\n".intercalate (p.trace input).table)
  else
    match p.allMatches input with
    | .ok found =>
      pure (Document.array (found.map (Match.toDocument (s.trail options.joined)))).toPrettyJson
    | .error e => .error e.message

/-- What validating a pattern prints. -/
def validation (s : TokenStyle τ) (c : PatternConfig) : Except String String := do
  let p ← compilePattern s.registry c
  pure ("Pattern valid (" ++ diagnostic p.graph.nodeCount ++ " graph nodes)")

/-- The matcher types, one on a line, below a heading. -/
def typeLines (s : TokenStyle τ) (heading : String) : List String :=
  heading :: s.registry.typeUrls.map ("  " ++ ·)

end TokenStyle

/-- All matcher types. -/
def infoText : String :=
  "\n".intercalate
    (TokenStyle.characters.typeLines "Char matchers:" ++ [""] ++
      TokenStyle.words.typeLines "Word matchers:")

/-! ## Reports -/

/-- What a command comes to: its code, and what it prints on both channels. -/
structure Report where
  code : Nat
  output : String
  errors : String

/-- A report of success. -/
def Report.success (output : String) : Report := ⟨0, output ++ "\n", ""⟩

/-- A report of failure. -/
def Report.failure (reason : String) : Report := ⟨1, "", "error: " ++ reason ++ "\n"⟩

/-- The report on arguments without a command. -/
def NoCommand.report : NoCommand → Report
  | help topic => .success ("\n".intercalate (helpLines topic))
  | usage reason => ⟨2, "", "error: " ++ reason ++ "\n\n" ++ usageLine .all ++ "\n"⟩

/-- What a command prints, given the content of its pattern file. -/
def Command.output (c : Command) (content : Except ReadFault String) : Except String String :=
  match c with
  | find options => do
    let p ← loadPattern options.pattern content
    if options.words then TokenStyle.words.output options p
    else TokenStyle.characters.output options p
  | check pattern words => do
    let p ← loadPattern pattern content
    if words then TokenStyle.words.validation p else TokenStyle.characters.validation p
  | info => .ok infoText

/-- The report of a command, given the content of its pattern file. -/
def Command.report (c : Command) (content : Except ReadFault String) : Report :=
  match c.output content with
  | .ok text => .success text
  | .error reason => .failure reason

end TokenPattern.CommandLine
