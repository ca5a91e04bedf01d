import TokenPattern.Document.Json
import TokenPattern.PatternConfig.Decode
import TokenPattern.Yaml.View

/-!
# Pattern files

A pattern file holds one configured pattern, in JSON if the name of the file says so and in YAML
otherwise.  `loadPattern` reads it from the content of the file, or from the reason why there is no
content.
-/

namespace TokenPattern.CommandLine

/-! ## Contents -/

/-- Why a file cannot be read. -/
inductive ReadFault where
  | missing
  | denied
  | directory
  | notDirectory
  | notText
  | other (reason : String)

/-- The wording of a fault. -/
def ReadFault.message : ReadFault → String
  | missing => "No such file or directory (os error 2)"
  | denied => "Permission denied (os error 13)"
  | directory => "Is a directory (os error 21)"
  | notDirectory => "Not a directory (os error 20)"
  | notText => "stream did not contain valid UTF-8"
  | other reason => reason

/-- The last component of a path. -/
def fileName (path : String) : List Char :=
  let trimmed := path.toList.reverse.dropWhile (· == '/')
  (trimmed.takeWhile (· != '/')).reverse

/-- Whether the name of a file ends in ".json", in any case, and has something before it. -/
def isJsonPath (path : String) : Bool :=
  let name := (fileName path).map Char.toLower
  ".json".toList.isSuffixOf name && ".json".length < name.length

/-- The deepest nesting of a JSON file. -/
def maxJsonNesting : Nat := 127

/-- The document of a JSON file. -/
def jsonDocument (content : String) : Except String Document :=
  match Document.ofJson? maxJsonNesting content with
  | some d => .ok d
  | none => .error "not well-formed"

/-- The document of a YAML file, which must hold only one. -/
def yamlDocument (content : String) : Except String Document :=
  match Document.ofYaml? .whole content with
  | some [d] => .ok d
  | some [] => .error "no document"
  | some _ => .error "more than one document"
  | none => .error "not well-formed"

/-- The configured pattern in a document. -/
def patternOf (kind : String) (document : Except String Document) :
    Except String PatternConfig :=
  match document with
  | .error reason => .error (kind ++ " parse error: " ++ reason)
  | .ok d =>
    match PatternConfig.ofDocument d with
    | .ok c => .ok c
    | .error m => .error (kind ++ " parse error: " ++ m.message)

/-- The configured pattern in a file. -/
def loadPattern (path : String) (content : Except ReadFault String) :
    Except String PatternConfig :=
  match content with
  | .error fault => .error ("failed to read \"" ++ path ++ "\": " ++ fault.message)
  | .ok text =>
    if isJsonPath path then patternOf "JSON" (jsonDocument text)
    else patternOf "YAML" (yamlDocument text)

end TokenPattern.CommandLine
