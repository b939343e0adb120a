import KvMarkup.Command.Parameter

/-!
# Commands

The commands with their parameters, and the requests that command lines make.
-/

namespace KvMarkup.Command

open KvMarkup.Text

inductive Verb where
  | outline
  | complete
  | insert
  | move
  | image
  | palette
deriving DecidableEq

def Verb.all : List Verb := [.outline, .complete, .insert, .move, .image, .palette]

def Verb.name : Verb → String
  | .outline => "outline"
  | .complete => "complete"
  | .insert => "insert"
  | .move => "move"
  | .image => "image"
  | .palette => "palette"

def Verb.ofName? (name : RawText) : Option Verb :=
  Verb.all.find? fun v => RawText.ofText v.name == name

/-! ## Parameters -/

/-- A file that has to be there. -/
def fileArgument (name : String) : Parameter := ⟨[name], .argument, .file, true⟩

def kvFile : Parameter := fileArgument "KV_FILE"

def astFile : Parameter := fileArgument "AST_JSON"

def lineOption : Parameter := ⟨["--line", "-l"], .option, .integer, true⟩

/-- Whether to save the result in the file. -/
def inPlaceFlag : Parameter := ⟨["--in-place", "-i"], .flag, .text, false⟩

/-- An option with a text that may be missing. -/
def textOption (names : List String) : Parameter := ⟨names, .option, .text, false⟩

def commonParameters : List Parameter :=
  [textOption ["--log-level"], ⟨["--registry"], .option, .file, false⟩, helpFlag]

def Verb.parameters : Verb → List Parameter
  | .outline => [astFile, ⟨["--json"], .flag, .text, false⟩, helpFlag]
  | .complete =>
    [kvFile, lineOption, ⟨["--character", "-c"], .option, .integer, true⟩, helpFlag]
  | .insert =>
    [kvFile, lineOption, ⟨["--column", "-c"], .option, .integer, false⟩,
     textOption ["--snippet", "-s"], textOption ["--widget", "-w"], inPlaceFlag, helpFlag]
  | .move =>
    [kvFile, astFile, ⟨["--source"], .option, .text, true⟩, textOption ["--target"], inPlaceFlag,
     helpFlag]
  | .image => [kvFile, lineOption, ⟨["--root"], .option, .directory, false⟩, helpFlag]
  | .palette => [textOption ["--category"], helpFlag]

def programName : String := "cli"

def commandPath : Option Verb → String
  | none => programName
  | some v => programName ++ " " ++ v.name

/-- The usage line of a command, or of the program. -/
def usageLine : Option Verb → String
  | none => "Usage: " ++ programName ++ " [OPTIONS] COMMAND [ARGS]..."
  | some v =>
    let arguments := (v.parameters.filter (·.role == .argument)).map (·.key)
    "Usage: " ++ " ".intercalate ([commandPath (some v), "[OPTIONS]"] ++ arguments)

/-! ## Requests -/

/-- What is to be inserted. -/
inductive Insertion where
  | snippet (text : RawText)
  | widget (name : RawText)
deriving DecidableEq

/-- What a command line asks for. -/
inductive Request where
  | outline (ast : File.Path) (asJson : Bool)
  | complete (file : File.Path) (line character : Int)
  | insert (file : File.Path) (line column : Int) (what : Insertion) (inPlace : Bool)
  | move (file ast : File.Path) (source : RawText) (target : Option RawText) (inPlace : Bool)
  | image (file : File.Path) (line : Int) (workspace : Option File.Path)
  | palette (category : Option RawText)

/-- The value of a parameter that was checked to be there. -/
def present (p : Parameter) (value : Option α) : Except UsageError α :=
  match value with
  | some a => .ok a
  | none => .error (.missing p)

/-- What is to be inserted: exactly one of the two has to be given. -/
def insertionOf (vs : Values) : Except UsageError Insertion :=
  match vs.text? "--snippet", vs.text? "--widget" with
  | some s, none => .ok (.snippet s)
  | none, some w => .ok (.widget w)
  | _, _ => .error (.notExactlyOne "--snippet" "--widget")

/-- The request of a command with checked values. -/
def Request.ofValues (v : Verb) (vs : Values) : Except UsageError Request :=
  let file := present kvFile (vs.path? kvFile.key)
  let ast := present astFile (vs.path? astFile.key)
  let line := present lineOption (vs.integer? lineOption.key)
  let inPlace := vs.has inPlaceFlag.key
  match v with
  | .outline => do return .outline (← ast) (vs.has "--json")
  | .complete => do
    return .complete (← file) (← line) ((vs.integer? "--character").getD 0)
  | .insert => do
    let what ← insertionOf vs
    return .insert (← file) (← line) ((vs.integer? "--column").getD 0) what inPlace
  | .move => do
    return .move (← file) (← ast) ((vs.text? "--source").getD [])
      ((vs.text? "--target").filter (!·.isEmpty)) inPlace
  | .image => do return .image (← file) (← line) (vs.path? "--root")
  | .palette => .ok (.palette (vs.text? "--category"))

/-- The values of a command's words; no word may be left over. -/
def commandValues (tree : File.Tree) (v : Verb) (words : List RawText) :
    Except UsageError Values := do
  let (values, left) ← readValues tree v.parameters true words
  if left.isEmpty || values.has helpFlag.key then .ok values else .error (.extra left)

end KvMarkup.Command
