import KvMarkup.File.Tree
import KvMarkup.Number.Integer
import KvMarkup.Text.Similar
import KvMarkup.Text.Utf8

/-!
# Parameters of a command line

A command line consists of options, which begin with a dash, and arguments, which are told apart by
their order.  A long option takes its value from behind an equals sign or from the next word, and a
short one from the rest of its word or from the next one; short flags can be written together.
After `--` there are only arguments.

Values are checked in the order in which their options were given, then those of the arguments; what
is missing is noticed last.  Of an option that is given twice the last value counts.  When help is
asked for, no other value is looked at.
-/

namespace KvMarkup.Command

open KvMarkup.Number KvMarkup.Text

/-- How a parameter is given. -/
inductive Role where
  | option
  | flag
  | argument
deriving DecidableEq

/-- What a value has to be. -/
inductive ValueType where
  | text
  | integer
  | file
  | directory
deriving DecidableEq

structure Parameter where
  /-- The names of an option, or the one of an argument. -/
  names : List String
  role : Role
  type : ValueType
  required : Bool
deriving DecidableEq

inductive Value where
  | given
  | text (s : RawText)
  | integer (n : Int)
  | path (p : File.Path)

/-- Why a value does not fit. -/
inductive Misfit where
  | notAnInteger (text : RawText)
  | notFound (type : ValueType) (text : RawText)
  | isDirectory (type : ValueType) (text : RawText)
  | isFile (type : ValueType) (text : RawText)

/-- Why a command line cannot be understood. -/
inductive UsageError where
  | unknownOption (name : RawText) (similar : List String)
  | needsValue (name : RawText)
  | takesNoValue (name : RawText)
  | missing (p : Parameter)
  | invalid (p : Parameter) (reason : Misfit)
  | extra (arguments : List RawText)
  | missingCommand
  | unknownCommand (name : RawText) (similar : List String)
  | notExactlyOne (first second : String)

/-! ## Wording -/

def ValueType.title : ValueType → String
  | .directory => "Directory"
  | .file => "File"
  | .integer => "Integer"
  | .text => "Text"

def Misfit.message : Misfit → String
  | .notAnInteger text => text.quoted ++ " is not a valid integer."
  | .notFound type text => type.title ++ " " ++ quote text.fileName ++ " does not exist."
  | .isDirectory type text => type.title ++ " " ++ quote text.fileName ++ " is a directory."
  | .isFile type text => type.title ++ " " ++ quote text.fileName ++ " is a file."

/-- The names of a parameter in quotes. -/
def Parameter.hint (p : Parameter) : String :=
  " / ".intercalate (p.names.map fun n => "'" ++ n ++ "'")

def Role.title : Role → String
  | .argument => "argument"
  | _ => "option"

/-- A question for similar names. -/
def didYouMean (similar : List String) : String :=
  match similar with
  | [] => ""
  | [name] => " Did you mean " ++ quote name ++ "?"
  | names => " (Did you mean one of: " ++ ", ".intercalate (names.map quote) ++ "?)"

/-- The wording of a usage error; extra arguments stand in it as they are. -/
def UsageError.message : UsageError → RawText
  | .unknownOption name similar => "No such option " ++ name.quoted ++ "." ++ didYouMean similar
  | .needsValue name => "Option " ++ name.quoted ++ " requires an argument."
  | .takesNoValue name => "Option " ++ name.quoted ++ " does not take a value."
  | .missing p => "Missing " ++ p.role.title ++ " " ++ p.hint ++ "."
  | .invalid p reason => "Invalid value for " ++ p.hint ++ ": " ++ reason.message
  | .extra arguments =>
    "Got unexpected extra argument" ++ (if arguments.length == 1 then "" else "s") ++ " (" ++
      List.intercalate " " arguments ++ ")"
  | .missingCommand => "Missing command."
  | .unknownCommand name similar => "No such command " ++ name.quoted ++ "." ++ didYouMean similar
  | .notExactlyOne first second => "Pass exactly one of " ++ first ++ " or " ++ second

/-! ## Reading options -/

/-- A parameter that was given, with its value if it takes one. -/
abbrev Given := Parameter × Option RawText

/-- Two dashes, which begin a long name; behind them as a word there are only arguments. -/
def dashes : RawText := [.char '-', .char '-']

def isLong (name : RawText) : Bool := dashes.isPrefixOf name

def optionNamed? (ps : List Parameter) (name : RawText) : Option Parameter :=
  ps.find? fun p => p.role != .argument && p.names.any (RawText.ofText · == name)

def longNames (ps : List Parameter) : List String :=
  ps.flatMap fun p => if p.role == .argument then [] else p.names.filter (isLong ·)

/-- What a word of options gives, and an option under its name that waits for the next word. -/
structure OptionWord where
  given : List Given
  waiting : Option (Parameter × RawText)

/-- A word of short options, behind its dash. -/
def shortWord (ps : List Parameter) : RawText → Except UsageError OptionWord
  | [] => .ok ⟨[], none⟩
  | c :: rest =>
    let name := [.char '-', c]
    match optionNamed? ps name with
    | none => .error (.unknownOption name [])
    | some p =>
      if p.role == .flag then do
        let more ← shortWord ps rest
        .ok ⟨(p, none) :: more.given, more.waiting⟩
      else if rest.isEmpty then .ok ⟨[], some (p, name)⟩
      else .ok ⟨[(p, some rest)], none⟩

def longWord (ps : List Parameter) (word : RawText) : Except UsageError OptionWord :=
  let name : RawText := word.takeWhile (· != .char '=')
  let value := match word.dropWhile (· != .char '=') with
    | [] => none
    | _ :: value => some value
  match (optionNamed? ps name).filter fun _ => isLong name with
  | none => .error (.unknownOption name (similarNames name.standIn (longNames ps)))
  | some p =>
    match p.role, value with
    | .flag, none => .ok ⟨[(p, none)], none⟩
    | .flag, some _ => .error (.takesNoValue name)
    | _, none => .ok ⟨[], some (p, name)⟩
    | _, some v => .ok ⟨[(p, some v)], none⟩

def optionWord (ps : List Parameter) (word : RawText) : Except UsageError OptionWord :=
  match word with
  | .char '-' :: .char '-' :: _ => longWord ps word
  | _ => shortWord ps (word.drop 1)

/-- A word that begins with a dash and has more than that. -/
def isOptionWord (word : RawText) : Bool := word.head? == some (.char '-') && 1 < word.length

/-- The options that are given, and the other words.  Without `mixed`, everything from the first
other word on belongs to those. -/
def readWords (ps : List Parameter) (mixed : Bool) :
    List RawText → Except UsageError (List Given × List RawText)
  | [] => .ok ([], [])
  | word :: rest =>
    if word == dashes then .ok ([], rest)
    else if isOptionWord word then do
      let read ← optionWord ps word
      match read.waiting with
      | none =>
        let (given, others) ← readWords ps mixed rest
        .ok (read.given ++ given, others)
      | some (p, name) =>
        match rest with
        | [] => .error (.needsValue name)
        | value :: rest =>
          let (given, others) ← readWords ps mixed rest
          .ok (read.given ++ (p, some value) :: given, others)
    else if mixed then do
      let (given, others) ← readWords ps mixed rest
      .ok (given, word :: others)
    else .ok ([], word :: rest)

/-! ## Checking values -/

/-- A path that has to lead to a file or to a directory; what is no text leads nowhere. -/
def checkPath (tree : File.Tree) (type : ValueType) (raw : RawText) : Except Misfit Value :=
  match raw.text? with
  | none => .error (.notFound type raw)
  | some text =>
    match tree.look text with
    | .error _ => .error (.notFound type raw)
    | .ok .directory =>
      if type == .file then .error (.isDirectory type raw) else .ok (.path (File.Path.ofText text))
    | .ok (.file _) =>
      if type == .directory then .error (.isFile type raw) else .ok (.path (File.Path.ofText text))

def checkValue (tree : File.Tree) (type : ValueType) (raw : RawText) : Except Misfit Value :=
  match type with
  | .text => .ok (.text raw)
  | .integer =>
    match raw.text?.bind fun text => integer? text.toList with
    | some n => .ok (.integer n)
    | none => .error (.notAnInteger raw)
  | type => checkPath tree type raw

/-- The values of parameters, by their first names. -/
abbrev Values := List (String × Value)

def Parameter.key (p : Parameter) : String := p.names.headD ""

/-- The value of a parameter, of those given to it the last one. -/
def checkParameter (tree : File.Tree) (given : List Given) (p : Parameter) :
    Except UsageError Values :=
  match given.reverse.find? fun g => g.1.key == p.key with
  | none => if p.required then .error (.missing p) else .ok []
  | some (_, none) => .ok [(p.key, .given)]
  | some (_, some raw) =>
    match checkValue tree p.type raw with
    | .ok v => .ok [(p.key, v)]
    | .error reason => .error (.invalid p reason)

/-- Asks for help. -/
def helpFlag : Parameter := ⟨["--help"], .flag, .text, false⟩

def asksForHelp (given : List Given) : Bool := given.any (·.1 == helpFlag)

/-- The parameters that are checked, in their order: help alone when it is asked for. -/
def checkingOrder (ps : List Parameter) (given : List Given) : List Parameter :=
  if asksForHelp given then [helpFlag]
  else
    let first := (given.map (·.1)).filter (·.role != .argument)
    (first ++ ps.filter (·.role == .argument) ++ ps).eraseDups

/-- The arguments among the parameters with the words that they get, in order, and the words that
are left over. -/
def assign : List Parameter → List RawText → List Given × List RawText
  | p :: ps, w :: ws =>
    let (given, left) := assign ps ws
    ((p, some w) :: given, left)
  | _, ws => ([], ws)

/-- The values of all parameters, and the words left over. -/
def readValues (tree : File.Tree) (ps : List Parameter) (mixed : Bool) (words : List RawText) :
    Except UsageError (Values × List RawText) := do
  let (options, others) ← readWords ps mixed words
  let (arguments, left) := assign (ps.filter (·.role == .argument)) others
  let given := options ++ arguments
  let values ← (checkingOrder ps given).mapM (checkParameter tree given)
  .ok (values.flatten, left)

namespace Values

def has (vs : Values) (key : String) : Bool := (vs.lookup key).isSome

def text? (vs : Values) (key : String) : Option RawText :=
  match vs.lookup key with
  | some (.text s) => some s
  | _ => none

def integer? (vs : Values) (key : String) : Option Int :=
  match vs.lookup key with
  | some (.integer n) => some n
  | _ => none

def path? (vs : Values) (key : String) : Option File.Path :=
  match vs.lookup key with
  | some (.path p) => some p
  | _ => none

end Values

end KvMarkup.Command
