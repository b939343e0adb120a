import KvMarkup.Catalog.Bundled
import KvMarkup.Catalog.Loading
import KvMarkup.Command.Display
import KvMarkup.Command.Request
import KvMarkup.Json.Decode
import KvMarkup.Service

/-!
# Running a command line

`run` takes the words of a command line, the environment and a tree of files, and gives an outcome:
what is printed, the exit code and the tree afterwards.

A command prints its result or saves it.  It can end before that in three ways: the command line was
not understood, the request cannot be carried out, or a value in a file turned out not to be what
its place asks for.  And it can end while it saves: a file is emptied before the result is written
as UTF-8, and the result of inserting a snippet that is no text cannot be.  No run writes more than
one file.

Of a page of help only the usage line is printed here; the rest of it is the descriptions of the
commands, which nothing else reads.
-/

namespace KvMarkup.Command

open KvMarkup.Outline KvMarkup.Parsed KvMarkup.Text KvMarkup.Number

/-- What a command line is run with. -/
structure Invocation where
  words : List RawText
  /-- The variables whose values are texts. -/
  environment : String → Option String
  tree : File.Tree
  /-- The name under which the bundled catalogue is mentioned. -/
  bundledName : String

/-- Why a run breaks off without a message. -/
inductive Breakdown where
  | fault (f : Fault)
  /-- A file that is not UTF-8. -/
  | notText
  /-- A scalar of a catalogue is not a value of its kind. -/
  | misfit (m : Yaml.Misfit)
  /-- A number of a document has too many digits. -/
  | numberTooLong
  /-- The name of a level that is not one. -/
  | levelName
  /-- The name of something that cannot be compared with levels. -/
  | levelKind
  | display (e : DisplayError)
  /-- The result is no text, so it has no bytes in UTF-8. -/
  | notEncodable

/-- Why a command ends without a result. -/
inductive Stop where
  | help (verb : Option Verb)
  | noWords
  | usage (verb : Option Verb) (e : UsageError)
  | failed (message : RawText)
  | broken (b : Breakdown)

/-- What a command does at its end. -/
inductive Action where
  | print (text : String)
  | save (file : File.Path) (text : String)
  /-- Saving a result that has no bytes: the file is emptied before that is noticed. -/
  | spoil (file : File.Path)

structure Outcome where
  exitCode : Nat
  output : String
  messages : String
  breakdown : Option Breakdown
  tree : File.Tree

/-! ## Terminal text -/

/-- A symbol of the parameters of a control sequence: a digit, or one of `:;<=>?`. -/
def isParameter : Symbol → Bool := Symbol.isBetween '0' '?'

/-- A symbol between the parameters and the last symbol of a control sequence. -/
def isIntermediate : Symbol → Bool := Symbol.isBetween ' ' '/'

/-- The last symbol of a control sequence, which names what it does. -/
def isFinal : Symbol → Bool := Symbol.isBetween '@' '~'

/-- What follows a control sequence, given without its escape character: a bracket, parameters,
symbols in between and the last symbol.  `none` if the text does not go on as one. -/
def afterControl? : RawText → Option RawText
  | .char '[' :: text =>
    match (text.dropWhile isParameter).dropWhile isIntermediate with
    | c :: rest => if isFinal c then some rest else none
    | [] => none
  | _ => none

def withoutControls : Nat → RawText → RawText
  | 0, text => text
  | _, [] => []
  | fuel + 1, c :: text =>
    if c == .char '\x1b' then
      match afterControl? text with
      | some rest => withoutControls fuel rest
      | none => c :: withoutControls fuel text
    else c :: withoutControls fuel text

/-- What is printed of a text. -/
def echoed (text : RawText) : String := (withoutControls (text.length + 1) text).shown

/-! ## Levels -/

/-- The least weight of notes that are shown at a level of a name; any other name means warnings. -/
def threshold (name : String) : Except Breakdown Nat :=
  match name with
  | "NOTSET" => .ok 0
  | "DEBUG" => .ok Level.debug.weight
  | "INFO" => .ok Level.info.weight
  | "ERROR" => .ok Level.error.weight
  | "CRITICAL" => .ok Level.critical.weight
  | "FATAL" => .ok Level.critical.weight
  | "BASIC_FORMAT" => .error .levelName
  | "_STYLES" => .error .levelKind
  | _ => .ok Level.warning.weight

/-- The lines of the notes that are shown. -/
def noteLines (least : Nat) (notes : List Note) : String :=
  String.join ((notes.filter fun n => n.level.weight ≥ least).map fun n => n.line ++ "\n")

/-! ## Reading files -/

/-- The text of a file, with every line break written as a line feed. -/
def readText (tree : File.Tree) (file : File.Path) : Except Stop String :=
  match tree.read file.text with
  | .error m => .error (.failed (m.message (quote file.text)))
  | .ok bytes =>
    match Text.decodeUtf8? bytes with
    | none => .error (.broken .notText)
    | some text => .ok (universal text)

def readModule (tree : File.Tree) (file : File.Path) : Except Stop (Module Data Data) := do
  let text ← readText tree file
  match Json.decode text.toList with
  | .error e =>
    if e.reason == .numberTooLong then .error (.broken .numberTooLong)
    else .error (.failed ("Invalid AST JSON in " ++ file.text ++ ": " ++ e.message text.toList))
  | .ok d =>
    match Module.decode d with
    | .ok m => .ok m
    | .error f =>
      .error (.failed
        ("Malformed AST in " ++ file.text ++ ": missing or invalid " ++ f.message))

def readOutline (service : Service) (tree : File.Tree) (file : File.Path) :
    Except Stop (List UncheckedNode) := do
  let m ← readModule tree file
  (service.outlineOf m).mapError fun f => .broken (.fault f)

/-! ## Paths through an outline -/

/-- The item at a position; a negative one counts from the end. -/
def itemAt? (items : List α) (i : Int) : Option α :=
  if 0 ≤ i then items[i.toNat]?
  else if 0 ≤ i + items.length then items[(i + items.length).toNat]?
  else none

def follow? (nodes : List UncheckedNode) : List Int → Option UncheckedNode
  | [] => none
  | [i] => itemAt? nodes i
  | i :: rest => (itemAt? nodes i).bind fun n => follow? n.children rest

/-- The parts of a path through an outline: what stands between slashes, without those around it. -/
def pathParts (path : String) : List (List Char) :=
  let cs := path.toList.dropWhile (· == '/')
  let cs := (cs.reverse.dropWhile (· == '/')).reverse
  cs.splitOn '/'

/-- The node that a path such as `0/2/1` leads to. -/
def nodeAt? (symbols : List UncheckedNode) (path : String) : Option UncheckedNode := do
  follow? symbols (← (pathParts path).mapM integer?)

/-- The node that a path leads to, or the message that there is none. -/
def nodeAt (symbols : List UncheckedNode) (path : String) : Except Stop UncheckedNode :=
  match nodeAt? symbols path with
  | some n => .ok n
  | none => .error (.failed ("No outline node at path " ++ quote path))

/-- The node that a path leads to.  A path that is no text has a part that is no number. -/
def nodeAtRaw (symbols : List UncheckedNode) (path : RawText) : Except Stop UncheckedNode :=
  match path.text? with
  | some text => nodeAt symbols text
  | none => .error (.failed ("No outline node at path " ++ path.quoted))

/-! ## Commands -/

/-- What a command comes to, with its notes. -/
abbrev Attempt := Noted (Except Stop Action)

def silently (action : Except Stop Action) : Attempt := ⟨action, []⟩

/-- Prints a text, or saves it where it came from. -/
def deliver (file : File.Path) (inPlace : Bool) (text : String) : Action :=
  if inPlace then .save file text else .print (echoed text)

def outline (service : Service) (tree : File.Tree) (ast : File.Path) (asJson : Bool) :
    Except Stop Action := do
  let symbols ← readOutline service tree ast
  if asJson then .ok (.print (Json.pretty (.list (Node.wireAll symbols)) ++ "\n"))
  else
    match treeText ast.name symbols with
    | .ok text => .ok (.print text)
    | .error e => .error (.broken (.display e))

def complete (service : Service) (tree : File.Tree) (file : File.Path) (line character : Int) :
    Attempt :=
  match readText tree file with
  | .error s => ⟨.error s, []⟩
  | .ok source =>
    let found := service.complete source line character
    match found.value with
    | .ok cs => ⟨.ok (.print (Json.pretty (.list (cs.map (·.wire))) ++ "\n")), found.notes⟩
    | .error f => ⟨.error (.broken (.fault f)), found.notes⟩

def snippetFor : Insertion → Except Stop RawText
  | .snippet text => .ok text
  | .widget name =>
    match name.text?.bind Palette.find? with
    | some e => .ok e.snippet
    | none => .error (.failed ("Unknown palette widget: " ++ name))

/-- What comes of a result that is no text: it cannot be printed, and saving it empties the file. -/
def deliverRaw (file : File.Path) (inPlace : Bool) : Except Stop Action :=
  if inPlace then .ok (.spoil file) else .error (.broken .notEncodable)

/-- Inserts a snippet into a file.  A byte of the snippet that is part of no character is kept like
a letter, so the result is a text exactly when the snippet is; another character stands in for the
byte while the snippet is put in its place. -/
def insert (service : Service) (tree : File.Tree) (file : File.Path) (line column : Int)
    (what : Insertion) (inPlace : Bool) : Attempt :=
  match snippetFor what, readText tree file with
  | .error s, _ => ⟨.error s, []⟩
  | _, .error s => ⟨.error s, []⟩
  | .ok snippet, .ok source =>
    let edited :=
      service.addWidget (.str source) (.str snippet.standIn) (.int (line + 1)) (.int column)
    match edited.value with
    | .done text =>
      match snippet.text? with
      | some _ => ⟨.ok (deliver file inPlace text), edited.notes⟩
      | none => ⟨deliverRaw file inPlace, edited.notes⟩
    | .failed reason => ⟨.error (.failed reason), edited.notes⟩

def moveNodes (service : Service) (tree : File.Tree) (ast : File.Path) (source : RawText)
    (target : Option RawText) : Except Stop (UncheckedNode × Option UncheckedNode) := do
  let symbols ← readOutline service tree ast
  let item ← nodeAtRaw symbols source
  match target with
  | none => .ok (item, none)
  | some path => do
    let n ← nodeAtRaw symbols path
    .ok (item, some n)

/-- Moves a node of a file under another one, or to its end. -/
def move (service : Service) (tree : File.Tree) (file ast : File.Path) (source : RawText)
    (target : Option RawText) (inPlace : Bool) : Attempt :=
  match moveNodes service tree ast source target, readText tree file with
  | .error s, _ => ⟨.error s, []⟩
  | _, .error s => ⟨.error s, []⟩
  | .ok (item, target), .ok text =>
    match service.move text item target with
    | .ok edited => ⟨.ok (deliver file inPlace edited.text), edited.notes⟩
    | .error f => ⟨.error (.broken (.fault f)), []⟩

/-- Describes the picture that a line of a file names. -/
def image (tree : File.Tree) (file : File.Path) (line : Int) (workspace : Option File.Path) :
    Attempt :=
  match readText tree file with
  | .error s => ⟨.error s, []⟩
  | .ok source =>
    let found := Service.image source line tree (some file) workspace
    match found.value with
    | some p => ⟨.ok (.print (echoed p.markdown ++ "\n")), found.notes⟩
    | none => ⟨.error (.failed ("No image found on line " ++ showInt line)), found.notes⟩

/-- The palette entries of a category, or all of them. -/
def entriesOf : Option RawText → List PaletteEntry
  | none => Palette.entries none
  | some category =>
    match category.text? with
    | some name => Palette.entries (some name)
    | none => []

def palette (category : Option RawText) : Except Stop Action :=
  match entriesOf category with
  | [] => .error (.failed ("No palette entries for category " ++ (category.getD []).quoted))
  | entries => .ok (.print (paletteTable entries))

def perform (service : Service) (tree : File.Tree) : Request → Attempt
  | .outline ast asJson => silently (outline service tree ast asJson)
  | .complete file line character => complete service tree file line character
  | .insert file line column what inPlace =>
    insert service tree file line column what inPlace
  | .move file ast source target inPlace => move service tree file ast source target inPlace
  | .image file line workspace => image tree file line workspace
  | .palette category => silently (palette category)

/-! ## The whole command line -/

/-- The settings of the environment with those of the options before the command. -/
def settingsOf (environment : String → Option String) (vs : Values) : Settings :=
  let s := Settings.ofEnvironment environment
  let level := ((vs.text? "--log-level").filter (!·.isEmpty)).map (uppercase ·.standIn)
  ⟨(vs.path? "--registry").or s.catalogPath, s.indentWidth, level.getD s.levelName,
    s.one_le_indentWidth⟩

/-- The error that a bad catalogue ends a run with. -/
def catalogStop : CatalogError → Stop
  | .fault f => .broken (.fault f)
  | .notText => .broken .notText
  | .misfit m => .broken (.misfit m)
  | .numberTooLong => .broken .numberTooLong
  | e => .failed e.message

def catalogOf (i : Invocation) (s : Settings) : Except Stop (Noted Catalog) :=
  match s.catalogPath with
  | some path => (Catalog.ofFile i.tree path).mapError catalogStop
  | none => .ok ⟨Catalog.bundled, [Catalog.bundled.loadedNote i.bundledName]⟩

/-- Reports a usage error as one of a command, or of the program. -/
def reported (v : Option Verb) (r : Except UsageError α) : Except Stop α := r.mapError (.usage v)

/-- The options before the command, and the words of the command. -/
def commonValues (tree : File.Tree) (words : List RawText) :
    Except Stop (Values × List RawText) := do
  let (vs, rest) ← reported none (readValues tree commonParameters false words)
  if vs.has helpFlag.key then .error (.help none) else .ok (vs, rest)

/-- The command that a word names; a word with a dash may still be an option. -/
def verbNamed (tree : File.Tree) (word : RawText) (rest : List RawText) : Except Stop Verb :=
  match Verb.ofName? word with
  | some v => .ok v
  | none => do
    if word.head? == some (.char '-') then discard (commonValues tree (word :: rest))
    .error (.usage none (.unknownCommand word (similarNames word.standIn (Verb.all.map Verb.name))))

/-- The options before the command, the command and its words. -/
def split (i : Invocation) : Except Stop (Values × Verb × List RawText) :=
  if i.words.isEmpty then .error .noWords
  else do
    let (vs, rest) ← commonValues i.tree i.words
    match rest with
    | [] => .error (.usage none .missingCommand)
    | word :: rest =>
      let v ← verbNamed i.tree word rest
      .ok (vs, v, rest)

def requestOf (tree : File.Tree) (v : Verb) (words : List RawText) : Except Stop Request := do
  let vs ← reported (some v) (commandValues tree v words)
  if vs.has helpFlag.key then .error (.help (some v))
  else reported (some v) (Request.ofValues v vs)

/-- A run up to its result, with the notes and the least weight of those that are shown. -/
def attempt (i : Invocation) : Attempt × Nat :=
  match split i with
  | .error s => (⟨.error s, []⟩, 0)
  | .ok (vs, v, words) =>
    let settings := settingsOf i.environment vs
    match threshold settings.levelName with
    | .error b => (⟨.error (.broken b), []⟩, 0)
    | .ok least =>
      match catalogOf i settings with
      | .error s => (⟨.error s, []⟩, least)
      | .ok catalog =>
        match requestOf i.tree v words with
        | .error s => (⟨.error s, catalog.notes⟩, least)
        | .ok request =>
          let done := perform ⟨catalog.value, settings, none⟩ i.tree request
          (⟨done.value, catalog.notes ++ done.notes⟩, least)

def usageText (v : Option Verb) (e : UsageError) : RawText :=
  usageLine v ++ "\nTry '" ++ commandPath v ++ " --help' for help.\n\nError: " ++ e.message ++ "\n"

/-- The outcome of an action or of what stopped it, after some messages. -/
def outcomeOf (tree : File.Tree) (messages : String) : Except Stop Action → Outcome
  | .ok (.print text) => ⟨0, text, messages, none, tree⟩
  | .ok (.save file text) =>
    ⟨0, "", messages ++ echoed ("Updated " ++ file.text ++ "\n"), none,
      tree.write file.text (Text.encodeUtf8 text)⟩
  | .ok (.spoil file) => ⟨1, "", messages, some .notEncodable, tree.write file.text []⟩
  | .error (.help v) => ⟨0, usageLine v ++ "\n", messages, none, tree⟩
  | .error .noWords => ⟨2, "", messages ++ usageLine none ++ "\n", none, tree⟩
  | .error (.usage v e) => ⟨2, "", messages ++ echoed (usageText v e), none, tree⟩
  | .error (.failed message) =>
    ⟨1, "", messages ++ echoed ("Error: " ++ message ++ "\n"), none, tree⟩
  | .error (.broken b) => ⟨1, "", messages, some b, tree⟩

def run (i : Invocation) : Outcome :=
  let (done, least) := attempt i
  outcomeOf i.tree (noteLines least done.notes) done.value

end KvMarkup.Command
