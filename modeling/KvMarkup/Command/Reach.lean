import KvMarkup.Command.Run

/-!
# What a run can look at

A command line names its files and directories in its words and in the environment, and the lines of
a named file may name pictures.  These are all the paths that a run looks at, so a tree with what
stands there is enough for it.
-/

namespace KvMarkup.Command

open KvMarkup.Text

/-- The texts in a word that can be paths: the word, what stands behind an equals sign, and what
stands behind a short option. -/
def pathsInWord (word : String) : List String :=
  let cs := word.toList
  [word, String.ofList ((cs.dropWhile (· != '=')).drop 1), String.ofList (cs.drop 2)].filter
    (· != "")

/-- The paths that a command line names. -/
def namedPaths (words : List RawText) (environment : String → Option String) : List File.Path :=
  let texts := words.filterMap RawText.text?
  (texts.flatMap pathsInWord ++ (environment "KVLENS_REGISTRY").toList).map File.Path.ofText

/-- The paths of the pictures that the lines of a file may name. -/
def picturePaths (file : File.Path) (bytes : List UInt8) (directories : List File.Path) :
    List File.Path :=
  let text := universal ((Text.decodeUtf8? bytes).getD "")
  (lines text).flatMap fun l =>
    match Image.reference? l with
    | none => []
    | some (_, path) =>
      let picture := File.Path.ofText path
      if picture.isAbsolute then [picture]
      else
        Image.candidates picture (some file.parent) none ++
          directories.flatMap fun d => Image.candidates picture (some file.parent) (some d)

/-- The absolute paths on the way to a path, the path itself last. -/
def stations (working : List String) (path : File.Path) : List (List String) :=
  let start := if path.isAbsolute then [] else working
  (path.names.foldl
    (fun (acc : List String × List (List String)) n =>
      let next := if n == ".." then acc.1.dropLast else acc.1 ++ [n]
      (next, next :: acc.2)) (start, [start])).2.reverse

/-- The files that differ between two trees. -/
def changedFiles (before after : File.Tree) : List (List String × List UInt8) :=
  after.files.filter fun f => before.files.lookup f.1 != some f.2

def Breakdown.message : Breakdown → String
  | .fault f => f.kind.name ++ ": " ++ f.message
  | .notText => "a file is not UTF-8"
  | .misfit m => m.message
  | .numberTooLong => "a number in the document has too many digits"
  | .levelName => "unknown log level"
  | .levelKind => "log level is not a number"
  | .display .name => "a name in the outline is not a text"
  | .display .markup => "a closing style tag matches no open one"
  | .notEncodable => "the result is no text"

end KvMarkup.Command
