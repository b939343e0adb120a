import KvMarkup.Command.Reach

/-!
# The program

Reads what the command line can look at, runs it, prints what it says and writes the file that it
saves.
-/

open KvMarkup

namespace KvMarkup.Program

def placeText (names : List String) : String := "/" ++ "/".intercalate names

/-- What stands at a place, added to a tree. -/
def addPlace (tree : File.Tree) (names : List String) : IO File.Tree := do
  let known := tree.files.any (·.1 == names) || tree.directories.contains names
  if known then return tree
  try
    let info ← (IO.FS.readBinFile (placeText names)).toBaseIO
    match info with
    | .ok bytes => return { tree with files := (names, bytes.toList) :: tree.files }
    | .error (.inappropriateType ..) =>
      return { tree with directories := names :: tree.directories }
    | .error _ => return tree
  catch _ => return tree

/-- What stands on the way to some paths, added to a tree. -/
def addPaths (tree : File.Tree) (paths : List File.Path) : IO File.Tree :=
  (paths.flatMap (Command.stations tree.working)).eraseDups.foldlM addPlace tree

/-- The paths of the pictures that named files mention. -/
def pictures (tree : File.Tree) (named : List File.Path) : List File.Path :=
  let directories := named.filter fun p => (tree.look p.text).toOption.any fun
    | .directory => true
    | .file _ => false
  named.flatMap fun p =>
    match tree.read p.text with
    | .ok bytes => Command.picturePaths p bytes directories
    | .error _ => []

/-- The settings of the environment that a run can ask for. -/
def environment : IO (String → Option String) := do
  let names := ["KVLENS_REGISTRY", "KVLENS_INDENT_WIDTH", "KVLENS_LOG_LEVEL"]
  let values ← names.mapM fun n => return (n, ← IO.getEnv n)
  return fun n => (values.lookup n).join

end KvMarkup.Program

open KvMarkup.Program

def main (arguments : List String) : IO UInt32 := do
  let words := arguments.map Text.RawText.ofText
  let get ← environment
  let working := (File.Path.ofText (← IO.currentDir).toString).names
  let named := Command.namedPaths words get
  let tree ← addPaths ⟨working, [], []⟩ named
  let tree ← addPaths tree (pictures tree named)
  let outcome := Command.run ⟨words, get, tree, "the bundled catalog"⟩
  IO.print outcome.output
  IO.eprint outcome.messages
  for f in Command.changedFiles tree outcome.tree do
    IO.FS.writeBinFile (placeText f.1) ⟨f.2.toArray⟩
  match outcome.breakdown with
  | some b => IO.eprintln b.message
  | none => pure ()
  return UInt32.ofNat outcome.exitCode
