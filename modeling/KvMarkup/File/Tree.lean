import KvMarkup.File.Path

/-!
# A tree of files

The files and directories that a run can see, each by its names from the root, together with the
directory that relative paths start from.  A path is followed name by name: each step needs a
directory to start from, `..` leads to its parent, and the name has to be there.
-/

namespace KvMarkup.File

/-- Files with their contents, and directories. -/
structure Tree where
  /-- The directory that relative paths start from. -/
  working : List String
  files : List (List String × List UInt8)
  directories : List (List String)

/-- Why a path leads nowhere, or to something that cannot be read. -/
inductive Missing where
  | notFound
  | notADirectory
  | isADirectory
deriving DecidableEq

def Missing.message (m : Missing) (quotedPath : String) : String :=
  match m with
  | .notFound => "[Errno 2] No such file or directory: " ++ quotedPath
  | .notADirectory => "[Errno 20] Not a directory: " ++ quotedPath
  | .isADirectory => "[Errno 21] Is a directory: " ++ quotedPath

/-- What stands at a place. -/
inductive Entry where
  | file (bytes : List UInt8)
  | directory

namespace Tree

/-- A directory: given as one, or on the way to something. -/
def isDirectory (t : Tree) (names : List String) : Bool :=
  t.directories.any (names.isPrefixOf ·) || t.files.any (fun f => names.isPrefixOf f.1.dropLast) ||
    names.isPrefixOf t.working

/-- What stands at a place given by its names from the root. -/
def entry? (t : Tree) (names : List String) : Option Entry :=
  match t.files.find? (·.1 == names) with
  | some f => some (.file f.2)
  | none => if t.isDirectory names then some .directory else none

def follow (t : Tree) (place : List String) : List String → Except Missing (List String)
  | [] => .ok place
  | name :: names =>
    match t.entry? place with
    | none => .error .notFound
    | some (.file _) => .error .notADirectory
    | some .directory =>
      if name == "" || name == "." then t.follow place names
      else if name == ".." then t.follow place.dropLast names
      else
        let next := place ++ [name]
        match t.entry? next with
        | none => .error .notFound
        | some _ => t.follow next names

/-- The place that a path written as a text leads to. -/
def locate (t : Tree) (text : String) : Except Missing (List String) :=
  if text == "" then .error .notFound
  else if text.startsWith "/" then t.follow [] (Path.split text)
  else t.follow t.working (Path.split text)

/-- What a path written as a text leads to. -/
def look (t : Tree) (text : String) : Except Missing Entry := do
  let place ← t.locate text
  match t.entry? place with
  | some e => .ok e
  | none => .error .notFound

def read (t : Tree) (text : String) : Except Missing (List UInt8) := do
  match ← t.look text with
  | .file bytes => .ok bytes
  | .directory => .error .isADirectory

def isFile (t : Tree) (p : Path) : Bool := (t.read p.text).isOk

def write (t : Tree) (text : String) (bytes : List UInt8) : Tree :=
  match t.locate text with
  | .ok place =>
    { t with files := t.files.map fun f => if f.1 == place then (f.1, bytes) else f }
  | .error _ => t

/-- The absolute path that a path stands for, with every `..` taken back one name. -/
def resolve (t : Tree) (p : Path) : Path :=
  let start := if p.isAbsolute then [] else t.working
  ⟨"/", (start ++ p.names).foldl
    (fun names n => if n == ".." then names.dropLast else names ++ [n]) []⟩

end Tree

end KvMarkup.File
