import KvMarkup.File.Tree
import KvMarkup.Image.Dimensions
import KvMarkup.Note
import KvMarkup.Number.Binary64
import KvMarkup.Text.Quoted

/-!
# Picture previews

A line that sets one of the picture properties names a file.  The file is looked for beside the
document, in the workspace, and then in the usual picture directories of both; a preview tells its
size and, for PNG and JPEG files, its dimensions.
-/

namespace KvMarkup.Image

open KvMarkup.Text KvMarkup.Number KvMarkup.File

/-- Properties that name a picture. -/
def pictureProperties : List String :=
  ["source", "background_normal", "background_down", "background_disabled_normal",
   "background_disabled_down"]

def pictureSuffixes : List String := [".png", ".jpg", ".jpeg", ".gif", ".bmp", ".webp", ".svg"]

/-- Directories that pictures are usually kept in. -/
def pictureDirectories : List String := ["images", "assets", "img", "resources"]

def isMark (c : Char) : Bool := c == '\'' || c == '"'

/-- The value of a picture property, without quotes around it and without any inside. -/
def pictureValue? (value : List Char) : Option (List Char) :=
  let body := trimStart value
  let body := match body with
    | c :: rest => if isMark c then rest else body
    | [] => []
  let text := trimEnd body
  let text := match text.getLast? with
    | some c => if isMark c && text.length ≥ 2 then text.dropLast else text
    | none => text
  if text.isEmpty || text.contains '\n' then none
  else some ((trim text).filter (!isMark ·))

/-- The picture property that a line sets, and its value. -/
def reference? (line : List Char) : Option (String × String) :=
  let text := trimStart line
  match pictureProperties.find? (fun p => (p.toList ++ [':']).isPrefixOf text) with
  | some p => (pictureValue? (text.drop (p.length + 1))).map fun v => (p, String.ofList v)
  | none => none

def lowerSuffix (p : Path) : String := String.ofList (p.suffix.toList.map Char.toLower)

/-- The places where a relative path is looked for, in order. -/
def candidates (path : Path) (beside workspace : Option Path) : List Path :=
  (beside.map (·.join path)).toList ++ (workspace.map (·.join path)).toList ++
    pictureDirectories.flatMap fun d =>
      let below (p : Path) : Path := (p.join ⟨"", [d]⟩).join path
      (workspace.map below).toList ++ (beside.map below).toList

/-- The file that a path names. -/
def resolve? (tree : Tree) (path : String) (beside workspace : Option Path) : Option Path :=
  let p := Path.ofText path
  if p.isAbsolute then if tree.isFile p then some p else none
  else (candidates p beside workspace).find? tree.isFile

def cutOffReason (size left : Nat) : String :=
  let offset := size - left + 5
  "unpack_from requires a buffer of at least " ++ showInt (offset + 4) ++
    " bytes for unpacking 4 bytes at offset " ++ showInt offset ++
    " (actual buffer size is " ++ showInt size ++ ")"

def dimensions (tree : Tree) (p : Path) : Noted (Option Dimensions) :=
  let suffix := lowerSuffix p
  if suffix != ".png" && suffix != ".jpg" && suffix != ".jpeg" then ⟨none, []⟩
  else
    match tree.read p.text with
    | .error m => ⟨none, [.dimensionsUnreadable p.text (m.message (quote p.text))]⟩
    | .ok bytes =>
      if suffix == ".png" then ⟨pngDimensions? bytes, []⟩
      else
        match scanJpeg bytes with
        | .frame d => ⟨some d, []⟩
        | .noFrame => ⟨none, []⟩
        | .cutOff left =>
          ⟨none, [.dimensionsUnreadable p.text (cutOffReason bytes.length left)]⟩

structure Preview where
  property : String
  path : String
  resolved : Path
  location : Path
  size : Nat
  dimensions : Option Dimensions

/-- The size in units of 1024 bytes with two places, a half going to the even digit. -/
def Preview.kilobytes (p : Preview) : String :=
  let hundredths := roundHalfEven (p.size * 100) 1024
  let places := Nat.toDigits 10 (hundredths % 100)
  showInt (hundredths / 100 : Nat) ++ "." ++
    String.ofList (List.replicate (2 - places.length) '0' ++ places)

/-- The body of a hover: the picture, its name and dimensions, its path and its size. -/
def Preview.markdown (p : Preview) : String :=
  let name := (Path.ofText p.path).name
  let size := match p.dimensions with
    | some d => " (" ++ showInt d.width ++ "×" ++ showInt d.height ++ ")"
    | none => ""
  "![" ++ name ++ "](" ++ p.location.uri ++ ")\n\n" ++
    "**File:** `" ++ name ++ "`" ++ size ++ "\n\n" ++
    "**Path:** `" ++ p.path ++ "`\n\n" ++
    "**Size:** " ++ p.kilobytes ++ " KB"

/-- The picture that a line names, if it names one that is there. -/
def preview (tree : Tree) (line : List Char) (document workspace : Option Path) :
    Noted (Option Preview) :=
  match reference? line with
  | none => ⟨none, []⟩
  | some (property, path) =>
    if !pictureSuffixes.contains (lowerSuffix (Path.ofText path)) then ⟨none, []⟩
    else
      match resolve? tree path (document.map (·.parent)) workspace with
      | none => ⟨none, [.imageMissing (quote path) property]⟩
      | some resolved =>
        let found := dimensions tree resolved
        let size := match tree.read resolved.text with
          | .ok bytes => bytes.length
          | .error _ => 0
        ⟨some ⟨property, path, resolved, tree.resolve resolved, size, found.value⟩, found.notes⟩

end KvMarkup.Image
