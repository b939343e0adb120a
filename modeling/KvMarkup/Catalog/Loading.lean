import KvMarkup.Catalog.Basic
import KvMarkup.File.Tree
import KvMarkup.Note
import KvMarkup.Yaml.Load

/-!
# Catalogues from files

A catalogue is written in YAML and stored as UTF-8.  A document that is nothing is an empty
catalogue, and a note tells how much was loaded.
-/

namespace KvMarkup.Catalog

open KvMarkup.Text

def loadedNote (c : Catalog) (path : String) : Note :=
  .catalogLoaded path c.widgets.length c.instructions.length

/-- The data of a document as far as a catalogue looks at it.  The sections, their entries and the
parts of an entry are taken by themselves, since what an entry holds may lead back to any of them.
-/
def dataOf (d : Yaml.Document) : Data :=
  d.valueWith d.root fun name r =>
    if name.same (.str "widgets") then d.valueBelow 3 r
    else if name.same (.str "instructions") then d.valueBelow 2 r
    else .null

/-- The catalogue of a YAML text; the path only names it in messages. -/
def ofYaml (path text : String) : Except CatalogError (Noted Catalog) :=
  match Yaml.load (universal text).toList with
  | .error (.misfit m) => .error (.misfit m)
  | .error e => .error (.invalidYaml path e)
  | .ok document => do
    let data := dataOf document
    let c ← ofData (if data.isTruthy then data else .map [])
    .ok ⟨c, [c.loadedNote path]⟩

/-- The catalogue stored in a file. -/
def ofFile (tree : File.Tree) (path : File.Path) : Except CatalogError (Noted Catalog) :=
  let name := path.text
  match tree.read name with
  | .error m => .error (.unreadable name (m.message (quote name)))
  | .ok bytes =>
    match Text.decodeUtf8? bytes with
    | none => .error .notText
    | some text => ofYaml name text

end KvMarkup.Catalog
