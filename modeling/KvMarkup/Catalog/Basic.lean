import KvMarkup.Data.Key
import KvMarkup.Outline.Checked
import KvMarkup.Yaml.Error

/-!
# The widget catalogue

A catalogue knows the widget types, with their base types and the properties that each declares
itself, and the parameters of drawing instructions.  It is built from a decoded document

    widgets:      { Label: { bases: [Widget], properties: { text: StringProperty } } }
    instructions: { Color: { rgba: color } }

and answers what type a property has.  A property is looked for on the type itself and then, depth
first and in declared order, on its base types; a type is visited once, so cycles and diamonds among
bases do no harm, and a base that the catalogue does not know is passed over.

Names are whatever the document had; looking up a name that cannot be a key is a fault.
-/

namespace KvMarkup

open KvMarkup.Outline

/-- A widget type with what it declares itself. -/
structure WidgetType where
  name : Data
  bases : List Data
  properties : List (String × String)

/-- The parameters of a drawing instruction. -/
structure InstructionType where
  name : Data
  parameters : List (String × String)

/-- Widget types and drawing instructions, in the order of the document. -/
structure Catalog where
  widgets : List WidgetType
  instructions : List InstructionType

/-- Why there is no catalogue. -/
inductive CatalogError where
  | notAMapping
  | widgetEntry (name : Data)
  | instructionEntry (name : Data)
  | unreadable (path reason : String)
  | invalidYaml (path : String) (reason : Yaml.Error)
  /-- A scalar of the document is not a value of its kind. -/
  | misfit (m : Yaml.Misfit)
  /-- A number of the document is too long to be written out. -/
  | numberTooLong
  | notText
  | fault (f : Fault)

def CatalogError.message : CatalogError → String
  | .notAMapping => "Catalog must be a mapping with 'widgets' and 'instructions'"
  | .widgetEntry name => "Widget entry for " ++ name.quoted ++ " must be a mapping"
  | .instructionEntry name => "Instruction entry for " ++ name.quoted ++ " must be a mapping"
  | .unreadable path reason => "Cannot read catalog " ++ path ++ ": " ++ reason
  | .invalidYaml path reason => "Invalid YAML in catalog " ++ path ++ ": " ++ reason.message
  | .misfit m => m.message
  | .numberTooLong => "number too long"
  | .notText => "not UTF-8"
  | .fault f => f.message

namespace Catalog

/-! ## Building -/

/-- Sets the text under a text key, in place if the key is there already. -/
def putText : List (String × String) → String → String → List (String × String)
  | [], key, value => [(key, value)]
  | (k, v) :: rest, key, value =>
    if k == key then (k, value) :: rest else (k, v) :: putText rest key value

/-- The entries of a mapping as texts. -/
def textEntries (entries : List (Data × Data)) : Except CatalogError (List (String × String)) :=
  if Data.entriesWritable entries then
    .ok (entries.foldl (fun acc e => putText acc e.1.shown e.2.shown) [])
  else .error .numberTooLong

/-- An error that shows a name. -/
def naming (name : Data) (e : Data → CatalogError) : CatalogError :=
  if name.isWritable then e name else .numberTooLong

/-- The entries of a value that may be missing or nothing, and otherwise has to be a mapping. -/
def entriesOrNone : Option Data → Except CatalogError (List (Data × Data))
  | none => .ok []
  | some (.map entries) => .ok entries
  | some d => if d.isTruthy then .error (.fault (.lacks d.typeName "items")) else .ok []

/-- The items of a value that may be missing or nothing: those of a sequence or set, the characters
of a text, the numbers of bytes or the keys of a mapping. -/
def itemsOrNone : Option Data → Except CatalogError (List Data)
  | none => .ok []
  | some (.list items) => .ok items
  | some (.tuple items) => .ok items
  | some (.set items) => .ok items
  | some (.str s) => .ok (s.toList.map fun c => .str (String.singleton c))
  | some (.bytes bs) => .ok (bs.map fun b => .int b.toNat)
  | some (.map entries) => .ok (entries.map (·.1))
  | some d => if d.isTruthy then .error (.fault (.notIterable d.typeName)) else .ok []

def widgetType (name entry : Data) : Except CatalogError WidgetType :=
  match entry with
  | .map fields => do
    let bases ← itemsOrNone (Data.field? fields "bases")
    let properties ← entriesOrNone (Data.field? fields "properties")
    let properties ← textEntries properties
    .ok ⟨name, bases, properties⟩
  | d => if d.isTruthy then .error (naming name .widgetEntry) else .ok ⟨name, [], []⟩

def instructionType (name entry : Data) : Except CatalogError InstructionType :=
  match entry with
  | .map parameters => (textEntries parameters).map fun ps => ⟨name, ps⟩
  | d => if d.isTruthy then .error (naming name .instructionEntry) else .ok ⟨name, []⟩

/-- The catalogue of a decoded document. -/
def ofData (document : Data) : Except CatalogError Catalog :=
  match document with
  | .map fields => do
    let widgets ← entriesOrNone (Data.field? fields "widgets")
    let widgets ← widgets.mapM fun e => widgetType e.1 e.2
    let instructions ← entriesOrNone (Data.field? fields "instructions")
    let instructions ← instructions.mapM fun e => instructionType e.1 e.2
    .ok ⟨widgets, instructions⟩
  | _ => .error .notAMapping

/-! ## Looking up -/

/-- The names of all widget types, in the order of the document. -/
def widgetNames (c : Catalog) : List Data := c.widgets.map (·.name)

/-- The widget type of a name that can be a key. -/
def widget? (c : Catalog) (name : Data) : Option WidgetType :=
  c.widgets.find? fun t => t.name.same name

theorem mem_of_widget? {c : Catalog} {name : Data} {t : WidgetType} (h : c.widget? name = some t) :
    t ∈ c.widgets :=
  List.mem_of_find?_eq_some h

theorem same_of_widget? {c : Catalog} {name : Data} {t : WidgetType} (h : c.widget? name = some t) :
    t.name.same name = true := by
  have hsame := List.find?_some h
  exact hsame

def widgetInfo (c : Catalog) (name : Data) : Except Fault (Option WidgetType) :=
  if name.isKey then .ok (c.widget? name) else .error (.notAKey name.typeName)

/-- The base types of a widget type; none for an unknown one. -/
def bases (c : Catalog) (name : Data) : Except Fault (List Data) :=
  (c.widgetInfo name).map fun t => (t.map (·.bases)).getD []

/-- The properties that a widget type declares itself; none for an unknown one. -/
def properties (c : Catalog) (name : Data) : Except Fault (List (String × String)) :=
  (c.widgetInfo name).map fun t => (t.map (·.properties)).getD []

/-- The widget types that no name seen so far stands for. -/
def unseen (c : Catalog) (seen : List Data) : List WidgetType :=
  c.widgets.filter fun t => !seen.any t.name.same

theorem unseen_cons (c : Catalog) (name : Data) (seen : List Data) :
    c.unseen (name :: seen) = (c.unseen seen).filter fun t => !t.name.same name := by
  rw [unseen, unseen, List.filter_filter]
  congr 1
  funext t
  rw [List.any_cons, Bool.not_or]

theorem length_unseen_cons_le (c : Catalog) (name : Data) (seen : List Data) :
    (c.unseen (name :: seen)).length ≤ (c.unseen seen).length := by
  rw [unseen_cons]
  exact List.length_filter_le _ _

/-- A type that is found under a new name is unseen no longer. -/
theorem length_unseen_cons_lt {c : Catalog} {name : Data} {seen : List Data} {t : WidgetType}
    (hk : name.isKey = true) (hnew : seen.any name.same = false) (h : c.widget? name = some t) :
    (c.unseen (name :: seen)).length < (c.unseen seen).length := by
  have hsame := same_of_widget? h
  have hcongr : t.name.same = name.same := funext (Data.same_congr t.name hk hsame)
  rw [unseen_cons, List.length_filter_lt_length_iff_exists]
  refine ⟨t, List.mem_filter.mpr ⟨mem_of_widget? h, ?_⟩, ?_⟩
  · rw [hcongr, hnew]
    rfl
  · simp [hsame]

/-- The type of a property, looked for on the pending names in turn.  A name that was seen before is
passed over, and so is one that the catalogue does not know; the bases of any other one are looked
at before the names that were pending. -/
def search (c : Catalog) (property : String) (seen pending : List Data) :
    Except Fault (Option String) :=
  match pending with
  | [] => .ok none
  | name :: pending =>
    if _hk : name.isKey = true then
      if _hs : seen.any name.same = true then c.search property seen pending
      else
        match _h : c.widget? name with
        | none => c.search property (name :: seen) pending
        | some t =>
          match t.properties.lookup property with
          | some type => .ok (some type)
          | none => c.search property (name :: seen) (t.bases ++ pending)
    else .error (.notAKey name.typeName)
termination_by ((c.unseen seen).length, pending.length)
decreasing_by
  · exact Prod.Lex.right _ (Nat.lt_succ_self _)
  · exact Prod.Lex.right' _ (length_unseen_cons_le c name seen) (Nat.lt_succ_self _)
  · exact Prod.Lex.left _ _ (length_unseen_cons_lt _hk (Bool.eq_false_iff.mpr _hs) _h)

/-- The type of a property of a widget type, inherited ones included. -/
def propertyType (c : Catalog) (property : String) (owner : Data) : Except Fault (Option String) :=
  c.search property [] [owner]

/-- The type of a parameter of a drawing instruction. -/
def parameterType (c : Catalog) (parameter : String) (owner : Data) :
    Except Fault (Option String) :=
  if owner.isKey then
    .ok ((c.instructions.find? fun t => t.name.same owner).bind fun t =>
      t.parameters.lookup parameter)
  else .error (.notAKey owner.typeName)

/-- The look-ups that an outline is made with. -/
def lookup (c : Catalog) : PartialLookup := ⟨c.propertyType, c.parameterType⟩

end Catalog

end KvMarkup
