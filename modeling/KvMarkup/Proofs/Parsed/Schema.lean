import Mathlib.Data.List.Forall2
import KvMarkup.Parsed.Decode
import KvMarkup.Proofs.Parsed.Part

/-!
# The shape of a parser's document

What a value is read as is its *role*.  A role says which keys an object of it has to have, and under
which keys further values are read, as what and in which order: its *slots*.  From these two tables
come

* `faults`, everything in a value that does not fit, in reading order: the keys that are missing, and
  then slot by slot what is wrong there;
* `Represents`, which says that a part of a document has the fields of an object, and owns one part
  for each value in the object's slots, in order;
* `Shaped`, the values in which nothing is odd: collections are sequences, blocks are objects, and
  every object has its keys.

A value is represented by one part at most (`Represents.unique`), and nothing is wrong with a value
that is shaped (`Shaped.faults_eq_nil`).
-/

namespace KvMarkup.Parsed

/-! ## Roles and slots -/

/-- What a value is read as.  A canvas block is shown under a label. -/
inductive Role where
  | document
  | rule
  | widget
  | property
  | handler
  | canvas (label : String)
  | instruction

/-- How many parts stand under a key. -/
inductive Nesting where
  /-- Any number, in a collection. -/
  | many
  /-- One, or null. -/
  | orNull
  /-- One, or anything that is not truthy. -/
  | orNothing
deriving DecidableEq

/-- A key under which further values are read. -/
structure Slot where
  key : String
  nesting : Nesting
  role : Role

/-- The keys that an object has to have, in reading order. -/
def Role.required : Role → List String
  | .document => []
  | .rule => ["selectorName", "line"]
  | .widget => ["name", "line"]
  | .property => ["name", "line"]
  | .handler => ["name", "line"]
  | .canvas _ => ["line"]
  | .instruction => ["instructionType", "line"]

/-- The slots of a rule or a widget. -/
def ownerSlots : List Slot :=
  [⟨"properties", .many, .property⟩, ⟨"handlers", .many, .handler⟩, ⟨"children", .many, .widget⟩,
   ⟨"canvas", .orNull, .canvas "canvas"⟩, ⟨"canvasBefore", .orNull, .canvas "canvas.before"⟩,
   ⟨"canvasAfter", .orNull, .canvas "canvas.after"⟩]

/-- The slots of an object, in reading order. -/
def Role.slots : Role → List Slot
  | .document => [⟨"rules", .many, .rule⟩, ⟨"root", .orNothing, .widget⟩]
  | .rule => ownerSlots
  | .widget => ownerSlots
  | .property => []
  | .handler => []
  | .canvas _ => [⟨"instructions", .many, .instruction⟩]
  | .instruction => [⟨"properties", .many, .property⟩]

/-! ## What stands in a slot -/

/-- The values that are read as parts, given what stands under a key. -/
def Nesting.parts : Nesting → Option Data → List Data
  | _, none => []
  | .many, some (.list items) => items
  | .many, some _ => []
  | .orNull, some .null => []
  | .orNull, some d => [d]
  | .orNothing, some d => if d.isTruthy then [d] else []

/-- What is wrong with a value that stands in place of a sequence.  Its items are the characters of
a text and the keys of a mapping, none of which is an object; other values have no items. -/
def misplaced : Data → List Fault
  | .list _ => []
  | .str s => s.toList.map fun c => .notIndexed (.str (String.singleton c))
  | .map entries => entries.map fun e => .notIndexed e.1
  | d => [.notIterable d.typeName]

/-- What is wrong with what stands under a key, apart from its parts. -/
def Nesting.faults : Nesting → Option Data → List Fault
  | .many, some d => misplaced d
  | _, _ => []

/-- The values of an object that are read as the parts in a slot. -/
def Slot.parts (s : Slot) (entries : List (Data × Data)) : List Data :=
  s.nesting.parts (Data.field? entries s.key)

/-- What is wrong with a slot of an object, apart from the parts in it. -/
def Slot.own (s : Slot) (entries : List (Data × Data)) : List Fault :=
  s.nesting.faults (Data.field? entries s.key)

theorem Nesting.sizeOf_le {n : Nesting} {v d : Data} (h : d ∈ n.parts (some v)) :
    sizeOf d ≤ sizeOf v := by
  cases n with
  | many =>
    cases v with
    | list items =>
      have := List.sizeOf_lt_of_mem (show d ∈ items from h)
      simp only [Data.list.sizeOf_spec]
      omega
    | _ => cases h
  | orNull =>
    have hd : d = v := by cases v <;> simp_all [parts]
    exact hd ▸ Nat.le_refl _
  | orNothing =>
    have hd : d = v := by simp_all [parts]
    exact hd ▸ Nat.le_refl _

/-- A part is smaller than the object that it is in. -/
theorem Slot.sizeOf_lt {s : Slot} {entries : List (Data × Data)} {d : Data}
    (h : d ∈ s.parts entries) : sizeOf d < sizeOf entries := by
  rw [parts] at h
  cases hfield : Data.field? entries s.key with
  | none =>
    rw [hfield] at h
    cases hn : s.nesting <;> simp [Nesting.parts] at h
  | some v =>
    rw [hfield] at h
    exact Nat.lt_of_le_of_lt (Nesting.sizeOf_le h) (Data.sizeOf_find?_lt hfield)

/-! ## Everything that does not fit -/

/-- The fault of a missing key. -/
def missing (entries : List (Data × Data)) (key : String) : List Fault :=
  if (Data.field? entries key).isNone then [.missingKey key] else []

/-- The fault of a value that is no object. -/
def Role.misfit (role : Role) (d : Data) : Fault :=
  match role with
  | .document => .lacks d.typeName "get"
  | _ => .notIndexed d

/-- Everything in a value that does not fit its role, in reading order. -/
def faults (role : Role) (d : Data) : List Fault :=
  match d with
  | .map entries =>
    role.required.flatMap (missing entries) ++
      role.slots.flatMap fun s =>
        s.own entries ++ (s.parts entries).attach.flatMap fun x => faults s.role x.1
  | d => [role.misfit d]
termination_by sizeOf d
decreasing_by
  have := Slot.sizeOf_lt x.2
  simp only [Data.map.sizeOf_spec]
  omega

/-- What is wrong in a slot, from the slot itself to the parts in it. -/
def Slot.faults (s : Slot) (entries : List (Data × Data)) : List Fault :=
  s.own entries ++ (s.parts entries).flatMap (Parsed.faults s.role)

theorem faults_map (role : Role) (entries : List (Data × Data)) :
    faults role (.map entries) =
      role.required.flatMap (missing entries) ++ role.slots.flatMap fun s => s.faults entries := by
  simp only [faults, Slot.faults, List.flatMap_subtype, List.unattach_attach]

theorem faults_of_not_map (role : Role) {d : Data} (h : ∀ entries, d ≠ .map entries) :
    faults role d = [role.misfit d] := by
  rw [faults]
  exact h

theorem Role.slots_ne_document (role : Role) : ∀ s ∈ role.slots, s.role ≠ .document := by
  cases role <;> simp [Role.slots, ownerSlots]

theorem kind_of_mem_misplaced {d : Data} {f : Fault} (h : f ∈ misplaced d) :
    f.kind = .type := by
  cases d <;> simp only [misplaced, List.mem_map, List.mem_singleton, List.not_mem_nil] at h
  case str => obtain ⟨c, -, rfl⟩ := h; rfl
  case map => obtain ⟨e, -, rfl⟩ := h; rfl
  all_goals exact h ▸ rfl

/-- Only a document that is no object lacks something other than a key or a type. -/
theorem kind_of_mem_faults (role : Role) (d : Data) {f : Fault} (h : f ∈ faults role d) :
    f.kind = .key ∨ f.kind = .type ∨
      f.kind = .attribute ∧ role = .document ∧ ∀ entries, d ≠ .map entries := by
  induction role, d using faults.induct with
  | case1 role entries ih =>
    rw [faults_map, List.mem_append, List.mem_flatMap, List.mem_flatMap] at h
    obtain ⟨key, -, h⟩ | ⟨s, hs, h⟩ := h
    · simp only [missing] at h
      split at h
      · exact .inl (List.mem_singleton.mp h ▸ rfl)
      · cases h
    · rw [Slot.faults, List.mem_append, List.mem_flatMap] at h
      obtain h | ⟨x, hx, h⟩ := h
      · rw [Slot.own, Nesting.faults.eq_def] at h
        split at h
        · exact .inr (.inl (kind_of_mem_misplaced h))
        · cases h
      · obtain hk | hk | ⟨-, hdoc, -⟩ := ih s ⟨x, hx⟩ h
        · exact .inl hk
        · exact .inr (.inl hk)
        · exact absurd hdoc (role.slots_ne_document s hs)
  | case2 role d hd =>
    rw [faults_of_not_map role hd, List.mem_singleton] at h
    subst h
    cases role with
    | document => exact .inr (.inr ⟨rfl, rfl, hd⟩)
    | _ => exact .inr (.inl rfl)

/-! ## Values in which nothing is odd -/

/-- Objects with all their keys, whose collections are missing or sequences, and in whose slots
nothing is read that is not of this kind. -/
inductive Shaped : Role → Data → Prop
  | intro {role : Role} {entries : List (Data × Data)}
      (keys : ∀ key ∈ role.required, (Data.field? entries key).isSome)
      (sequences : ∀ s ∈ role.slots, s.nesting = .many →
        ∀ d, Data.field? entries s.key = some d → ∃ items, d = .list items)
      (parts : ∀ s ∈ role.slots, ∀ d ∈ s.parts entries, Shaped s.role d) :
      Shaped role (.map entries)

/-- Nothing is wrong with a value that is shaped. -/
theorem Shaped.faults_eq_nil {role : Role} {d : Data} (h : Shaped role d) :
    faults role d = [] := by
  induction h with
  | @intro role entries keys sequences parts ih =>
    have hkeys : ∀ key ∈ role.required, missing entries key = [] := fun key hkey => by
      simp [missing, Option.isSome_iff_ne_none.mp (keys key hkey)]
    have hown : ∀ s ∈ role.slots, s.own entries = [] := fun s hs => by
      rw [Slot.own, Nesting.faults.eq_def]
      split
      next d hn hfield =>
        obtain ⟨items, rfl⟩ := sequences s hs hn d hfield
        rfl
      · rfl
    rw [faults_map, List.append_eq_nil_iff, List.flatMap_eq_nil_iff, List.flatMap_eq_nil_iff]
    refine ⟨hkeys, fun s hs => ?_⟩
    rw [Slot.faults, List.append_eq_nil_iff, List.flatMap_eq_nil_iff]
    exact ⟨hown s hs, ih s hs⟩

/-! ## The part that represents a value -/

/-- What the slots of an object hold, each value with its role. -/
def Role.items (role : Role) (entries : List (Data × Data)) : List (Role × Data) :=
  role.slots.flatMap fun s => (s.parts entries).map (s.role, ·)

/-- The part has the fields of the object: what stands under its required keys, the identifier
unless it is null, and the value with the empty text as its default. -/
inductive Describes (entries : List (Data × Data)) : Role → Part Data Data → Prop
  | rule {r : Rule Data Data}
      (selector : Data.field? entries "selectorName" = some r.selector)
      (line : Data.field? entries "line" = some r.line) : Describes entries .rule (.rule r)
  | widget {w : Widget Data Data}
      (name : Data.field? entries "name" = some w.name)
      (line : Data.field? entries "line" = some w.line)
      (id : ∀ d, w.id = some d ↔ Data.field? entries "id" = some d ∧ d ≠ .null) :
      Describes entries .widget (.widget w)
  | property {p : Property Data Data}
      (name : Data.field? entries "name" = some p.name)
      (line : Data.field? entries "line" = some p.line)
      (value : p.value = (Data.field? entries "value").getD (.str "")) :
      Describes entries .property (.property p)
  | handler {h : Handler Data Data}
      (name : Data.field? entries "name" = some h.name)
      (line : Data.field? entries "line" = some h.line) : Describes entries .handler (.handler h)
  | canvas {label : String} {c : Canvas Data Data}
      (line : Data.field? entries "line" = some c.line) :
      Describes entries (.canvas label) (.canvas label c)
  | instruction {i : Instruction Data Data}
      (name : Data.field? entries "instructionType" = some i.name)
      (line : Data.field? entries "line" = some i.line) :
      Describes entries .instruction (.instruction i)

/-- The part has the fields of an object and owns one part for each value in the object's slots, in
their order. -/
inductive Represents : Role → Data → Part Data Data → Prop
  | intro {role : Role} {entries : List (Data × Data)} {p : Part Data Data}
      (fields : Describes entries role p)
      (owned : List.Forall₂ (fun x q => Represents x.1 x.2 q) (role.items entries) p.owned) :
      Represents role (.map entries) p

/-- The document has one part for each of the object's rules, in their order, and one for its root
if it has one. -/
def Represented (d : Data) (m : Module Data Data) : Prop :=
  ∃ entries, d = .map entries ∧
    List.Forall₂ (fun x q => Represents x.1 x.2 q) (Role.items .document entries) m.parts

/-! ## There is one part at most -/

namespace Part

variable {ν ℓ : Type}

/-- The rule that a part is. -/
def rule? : Part ν ℓ → Option (Rule ν ℓ)
  | rule r => some r
  | _ => none

/-- The property that a part is. -/
def property? : Part ν ℓ → Option (Property ν ℓ)
  | property p => some p
  | _ => none

/-- The handler that a part is. -/
def handler? : Part ν ℓ → Option (Handler ν ℓ)
  | handler h => some h
  | _ => none

/-- The widget that a part is. -/
def widget? : Part ν ℓ → Option (Widget ν ℓ)
  | widget w => some w
  | _ => none

/-- The canvas block that a part is under a label. -/
def canvas? (label : String) : Part ν ℓ → Option (Canvas ν ℓ)
  | canvas l c => if l = label then some c else none
  | _ => none

theorem filterMap_toList_map {α β γ : Type} (f : β → Option γ) (g : α → β) (x : Option α) :
    (x.map g).toList.filterMap f = (x.bind fun y => f (g y)).toList := by
  cases x with
  | none => rfl
  | some y => cases h : f (g y) <;> simp [h]

theorem filterMap_gathered {α : Type} (f : Part ν ℓ → Option α) (ps : List (Property ν ℓ))
    (hs : List (Handler ν ℓ)) (cs : List (Widget ν ℓ)) (c b a : Option (Canvas ν ℓ)) :
    (gathered ps hs cs c b a).filterMap f =
      ps.filterMap (fun p => f (property p)) ++ hs.filterMap (fun h => f (handler h)) ++
        cs.filterMap (fun w => f (widget w)) ++
        ((c.bind fun d => f (canvas "canvas" d)).toList ++
          (b.bind fun d => f (canvas "canvas.before" d)).toList ++
          (a.bind fun d => f (canvas "canvas.after" d)).toList) := by
  simp only [gathered, canvases, List.filterMap_append, List.filterMap_map, filterMap_toList_map,
    Function.comp_def]

/-- What a rule or a widget owns says what it owns of each category. -/
theorem gathered_inj {ps ps' : List (Property ν ℓ)} {hs hs' : List (Handler ν ℓ)}
    {cs cs' : List (Widget ν ℓ)} {c c' b b' a a' : Option (Canvas ν ℓ)}
    (h : gathered ps hs cs c b a = gathered ps' hs' cs' c' b' a') :
    ps = ps' ∧ hs = hs' ∧ cs = cs' ∧ c = c' ∧ b = b' ∧ a = a' := by
  have hp : ps = ps' := by
    simpa [filterMap_gathered, property?] using congrArg (List.filterMap property?) h
  have hh : hs = hs' := by
    simpa [filterMap_gathered, handler?] using congrArg (List.filterMap handler?) h
  have hw : cs = cs' := by
    simpa [filterMap_gathered, widget?] using congrArg (List.filterMap widget?) h
  have block (label : String) := congrArg (fun l => (l.filterMap (canvas? label)).head?) h
  have hc : c = c' := by simpa [filterMap_gathered, canvas?] using block "canvas"
  have hb : b = b' := by simpa [filterMap_gathered, canvas?] using block "canvas.before"
  have ha : a = a' := by simpa [filterMap_gathered, canvas?] using block "canvas.after"
  exact ⟨hp, hh, hw, hc, hb, ha⟩

end Part

theorem Module.filterMap_parts {ν ℓ α : Type} (f : Part ν ℓ → Option α) (m : Module ν ℓ) :
    m.parts.filterMap f =
      m.rules.filterMap (fun r => f (.rule r)) ++ (m.root.bind fun w => f (.widget w)).toList := by
  simp only [Module.parts, List.filterMap_append, List.filterMap_map, Part.filterMap_toList_map,
    Function.comp_def]

/-- Two parts with the fields of one object are the same if they own the same. -/
theorem Describes.eq_of_owned {role : Role} {entries : List (Data × Data)} {p q : Part Data Data}
    (hp : Describes entries role p) (hq : Describes entries role q) (howned : p.owned = q.owned) :
    p = q := by
  cases hp with
  | @rule r selector line =>
    cases hq with
    | @rule r' selector' line' =>
      obtain ⟨hps, hhs, hcs, hc, hb, ha⟩ := Part.gathered_inj howned
      cases r
      cases r'
      simp_all
  | @widget w name line id =>
    cases hq with
    | @widget w' name' line' id' =>
      obtain ⟨hps, hhs, hcs, hc, hb, ha⟩ := Part.gathered_inj howned
      have hid : w.id = w'.id := Option.ext fun d => (id d).trans (id' d).symm
      cases w
      cases w'
      simp_all
  | @property p name line value =>
    cases hq with
    | @property p' name' line' value' =>
      cases p
      cases p'
      simp_all
  | @handler h name line =>
    cases hq with
    | @handler h' name' line' =>
      cases h
      cases h'
      simp_all
  | @canvas label c line =>
    cases hq with
    | @canvas _ c' line' =>
      have his := List.map_injective_iff.mpr (fun _ _ => Part.instruction.inj) howned
      cases c
      cases c'
      simp_all
  | @instruction i name line =>
    cases hq with
    | @instruction i' name' line' =>
      have hps := List.map_injective_iff.mpr (fun _ _ => Part.property.inj) howned
      cases i
      cases i'
      simp_all

theorem eq_of_forall₂ {α β : Type} {R : α → β → Prop} {xs : List α} {ps qs : List β}
    (hp : List.Forall₂ R xs ps) (hq : List.Forall₂ R xs qs)
    (unique : ∀ p ∈ ps, ∀ x q, R x p → R x q → p = q) : ps = qs := by
  induction hp generalizing qs with
  | nil =>
    cases hq
    rfl
  | cons h _ ih =>
    cases hq with
    | cons h' hq =>
      rw [unique _ List.mem_cons_self _ _ h h',
        ih hq fun p hp => unique p (List.mem_cons_of_mem _ hp)]

/-- A value is represented by one part at most. -/
theorem Represents.unique {role : Role} {d : Data} {p q : Part Data Data}
    (hp : Represents role d p) (hq : Represents role d q) : p = q := by
  induction p using Part.induction generalizing role d q with
  | step p ih =>
    cases hp with
    | intro fields owned =>
      cases hq with
      | intro fields' owned' =>
        exact fields.eq_of_owned fields' (eq_of_forall₂ owned owned' fun r hr _ _ => ih r hr)

/-- A value is represented by one document at most. -/
theorem Represented.unique {d : Data} {m n : Module Data Data} (hm : Represented d m)
    (hn : Represented d n) : m = n := by
  obtain ⟨entries, rfl, hm⟩ := hm
  obtain ⟨_, heq, hn⟩ := hn
  cases heq
  have hparts := eq_of_forall₂ hm hn fun _ _ _ _ => Represents.unique
  obtain ⟨rules, root⟩ := m
  obtain ⟨rules', root'⟩ := n
  have hrules : rules = rules' := by
    simpa [Module.filterMap_parts, Part.rule?] using congrArg (List.filterMap Part.rule?) hparts
  have hroot : root = root' := by
    simpa [Module.filterMap_parts, Part.widget?] using
      congrArg (fun ps => (ps.filterMap Part.widget?).head?) hparts
  rw [hrules, hroot]

end KvMarkup.Parsed
