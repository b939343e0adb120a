import KvMarkup.Parsed.Module

/-!
# The parts of a document

Every record of a parsed document is a *part*, and a part owns the parts that its record holds:

    p.all = p :: p.owned.flatMap Part.all                                              (all_eq)

A rule or a widget owns its properties, handlers and child widgets and the canvas blocks that are
there, a canvas block owns its instructions and an instruction its properties.  What holds of a part
whenever it holds of those it owns holds of every part (`Part.induction`).

A document is *well nested* when each part stands below its owner, line for line, and no two parts
with the same owner, or without one, share a line between their first and last lines.
-/

namespace KvMarkup.Parsed

/-- One record of a parsed document; a canvas block comes with the label that it stands under. -/
inductive Part (ν ℓ : Type) where
  | rule (r : Rule ν ℓ)
  | widget (w : Widget ν ℓ)
  | property (p : Property ν ℓ)
  | handler (h : Handler ν ℓ)
  | canvas (label : String) (c : Canvas ν ℓ)
  | instruction (i : Instruction ν ℓ)

namespace Part

variable {ν ℓ : Type}

/-- The line that a part stands on. -/
def line : Part ν ℓ → ℓ
  | rule r => r.line
  | widget w => w.line
  | property p => p.line
  | handler h => h.line
  | canvas _ c => c.line
  | instruction i => i.line

/-- The canvas blocks that are there. -/
def canvases (canvas before after : Option (Canvas ν ℓ)) : List (Part ν ℓ) :=
  (canvas.map (Part.canvas "canvas")).toList ++
    (before.map (Part.canvas "canvas.before")).toList ++
    (after.map (Part.canvas "canvas.after")).toList

/-- What a rule or a widget owns, category by category. -/
def gathered (properties : List (Property ν ℓ)) (handlers : List (Handler ν ℓ))
    (children : List (Widget ν ℓ)) (canvas before after : Option (Canvas ν ℓ)) :
    List (Part ν ℓ) :=
  properties.map property ++ handlers.map handler ++ children.map widget ++
    canvases canvas before after

/-- The parts that a part owns. -/
def owned : Part ν ℓ → List (Part ν ℓ)
  | rule r =>
    gathered r.properties r.handlers r.children r.canvas r.canvasBefore r.canvasAfter
  | widget w =>
    gathered w.properties w.handlers w.children w.canvas w.canvasBefore w.canvasAfter
  | property _ => []
  | handler _ => []
  | canvas _ c => c.instructions.map instruction
  | instruction i => i.properties.map property

/-! ## Induction -/

section
variable {motive : Part ν ℓ → Prop} (step : ∀ p, (∀ q ∈ p.owned, motive q) → motive p)
include step

theorem of_owned_nil {p : Part ν ℓ} (h : p.owned = []) : motive p := by
  apply step
  rw [h]
  exact fun _ hq => absurd hq List.not_mem_nil

theorem of_instruction (i : Instruction ν ℓ) : motive (.instruction i) := by
  apply step
  intro q hq
  obtain ⟨p, -, rfl⟩ := List.mem_map.mp hq
  exact of_owned_nil step rfl

theorem of_canvas (label : String) (c : Canvas ν ℓ) : motive (.canvas label c) := by
  apply step
  intro q hq
  obtain ⟨i, -, rfl⟩ := List.mem_map.mp hq
  exact of_instruction step i

theorem of_mem_gathered {ps : List (Property ν ℓ)} {hs : List (Handler ν ℓ)}
    {cs : List (Widget ν ℓ)} (children : ∀ w ∈ cs, motive (.widget w))
    {c b a : Option (Canvas ν ℓ)} {q : Part ν ℓ} (hq : q ∈ gathered ps hs cs c b a) :
    motive q := by
  simp only [gathered, canvases, List.mem_append, List.mem_map, Option.mem_toList,
    Option.map_eq_some_iff] at hq
  obtain ((⟨p, -, rfl⟩ | ⟨h, -, rfl⟩) | ⟨w, hw, rfl⟩) |
    ((⟨d, -, rfl⟩ | ⟨d, -, rfl⟩) | ⟨d, -, rfl⟩) := hq
  · exact of_owned_nil step rfl
  · exact of_owned_nil step rfl
  · exact children w hw
  all_goals exact of_canvas step _ d

theorem of_widget (w : Widget ν ℓ) : motive (.widget w) :=
  step _ fun _ hq => of_mem_gathered step (fun v _ => of_widget v) hq
termination_by sizeOf w
decreasing_by
  have hlt := List.sizeOf_lt_of_mem ‹v ∈ w.children›
  cases w
  simp only [Widget.mk.sizeOf_spec] at hlt ⊢
  omega

/-- What holds of a part whenever it holds of those it owns holds of every part. -/
@[elab_as_elim]
theorem induction (p : Part ν ℓ) : motive p := by
  cases p with
  | rule r => exact step _ fun _ hq => of_mem_gathered step (fun w _ => of_widget step w) hq
  | widget w => exact of_widget step w
  | property p => exact of_owned_nil step rfl
  | handler h => exact of_owned_nil step rfl
  | canvas label c => exact of_canvas step label c
  | instruction i => exact of_instruction step i

end

/-! ## A part with everything below it -/

/-- An instruction with its properties. -/
def instructionAll (i : Instruction ν ℓ) : List (Part ν ℓ) :=
  .instruction i :: i.properties.map property

/-- A canvas block with everything in it. -/
def canvasAll (label : String) (c : Canvas ν ℓ) : List (Part ν ℓ) :=
  .canvas label c :: c.instructions.flatMap instructionAll

/-- The canvas blocks that are there with everything in them. -/
def canvasesAll (canvas before after : Option (Canvas ν ℓ)) : List (Part ν ℓ) :=
  (canvas.map (canvasAll "canvas")).getD [] ++
    (before.map (canvasAll "canvas.before")).getD [] ++
    (after.map (canvasAll "canvas.after")).getD []

mutual
/-- A widget with everything below it. -/
def widgetAll : Widget ν ℓ → List (Part ν ℓ)
  | ⟨name, line, id, ps, hs, ws, c, b, a⟩ =>
    .widget ⟨name, line, id, ps, hs, ws, c, b, a⟩ ::
      (ps.map property ++ hs.map handler ++ widgetsAll ws ++ canvasesAll c b a)
termination_by structural w => w
/-- Widgets with everything below them. -/
def widgetsAll : List (Widget ν ℓ) → List (Part ν ℓ)
  | [] => []
  | w :: ws => widgetAll w ++ widgetsAll ws
termination_by structural ws => ws
end

/-- A part with everything below it. -/
def all : Part ν ℓ → List (Part ν ℓ)
  | rule r =>
    .rule r :: (r.properties.map property ++ r.handlers.map handler ++ widgetsAll r.children ++
      canvasesAll r.canvas r.canvasBefore r.canvasAfter)
  | widget w => widgetAll w
  | property p => [property p]
  | handler h => [handler h]
  | canvas label c => canvasAll label c
  | instruction i => instructionAll i

theorem flatMap_all_of_owned_nil {α : Type} (f : α → Part ν ℓ) (h : ∀ x, (f x).all = [f x])
    (xs : List α) : (xs.map f).flatMap all = xs.map f := by
  induction xs with
  | nil => rfl
  | cons x xs ih => rw [List.map_cons, List.flatMap_cons, h, ih, List.singleton_append]

theorem flatMap_all_widgets (ws : List (Widget ν ℓ)) :
    (ws.map widget).flatMap all = widgetsAll ws := by
  induction ws with
  | nil => rfl
  | cons w ws ih => rw [List.map_cons, List.flatMap_cons, ih, widgetsAll, all]

theorem flatMap_all_canvases (c b a : Option (Canvas ν ℓ)) :
    (canvases c b a).flatMap all = canvasesAll c b a := by
  cases c <;> cases b <;> cases a <;> simp [canvases, canvasesAll, all]

theorem flatMap_all_gathered (ps : List (Property ν ℓ)) (hs : List (Handler ν ℓ))
    (cs : List (Widget ν ℓ)) (c b a : Option (Canvas ν ℓ)) :
    (gathered ps hs cs c b a).flatMap all =
      ps.map property ++ hs.map handler ++ widgetsAll cs ++ canvasesAll c b a := by
  rw [gathered, List.flatMap_append, List.flatMap_append, List.flatMap_append,
    flatMap_all_of_owned_nil property fun _ => rfl, flatMap_all_of_owned_nil handler fun _ => rfl,
    flatMap_all_widgets, flatMap_all_canvases]

/-- A part comes before everything below the parts that it owns. -/
theorem all_eq (p : Part ν ℓ) : p.all = p :: p.owned.flatMap all := by
  cases p with
  | rule r => rw [owned, flatMap_all_gathered, all]
  | widget w =>
    rw [owned, flatMap_all_gathered]
    cases w
    rfl
  | property p => rfl
  | handler h => rfl
  | canvas label c =>
    rw [owned, List.flatMap_map]
    rfl
  | instruction i =>
    rw [owned, flatMap_all_of_owned_nil property fun _ => rfl]
    rfl

theorem mem_all {p q : Part ν ℓ} : q ∈ p.all ↔ q = p ∨ ∃ r ∈ p.owned, q ∈ r.all := by
  rw [all_eq, List.mem_cons, List.mem_flatMap]

theorem self_mem_all (p : Part ν ℓ) : p ∈ p.all := mem_all.mpr (.inl rfl)

theorem mem_all_of_mem_owned {p q r : Part ν ℓ} (hr : r ∈ p.owned) (hq : q ∈ r.all) : q ∈ p.all :=
  mem_all.mpr (.inr ⟨r, hr, hq⟩)

/-! ## Lines -/

/-- The greatest line of a part and everything below it. -/
def lastLine (p : Part ν Int) : Int := (p.all.map line).max (by simp [all_eq])

theorem line_le_lastLine {p q : Part ν Int} (h : q ∈ p.all) : q.line ≤ p.lastLine :=
  List.le_max_of_mem (List.mem_map_of_mem h)

theorem exists_line_eq_lastLine (p : Part ν Int) : ∃ q ∈ p.all, q.line = p.lastLine :=
  List.mem_map.mp (List.max_mem _)

/-- The first and the last line of a part with everything below it. -/
def extent (p : Part ν Int) : Int × Int := (p.line, p.lastLine)

/-- Two parts that have no line in common from the first to the last line of each. -/
def Apart (p q : Part ν Int) : Prop := p.lastLine < q.line ∨ q.lastLine < p.line

instance (p q : Part ν Int) : Decidable (Apart p q) :=
  inferInstanceAs (Decidable (_ ∨ _))

/-- Everywhere below a part, parts stand below their owners and siblings are apart. -/
def WellNested (p : Part ν Int) : Prop :=
  ∀ q ∈ p.all, (∀ r ∈ q.owned, q.line < r.line) ∧ q.owned.Pairwise Apart

instance (p : Part ν Int) : Decidable p.WellNested :=
  inferInstanceAs (Decidable (∀ q ∈ p.all, _))

theorem WellNested.of_mem_owned {p r : Part ν Int} (h : p.WellNested) (hr : r ∈ p.owned) :
    r.WellNested :=
  fun q hq => h q (mem_all_of_mem_owned hr hq)

end Part

namespace Module

variable {ν ℓ : Type}

/-- The parts of a document that no other part owns: its rules and then its root. -/
def parts (m : Module ν ℓ) : List (Part ν ℓ) := m.rules.map .rule ++ (m.root.map .widget).toList

/-- A document whose parts stand below their owners, with siblings apart. -/
def WellNested (m : Module ν Int) : Prop :=
  (∀ p ∈ m.parts, p.WellNested) ∧ m.parts.Pairwise Part.Apart

instance (m : Module ν Int) : Decidable m.WellNested :=
  inferInstanceAs (Decidable ((∀ p ∈ m.parts, p.WellNested) ∧ _))

end Module

end KvMarkup.Parsed
