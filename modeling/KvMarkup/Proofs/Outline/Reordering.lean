import Mathlib.Data.List.Nodup
import KvMarkup.Proofs.Outline.Extent

/-!
# The order of siblings

A document is *reordered* when the parts that a part owns are listed in another order, at any depth,
and all else is the same (`Part.Reordered`).  An outline puts siblings in the order of their lines,
so it does not show the order of the document, provided that no two parts with one owner stand on
one line (`Part.DistinctLines`).

The node of a part is made of what the part is without the parts that it owns (`Part.bare`) and of
the nodes of those parts; nothing else of the document gets into it:

    partNode types owner p =
      bareNode types owner p (p.owned.map (partNode types (ownerOf p)))                (partNode_eq)

So the equation of two outlines is one induction on parts (`partNode_eq_of_reordered`), and the only
thing to know of the sort is that lines of their own leave it no choice (`byLine_eq_of_perm`).
-/

namespace KvMarkup.Parsed

variable {ν ℓ : Type}

namespace Part

/-- A part without the parts that it owns. -/
def bare : Part ν ℓ → Part ν ℓ
  | rule r => rule ⟨r.selector, r.line, [], [], [], none, none, none⟩
  | widget w => widget ⟨w.name, w.line, w.id, [], [], [], none, none, none⟩
  | property p => property p
  | handler h => handler h
  | canvas label c => canvas label ⟨c.line, []⟩
  | instruction i => instruction ⟨i.name, i.line, []⟩

/-- Two parts that are the same but for the order, at any depth, of what they own.  What a part owns
is listed by category, so properties, handlers, children and instructions are permuted among
themselves. -/
inductive Reordered : Part ν ℓ → Part ν ℓ → Prop where
  | intro {p q : Part ν ℓ} {rs : List (Part ν ℓ)} (bare_eq : p.bare = q.bare)
      (owned : List.Forall₂ Reordered p.owned rs) (order : rs.Perm q.owned) : Reordered p q

theorem Reordered.refl (p : Part ν ℓ) : p.Reordered p := by
  induction p using Part.induction with
  | step p ih => exact .intro rfl (List.forall₂_same.mpr ih) (.refl _)

/-- No two parts with one owner stand on one line. -/
def DistinctLines (p : Part ν ℓ) : Prop := ∀ q ∈ p.all, (q.owned.map line).Nodup

instance [DecidableEq ℓ] (p : Part ν ℓ) : Decidable p.DistinctLines :=
  inferInstanceAs (Decidable (∀ q ∈ p.all, _))

theorem DistinctLines.of_mem_owned {p q : Part ν ℓ} (h : p.DistinctLines) (hq : q ∈ p.owned) :
    q.DistinctLines :=
  fun r hr => h r (mem_all_of_mem_owned hq hr)

end Part

namespace Module

/-- Two documents with the same rules and the same root but for the order of what these own. -/
def Reordered (m k : Module ν ℓ) : Prop := List.Forall₂ Part.Reordered m.parts k.parts

/-- Nowhere in the document do two parts with one owner stand on one line. -/
def DistinctLines (m : Module ν ℓ) : Prop := ∀ p ∈ m.parts, p.DistinctLines

instance [DecidableEq ℓ] (m : Module ν ℓ) : Decidable m.DistinctLines :=
  inferInstanceAs (Decidable (∀ p ∈ m.parts, _))

end Module

end KvMarkup.Parsed

namespace KvMarkup.Outline

open KvMarkup.Parsed

/-! ## Sorting -/

/-- The order in which nodes are gathered does not matter when each stands on a line of its own. -/
theorem byLine_eq_of_perm {ν : Type} {ns ms : List (Node ν Int)} (h : ns.Perm ms)
    (hd : (ns.map Node.line).Nodup) : byLine ns = byLine ms := by
  have hns := sortedByLine_byLine ns
  have hms := sortedByLine_byLine ms
  refine List.Perm.eq_of_pairwise ?_ hns.pairwise hms.pairwise
    (hns.perm.trans (h.trans hms.perm.symm))
  intro a b ha hb hab hba
  have ha' : a ∈ ns := hns.perm.mem_iff.mp ha
  have hb' : b ∈ ns := h.mem_iff.mpr (hms.perm.mem_iff.mp hb)
  exact List.inj_on_of_nodup_map hd ha' hb' (Int.le_antisymm hab hba)

/-! ## The node of a part -/

section
variable (types : TypeLookup String)

/-- What a catalogue is told of a part when it is asked about the properties that the part owns; a
part that owns none counts as a widget. -/
def ownerOf : Part String Int → Owner × String
  | .rule r => (.widget, r.selector)
  | .widget w => (if isDrawing w.name then .instruction else .widget, w.name)
  | .instruction i => (.instruction, i.name)
  | p => (.widget, displayName p)

/-- The node of a part with the given owner. -/
def partNode (owner : Owner × String) : Part String Int → Node String Int
  | .rule r => ruleNode types r
  | .widget w => widgetNode types w
  | .property p => propertyNode types owner.1 owner.2 p
  | .handler h => handlerNode h
  | .canvas label c => canvasNode types label c
  | .instruction i => instructionNode types i

/-- The detail of a part with the given owner. -/
def displayDetail (owner : Owner × String) : Part String Int → String
  | .rule _ => "rule"
  | .widget w => if isDrawing w.name then "canvas instruction" else "widget"
  | .property p => propertyDetail types owner.1 owner.2 p.name
  | .handler _ => "event handler"
  | .canvas _ _ => "canvas block"
  | .instruction _ => "canvas instruction"

/-- The node of a part with the given nodes put under it, beside that of its value. -/
def bareNode (owner : Owner × String) (p : Part String Int) (ns : List (Node String Int)) :
    Node String Int :=
  node (displayName p) (displayKind p) (displayDetail types owner p) p.line (valueNodes p ++ ns)

theorem bareNode_bare (owner : Owner × String) (p : Part String Int) :
    bareNode types owner p.bare = bareNode types owner p := by
  cases p <;> rfl

theorem ownerOf_bare (p : Part String Int) : ownerOf p.bare = ownerOf p := by
  cases p <;> rfl

theorem line_partNode (owner : Owner × String) (p : Part String Int) :
    (partNode types owner p).line = p.line := by
  cases p with
  | widget w => cases w; rfl
  | _ => rfl

theorem widgetNodes_eq_map {ν ℓ : Type} [Label ν] [LineOrder ℓ] (types : TypeLookup ν)
    (ws : List (Widget ν ℓ)) : widgetNodes types ws = ws.map (widgetNode types) := by
  induction ws with
  | nil => rfl
  | cons w ws ih => rw [widgetNodes, ih, List.map_cons]

theorem map_partNode_canvases (owner : Owner × String) (c b a : Option (Canvas String Int)) :
    (Part.canvases c b a).map (partNode types owner) = canvasNodes types c b a := by
  cases c <;> cases b <;> cases a <;> rfl

theorem map_partNode_gathered (owner : Owner × String) (ps : List (Property String Int))
    (hs : List (Handler String Int)) (ws : List (Widget String Int))
    (c b a : Option (Canvas String Int)) :
    (Part.gathered ps hs ws c b a).map (partNode types owner) =
      ps.map (propertyNode types owner.1 owner.2) ++ hs.map handlerNode ++
        widgetNodes types ws ++ canvasNodes types c b a := by
  rw [Part.gathered, List.map_append, List.map_append, List.map_append, map_partNode_canvases,
    List.map_map, List.map_map, List.map_map, widgetNodes_eq_map]
  rfl

/-- The node of a part is made of the part itself and the nodes of what it owns. -/
theorem partNode_eq (owner : Owner × String) (p : Part String Int) :
    partNode types owner p =
      bareNode types owner p (p.owned.map (partNode types (ownerOf p))) := by
  cases p with
  | rule r =>
    rw [Part.owned, map_partNode_gathered]
    rfl
  | widget w =>
    rw [Part.owned, map_partNode_gathered, bareNode, ← widgetName_eq]
    cases w
    simp only [partNode, widgetNode, displayKind, ← isDrawing_iff]
    rfl
  | property p =>
    rw [partNode, propertyNode, ← valueNodes_property, propertyKind_eq, Part.owned, bareNode,
      List.map_nil, List.append_nil]
    rfl
  | handler h => rfl
  | canvas label c =>
    rw [Part.owned, List.map_map]
    rfl
  | instruction i =>
    rw [Part.owned, List.map_map]
    rfl

/-! ## Reordered documents -/

theorem map_eq_map_of_forall₂ {α β : Type} {R : α → α → Prop} {f : α → β} {as bs : List α}
    (h : List.Forall₂ R as bs) (hf : ∀ a ∈ as, ∀ b, R a b → f a = f b) :
    as.map f = bs.map f := by
  induction h with
  | nil => rfl
  | cons hr _ ih =>
    rw [List.map_cons, List.map_cons, hf _ List.mem_cons_self _ hr,
      ih fun a ha => hf a (List.mem_cons_of_mem _ ha)]

/-- The order of the nodes that are put under a part does not matter when they stand on lines of
their own. -/
theorem bareNode_eq_of_perm (owner : Owner × String) (p : Part String Int)
    {ns ms : List (Node String Int)} (h : ns.Perm ms)
    (hd : ((valueNodes p ++ ns).map Node.line).Nodup) :
    bareNode types owner p ns = bareNode types owner p ms := by
  rw [bareNode, bareNode, node, node, byLine_eq_of_perm (h.append_left _) hd]

theorem nodup_lines_below {p : Part String Int} (h : p.DistinctLines) (owner : Owner × String) :
    ((valueNodes p ++ p.owned.map (partNode types owner)).map Node.line).Nodup := by
  have hown := h p p.self_mem_all
  cases p with
  | property p =>
    -- the value is the only node below a property
    by_cases hv : p.value = "" <;> simp [Part.owned, valueNodes, hv]
  | _ => simpa [valueNodes, Function.comp_def, line_partNode] using hown

/-- A reordered part has the same node. -/
theorem partNode_eq_of_reordered {p q : Part String Int} (h : p.Reordered q)
    (hd : p.DistinctLines) (owner : Owner × String) :
    partNode types owner p = partNode types owner q := by
  induction p using Part.induction generalizing q owner with
  | step p ih =>
    obtain ⟨hbare, howned, horder⟩ := h
    rename_i rs
    have howner : ownerOf p = ownerOf q := by
      rw [← ownerOf_bare, hbare, ownerOf_bare]
    have hnodes : p.owned.map (partNode types (ownerOf p)) =
        rs.map (partNode types (ownerOf p)) :=
      map_eq_map_of_forall₂ howned fun r hr s hrs => ih r hr hrs (hd.of_mem_owned hr) _
    have hperm : (p.owned.map (partNode types (ownerOf p))).Perm
        (q.owned.map (partNode types (ownerOf p))) := by
      rw [hnodes]
      exact horder.map _
    calc partNode types owner p
        = bareNode types owner p (p.owned.map (partNode types (ownerOf p))) := partNode_eq ..
      _ = bareNode types owner p (q.owned.map (partNode types (ownerOf p))) :=
          bareNode_eq_of_perm types owner p hperm (nodup_lines_below types hd _)
      _ = bareNode types owner q (q.owned.map (partNode types (ownerOf q))) := by
          rw [← bareNode_bare, hbare, bareNode_bare, howner]
      _ = partNode types owner q := (partNode_eq ..).symm

/-- The trees of an outline are the nodes of the parts that no other part owns. -/
theorem ofModule_eq_map (owner : Owner × String) (m : Module String Int) :
    ofModule types m = m.parts.map (partNode types owner) := by
  rw [ofModule, Module.parts, List.map_append, List.map_map]
  cases m.root <;> rfl

end

/-- **The order of siblings does not matter.**  Two documents with the same rules and the same root
but for the order, at any depth, of what a part owns have the same outline, whatever the catalogue,
if no two parts with one owner stand on one line. -/
theorem ofModule_eq_of_reordered {m k : Module String Int} (h : m.Reordered k)
    (hd : m.DistinctLines) (types : TypeLookup String) : ofModule types m = ofModule types k := by
  rw [ofModule_eq_map types (.widget, "") m, ofModule_eq_map types (.widget, "") k]
  exact map_eq_map_of_forall₂ h fun p hp q hpq => partNode_eq_of_reordered types hpq (hd p hp) _

/-- The document `interleaved` with two properties of its root in the other order, and so the
instructions in the canvas block of its child. -/
def exchanged : Module String Int where
  rules := [⟨"Late@Label", 11, [⟨"color", "1, 1, 1", 12⟩], [], [], none, none, none⟩]
  root := some
    ⟨"BoxLayout", 1, some "box", [⟨"spacing", "4", 2⟩, ⟨"opacity", "1", 9⟩], [⟨"on_touch", 10⟩],
      [⟨"Label", 3, none, [⟨"text", "'a'", 8⟩], [], [], none,
        some ⟨4, [⟨"Rectangle", 7, []⟩, ⟨"Color", 5, [⟨"rgba", "0, 0, 1, 1", 6⟩]⟩]⟩, none⟩],
      none, none, none⟩

theorem reordered_exchanged : interleaved.Reordered exchanged := by
  refine .cons (.refl _) (.cons ?_ .nil)
  refine .intro rfl (.cons (.refl _) (.cons (.refl _) (.cons (.refl _) (.cons ?_ .nil)))) (.swap ..)
  refine .intro rfl (.cons (.refl _) (.cons ?_ .nil)) (.refl _)
  exact .intro rfl (.cons (.refl _) (.cons (.refl _) .nil)) (.swap ..)

theorem ofModule_eq_of_reordered_exchanged :
    interleaved.Reordered exchanged ∧ interleaved.DistinctLines ∧
      ofModule noTypes interleaved = ofModule noTypes exchanged :=
  have hd : interleaved.DistinctLines := by decide
  ⟨reordered_exchanged, hd, ofModule_eq_of_reordered reordered_exchanged hd noTypes⟩

end KvMarkup.Outline
