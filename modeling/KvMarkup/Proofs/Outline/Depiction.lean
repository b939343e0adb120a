import Mathlib.Data.List.Forall2
import KvMarkup.Outline.Mapping
import KvMarkup.Proofs.Outline.Walk
import KvMarkup.Proofs.Parsed.Part

/-!
# What an outline depicts

An outline is the tree of the parts of a document, with siblings in the order of their lines.  A
node *depicts* a part when it has the part's display name, kind and line and its children are the
nodes of what the part owns, sorted by line (`Depicts`).  A property owns nothing, and its value, if
it has one, is the one node below it.

    Depicts p (node (displayName p) (displayKind p) detail p.line (valueNodes p ++ ns))
        for nodes `ns` that depict what `p` owns                                  (depicts_node)
    List.Forall₂ Depicts m.parts (ofModule types m)                           (forall₂_ofModule)

Sorting keeps the order of nodes on one line (`SortedByLine.ties`), which is that of `Part.owned`.
-/

namespace KvMarkup.Outline

open KvMarkup.Parsed

/-! ## Nodes in the order of their lines -/

/-- The same nodes in the order of their lines, where nodes on one line keep their order. -/
structure SortedByLine {ν : Type} (gathered sorted : List (Node ν Int)) : Prop where
  perm : sorted.Perm gathered
  pairwise : sorted.Pairwise fun a b => a.line ≤ b.line
  ties : ∀ l, sorted.filter (·.line = l) = gathered.filter (·.line = l)

theorem sortedByLine_byLine {ν : Type} (ns : List (Node ν Int)) : SortedByLine ns (byLine ns) := by
  have trans : ∀ a b c : Node ν Int, LineOrder.le a.line b.line = true →
      LineOrder.le b.line c.line = true → LineOrder.le a.line c.line = true := by
    intro a b c hab hbc
    simp only [LineOrder.le, decide_eq_true_eq] at hab hbc ⊢
    omega
  have total : ∀ a b : Node ν Int,
      (LineOrder.le a.line b.line || LineOrder.le b.line a.line) = true := by
    intro a b
    simp only [LineOrder.le, Bool.or_eq_true, decide_eq_true_eq]
    omega
  have hperm : (byLine ns).Perm ns := List.mergeSort_perm _ _
  refine ⟨hperm, ?_, fun l => ?_⟩
  · exact (List.pairwise_mergeSort trans total ns).imp fun h => by simpa [LineOrder.le] using h
  · -- the nodes of one line are in order already, so they go through the sort as they are
    have htie : (ns.filter (·.line = l)).Pairwise fun a b => LineOrder.le a.line b.line = true := by
      apply List.pairwise_of_forall_mem_list
      intro a ha b hb
      simp only [List.mem_filter, decide_eq_true_eq] at ha hb
      simp [LineOrder.le, ha.2, hb.2]
    have hsub := (List.sublist_mergeSort trans total htie List.filter_sublist).filter (·.line = l)
    simp only [List.filter_filter, Bool.and_self] at hsub
    exact (hsub.eq_of_length (hperm.filter _).length_eq.symm).symm

theorem SortedByLine.eq_of_length_le_one {ν : Type} {gathered sorted : List (Node ν Int)}
    (h : SortedByLine gathered sorted) (hlen : gathered.length ≤ 1) : sorted = gathered := by
  match gathered, hlen with
  | [], _ => exact h.perm.eq_nil
  | [n], _ => exact List.perm_singleton.mp h.perm

/-! ## How a part is shown -/

/-- The name that a part is shown under. -/
def displayName : Part String Int → String
  | .rule r => r.selector
  | .widget w =>
    match w.id with
    | some id => if id = "" then w.name else w.name ++ " (id: " ++ id ++ ")"
    | none => w.name
  | .property p => p.name
  | .handler h => h.name
  | .canvas label _ => label
  | .instruction i => i.name

/-- The kind that a part is shown as. -/
def displayKind : Part String Int → Kind
  | .rule _ => .rule
  | .widget w => if w.name ∈ drawingInstructions then .instruction else .widget
  | .property p =>
    if "on_".toList <+: p.name.toList then .event
    else if p.name = "id" then .identifier
    else .property
  | .handler _ => .event
  | .canvas _ _ => .canvasBlock
  | .instruction _ => .instruction

/-- The node of a value, five columns wide. -/
def valueOn (line : Int) (value : String) : Node String Int :=
  ⟨"value: " ++ value, .value, ⟨⟨line, 1⟩, ⟨line, 6⟩⟩, ⟨⟨line, 1⟩, ⟨line, 6⟩⟩, none, []⟩

/-- The node of a part's value: a property with a value that is not empty has one. -/
def valueNodes : Part String Int → List (Node String Int)
  | .property p => if p.value = "" then [] else [valueOn p.line p.value]
  | _ => []

/-- The node shows the part, and its children show the part's value and what the part owns, one node
for each, in the order of their lines. -/
inductive Depicts : Part String Int → Node String Int → Prop where
  | intro {p : Part String Int} {n : Node String Int} {ns : List (Node String Int)}
      (name_eq : n.name = displayName p)
      (kind_eq : n.kind = displayKind p)
      (range_eq : n.range = ⟨⟨p.line, 1⟩, ⟨p.line, 1 + (displayName p).length⟩⟩)
      (selection_eq : n.selection = n.range)
      (owned : List.Forall₂ Depicts p.owned ns)
      (children : SortedByLine (valueNodes p ++ ns) n.children) : Depicts p n

/-! ## One node for each part -/

theorem depicts_node (p : Part String Int) {ns : List (Node String Int)}
    (h : List.Forall₂ Depicts p.owned ns) (detail : String) :
    Depicts p (node (displayName p) (displayKind p) detail p.line (valueNodes p ++ ns)) :=
  .intro rfl rfl rfl rfl h (sortedByLine_byLine _)

section
variable (types : TypeLookup String)

theorem propertyKind_eq (p : Property String Int) :
    propertyKind p.name = displayKind (.property p) := by
  simp [propertyKind, beginsWith, isNamed, Label.text?, displayKind]

theorem valueNodes_property (p : Property String Int) :
    valueNodes (.property p) =
      if Label.isPresent p.value then [valueNode p.value p.line] else [] := by
  by_cases h : p.value = ""
  · simp [Label.isPresent, valueNodes, h]
  · simp only [Label.isPresent, valueNodes, h, if_false, bne_iff_ne, ne_eq, not_false_eq_true,
      if_true]
    rfl

theorem depicts_propertyNode (owner : Owner) (ownerName : String) (p : Property String Int) :
    Depicts (.property p) (propertyNode types owner ownerName p) := by
  rw [propertyNode, ← valueNodes_property, propertyKind_eq, ← List.append_nil (valueNodes _)]
  exact depicts_node (.property p) .nil _

theorem depicts_handlerNode (h : Handler String Int) : Depicts (.handler h) (handlerNode h) :=
  depicts_node (.handler h) .nil _

theorem forall₂_map_map {α : Type} {f : α → Part String Int} {g : α → Node String Int}
    (h : ∀ x, Depicts (f x) (g x)) (xs : List α) : List.Forall₂ Depicts (xs.map f) (xs.map g) := by
  rw [List.forall₂_map_left_iff, List.forall₂_map_right_iff, List.forall₂_same]
  exact fun x _ => h x

theorem depicts_instructionNode (i : Instruction String Int) :
    Depicts (.instruction i) (instructionNode types i) :=
  depicts_node (.instruction i) (forall₂_map_map (depicts_propertyNode types _ _) _) _

theorem depicts_canvasNode (label : String) (c : Canvas String Int) :
    Depicts (.canvas label c) (canvasNode types label c) :=
  depicts_node (.canvas label c) (forall₂_map_map (depicts_instructionNode types) _) _

theorem forall₂_canvasNodes (c b a : Option (Canvas String Int)) :
    List.Forall₂ Depicts (Part.canvases c b a) (canvasNodes types c b a) := by
  have hone : ∀ label (c : Option (Canvas String Int)), List.Forall₂ Depicts
      (c.map (Part.canvas label)).toList (c.map (canvasNode types label)).toList := by
    intro label c
    cases c with
    | none => exact .nil
    | some c => exact .cons (depicts_canvasNode types label c) .nil
  exact List.rel_append (List.rel_append (hone _ c) (hone _ b)) (hone _ a)

theorem forall₂_gathered {owner : Owner} {ownerName : String} {ws : List (Widget String Int)}
    (hw : List.Forall₂ Depicts (ws.map .widget) (widgetNodes types ws))
    (ps : List (Property String Int)) (hs : List (Handler String Int))
    (c b a : Option (Canvas String Int)) :
    List.Forall₂ Depicts (Part.gathered ps hs ws c b a)
      (ps.map (propertyNode types owner ownerName) ++ hs.map handlerNode ++
        widgetNodes types ws ++ canvasNodes types c b a) := by
  have hp := forall₂_map_map (depicts_propertyNode types owner ownerName) ps
  have hh := forall₂_map_map depicts_handlerNode hs
  have hc := forall₂_canvasNodes types c b a
  exact List.rel_append (List.rel_append (List.rel_append hp hh) hw) hc

theorem widgetName_eq (w : Widget String Int) :
    widgetName w.name w.id = displayName (.widget w) := by
  obtain ⟨name, line, id, ps, hs, ws, c, b, a⟩ := w
  cases id with
  | none => rfl
  | some id =>
    by_cases h : id = "" <;>
      simp [widgetName, displayName, Label.isPresent, Label.ofText, Label.shown, h]

theorem isDrawing_iff (name : String) : isDrawing name = true ↔ name ∈ drawingInstructions := by
  simp [isDrawing, Label.text?]

mutual
theorem depicts_widgetNode : (w : Widget String Int) → Depicts (.widget w) (widgetNode types w)
  | ⟨name, line, id, ps, hs, ws, c, b, a⟩ => by
    have hkind : (if isDrawing name then Kind.instruction else Kind.widget) =
        displayKind (.widget ⟨name, line, id, ps, hs, ws, c, b, a⟩) := by
      simp only [isDrawing_iff, displayKind]
    have hname := widgetName_eq ⟨name, line, id, ps, hs, ws, c, b, a⟩
    rw [widgetNode, hkind, hname]
    exact depicts_node (.widget ⟨name, line, id, ps, hs, ws, c, b, a⟩)
      (forall₂_gathered types (forall₂_widgetNodes ws) ps hs c b a) _
theorem forall₂_widgetNodes : (ws : List (Widget String Int)) →
    List.Forall₂ Depicts (ws.map .widget) (widgetNodes types ws)
  | [] => .nil
  | w :: ws => .cons (depicts_widgetNode w) (forall₂_widgetNodes ws)
end

theorem depicts_ruleNode (r : Rule String Int) : Depicts (.rule r) (ruleNode types r) :=
  depicts_node (.rule r) (forall₂_gathered types (forall₂_widgetNodes types r.children) _ _ _ _ _) _

end

theorem forall₂_ofModule (types : TypeLookup String) (m : Module String Int) :
    List.Forall₂ Depicts m.parts (ofModule types m) := by
  have hrules := forall₂_map_map (depicts_ruleNode types) m.rules
  have hroot : List.Forall₂ Depicts (m.root.map Part.widget).toList
      (m.root.map (widgetNode types)).toList := by
    cases m.root with
    | none => exact .nil
    | some w => exact .cons (depicts_widgetNode types w) .nil
  exact List.rel_append hrules hroot

/-! ## All nodes and all parts -/

/-- What a node shows: its name, its kind and its line. -/
def caption (n : Node String Int) : String × Kind × Int := (n.name, n.kind, n.line)

/-- What is to be shown of a part itself and of its value. -/
def captions (p : Part String Int) : List (String × Kind × Int) :=
  (displayName p, displayKind p, p.line) :: (valueNodes p).map caption

theorem walkAll_valueNodes (p : Part String Int) : Node.walkAll (valueNodes p) = valueNodes p := by
  cases p with
  | property p =>
    by_cases h : p.value = ""
    · simp [valueNodes, h, Node.walkAll]
    · simp [valueNodes, h, Node.walkAll, Node.walk, valueOn]
  | _ => rfl

theorem captions_forest {ps : List (Part String Int)} {ns : List (Node String Int)}
    (h : List.Forall₂ Depicts ps ns)
    (hp : ∀ p ∈ ps, ∀ n, Depicts p n → (n.walk.map caption).Perm (p.all.flatMap captions)) :
    ((Node.walkAll ns).map caption).Perm ((ps.flatMap Part.all).flatMap captions) := by
  induction h with
  | nil => exact .nil
  | cons hd _ ih =>
    rw [Node.walkAll, List.map_append, List.flatMap_cons, List.flatMap_append]
    exact (hp _ List.mem_cons_self _ hd).append
      (ih fun p hmem => hp p (List.mem_cons_of_mem _ hmem))

theorem captions_walk (p : Part String Int) :
    ∀ n, Depicts p n → (n.walk.map caption).Perm (p.all.flatMap captions) := by
  induction p using Part.induction with
  | step p ih =>
    rintro n ⟨hname, hkind, hrange, -, howned, hsorted⟩
    rename_i ns
    have hself : caption n = (displayName p, displayKind p, p.line) := by
      rw [caption, hname, hkind, Node.line, hrange]
    have hbelow : ((Node.walkAll n.children).map caption).Perm
        ((valueNodes p).map caption ++ (Node.walkAll ns).map caption) := by
      have hwalk := ((hsorted.perm.flatMap_right Node.walk).map caption)
      rw [List.flatMap_append, ← Node.walkAll_eq_flatMap, ← Node.walkAll_eq_flatMap,
        ← Node.walkAll_eq_flatMap, walkAll_valueNodes, List.map_append] at hwalk
      exact hwalk
    rw [Node.walk_eq, List.map_cons, hself, Part.all_eq, List.flatMap_cons, captions,
      List.cons_append]
    exact (hbelow.trans ((captions_forest howned ih).append_left _)).cons _

/-- **The outline neither loses nor invents a node.**  It has one tree for each rule, in declaration
order, and then one for the root, and each tree is that of the parts below the rule or the root: one
node for each part, under the node of its owner, with the part's name, kind and line, siblings in
the order of their lines and those of one line in the order in which they are gathered.  So all
captions of the outline are those of all parts and of their values, each as often. -/
theorem ofModule_depicts (types : TypeLookup String) (m : Module String Int) :
    List.Forall₂ Depicts m.parts (ofModule types m) ∧
      ((Node.walkAll (ofModule types m)).map caption).Perm
        ((m.parts.flatMap Part.all).flatMap captions) :=
  ⟨forall₂_ofModule types m,
    captions_forest (forall₂_ofModule types m) fun p _ => captions_walk p⟩

end KvMarkup.Outline
