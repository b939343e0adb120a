import KvMarkup.Outline.Checked
import KvMarkup.Proofs.Outline.Position
import KvMarkup.Proofs.Parsed.Part

/-!
# Outlines without types

All that a catalogue adds to an outline is the details of its properties.  Without those
(`withoutTypes`) the outlines that two catalogues give are one outline:

    (ofModule a m).map withoutTypes = (ofModule b m).map withoutTypes     (withoutTypes_ofModule)

Nodes at one position of the two have their lines in common, and each node of one outline has a
partner in the other.  The check of an unchecked document comes out the same for two catalogues
that answer whatever the document asks (`Answers`).

Whether one node contains another is decided by comparing whole nodes, details included.  Where no
two positions look the same (`ToldApart`), that comes down to the positions, and so does not depend
on the catalogue either.
-/

namespace KvMarkup.Outline

open KvMarkup.Parsed

variable {ν ℓ : Type}

/-! ## Nodes without types -/

namespace Node

mutual
/-- The node without what a catalogue says of it and of what is below it. -/
def withoutTypes : Node ν ℓ → Node ν ℓ
  | ⟨name, kind, range, selection, detail, children⟩ =>
    ⟨name, kind, range, selection, if kind = .property then none else detail,
      withoutTypesAll children⟩
termination_by structural n => n
/-- The forest without what a catalogue says of its nodes. -/
def withoutTypesAll : List (Node ν ℓ) → List (Node ν ℓ)
  | [] => []
  | n :: ns => n.withoutTypes :: withoutTypesAll ns
termination_by structural ns => ns
end

theorem withoutTypesAll_eq_map (ns : List (Node ν ℓ)) :
    withoutTypesAll ns = ns.map withoutTypes := by
  induction ns with
  | nil => rfl
  | cons n ns ih => rw [withoutTypesAll, ih, List.map_cons]

theorem withoutTypes_mk (name : ν) (kind : Kind) (range selection : Span ℓ) (detail : Option String)
    (children : List (Node ν ℓ)) :
    (⟨name, kind, range, selection, detail, children⟩ : Node ν ℓ).withoutTypes =
      ⟨name, kind, range, selection, if kind = .property then none else detail,
        children.map withoutTypes⟩ := by
  rw [withoutTypes, withoutTypesAll_eq_map]

@[simp]
theorem name_withoutTypes (n : Node ν ℓ) : n.withoutTypes.name = n.name := by
  cases n
  rfl

@[simp]
theorem kind_withoutTypes (n : Node ν ℓ) : n.withoutTypes.kind = n.kind := by
  cases n
  rfl

@[simp]
theorem range_withoutTypes (n : Node ν ℓ) : n.withoutTypes.range = n.range := by
  cases n
  rfl

@[simp]
theorem line_withoutTypes (n : Node ν ℓ) : n.withoutTypes.line = n.line := by
  cases n
  rfl

@[simp]
theorem children_withoutTypes (n : Node ν ℓ) :
    n.withoutTypes.children = n.children.map withoutTypes := by
  cases n
  rw [withoutTypes_mk]

mutual
theorem lastLine_withoutTypes : (n : Node ν ℓ) → n.withoutTypes.lastLine = n.lastLine
  | ⟨_, _, range, _, _, children⟩ => by
    rw [withoutTypes, lastLine, lastLine, lastLineOr_withoutTypesAll range.stop.line children]
theorem lastLineOr_withoutTypesAll (own : ℓ) :
    (ns : List (Node ν ℓ)) → lastLineOr own (withoutTypesAll ns) = lastLineOr own ns
  | [] => rfl
  | n :: ns => by
    rw [withoutTypesAll, lastLineOr, lastLineOr, lastLine_withoutTypes n,
      lastLineOr_withoutTypesAll n.lastLine ns]
end

theorem extent_withoutTypes (n : Node ν ℓ) : n.withoutTypes.extent = n.extent := by
  rw [extent, extent, line_withoutTypes, lastLine_withoutTypes]

theorem insertionLine_withoutTypes (n : Node ν ℓ) :
    n.withoutTypes.insertionLine = n.insertionLine := by
  rw [insertionLine, insertionLine, line_withoutTypes, children_withoutTypes,
    ← withoutTypesAll_eq_map, lastLineOr_withoutTypesAll]

/-! ## Positions -/

theorem descend?_withoutTypes (n : Node ν ℓ) (p : List Nat) :
    n.withoutTypes.descend? p = (n.descend? p).map withoutTypes := by
  induction p generalizing n with
  | nil => rfl
  | cons i p ih =>
    rw [descend?, descend?, children_withoutTypes, List.getElem?_map, Option.map_bind]
    cases n.children[i]? with
    | none => rfl
    | some c => exact ih c

theorem locate?_withoutTypes (ns : List (Node ν ℓ)) (p : List Nat) :
    locate? (ns.map withoutTypes) p = (locate? ns p).map withoutTypes := by
  cases p with
  | nil => rfl
  | cons i p =>
    rw [locate?, locate?, List.getElem?_map, Option.map_bind]
    cases ns[i]? with
    | none => rfl
    | some n => exact descend?_withoutTypes n p

section
variable {ns ms : List (Node ν ℓ)} (h : ns.map withoutTypes = ms.map withoutTypes)
include h

/-- The nodes at one position of two outlines differ in types only. -/
theorem withoutTypes_eq_of_locate? {p : List Nat} {n m : Node ν ℓ} (hn : locate? ns p = some n)
    (hm : locate? ms p = some m) : n.withoutTypes = m.withoutTypes := by
  have hboth := congrArg (fun xs => locate? xs p) h
  simp only [locate?_withoutTypes, hn, hm, Option.map_some, Option.some.injEq] at hboth
  exact hboth

/-- Each node has a partner at its position of the other outline. -/
theorem exists_partner {p : List Nat} {n : Node ν ℓ} (hn : locate? ns p = some n) :
    ∃ m, locate? ms p = some m ∧ n.withoutTypes = m.withoutTypes := by
  have hboth := congrArg (fun xs => locate? xs p) h
  simp only [locate?_withoutTypes, hn, Option.map_some] at hboth
  obtain ⟨m, hm, heq⟩ := Option.map_eq_some_iff.mp hboth.symm
  exact ⟨m, hm, heq.symm⟩

end

/-! ## Containment -/

section
variable [BEq ν] [BEq ℓ]

/-- Two nodes with the same name, kind and range. -/
def looksLike (a b : Node ν ℓ) : Bool :=
  a.name == b.name && a.kind == b.kind && sameSpan a.range b.range

/-- No two positions of an outline look the same. -/
def ToldApart (ns : List (Node ν ℓ)) : Prop :=
  ∀ p q a b, locate? ns p = some a → locate? ns q = some b → a.looksLike b = true → p = q

theorem looksLike_withoutTypes (a b : Node ν ℓ) :
    a.withoutTypes.looksLike b.withoutTypes = a.looksLike b := by
  simp only [looksLike, name_withoutTypes, kind_withoutTypes, range_withoutTypes]

theorem ToldApart.congr {ns ms : List (Node ν ℓ)} (ha : ToldApart ns)
    (h : ns.map withoutTypes = ms.map withoutTypes) : ToldApart ms := by
  intro p q a b hp hq hlook
  obtain ⟨a', hp', hae⟩ := exists_partner h.symm hp
  obtain ⟨b', hq', hbe⟩ := exists_partner h.symm hq
  apply ha p q a' b' hp' hq'
  rw [← looksLike_withoutTypes, ← hae, ← hbe, looksLike_withoutTypes, hlook]

theorem looksLike_of_same {a b : Node ν ℓ} (h : a.same b = true) : a.looksLike b = true := by
  cases a
  simp only [same, Bool.and_eq_true] at h
  simp [looksLike, h]

mutual
/-- Types do not matter when a node is compared with itself. -/
theorem same_self_withoutTypes : (n : Node ν ℓ) → n.withoutTypes.same n.withoutTypes = n.same n
  | ⟨_, _, _, _, _, children⟩ => by
    simp only [withoutTypes, same, beq_self_eq_true, sameAll_self_withoutTypesAll children]
theorem sameAll_self_withoutTypesAll :
    (ns : List (Node ν ℓ)) → sameAll (withoutTypesAll ns) (withoutTypesAll ns) = sameAll ns ns
  | [] => rfl
  | n :: ns => by
    rw [withoutTypesAll, sameAll, sameAll, same_self_withoutTypes n,
      sameAll_self_withoutTypesAll ns]
end

/-- Where no two positions look the same, a node contains what stands below its position, provided
that this equals itself. -/
theorem contains_iff_of_toldApart {ns : List (Node ν ℓ)} (ha : ToldApart ns) {p q : List Nat}
    {s t : Node ν ℓ} (hs : locate? ns p = some s) (ht : locate? ns q = some t) :
    s.contains t = true ↔ p <+: q ∧ t.same t = true := by
  rw [contains, List.any_eq_true]
  constructor
  · rintro ⟨c, hc, hsame⟩
    obtain ⟨r, hr⟩ := mem_walk_iff_descend?.mp hc
    have hpr : locate? ns (p ++ r) = some c := (locate?_append hs r).trans hr
    obtain rfl := ha _ _ _ _ hpr ht (looksLike_of_same hsame)
    obtain rfl := Option.some.inj (hpr.symm.trans ht)
    exact ⟨List.prefix_append p r, hsame⟩
  · rintro ⟨⟨r, rfl⟩, hsame⟩
    rw [locate?_append hs] at ht
    exact ⟨t, mem_walk_of_descend? ht, hsame⟩

/-- Where no two positions look the same, containment does not depend on types. -/
theorem contains_eq_of_toldApart {ns ms : List (Node ν ℓ)} (ha : ToldApart ns)
    (h : ns.map withoutTypes = ms.map withoutTypes) {p q : List Nat} {s s' t t' : Node ν ℓ}
    (hs : locate? ns p = some s) (hs' : locate? ms p = some s') (ht : locate? ns q = some t)
    (ht' : locate? ms q = some t') : s.contains t = s'.contains t' := by
  have hself : t.same t = t'.same t' := by
    rw [← same_self_withoutTypes t, withoutTypes_eq_of_locate? h ht ht', same_self_withoutTypes]
  rw [Bool.eq_iff_iff, contains_iff_of_toldApart ha hs ht,
    contains_iff_of_toldApart (ha.congr h) hs' ht', hself]

end

end Node

/-! ## Outlines of two catalogues -/

section
variable [LineOrder ℓ]

theorem map_byLine (ns : List (Node ν ℓ)) :
    (byLine ns).map Node.withoutTypes = byLine (ns.map Node.withoutTypes) := by
  rw [byLine, byLine, List.map_mergeSort]
  intro a _ b _
  rw [Node.line_withoutTypes, Node.line_withoutTypes]

variable [Label ν]

theorem withoutTypes_node (name : ν) {kind : Kind} {detail detail' : String} (line : ℓ)
    {children children' : List (Node ν ℓ)} (hd : kind = .property ∨ detail = detail')
    (hc : children.map Node.withoutTypes = children'.map Node.withoutTypes) :
    (node name kind detail line children).withoutTypes =
      (node name kind detail' line children').withoutTypes := by
  rw [node, node, Node.withoutTypes_mk, Node.withoutTypes_mk, map_byLine, map_byLine, hc]
  rcases hd with rfl | rfl
  · rfl
  · rfl

theorem propertyKind_cases (name : ν) : propertyKind name = .event ∨
    propertyKind name = .identifier ∨ propertyKind name = .property := by
  unfold propertyKind
  split
  · exact .inl rfl
  · split
    · exact .inr (.inl rfl)
    · exact .inr (.inr rfl)

variable (a b : TypeLookup ν)

theorem withoutTypes_propertyNode (owner : Owner) (ownerName : ν) (p : Property ν ℓ) :
    (propertyNode a owner ownerName p).withoutTypes =
      (propertyNode b owner ownerName p).withoutTypes := by
  apply withoutTypes_node _ _ _ rfl
  unfold propertyDetail
  rcases propertyKind_cases p.name with hk | hk | hk
  all_goals rw [hk]
  · exact .inr rfl
  · exact .inr rfl
  · exact .inl rfl

theorem map_withoutTypes_properties (owner : Owner) (ownerName : ν) (ps : List (Property ν ℓ)) :
    (ps.map (propertyNode a owner ownerName)).map Node.withoutTypes =
      (ps.map (propertyNode b owner ownerName)).map Node.withoutTypes := by
  rw [List.map_map, List.map_map]
  exact List.map_congr_left fun p _ => withoutTypes_propertyNode a b owner ownerName p

theorem withoutTypes_instructionNode (i : Instruction ν ℓ) :
    (instructionNode a i).withoutTypes = (instructionNode b i).withoutTypes :=
  withoutTypes_node _ _ (.inr rfl)
    (map_withoutTypes_properties a b .instruction i.name i.properties)

theorem withoutTypes_canvasNode (label : String) (c : Canvas ν ℓ) :
    (canvasNode a label c).withoutTypes = (canvasNode b label c).withoutTypes := by
  apply withoutTypes_node _ _ (.inr rfl)
  rw [List.map_map, List.map_map]
  exact List.map_congr_left fun i _ => withoutTypes_instructionNode a b i

theorem map_withoutTypes_canvasNodes (canvas before after : Option (Canvas ν ℓ)) :
    (canvasNodes a canvas before after).map Node.withoutTypes =
      (canvasNodes b canvas before after).map Node.withoutTypes := by
  have hone : ∀ label (c : Option (Canvas ν ℓ)),
      (c.map (canvasNode a label)).toList.map Node.withoutTypes =
        (c.map (canvasNode b label)).toList.map Node.withoutTypes := by
    intro label c
    cases c with
    | none => rfl
    | some c =>
      rw [Option.map_some, Option.map_some, Option.toList_some, Option.toList_some,
        List.map_singleton, List.map_singleton, withoutTypes_canvasNode a b label c]
  simp only [canvasNodes, List.map_append, hone]

mutual
theorem withoutTypes_widgetNode :
    (w : Widget ν ℓ) → (widgetNode a w).withoutTypes = (widgetNode b w).withoutTypes
  | ⟨name, line, id, properties, handlers, children, canvas, before, after⟩ => by
    rw [widgetNode, widgetNode]
    apply withoutTypes_node _ _ (.inr rfl)
    simp only [List.map_append]
    rw [map_withoutTypes_properties a b, map_withoutTypes_widgetNodes children,
      map_withoutTypes_canvasNodes a b]
theorem map_withoutTypes_widgetNodes :
    (ws : List (Widget ν ℓ)) →
      (widgetNodes a ws).map Node.withoutTypes = (widgetNodes b ws).map Node.withoutTypes
  | [] => rfl
  | w :: ws => by
    rw [widgetNodes, widgetNodes, List.map_cons, List.map_cons, withoutTypes_widgetNode w,
      map_withoutTypes_widgetNodes ws]
end

theorem withoutTypes_ruleNode (r : Rule ν ℓ) :
    (ruleNode a r).withoutTypes = (ruleNode b r).withoutTypes := by
  rw [ruleNode, ruleNode]
  apply withoutTypes_node _ _ (.inr rfl)
  simp only [List.map_append]
  rw [map_withoutTypes_properties a b, map_withoutTypes_widgetNodes a b,
    map_withoutTypes_canvasNodes a b]

/-- Two catalogues give one document outlines that differ in types only. -/
theorem withoutTypes_ofModule (m : Module ν ℓ) :
    (ofModule a m).map Node.withoutTypes = (ofModule b m).map Node.withoutTypes := by
  have hrules : ∀ r ∈ m.rules,
      (Node.withoutTypes ∘ ruleNode a) r = (Node.withoutTypes ∘ ruleNode b) r := by
    intro r _
    rw [Function.comp_apply, Function.comp_apply, withoutTypes_ruleNode a b r]
  rw [ofModule, ofModule, List.map_append, List.map_append, List.map_map, List.map_map,
    List.map_congr_left hrules]
  cases m.root with
  | none => rw [Option.map_none, Option.map_none]
  | some w =>
    rw [Option.map_some, Option.map_some, Option.toList_some, Option.toList_some,
      List.map_singleton, List.map_singleton, withoutTypes_widgetNode a b w]

end

/-! ## Unchecked documents -/

namespace PartialLookup

variable (l l' : PartialLookup)

/-- The look-up that a property of an owner asks for returns.  Event handlers and ids ask for none.
-/
def AnswersFor (owner : Owner) (ownerName : Data) (p : Property Data Data) : Prop :=
  ∀ name, p.name = .str name → propertyKind p.name = .property →
    match owner with
    | .widget => ∃ type, l.property name ownerName = .ok type
    | .instruction => ∃ type, l.parameter name ownerName = .ok type

/-- The look-ups that a part asks for its own properties return. -/
def AnswersPart : Part Data Data → Prop
  | .rule r => ∀ p ∈ r.properties, l.AnswersFor .widget r.selector p
  | .widget w =>
    ∀ p ∈ w.properties, l.AnswersFor (if isDrawing w.name then .instruction else .widget) w.name p
  | .instruction i => ∀ p ∈ i.properties, l.AnswersFor .instruction i.name p
  | _ => True

/-- The look-ups that a document asks for return. -/
def Answers (m : Module Data Data) : Prop := ∀ p ∈ m.parts, ∀ q ∈ p.all, l.AnswersPart q

end PartialLookup

/-- The instructions of canvas blocks are among everything in them. -/
theorem forall_instruction_of_canvasesAll {c b a : Option (Canvas ν ℓ)} {P : Part ν ℓ → Prop}
    (h : ∀ q ∈ Part.canvasesAll c b a, P q) :
    (∀ d ∈ c, ∀ i ∈ d.instructions, P (.instruction i)) ∧
      (∀ d ∈ b, ∀ i ∈ d.instructions, P (.instruction i)) ∧
      ∀ d ∈ a, ∀ i ∈ d.instructions, P (.instruction i) := by
  have hin : ∀ label (d : Canvas ν ℓ), ∀ i ∈ d.instructions,
      .instruction i ∈ Part.canvasAll label d := by
    intro label d i hi
    exact List.mem_cons_of_mem _ (List.mem_flatMap.mpr ⟨i, hi, List.mem_cons_self⟩)
  refine ⟨?_, ?_, ?_⟩
  all_goals
    rintro d rfl i hi
    apply h
    simp only [Part.canvasesAll, List.mem_append, Option.map_some, Option.getD_some]
  · exact .inl (.inl (hin _ d i hi))
  · exact .inl (.inr (hin _ d i hi))
  · exact .inr (hin _ d i hi)

theorem forM_congr {α : Type} {xs : List α} {f g : α → Except Fault Unit}
    (h : ∀ x ∈ xs, f x = g x) : xs.forM f = xs.forM g := by
  induction xs with
  | nil => rfl
  | cons x xs ih =>
    rw [List.forM, List.forM, h x List.mem_cons_self,
      ih fun y hy => h y (List.mem_cons_of_mem _ hy)]

section
variable {l l' : PartialLookup}

/-- Two catalogues answer what a part asks for. -/
def BothAnswer (l l' : PartialLookup) (q : Part Data Data) : Prop :=
  l.AnswersPart q ∧ l'.AnswersPart q

theorem checkProperty_congr {owner : Owner} {ownerName : Data} {p : Property Data Data}
    (h : l.AnswersFor owner ownerName p) (h' : l'.AnswersFor owner ownerName p) :
    checkProperty l owner ownerName p = checkProperty l' owner ownerName p := by
  unfold checkProperty
  split
  · next name hname =>
    split
    · next hk =>
      have ha := h name hname hk
      have ha' := h' name hname hk
      cases owner with
      | widget | instruction =>
        obtain ⟨type, ha⟩ := ha
        obtain ⟨type', ha'⟩ := ha'
        simp only [ha, ha']
        rfl
    · rfl
  · rfl

theorem checkInstruction_congr {i : Instruction Data Data}
    (h : BothAnswer l l' (.instruction i)) : checkInstruction l i = checkInstruction l' i := by
  rw [checkInstruction, checkInstruction,
    forM_congr fun p hp => checkProperty_congr (h.1 p hp) (h.2 p hp)]

theorem checkCanvas_congr {c : Option (Canvas Data Data)}
    (h : ∀ d ∈ c, ∀ i ∈ d.instructions, BothAnswer l l' (.instruction i)) :
    checkCanvas l c = checkCanvas l' c := by
  cases c with
  | none => rfl
  | some c =>
    rw [checkCanvas, checkCanvas, forM_congr fun i hi => checkInstruction_congr (h c rfl i hi)]

mutual
theorem checkWidget_congr : (w : Widget Data Data) → (∀ q ∈ Part.widgetAll w, BothAnswer l l' q) →
    checkWidget l w = checkWidget l' w
  | ⟨name, line, id, properties, handlers, children, canvas, before, after⟩, h => by
    simp only [Part.widgetAll, List.forall_mem_cons, List.forall_mem_append] at h
    obtain ⟨hown, ⟨-, hchildren⟩, hcanvases⟩ := h
    obtain ⟨hcanvas, hbefore, hafter⟩ := forall_instruction_of_canvasesAll hcanvases
    rw [checkWidget, checkWidget, checkCanvas_congr hcanvas, checkCanvas_congr hbefore,
      checkCanvas_congr hafter, checkWidgets_congr children hchildren]
    simp only
    rw [forM_congr fun p hp => checkProperty_congr (hown.1 p hp) (hown.2 p hp)]
theorem checkWidgets_congr : (ws : List (Widget Data Data)) →
    (∀ q ∈ Part.widgetsAll ws, BothAnswer l l' q) → checkWidgets l ws = checkWidgets l' ws
  | [], _ => rfl
  | w :: ws, h => by
    simp only [Part.widgetsAll, List.forall_mem_append] at h
    rw [checkWidgets, checkWidgets, checkWidget_congr w h.1, checkWidgets_congr ws h.2]
end

theorem checkRule_congr {r : Rule Data Data} (h : ∀ q ∈ (Part.rule r).all, BothAnswer l l' q) :
    checkRule l r = checkRule l' r := by
  simp only [Part.all, List.forall_mem_cons, List.forall_mem_append] at h
  obtain ⟨hown, ⟨-, hchildren⟩, hcanvases⟩ := h
  obtain ⟨hcanvas, hbefore, hafter⟩ := forall_instruction_of_canvasesAll hcanvases
  rw [checkRule, checkRule, checkCanvas_congr hcanvas, checkCanvas_congr hbefore,
    checkCanvas_congr hafter, checkWidgets_congr r.children hchildren,
    forM_congr fun p hp => checkProperty_congr (hown.1 p hp) (hown.2 p hp)]

/-- The check of a document does not depend on the catalogue, if that answers. -/
theorem check_congr {m : Module Data Data} (h : l.Answers m) (h' : l'.Answers m) :
    check l m = check l' m := by
  have hboth : ∀ p ∈ m.parts, ∀ q ∈ p.all, BothAnswer l l' q :=
    fun p hp q hq => ⟨h p hp q hq, h' p hp q hq⟩
  have hrules : ∀ r ∈ m.rules, checkRule l r = checkRule l' r := fun r hr =>
    checkRule_congr (hboth _ (List.mem_append_left _ (List.mem_map_of_mem hr)))
  rw [check, check, forM_congr hrules]
  cases hroot : m.root with
  | none => rfl
  | some w =>
    have hw : .widget w ∈ m.parts := by simp [Module.parts, hroot]
    simp only [checkWidget_congr w (hboth _ hw)]

/-- Two catalogues that answer give one unchecked document outlines that differ in types only, or
the same fault. -/
theorem withoutTypes_ofUnchecked {m : Module Data Data} (h : l.Answers m) (h' : l'.Answers m) :
    (ofUnchecked l m).map (List.map Node.withoutTypes) =
      (ofUnchecked l' m).map (List.map Node.withoutTypes) := by
  rw [ofUnchecked, ofUnchecked, check_congr h h']
  cases check l' m with
  | error f => simp only [bind, Except.bind, Except.map]
  | ok => simp only [bind, Except.bind, Except.map, withoutTypes_ofModule l.total l'.total m]

end

end KvMarkup.Outline
