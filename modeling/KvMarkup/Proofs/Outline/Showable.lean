import KvMarkup.Proofs.Outline.Types

/-!
# Documents that have an outline

Decoding asks a document for its keys only, so there may be anything where a name or a line stands.
An outline asks for more: names that its nodes can carry, answers of the catalogue to the questions
about properties, and for siblings lines that can be put in order.  A document has an outline exactly
when all of its parts give that, each on its own:

    check l m = .ok ()   ↔   ∀ p ∈ m.parts, ∀ q ∈ p.all, Showable l q        (check_eq_ok_iff)

The checks of an owner and of what it owns are one check of a part with everything below it
(`ShowsAll`), which goes down by one step in `showsAll_iff`.
-/

namespace KvMarkup.Outline

open KvMarkup.Parsed

/-- A name that takes a number of columns. -/
def HasWidth (name : Data) : Prop :=
  (∃ s, name = .str s) ∨ (∃ items, name = .list items) ∨ ∃ entries, name = .map entries

/-- Two lines that have an order. -/
def HaveOrder (a b : Data) : Prop := ∃ first, a.le? b = some first

/-- The name of a part is one that its node can carry.  Property names are looked into, the names of
widgets are looked up, and a widget with an identifier is shown under both. -/
def Nameable : Part Data Data → Prop
  | .rule r => HasWidth r.selector
  | .widget w =>
    w.name.isKey = true ∧
      ((∃ s, w.name = .str s) ∨ ∃ id, w.id = some id ∧ id.isTruthy = true)
  | .property p => ∃ s, p.name = .str s
  | .handler h => HasWidth h.name
  | .canvas _ _ => True
  | .instruction i => HasWidth i.name

/-- What an outline needs of a part. -/
structure Showable (l : PartialLookup) (q : Part Data Data) : Prop where
  named : Nameable q
  answered : l.AnswersPart q
  ordered : (q.owned.map Part.line).Pairwise HaveOrder

/-- What an outline needs of a part and everything below it. -/
def ShowsAll (l : PartialLookup) (p : Part Data Data) : Prop := ∀ q ∈ p.all, Showable l q

section
variable {l : PartialLookup}

theorem showsAll_iff {p : Part Data Data} :
    ShowsAll l p ↔ Showable l p ∧ ∀ q ∈ p.owned, ShowsAll l q := by
  constructor
  · intro h
    exact ⟨h p p.self_mem_all, fun q hq r hr => h r (Part.mem_all_of_mem_owned hq hr)⟩
  · rintro ⟨hp, howned⟩ q hq
    obtain rfl | ⟨r, hr, hq⟩ := Part.mem_all.mp hq
    · exact hp
    · exact howned r hr q hq

/-- What holds of all that a rule or a widget owns holds of each category. -/
theorem forall_mem_gathered {P : Part Data Data → Prop} {ps : List (Property Data Data)}
    {hs : List (Handler Data Data)} {cs : List (Widget Data Data)}
    {c b a : Option (Canvas Data Data)} :
    (∀ q ∈ Part.gathered ps hs cs c b a, P q) ↔
      (∀ p ∈ ps, P (.property p)) ∧ (∀ h ∈ hs, P (.handler h)) ∧ (∀ w ∈ cs, P (.widget w)) ∧
        (∀ d ∈ c, P (.canvas "canvas" d)) ∧ (∀ d ∈ b, P (.canvas "canvas.before" d)) ∧
        ∀ d ∈ a, P (.canvas "canvas.after" d) := by
  simp only [Part.gathered, Part.canvases, List.forall_mem_append, List.forall_mem_map,
    Option.mem_toList, Option.map_eq_some_iff, forall_exists_index, and_imp,
    forall_apply_eq_imp_iff₂, Option.mem_def, and_assoc]

/-! ## Steps of the check -/

theorem then_eq_ok_iff {x y : Except Fault Unit} :
    (x >>= fun _ => y) = .ok () ↔ x = .ok () ∧ y = .ok () := by
  rw [bind_eq_ok_iff]
  exact ⟨fun ⟨_, hx, hy⟩ => ⟨hx, hy⟩, fun ⟨hx, hy⟩ => ⟨(), hx, hy⟩⟩

theorem forM_eq_ok_iff {α : Type} {f : α → Except Fault Unit} {xs : List α} :
    xs.forM f = .ok () ↔ ∀ x ∈ xs, f x = .ok () := by
  induction xs with
  | nil => exact iff_of_true rfl nofun
  | cons x xs ih => rw [List.forM, List.forall_mem_cons, ← ih]; exact then_eq_ok_iff

theorem checkLength_eq_ok_iff {name : Data} : checkLength name = .ok () ↔ HasWidth name := by
  cases name <;> simp [checkLength, partCount?, HasWidth]

theorem checkKey_eq_ok_iff {name : Data} : checkKey name = .ok () ↔ name.isKey = true := by
  rw [checkKey]
  split <;> simp_all

theorem checkOrderFrom_eq_ok_iff {a : Data} {bs : List Data} :
    checkOrderFrom a bs = .ok () ↔ ∀ b ∈ bs, HaveOrder a b := by
  induction bs with
  | nil => exact iff_of_true rfl nofun
  | cons b bs ih =>
    rw [checkOrderFrom, List.forall_mem_cons, ← ih, HaveOrder]
    cases a.le? b <;> simp

theorem checkOrder_eq_ok_iff {lines : List Data} :
    checkOrder lines = .ok () ↔ lines.Pairwise HaveOrder := by
  induction lines with
  | nil => exact iff_of_true rfl .nil
  | cons a bs ih =>
    rw [List.pairwise_cons, ← ih, ← checkOrderFrom_eq_ok_iff]
    exact then_eq_ok_iff

/-! ## The check of a part -/

/-- A part that owns nothing only needs a name, unless a catalogue is asked about it. -/
theorem showsAll_property {p : Property Data Data} :
    ShowsAll l (.property p) ↔ ∃ s, p.name = .str s := by
  rw [showsAll_iff]
  exact ⟨fun h => h.1.named, fun h => ⟨⟨h, trivial, .nil⟩, nofun⟩⟩

theorem showsAll_handler {h : Handler Data Data} :
    ShowsAll l (.handler h) ↔ HasWidth h.name := by
  rw [showsAll_iff]
  exact ⟨fun h => h.1.named, fun h => ⟨⟨h, trivial, .nil⟩, nofun⟩⟩

theorem discard_eq_ok_iff {α : Type} {x : Except Fault α} :
    discard x = .ok () ↔ ∃ a, x = .ok a := by
  cases x with
  | ok a => exact iff_of_true rfl ⟨a, rfl⟩
  | error f => exact iff_of_false nofun nofun

/-- A catalogue is asked one question about a property. -/
theorem answersFor_iff {owner : Owner} {ownerName : Data} {p : Property Data Data} {name : String}
    (hname : p.name = .str name) (hkind : propertyKind p.name = .property) :
    l.AnswersFor owner ownerName p ↔
      match owner with
      | .widget => ∃ type, l.property name ownerName = .ok type
      | .instruction => ∃ type, l.parameter name ownerName = .ok type := by
  refine ⟨fun h => h name hname hkind, fun h other hother _ => ?_⟩
  obtain rfl := Data.str.inj (hname.symm.trans hother)
  exact h

theorem checkProperty_eq_ok_iff {owner : Owner} {ownerName : Data} {p : Property Data Data} :
    checkProperty l owner ownerName p = .ok () ↔
      ShowsAll l (.property p) ∧ l.AnswersFor owner ownerName p := by
  rw [showsAll_property, checkProperty]
  split
  · next name hname =>
    have hnamed : ∃ s, p.name = .str s := ⟨name, hname⟩
    simp only [hnamed, true_and]
    split
    · next hkind =>
      rw [answersFor_iff hname hkind]
      cases owner with
      | widget | instruction => exact discard_eq_ok_iff
    · next hkind =>
      exact iff_of_true rfl fun _ _ h => absurd h (by simpa using hkind)
  · next d hd =>
    refine iff_of_false nofun ?_
    rintro ⟨⟨s, hs⟩, -⟩
    exact hd s hs

theorem checkProperties_eq_ok_iff {owner : Owner} {ownerName : Data}
    {ps : List (Property Data Data)} :
    ps.forM (checkProperty l owner ownerName) = .ok () ↔
      (∀ p ∈ ps, ShowsAll l (.property p)) ∧ ∀ p ∈ ps, l.AnswersFor owner ownerName p := by
  simp only [forM_eq_ok_iff, checkProperty_eq_ok_iff, forall_and]

theorem checkInstruction_eq_ok_iff {i : Instruction Data Data} :
    checkInstruction l i = .ok () ↔ ShowsAll l (.instruction i) := by
  rw [showsAll_iff, checkInstruction, then_eq_ok_iff, then_eq_ok_iff, checkProperties_eq_ok_iff,
    checkLength_eq_ok_iff, checkOrder_eq_ok_iff]
  simp only [Part.owned, List.forall_mem_map]
  constructor
  · rintro ⟨⟨hps, hanswers⟩, hname, horder⟩
    exact ⟨⟨hname, hanswers, by simpa [Part.owned, Part.line, Function.comp_def] using horder⟩, hps⟩
  · rintro ⟨⟨hname, hanswers, horder⟩, hps⟩
    exact ⟨⟨hps, hanswers⟩, hname, by simpa [Part.owned, Part.line, Function.comp_def] using horder⟩

theorem checkCanvas_eq_ok_iff (label : String) (c : Option (Canvas Data Data)) :
    checkCanvas l c = .ok () ↔ ∀ d ∈ c, ShowsAll l (.canvas label d) := by
  cases c with
  | none => exact iff_of_true rfl nofun
  | some d =>
    rw [checkCanvas, then_eq_ok_iff, forM_eq_ok_iff, checkOrder_eq_ok_iff]
    simp only [checkInstruction_eq_ok_iff, Option.mem_def, Option.some.injEq, forall_eq']
    rw [showsAll_iff]
    simp only [Part.owned, List.forall_mem_map]
    constructor
    · rintro ⟨his, horder⟩
      exact ⟨⟨trivial, trivial, by simpa [Part.owned, Part.line, Function.comp_def] using horder⟩,
        his⟩
    · rintro ⟨⟨-, -, horder⟩, his⟩
      exact ⟨his, by simpa [Part.owned, Part.line, Function.comp_def] using horder⟩

theorem ownedLines_eq (ps : List (Property Data Data)) (hs : List (Handler Data Data))
    (cs : List (Widget Data Data)) (c b a : Option (Canvas Data Data)) :
    ownedLines ps hs cs [c, b, a] = (Part.gathered ps hs cs c b a).map Part.line := by
  cases c <;> cases b <;> cases a <;>
    simp [ownedLines, Part.gathered, Part.canvases, Part.line, Function.comp_def]

/-- What a rule or a widget owns is checked category by category, and then the lines of it all. -/
theorem checkOwned_eq_ok_iff {owner : Owner} {ownerName : Data} {ps : List (Property Data Data)}
    {hs : List (Handler Data Data)} {cs : List (Widget Data Data)}
    {c b a : Option (Canvas Data Data)} {name : Except Fault Unit}
    (hcs : checkWidgets l cs = .ok () ↔ ∀ w ∈ cs, ShowsAll l (.widget w)) :
    (do
      ps.forM (checkProperty l owner ownerName)
      hs.forM fun h => checkLength h.name
      checkWidgets l cs
      checkCanvas l c
      checkCanvas l b
      checkCanvas l a
      name
      checkOrder (ownedLines ps hs cs [c, b, a])) = .ok () ↔
    (∀ q ∈ Part.gathered ps hs cs c b a, ShowsAll l q) ∧
      (∀ p ∈ ps, l.AnswersFor owner ownerName p) ∧ name = .ok () ∧
      ((Part.gathered ps hs cs c b a).map Part.line).Pairwise HaveOrder := by
  iterate 7 rw [then_eq_ok_iff]
  rw [checkProperties_eq_ok_iff, forM_eq_ok_iff, hcs, checkCanvas_eq_ok_iff "canvas" c,
    checkCanvas_eq_ok_iff "canvas.before" b, checkCanvas_eq_ok_iff "canvas.after" a,
    checkOrder_eq_ok_iff, ownedLines_eq, forall_mem_gathered]
  simp only [showsAll_handler, checkLength_eq_ok_iff]
  tauto

/-- A name that can be a key takes columns if it is a text; with an identifier, any does. -/
theorem hasWidth_widgetName {name : Data} {id : Option Data} (hkey : name.isKey = true) :
    HasWidth (widgetName name id) ↔
      (∃ s, name = .str s) ∨ ∃ d, id = some d ∧ d.isTruthy = true := by
  have hname : HasWidth name ↔ ∃ s, name = .str s := by
    cases name <;> simp_all [HasWidth, Data.isKey]
  cases id with
  | none => simp [widgetName, hname]
  | some d =>
    by_cases hd : d.isTruthy = true
    · have hshown : ∃ s, widgetName name (some d) = .str s := ⟨_, if_pos hd⟩
      exact iff_of_true (.inl hshown) (.inr ⟨d, rfl, hd⟩)
    · have hplain : widgetName name (some d) = name := if_neg hd
      simp [hplain, hname, hd]

mutual
theorem checkWidget_eq_ok_iff :
    (w : Widget Data Data) → (checkWidget l w = .ok () ↔ ShowsAll l (.widget w))
  | ⟨name, line, id, ps, hs, cs, c, b, a⟩ => by
    rw [checkWidget, then_eq_ok_iff, checkKey_eq_ok_iff, showsAll_iff]
    simp only
    rw [checkOwned_eq_ok_iff (checkWidgets_eq_ok_iff cs), checkLength_eq_ok_iff]
    constructor
    · rintro ⟨hkey, howned, hanswers, hname, horder⟩
      exact ⟨⟨⟨hkey, (hasWidth_widgetName hkey).mp hname⟩, hanswers, horder⟩, howned⟩
    · rintro ⟨⟨⟨hkey, hname⟩, hanswers, horder⟩, howned⟩
      exact ⟨hkey, howned, hanswers, (hasWidth_widgetName hkey).mpr hname, horder⟩
theorem checkWidgets_eq_ok_iff :
    (ws : List (Widget Data Data)) →
      (checkWidgets l ws = .ok () ↔ ∀ w ∈ ws, ShowsAll l (.widget w))
  | [] => iff_of_true rfl nofun
  | w :: ws => by
    rw [checkWidgets, then_eq_ok_iff, List.forall_mem_cons, checkWidget_eq_ok_iff w,
      checkWidgets_eq_ok_iff ws]
end

theorem checkRule_eq_ok_iff {r : Rule Data Data} :
    checkRule l r = .ok () ↔ ShowsAll l (.rule r) := by
  rw [showsAll_iff, checkRule, checkOwned_eq_ok_iff (checkWidgets_eq_ok_iff r.children),
    checkLength_eq_ok_iff]
  constructor
  · rintro ⟨howned, hanswers, hname, horder⟩
    exact ⟨⟨hname, hanswers, horder⟩, howned⟩
  · rintro ⟨⟨hname, hanswers, horder⟩, howned⟩
    exact ⟨howned, hanswers, hname, horder⟩

/-- **Which documents have an outline.**  The check finds nothing exactly when every part of the
document gives what an outline needs of it. -/
theorem check_eq_ok_iff {m : Module Data Data} :
    check l m = .ok () ↔ ∀ p ∈ m.parts, ShowsAll l p := by
  simp only [check, then_eq_ok_iff, forM_eq_ok_iff, checkRule_eq_ok_iff, Module.parts,
    List.forall_mem_append, List.forall_mem_map]
  cases m.root with
  | none => simp
  | some w => simp [checkWidget_eq_ok_iff]

end

end KvMarkup.Outline
