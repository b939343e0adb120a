import Mathlib
import KvMarkup.Edit.Unchecked
import KvMarkup.Proofs.Catalog.Inheritance
import KvMarkup.Proofs.Outline.Types

/-!
# Edits do not see types

An edit uses of a node its name and its lines, and of two nodes also whether one contains the other.
None of these but the last looks at a detail, so edits by the outlines that two catalogues give come
to the same, as long as containment is a matter of positions (`ToldApart`).

A catalogue answers whatever a document with proper owners asks when its bases can be looked up.
-/

namespace KvMarkup

open KvMarkup.Text KvMarkup.Outline KvMarkup.Outline.Node KvMarkup.Parsed

/-! ## Edits by nodes without types -/

namespace Edit

theorem anchorOf_withoutTypes (n : UncheckedNode) : anchorOf n.withoutTypes = anchorOf n := by
  rw [anchorOf, anchorOf, line_withoutTypes, lastLine_withoutTypes, insertionLine_withoutTypes,
    name_withoutTypes]

theorem outsideTarget?_withoutTypes (count : Nat) (n : UncheckedNode) :
    outsideTarget? count n.withoutTypes = outsideTarget? count n := by
  rw [outsideTarget?, outsideTarget?, line_withoutTypes, name_withoutTypes]

theorem outsideSource?_withoutTypes (count : Nat) (n : UncheckedNode) :
    outsideSource? count n.withoutTypes = outsideSource? count n := by
  rw [outsideSource?, outsideSource?, extentWithin, extentWithin, line_withoutTypes,
    lastLine_withoutTypes, name_withoutTypes]

section
variable {n n' : UncheckedNode} (h : n.withoutTypes = n'.withoutTypes)
include h

theorem anchorOf_congr : anchorOf n = anchorOf n' := by
  rw [← anchorOf_withoutTypes, h, anchorOf_withoutTypes]

theorem outsideTarget?_congr (count : Nat) : outsideTarget? count n = outsideTarget? count n' := by
  rw [← outsideTarget?_withoutTypes, h, outsideTarget?_withoutTypes]

theorem outsideSource?_congr (count : Nat) : outsideSource? count n = outsideSource? count n' := by
  rw [← outsideSource?_withoutTypes, h, outsideSource?_withoutTypes]

theorem name_congr : n.name = n'.name := by
  rw [← name_withoutTypes, h, name_withoutTypes]

theorem uncheckedMove_none_congr (document : String) (width : Int) :
    uncheckedMove document n none width = uncheckedMove document n' none width := by
  simp only [uncheckedMove, outsideSource?_congr h, anchorOf_congr h]

theorem uncheckedMove_some_congr {t t' : UncheckedNode} (ht : t.withoutTypes = t'.withoutTypes)
    (hc : n.contains t = n'.contains t') (document : String) (width : Int) :
    uncheckedMove document n (some t) width = uncheckedMove document n' (some t') width := by
  simp only [uncheckedMove, hc, name_congr h, name_congr ht, outsideSource?_congr h,
    outsideTarget?_congr ht, anchorOf_congr h, anchorOf_congr ht]

theorem uncheckedDropUnder_congr (document snippet : String) (width : Int) :
    uncheckedDropUnder document snippet n width = uncheckedDropUnder document snippet n' width := by
  have hline : n.line = n'.line := by
    rw [← line_withoutTypes, h, line_withoutTypes]
  have hinsertion : n.insertionLine = n'.insertionLine := by
    rw [← insertionLine_withoutTypes, h, insertionLine_withoutTypes]
  simp only [uncheckedDropUnder, outsideTarget?_congr h, hline, hinsertion, name_congr h]

end

end Edit

/-! ## Catalogues that answer -/

/-- The owner of a part's properties can be looked up. -/
def Parsed.Part.ownerIsKey : Part Data ℓ → Bool
  | .rule r => r.selector.isKey
  | .widget w => w.name.isKey
  | .instruction i => i.name.isKey
  | _ => true

theorem Outline.PartialLookup.answers_of_forall {l : PartialLookup} {m : Module Data Data}
    (hproperty : ∀ name owner, owner.isKey = true → ∃ type, l.property name owner = .ok type)
    (hparameter : ∀ name owner, owner.isKey = true → ∃ type, l.parameter name owner = .ok type)
    (hm : ∀ p ∈ m.parts, ∀ q ∈ p.all, q.ownerIsKey = true) : l.Answers m := by
  have hanswers : ∀ owner (ownerName : Data) p, ownerName.isKey = true →
      l.AnswersFor owner ownerName p := by
    intro owner ownerName p hk name _ _
    cases owner with
    | widget => exact hproperty name ownerName hk
    | instruction => exact hparameter name ownerName hk
  intro p hp q hq
  have howner := hm p hp q hq
  cases q with
  | rule | widget | instruction => exact fun p _ => hanswers _ _ p howner
  | property | handler | canvas => trivial

/-- A catalogue whose bases can be looked up answers whatever a document with proper owners asks. -/
theorem Catalog.lookup_answers {c : Catalog} (hkeys : c.BasesAreKeys) {m : Module Data Data}
    (hm : ∀ p ∈ m.parts, ∀ q ∈ p.all, q.ownerIsKey = true) : c.lookup.Answers m := by
  refine PartialLookup.answers_of_forall ?_ ?_ hm
  · intro name owner hk
    obtain ⟨found, hfound, -⟩ := search_outcome hkeys hk (searching_start name hk)
    exact ⟨found, hfound⟩
  · intro name owner hk
    exact ⟨_, if_pos hk⟩

namespace Outline

/-- Two nodes at one position of two outlines. -/
def Partners {ν ℓ : Type} (o o' : List (Node ν ℓ)) (n n' : Node ν ℓ) : Prop :=
  ∃ p, locate? o p = some n ∧ locate? o' p = some n'

/-- **A catalogue shows in the types of properties only.**  Two catalogues that answer what a
document asks give it the same outline but for the details of properties.  So the nodes at one
position end on the same line and take a new child at the same place, and a move or a drop by either
outline comes to the same, provided that no two positions look the same. -/
theorem catalog_shows_in_types_only {l l' : PartialLookup} {m : Module Data Data}
    (h : l.Answers m) (h' : l'.Answers m) :
    (ofUnchecked l m).map (List.map withoutTypes) =
      (ofUnchecked l' m).map (List.map withoutTypes) ∧
    ∀ o o', ofUnchecked l m = .ok o → ofUnchecked l' m = .ok o' →
      (∀ n n', Partners o o' n n' →
        n.lastLine = n'.lastLine ∧ n.extent = n'.extent ∧ n.insertionLine = n'.insertionLine ∧
        (∀ document snippet width, Edit.uncheckedDropUnder document snippet n width =
          Edit.uncheckedDropUnder document snippet n' width) ∧
        ∀ document width, Edit.uncheckedMove document n none width =
          Edit.uncheckedMove document n' none width) ∧
      (ToldApart o → ∀ s s' t t', Partners o o' s s' → Partners o o' t t' →
        ∀ document width, Edit.uncheckedMove document s (some t) width =
          Edit.uncheckedMove document s' (some t') width) := by
  have hboth := withoutTypes_ofUnchecked h h'
  refine ⟨hboth, fun o o' ho ho' => ?_⟩
  rw [ho, ho'] at hboth
  have halike : o.map withoutTypes = o'.map withoutTypes := Except.ok.inj hboth
  refine ⟨?_, ?_⟩
  · rintro n n' ⟨p, hn, hn'⟩
    have heq := withoutTypes_eq_of_locate? halike hn hn'
    refine ⟨?_, ?_, ?_, Edit.uncheckedDropUnder_congr heq, Edit.uncheckedMove_none_congr heq⟩
    · rw [← lastLine_withoutTypes, heq, lastLine_withoutTypes]
    · rw [← extent_withoutTypes, heq, extent_withoutTypes]
    · rw [← insertionLine_withoutTypes, heq, insertionLine_withoutTypes]
  · rintro hapart s s' t t' ⟨p, hs, hs'⟩ ⟨q, ht, ht'⟩
    exact Edit.uncheckedMove_some_congr (withoutTypes_eq_of_locate? halike hs hs')
      (withoutTypes_eq_of_locate? halike ht ht')
      (contains_eq_of_toldApart hapart halike hs hs' ht ht')

/-! ## A property that only one catalogue knows -/

/-- Says of every property that it is a text. -/
def texts : PartialLookup := ⟨fun _ _ => .ok (some "StringProperty"), fun _ _ => .ok none⟩

/-- Knows nothing. -/
def silent : PartialLookup := ⟨fun _ _ => .ok none, fun _ _ => .ok none⟩

/-- A root with a property on the second line and a child on the third. -/
def titled : Module Data Data where
  rules := []
  root := some ⟨.str "Root", .int 1, none, [⟨.str "title", .str "", .int 2⟩], [],
    [⟨.str "A", .int 3, none, [], [], [], none, none, none⟩], none, none, none⟩

def titleNode (detail : String) : UncheckedNode :=
  ⟨.str "title", .property, .onLine (.int 2) 1 5, .onLine (.int 2) 1 5, some detail, []⟩

def childNode : UncheckedNode :=
  ⟨.str "A", .widget, .onLine (.int 3) 1 1, .onLine (.int 3) 1 1, some "widget", []⟩

def titledNode (detail : String) : UncheckedNode :=
  ⟨.str "Root", .widget, .onLine (.int 1) 1 4, .onLine (.int 1) 1 4, some "widget",
    [titleNode detail, childNode]⟩

theorem locate?_titled {detail : String} {p : List Nat} {n : UncheckedNode}
    (h : locate? [titledNode detail] p = some n) :
    p = [0] ∧ n = titledNode detail ∨ p = [0, 0] ∧ n = titleNode detail ∨
      p = [0, 1] ∧ n = childNode := by
  rcases p with _ | ⟨_ | i, _ | ⟨_ | _ | j, _ | ⟨k, r⟩⟩⟩
  all_goals simp_all [locate?, descend?, titledNode, titleNode, childNode]

theorem toldApart_titled : ToldApart [titledNode "StringProperty"] := by
  intro p q a b hp hq
  rcases locate?_titled hp with ⟨rfl, rfl⟩ | ⟨rfl, rfl⟩ | ⟨rfl, rfl⟩
  all_goals
    rcases locate?_titled hq with ⟨rfl, rfl⟩ | ⟨rfl, rfl⟩ | ⟨rfl, rfl⟩
    all_goals decide

theorem catalog_shows_in_types_only_titled :
    texts.Answers titled ∧ silent.Answers titled ∧
      ofUnchecked texts titled = .ok [titledNode "StringProperty"] ∧
      ofUnchecked silent titled = .ok [titledNode "Property"] ∧
      ToldApart [titledNode "StringProperty"] ∧
      Edit.uncheckedMove "Root:\n    title: ''\n    A:" (titleNode "StringProperty")
        (some childNode) 4 =
      Edit.uncheckedMove "Root:\n    title: ''\n    A:" (titleNode "Property")
        (some childNode) 4 := by
  have hm : ∀ p ∈ titled.parts, ∀ q ∈ p.all, q.ownerIsKey = true := by decide
  have ht : texts.Answers titled :=
    PartialLookup.answers_of_forall (fun _ _ _ => ⟨_, rfl⟩) (fun _ _ _ => ⟨_, rfl⟩) hm
  have hs : silent.Answers titled :=
    PartialLookup.answers_of_forall (fun _ _ _ => ⟨_, rfl⟩) (fun _ _ _ => ⟨_, rfl⟩) hm
  have hot : ofUnchecked texts titled = .ok [titledNode "StringProperty"] := by cbv
  have hos : ofUnchecked silent titled = .ok [titledNode "Property"] := by cbv
  have hapart := toldApart_titled
  obtain ⟨-, hedits⟩ := catalog_shows_in_types_only ht hs
  exact ⟨ht, hs, hot, hos, hapart, (hedits _ _ hot hos).2 hapart _ _ _ _ ⟨[0, 0], rfl, rfl⟩
    ⟨[0, 1], rfl, rfl⟩ _ _⟩

end Outline

end KvMarkup
