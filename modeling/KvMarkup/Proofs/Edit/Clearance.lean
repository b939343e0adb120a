import KvMarkup.Proofs.Edit.LastChild
import KvMarkup.Proofs.Outline.Position

/-!
# Moves within the outline of a well-nested document

Two nodes of such an outline share a line only if one lies below the other.  So the place of a new
child of the target never lies inside the lines of a source that does not hold the target:

    target.insertionLine ≤ source.extent.1 - 1 ∨ source.extent.2 ≤ target.insertionLine

A source holds a target exactly when the target's position continues its own (`cycle_guard_exact`).

The refusal of a move looks at nodes and not at lines.  The lines of a source that does not hold the
target take the target's own line in only when the source is the value of the target, which stands
on its property's line; moving it moves the property, which then goes in again where it was, further
to the right (`lines_move_value`).
-/

namespace KvMarkup.Edit

open KvMarkup.Text KvMarkup.Outline KvMarkup.Parsed

section
variable {m : Module String Int} (hm : m.WellNested) (types : TypeLookup String)
  {source target : Node String Int} (hs : source ∈ Node.walkAll (ofModule types m))
  (ht : target ∈ Node.walkAll (ofModule types m)) (hc : source.contains target = false)
include hm hs ht hc

theorem above_or_apart : source ∈ target.walk ∨ source.Apart target := by
  rcases related_of_mem_outline hm types hs ht with h | h
  · rw [(Node.contains_iff_mem_walk _ _).mpr h] at hc
    cases hc
  · exact h

/-- Among the lines of a source that does not hold the target, the target's own line is found only
when the source is the target's value. -/
theorem isValueOf_of_shared_line (h1 : source.line ≤ target.line)
    (h2 : target.line ≤ source.lastLine) : source.IsValueOf target := by
  have hot := orderly_of_mem_outline hm types ht
  have hle := hot.line_le_lastLine
  rcases above_or_apart hm types hs ht hc with h | h | h
  · have hne : source ≠ target := by
      rintro rfl
      rw [(Node.contains_iff_mem_walk _ _).mpr source.self_mem_walk] at hc
      cases hc
    exact hot.isValueOf h hne h1
  · omega
  · omega

end

/-! ## An outline with a value -/

/-- A widget with a child and, after it, a property of its own. -/
def trailing : Module String Int where
  rules := []
  root := some ⟨"Root", 1, none, [⟨"y", "2", 3⟩], [],
    [⟨"A", 2, none, [], [], [], none, none, none⟩], none, none, none⟩

def trailingText : String := "Root:\n    A:\n    y: 2\n"

def trailingValue : Node String Int := valueOn 3 "2"

def trailingProperty : Node String Int :=
  ⟨"y", .property, .onLine 3 1 1, .onLine 3 1 1, some "Property", [trailingValue]⟩

theorem byLine_swap {a b : Node String Int} (h : LineOrder.le a.line b.line = false) :
    byLine [a, b] = [b, a] := by
  simp [byLine, List.mergeSort, List.MergeSort.Internal.splitInTwo, h]

theorem propertyNode_trailing :
    propertyNode noTypes .widget "Root" ⟨"y", "2", 3⟩ = trailingProperty := by
  have hone : byLine [trailingValue] = [trailingValue] := List.mergeSort_singleton trailingValue
  show Node.mk "y" .property (.onLine 3 1 1) (.onLine 3 1 1) (some "Property")
    (byLine [trailingValue]) = _
  rw [hone, trailingProperty]

/-- The child comes first, as it stands on the line before. -/
theorem locate?_trailingProperty :
    Node.locate? (ofModule noTypes trailing) [0, 1] = some trailingProperty := by
  show (byLine [propertyNode noTypes .widget "Root" ⟨"y", "2", (3 : Int)⟩,
    widgetNode noTypes ⟨"A", 2, none, [], [], [], none, none, none⟩])[1]?.bind
      (Node.descend? · []) = _
  rw [byLine_swap (by decide), propertyNode_trailing]
  rfl

theorem locate?_trailingValue :
    Node.locate? (ofModule noTypes trailing) [0, 1, 0] = some trailingValue :=
  (Node.locate?_append locate?_trailingProperty [0]).trans rfl

theorem trailingProperty_mem : trailingProperty ∈ Node.walkAll (ofModule noTypes trailing) :=
  Node.mem_walkAll_of_locate? locate?_trailingProperty

theorem trailingValue_mem : trailingValue ∈ Node.walkAll (ofModule noTypes trailing) :=
  Node.mem_walkAll_of_locate? locate?_trailingValue

/-! ## The refusal of a cycle -/

theorem cycleRefused_mem_notes_iff (document : String) (source target : Node String Int)
    (width : Int) :
    .cycleRefused (quote source.name) (quote target.name) ∈
        (move document source (some target) width).notes ↔
      source.contains target = true := by
  unfold move moveAnchors
  simp only [Option.map_some, Option.any_some]
  by_cases hc : source.contains target = true
  · rw [if_pos hc]
    simp [hc, Anchor.ofNode]
  · rw [if_neg hc]
    split
    · simp [hc]
    · split <;> simp [hc]

/-- **A move is refused as a cycle exactly when its target stands below its source.**  Nodes are
compared by what they show and not by where they stand.  Still, in the outline of a well-nested
document, a node holds another one just when its position begins the other's, so no move is refused
because some other node looks like one below the source. -/
theorem cycle_guard_exact {m : Module String Int} (hm : m.WellNested) (types : TypeLookup String)
    {source target : Node String Int} {p q : List Nat}
    (hp : Node.locate? (ofModule types m) p = some source)
    (hq : Node.locate? (ofModule types m) q = some target) :
    (source.contains target = true ↔ p <+: q) ∧
      ∀ (document : String) (width : Int),
        .cycleRefused (quote source.name) (quote target.name) ∈
            (move document source (some target) width).notes ↔ p <+: q := by
  have hiff : source.contains target = true ↔ p <+: q := by
    rw [Node.contains_iff_mem_walk]
    exact Node.mem_walk_iff_continues (orderly_ofModule hm types) (apart_ofModule hm types) hp hq
  refine ⟨hiff, fun document width => ?_⟩
  rw [cycleRefused_mem_notes_iff, hiff]

/-- A value stands on the line of its property, and only the property holds the value. -/
theorem cycle_guard_exact_trailing : trailing.WellNested ∧
    Node.locate? (ofModule noTypes trailing) [0, 1] = some trailingProperty ∧
    Node.locate? (ofModule noTypes trailing) [0, 1, 0] = some trailingValue ∧
    trailingProperty.contains trailingValue = true ∧
    trailingValue.contains trailingProperty = false := by
  have hm : trailing.WellNested := by decide
  have hdown := (cycle_guard_exact hm noTypes locate?_trailingProperty locate?_trailingValue).1
  have hup := (cycle_guard_exact hm noTypes locate?_trailingValue locate?_trailingProperty).1
  refine ⟨hm, locate?_trailingProperty, locate?_trailingValue, hdown.mpr (by decide), ?_⟩
  rw [← Bool.not_eq_true, hup]
  decide

/-! ## The place of a new child -/

/-- **A block never goes in inside itself.**  In the outline of a well-nested document the place of
a new child of a target that the source does not hold lies before the first line of the source or
after its last one. -/
theorem insertion_clear_of_source {m : Module String Int} (hm : m.WellNested)
    (types : TypeLookup String) {source target : Node String Int}
    (hs : source ∈ Node.walkAll (ofModule types m)) (ht : target ∈ Node.walkAll (ofModule types m))
    (hc : source.contains target = false) :
    target.insertionLine ≤ source.extent.1 - 1 ∨ source.extent.2 ≤ target.insertionLine := by
  have hot := orderly_of_mem_outline hm types ht
  have hle := hot.line_le_lastLine
  rw [hot.insertionLine_eq, Node.extent]
  rcases above_or_apart hm types hs ht hc with h | h | h
  · exact .inr (hot.lastLine_le h)
  · exact .inr (by omega)
  · exact .inl (by omega)

/-- A value would go in right after the line of its property, which is its own. -/
theorem insertion_clear_of_value : trailing.WellNested ∧
    trailingValue.contains trailingProperty = false ∧
    trailingValue.extent = (3, 3) ∧ trailingProperty.insertionLine = 3 ∧
    (trailingProperty.insertionLine ≤ trailingValue.extent.1 - 1 ∨
      trailingValue.extent.2 ≤ trailingProperty.insertionLine) := by
  have hm : trailing.WellNested := by decide
  exact ⟨hm, by decide, by decide, by decide,
    insertion_clear_of_source hm noTypes trailingValue_mem trailingProperty_mem (by decide)⟩

/-! ## A value that moves onto its property -/

/-- A line that is pushed to the right changes unless it is empty. -/
theorem reindentLine_shift_eq_self_iff {width : Int} (hw : 1 ≤ width) (l : Line) :
    reindentLine (leadingBlanks l) (leadingBlanks l + width) l = l ↔ l = [] := by
  cases hblank : isBlank l with
  | true =>
    rw [reindentLine_of_blank _ _ hblank]
    exact eq_comm
  | false =>
    constructor
    · intro heq
      have hlead := congrArg leadingBlanks heq
      rw [leadingBlanks_reindentLine _ _ hblank, rebaseIndent] at hlead
      omega
    · rintro rfl
      cases hblank

/-- A line put in where it was leaves the lines as they are if it is the same and did not end them.
-/
theorem pushed_eq_self_iff {before after : List Line} {l pushed : Line} :
    before ++ (if after.isEmpty then [[]] else []) ++ [pushed] ++ after = before ++ [l] ++ after ↔
      after ≠ [] ∧ pushed = l := by
  rw [List.append_left_inj, List.append_assoc, List.append_right_inj]
  by_cases h : after = [] <;> simp [h]

section
variable {source target : Node String Int} (hv : source.IsValueOf target)
include hv

theorem value_not_contains : source.contains target = false := by
  rw [Bool.eq_false_iff, Ne, Node.contains_iff_mem_walk, Node.mem_walk, hv.children_eq]
  rintro (rfl | ⟨c, hc, -⟩)
  · exact List.cons_ne_nil _ _ (hv.only_child.symm.trans hv.children_eq)
  · cases hc

variable (ho : target.Orderly)
include ho

theorem value_lastLine : source.lastLine = target.line := by
  have hmem : source ∈ target.children := by
    rw [hv.only_child]
    exact List.mem_singleton.mpr rfl
  rw [Node.lastLine_eq, hv.children_eq, Node.lastLineOr, (ho.child hmem).inPlace.stop_eq,
    hv.line_eq]

theorem value_not_refused {count : Nat} (hd : inDocument target.line count = true) :
    isRefused count source (some target) = false := by
  rw [isRefused_some, value_not_contains hv, hd, hv.line_eq, value_lastLine hv ho]
  simp only [inDocument, extentInDocument, Bool.and_eq_true, decide_eq_true_eq] at hd ⊢
  simp [hd]

/-- Moving a value onto its property pushes the property's line to the right; a line that ends the
text also gets an empty line in front of it. -/
theorem lines_move_value {document : String}
    (hd : inDocument target.line (lines document).length = true) (width : Int) :
    ∃ before l after, lines document = before ++ [l] ++ after ∧
      target.line = (before.length : Int) + 1 ∧
      lines (move document source (some target) width).text =
        before ++ (if after.isEmpty then [[]] else []) ++
          [reindentLine (leadingBlanks l) (leadingBlanks l + width) l] ++ after := by
  have hr := value_not_refused hv ho hd
  obtain ⟨c, hc⟩ := exists_cut_around hr
  have hfirst : (c.before.length : Int) + 1 = target.line := hc.first_eq.trans hv.line_eq
  have hlast : (c.before.length : Int) + c.block.length = target.line :=
    hc.last_eq.trans (value_lastLine hv ho)
  obtain ⟨l, hl⟩ := List.length_eq_one_iff.mp (show c.block.length = 1 by omega)
  have hlines : lines document = c.before ++ [l] ++ c.after := by
    rw [← hl]
    exact hc.lines_eq.symm
  have hindent : indentAt (lines document) target.line = leadingBlanks l := by
    rw [indentAt, hlines, show (target.line - 1).toNat = c.before.length by omega]
    simp
  have hmove := lines_move_onto_parent hc (by rw [hv.only_child]; rfl) hr width
  rw [hl, hindent] at hmove
  exact ⟨c.before, l, c.after, hlines, hfirst.symm, hmove⟩

/-- Moving a value onto its property changes the text unless the line is empty and not the last. -/
theorem move_value_eq_self_iff {document : String} {width : Int} (hw : 1 ≤ width)
    (hd : inDocument target.line (lines document).length = true) :
    (move document source (some target) width).text = document ↔
      target.line < (lines document).length ∧
        (lines document)[(target.line - 1).toNat]? = some [] := by
  obtain ⟨before, l, after, hlines, hline, hmove⟩ := lines_move_value hv ho hd width
  have hrow : (target.line - 1).toNat = before.length := by omega
  have hlen : (before ++ [l] ++ after).length = before.length + 1 + after.length := by
    rw [List.length_append, List.length_append, List.length_singleton]
  have hget : (before ++ [l] ++ after)[before.length]? = some l := by simp
  rw [← lines_inj, hmove, hlines, pushed_eq_self_iff, reindentLine_shift_eq_self_iff hw, hrow, hget,
    hlen, Option.some.injEq, ← List.length_pos_iff]
  constructor
  · rintro ⟨hpos, rfl⟩
    exact ⟨by omega, rfl⟩
  · rintro ⟨hlt, rfl⟩
    exact ⟨by omega, rfl⟩

end

/-- **A move keeps the target's own line where it is, unless a value moves onto its property.**  Let
the target's line be among those of the source.  If the source holds the target then the text does
not change.  If it does not and the document is well nested then the source is the target's value,
and the text changes unless the line is outside it or is an empty line with others after it. -/
theorem move_over_target_eq_self_iff (types : TypeLookup String) {m : Module String Int}
    {source target : Node String Int} (hs : source ∈ Node.walkAll (ofModule types m))
    (ht : target ∈ Node.walkAll (ofModule types m)) (hfirst : source.extent.1 ≤ target.line)
    (hlast : target.line ≤ source.extent.2) (document : String) {width : Int} (hw : 1 ≤ width) :
    (source.contains target = true → (move document source (some target) width).text = document) ∧
      (m.WellNested → source.contains target = false →
        source.IsValueOf target ∧
          ((move document source (some target) width).text = document ↔
            inDocument target.line (lines document).length = false ∨
              target.line < (lines document).length ∧
                (lines document)[(target.line - 1).toNat]? = some [])) := by
  refine ⟨fun hc => move_of_refused (by simp [isRefused_some, hc]) width, fun hm hc => ?_⟩
  have hv := isValueOf_of_shared_line hm types hs ht hc hfirst hlast
  refine ⟨hv, ?_⟩
  cases hd : inDocument target.line (lines document).length with
  | false =>
    have hsame : (move document source (some target) width).text = document :=
      move_of_refused (by simp [isRefused_some, hd]) width
    simp [hsame]
  | true =>
    rw [move_value_eq_self_iff hv (orderly_of_mem_outline hm types ht) hw hd]
    simp

theorem move_over_target_trailing : trailing.WellNested ∧
    trailingValue.contains trailingProperty = false ∧
    trailingValue.IsValueOf trailingProperty ∧
    (move trailingText trailingValue (some trailingProperty) 4).text ≠ trailingText := by
  have hm : trailing.WellNested := by decide
  have hc : trailingValue.contains trailingProperty = false := by decide
  have hwidth : (1 : Int) ≤ 4 := by decide
  have hmove := move_over_target_eq_self_iff noTypes trailingValue_mem trailingProperty_mem
    (by decide) (by decide) trailingText hwidth
  obtain ⟨hv, hsame⟩ := hmove.2 hm hc
  exact ⟨hm, hc, hv, mt hsame.mp (by decide)⟩

/-- The property of the root becomes a property of its child. -/
theorem move_value_takes_property :
    trailingValue ∈ Node.walkAll (ofModule noTypes trailing) ∧
      trailingProperty ∈ Node.walkAll (ofModule noTypes trailing) ∧
      trailingValue.extent.1 ≤ trailingProperty.line ∧
      trailingProperty.line ≤ trailingValue.extent.2 ∧
      (move trailingText trailingValue (some trailingProperty) defaultWidth).text =
        "Root:\n    A:\n        y: 2\n" ∧
      "Root:\n    A:\n        y: 2\n" ≠ trailingText :=
  ⟨trailingValue_mem, trailingProperty_mem, by decide, by decide, by decide, by decide⟩

end KvMarkup.Edit
