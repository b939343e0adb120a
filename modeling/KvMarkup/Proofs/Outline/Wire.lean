import KvMarkup.Outline.Wire
import KvMarkup.Proofs.Edit.WellTyped

/-!
# What a host can tell apart

The mapping that a host receives lacks a key where a node has no detail, and one where it has no
children.  Nothing is lost by that, whatever the names and lines of the nodes are, if equality on
the wire is theirs (`Faithful`):

    (x.wire == y.wire) = (x == y)                                                       (beq_wire)

Mappings are equal when they have as many keys and each key of the first has an equal value in the
second (`beq_record_iff`).  So a key that may be missing is missing in both or in neither, and what
stands under it is compared like all the rest.
-/

namespace KvMarkup.Outline

/-! ## Records -/

theorem find?_record (ys : List (String × Data)) (key : String) :
    (ys.map fun f => (Data.str f.1, f.2)).find? (fun e => Data.sameScalar (.str key) e.1) =
      (ys.lookup key).map fun value => (Data.str key, value) := by
  induction ys with
  | nil => rfl
  | cons f ys ih =>
    rw [List.map_cons, List.lookup_cons]
    by_cases h : key = f.1
    · subst h
      rw [List.find?_cons_of_pos (by simp [Data.sameScalar]), beq_self_eq_true]
      rfl
    · rw [List.find?_cons_of_neg (by simpa [Data.sameScalar] using h), beq_false_of_ne h]
      exact ih

theorem sameEntries_record_iff {xs ys : List (String × Data)} :
    Data.sameEntries (xs.map fun f => (.str f.1, f.2)) (ys.map fun f => (.str f.1, f.2)) = true ↔
      ∀ f ∈ xs, ∃ value ∈ ys.lookup f.1, (f.2 == value) = true := by
  induction xs with
  | nil => simp [Data.sameEntries]
  | cons f xs ih =>
    rw [List.map_cons, Data.sameEntries, Bool.and_eq_true, ih, List.forall_mem_cons, find?_record]
    cases ys.lookup f.1 <;> simp [BEq.beq]

/-- Records are equal when they have as many keys, and what stands under each key of the first is
equal to what stands under it in the second. -/
theorem beq_record_iff {xs ys : List (String × Data)} :
    (record xs == record ys) = true ↔
      xs.length = ys.length ∧ ∀ f ∈ xs, ∃ value ∈ ys.lookup f.1, (f.2 == value) = true := by
  rw [← sameEntries_record_iff]
  show Data.same (.map _) (.map _) = true ↔ _
  rw [Data.same, Bool.and_eq_true, List.length_map, List.length_map, beq_iff_eq]

/-! ## Values -/

/-- Equality on the wire is the equality of the values. -/
class Faithful (α : Type) [BEq α] [ToData α] : Prop where
  beq_toData (a b : α) : (ToData.toData a == ToData.toData b) = (a == b)

instance : Faithful String := ⟨Data.beq_str⟩
instance : Faithful Int := ⟨Data.beq_int⟩
instance : Faithful Data := ⟨fun _ _ => rfl⟩

theorem beq_list (xs ys : List Data) : (Data.list xs == Data.list ys) = Data.sameItems xs ys := rfl

theorem Kind.ofCode?_code (k : Kind) : Kind.ofCode? k.code = some k := by
  cases k <;> rfl

theorem Kind.code_inj {k l : Kind} : k.code = l.code ↔ k = l := by
  constructor
  · intro h
    have hl := Kind.ofCode?_code l
    rw [← h, Kind.ofCode?_code] at hl
    exact Option.some.inj hl
  · rintro rfl
    rfl

/-! ## Nodes -/

/-- The fields of a node, where `below` are its children on the wire. -/
def wireFields (name kind range selection : Data) (detail : Option String) (below : List Data) :
    List (String × Data) :=
  [("name", name), ("kind", kind), ("range", range), ("selectionRange", selection)] ++
    (detail.map fun d => ("detail", Data.str d)).toList ++
    (if below.isEmpty then [] else [("children", .list below)])

/-- A key that may be missing is missing on both sides or on neither: counting the keys tells. -/
theorem beq_wireFields_iff {name kind range selection name' kind' range' selection' : Data}
    {detail detail' : Option String} {below below' : List Data} :
    (record (wireFields name kind range selection detail below) ==
      record (wireFields name' kind' range' selection' detail' below')) = true ↔
      (name == name') = true ∧ (kind == kind') = true ∧ (range == range') = true ∧
        (selection == selection') = true ∧ detail = detail' ∧
        Data.sameItems below below' = true := by
  rw [beq_record_iff]
  cases detail <;> cases detail' <;> cases below <;> cases below' <;>
    simp [wireFields, List.lookup_cons, Data.beq_str, beq_list, Data.sameItems]

section
variable {ν ℓ : Type} [ToData ν] [ToData ℓ]

theorem wire_mk (name : ν) (kind : Kind) (range selection : Span ℓ) (detail : Option String)
    (children : List (Node ν ℓ)) :
    Node.wire ⟨name, kind, range, selection, detail, children⟩ =
      record (wireFields (ToData.toData name) (.int kind.code) range.wire selection.wire detail
        (Node.wireAll children)) := by
  cases children <;> rfl

theorem beq_span_wire [BEq ℓ] [Faithful ℓ] (s t : Span ℓ) :
    (s.wire == t.wire) = Node.sameSpan s t := by
  rw [Bool.eq_iff_iff, Span.wire, Span.wire, beq_record_iff]
  simp [List.lookup_cons, Faithful.beq_toData, Data.beq_int, Node.sameSpan, and_assoc]

mutual
/-- Two nodes are equal on the wire exactly when they are equal. -/
theorem beq_wire [BEq ν] [Faithful ν] [BEq ℓ] [Faithful ℓ] :
    (x y : Node ν ℓ) → (x.wire == y.wire) = x.same y
  | ⟨_, _, _, _, _, children⟩, ⟨_, _, _, _, _, others⟩ => by
    rw [Bool.eq_iff_iff, wire_mk, wire_mk, beq_wireFields_iff, beq_span_wire, beq_span_wire,
      sameItems_wireAll children others]
    simp [Node.same, Faithful.beq_toData, Data.beq_int, Kind.code_inj, and_assoc]
theorem sameItems_wireAll [BEq ν] [Faithful ν] [BEq ℓ] [Faithful ℓ] :
    (xs ys : List (Node ν ℓ)) →
      Data.sameItems (Node.wireAll xs) (Node.wireAll ys) = Node.sameAll xs ys
  | [], [] => rfl
  | [], _ :: _ => rfl
  | _ :: _, [] => rfl
  | x :: xs, y :: ys => by
    rw [Node.wireAll, Node.wireAll, Data.sameItems, Node.sameAll, sameItems_wireAll xs ys]
    exact congrArg (· && _) (beq_wire x y)
end

end

/-- **The wire keeps everything.**  Well-typed nodes with equal mappings are the same node: in
their names, kinds and spans, in having a detail or none, and in all that is below them.  Nodes
with other names and lines are as equal as their mappings. -/
theorem wire_keeps_nodes :
    (∀ x y : Node String Int, (x.wire == y.wire) = true ↔ x = y) ∧
      ∀ x y : UncheckedNode, (x.wire == y.wire) = (x == y) := by
  constructor
  · intro x y
    rw [beq_wire, Node.same_iff]
  · exact beq_wire

/-- A detail without text is a detail. -/
example (name : String) (span : Span Int) :
    ((⟨name, .value, span, span, none, []⟩ : Node String Int).wire ==
      Node.wire ⟨name, .value, span, span, some "", []⟩) = false := rfl

end KvMarkup.Outline
