import KvMarkup.Hint.Basic
import KvMarkup.Proofs.Outline.Listing
import KvMarkup.Proofs.Text.Lines
import KvMarkup.Proofs.Text.Trim

/-!
# Every hint and its place

A hint stands where the text of its line ends, whether a value follows the colon or not:

    hintCharacter? l = some k ↔ ':' ∈ l ∧ k = (trimEnd l).length        (hintCharacter?_eq_some_iff)

For where nothing follows the colon, the colon is the last character that is not white space.  The
hints are then what a walk finds that skips the nodes that show a value, and so they list one hint
for each property that shows a type and stands on a line with a colon (`hints_exact`).

An unchecked outline with names and lines of the right types gives the same hints
(`uncheckedHints_ofTyped`).
-/

namespace KvMarkup.Hint

open KvMarkup.Text KvMarkup.Outline

/-! ## Where a hint stands -/

theorem hintCharacter?_of_colon {xs : Line} (h : ':' ∉ xs) (ys : Line) :
    hintCharacter? (xs ++ ':' :: ys) =
      some (if isBlank ys then xs.length + 1 else (trimEnd (xs ++ ':' :: ys)).length) := by
  unfold hintCharacter?
  simp only
  rw [if_pos (by simp), takeWhile_before h, drop_behind]

/-- Where nothing follows a colon, the line ends with it but for white space. -/
theorem trimEnd_of_colon {ys : Line} (xs : Line) (h : isBlank ys = true) :
    trimEnd (xs ++ ':' :: ys) = xs ++ [':'] := by
  have hsplit : xs ++ ':' :: ys = xs ++ [':'] ++ ys := by simp
  rw [hsplit, trimEnd_append_of_blank _ h, trimEnd_eq_rdropWhile,
    List.rdropWhile_concat_neg isSpace xs ':' (by decide)]

theorem hintCharacter?_eq_some_iff {l : Line} {k : Nat} :
    hintCharacter? l = some k ↔ ':' ∈ l ∧ k = (trimEnd l).length := by
  by_cases hl : ':' ∈ l
  · obtain ⟨xs, ys, rfl, hxs⟩ := List.eq_append_cons_of_mem hl
    rw [hintCharacter?_of_colon hxs]
    cases hys : isBlank ys with
    | true => simp [trimEnd_of_colon xs hys, eq_comm]
    | false => simp [eq_comm]
  · unfold hintCharacter?
    simp [hl]

/-- Only white space stands behind a line without the white space at its end. -/
theorem isBlank_drop_trimEnd (l : Line) : isBlank (l.drop (trimEnd l).length) = true := by
  obtain ⟨m, hm, hl⟩ := exists_eq_trimEnd_append l
  have hdrop : l.drop (trimEnd l).length = m := by
    conv_lhs => arg 2; rw [hl]
    exact List.drop_left
  rw [hdrop, hm]

/-! ## What has a hint -/

/-- The node is a property, and its detail is a type. -/
structure Typed (n : Node String Int) (type : String) : Prop where
  is_property : n.kind = .property
  detail_eq : n.detail = some type
  not_empty : type ≠ ""
  is_type : ∀ word ∈ ["handler", "identifier", "widget", "canvas"], ¬ word.toList <:+: type.toList

theorem isTypeDetail_iff {detail : String} :
    isTypeDetail detail = true ↔ detail ≠ "" ∧
      ∀ word ∈ ["handler", "identifier", "widget", "canvas"], ¬ word.toList <:+: detail.toList := by
  unfold isTypeDetail otherDetails
  rw [Bool.and_eq_true, bne_iff_ne, Bool.not_eq_true', List.any_eq_false]
  simp only [occursIn_iff]

theorem shownType?_eq_some_iff {n : Node String Int} {type : String} :
    shownType? n.kind n.detail = some type ↔ Typed n type := by
  unfold shownType?
  constructor
  · intro h
    split at h
    · next hkind =>
      obtain ⟨hdetail, htype⟩ := Option.filter_eq_some_iff.mp h
      obtain ⟨hne, hwords⟩ := isTypeDetail_iff.mp htype
      exact ⟨beq_iff_eq.mp hkind, hdetail, hne, hwords⟩
    · cases h
  · rintro ⟨hkind, hdetail, hne, hwords⟩
    rw [if_pos (beq_iff_eq.mpr hkind)]
    exact Option.filter_eq_some_iff.mpr ⟨hdetail, isTypeDetail_iff.mpr ⟨hne, hwords⟩⟩

theorem lineAt?_eq_some_iff {n : Node String Int} {text : String} {l : Line} :
    lineAt? (lines text) n.line = some l ↔ n.StandsOn text l := by
  unfold lineAt? Node.StandsOn
  by_cases hline : n.line < 1
  · rw [if_pos hline]
    refine iff_of_false nofun ?_
    rintro ⟨hfirst, -⟩
    omega
  · rw [if_neg hline]
    exact (and_iff_right (by omega)).symm

/-- The hint of a node by itself. -/
def ownHint (ls : List Line) (n : Node String Int) : Option TypeHint :=
  (shownType? n.kind n.detail).bind (hintOn ls n.line)

theorem ownHint_eq_some_iff {text : String} {n : Node String Int} {h : TypeHint} :
    ownHint (lines text) n = some h ↔
      ∃ type l, Typed n type ∧ n.StandsOn text l ∧ ':' ∈ l ∧
        h = ⟨n.line - 1, (trimEnd l).length, " " ++ type⟩ := by
  unfold ownHint hintOn
  rw [Option.bind_eq_some_iff]
  constructor
  · rintro ⟨type, htype, hhint⟩
    obtain ⟨l, hl, hhint⟩ := Option.bind_eq_some_iff.mp hhint
    obtain ⟨k, hk, hhint⟩ := Option.bind_eq_some_iff.mp hhint
    obtain ⟨hcolon, rfl⟩ := hintCharacter?_eq_some_iff.mp hk
    exact ⟨type, l, shownType?_eq_some_iff.mp htype, lineAt?_eq_some_iff.mp hl, hcolon,
      (Option.some.inj hhint).symm⟩
  · rintro ⟨type, l, htype, hl, hcolon, rfl⟩
    refine ⟨type, shownType?_eq_some_iff.mpr htype, ?_⟩
    refine Option.bind_eq_some_iff.mpr ⟨l, lineAt?_eq_some_iff.mpr hl, ?_⟩
    exact Option.bind_eq_some_iff.mpr ⟨_, hintCharacter?_eq_some_iff.mpr ⟨hcolon, rfl⟩, rfl⟩

/-! ## The walk -/

theorem hintsBelow_eq_flatMap (ls : List Line) (ns : List (Node String Int)) :
    hintsBelow ls ns = ns.flatMap (hintsOf ls) := by
  induction ns with
  | nil => rfl
  | cons n ns ih => rw [hintsBelow, ih, List.flatMap_cons]

theorem hintsOf_eq (ls : List Line) (n : Node String Int) :
    hintsOf ls n = if "value:".toList.isPrefixOf n.name.toList then []
      else (ownHint ls n).toList ++ n.children.flatMap (hintsOf ls) := by
  obtain ⟨name, kind, range, selection, detail, children⟩ := n
  rw [hintsOf, hintsBelow_eq_flatMap]
  rfl

/-! ## Unchecked outlines -/

mutual
theorem hintsOf_typed (ls : List Line) :
    (n : Node String Int) → ∃ n', typed ls.length (ofTyped n) = .ok n' ∧ hintsOf ls n' = hintsOf ls n
  | ⟨name, kind, range, selection, detail, children⟩ => by
    obtain ⟨children', hchildren, hbelow⟩ := hintsBelow_typedAll ls children
    rw [ofTyped, Node.map, typed]
    show ∃ n', (if showsValue name then _ else _) = Except.ok n' ∧ _
    cases hvalue : showsValue name with
    | true =>
      refine ⟨_, rfl, ?_⟩
      rw [hintsOf, hintsOf, if_pos hvalue, if_pos hvalue]
    | false =>
      rw [hchildren]
      cases htype : shownType? kind detail with
      | none =>
        refine ⟨_, rfl, ?_⟩
        rw [hintsOf, hintsOf, htype, hbelow]
        rfl
      | some type =>
        refine ⟨_, rfl, ?_⟩
        rw [hintsOf, hintsOf, hbelow]
        rfl
theorem hintsBelow_typedAll (ls : List Line) : (ns : List (Node String Int)) →
    ∃ ns', typedAll ls.length (Node.mapAll .str .int ns) = .ok ns' ∧
      hintsBelow ls ns' = hintsBelow ls ns
  | [] => ⟨[], rfl, rfl⟩
  | n :: ns => by
    obtain ⟨n', hn, hown⟩ := hintsOf_typed ls n
    obtain ⟨ns', hns, hothers⟩ := hintsBelow_typedAll ls ns
    refine ⟨n' :: ns', ?_, by rw [hintsBelow, hintsBelow, hown, hothers]⟩
    rw [Node.mapAll, typedAll]
    rw [ofTyped] at hn
    rw [hn, hns]
    rfl
end

/-- A well-typed outline has the same hints among the unchecked ones. -/
theorem uncheckedHints_ofTyped (symbols : List (Node String Int)) (text : String) :
    uncheckedHints (symbols.map ofTyped) text = .ok (hints symbols text) := by
  obtain ⟨below, hread, hhints⟩ := read_below_ofTyped (hintsBelow_typedAll (lines text)) symbols
  unfold uncheckedHints hints
  simp only
  rw [hread, ← hhints]
  rfl

/-! ## All hints -/

/-- The hint of the node at a position: one below a top-level node and not in what shows a value, a
property that shows a type and stands on a line with a colon. -/
def HasHint (symbols : List (Node String Int)) (text : String) (p : List Nat) (h : TypeHint) :
    Prop :=
  ∃ n type l, Node.Below (fun n => "value:".toList.isPrefixOf n.name.toList) symbols p n ∧
    Typed n type ∧ n.StandsOn text l ∧ ':' ∈ l ∧
    h = ⟨n.line - 1, (trimEnd l).length, " " ++ type⟩

/-- **Hints are complete and in place.**  They are found for every outline and every text, and list
in depth-first order one hint for each property that shows a type, stands on a line with a colon and
is not in what shows a value.  Each hint stands on a line of the text where nothing but white space
follows. -/
theorem hints_exact (symbols : List (Node String Int)) (text : String) :
    ∃ found, uncheckedHints (symbols.map ofTyped) text = .ok found ∧
      Lists (HasHint symbols text) found ∧
      ∀ h ∈ found, 0 ≤ h.line ∧ ∃ l, (lines text)[h.line.toNat]? = some l ∧
        h.character ≤ l.length ∧ isBlank (l.drop h.character) = true := by
  have hlists : Lists (HasHint symbols text) (hints symbols text) := by
    have hwalk := Node.lists_below (hintsOf_eq (lines text)) symbols
    have hsame : hints symbols text =
        symbols.flatMap fun s => s.children.flatMap (hintsOf (lines text)) := by
      unfold hints
      simp only [hintsBelow_eq_flatMap]
    rw [hsame]
    refine hwalk.congr ?_
    intro p h
    simp only [ownHint_eq_some_iff, HasHint, exists_and_left]
  refine ⟨hints symbols text, uncheckedHints_ofTyped symbols text, hlists, ?_⟩
  intro h hmem
  obtain ⟨p, n, type, l, -, -, ⟨hline, hl⟩, -, rfl⟩ := hlists.exists_position hmem
  refine ⟨?_, l, hl, (List.rdropWhile_prefix isSpace l).length_le, isBlank_drop_trimEnd l⟩
  show 0 ≤ n.line - 1
  omega

end KvMarkup.Hint
