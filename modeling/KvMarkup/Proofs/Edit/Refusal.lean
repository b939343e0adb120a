import KvMarkup.Proofs.Edit.WellTyped

/-!
# Edits that change nothing

A move is refused when the target is in the source, or when the target or the source is outside the
text; the text then comes back with a note (`uncheckedMove_of_refused`), and no other move has such
a note (`refused_iff`).  A text into which a snippet of blank lines is inserted comes back as well,
without a note (`insert_of_blank`).
-/

namespace KvMarkup

open KvMarkup.Text KvMarkup.Outline

/-- A note that a move is refused. -/
def Note.refuses : Note → Bool
  | .cycleRefused .. => true
  | .targetOutside .. => true
  | .sourceOutside .. => true
  | _ => false

namespace Edit

/-- A move that is refused: the target is in the source, or the target or the source is outside the
text. -/
inductive Refused (document : String) (source : UncheckedNode) : Option UncheckedNode → Prop
  | cyclic {target : UncheckedNode} (h : source.contains target = true) :
      Refused document source (some target)
  | targetOutside {target : UncheckedNode} (hline : target.line.isNumeric = true)
      (h : withinLines (lines document).length target.line = false) :
      Refused document source (some target)
  | sourceOutside {target : Option UncheckedNode}
      (htarget : ∀ t ∈ target, t.line.isNumeric = true ∧
        withinLines (lines document).length t.line = true)
      (hfirst : source.line.isNumeric = true) (hlast : source.lastLine.isNumeric = true)
      (h : extentWithin (lines document).length source = false) :
      Refused document source target

/-! ## The checks of a move -/

section
variable {n : UncheckedNode} (count : Nat)

theorem outsideTarget?_eq (hline : n.line.isNumeric = true) :
    outsideTarget? count n = .ok (if withinLines count n.line then none
      else some (.targetOutside n.name.quoted (shownLine n.line))) := by
  unfold outsideTarget? checkNumeric
  rw [if_pos hline]
  simp only [bind, Except.bind]
  split <;> rfl

theorem outsideSource?_eq (hfirst : n.line.isNumeric = true) (hlast : n.lastLine.isNumeric = true) :
    outsideSource? count n = .ok (if extentWithin count n then none
      else some (.sourceOutside n.name.quoted (shownLine n.line) (shownLine n.lastLine))) := by
  unfold outsideSource? checkNumeric
  rw [if_pos hfirst, if_pos hlast]
  simp only [bind, Except.bind]
  split <;> rfl

theorem isNumeric_of_outsideTarget? {found : Option Note}
    (h : outsideTarget? count n = .ok found) : n.line.isNumeric = true := by
  unfold outsideTarget? checkNumeric at h
  by_cases hline : n.line.isNumeric = true
  · exact hline
  · rw [if_neg hline] at h
    cases h

theorem isNumeric_of_outsideSource? {found : Option Note}
    (h : outsideSource? count n = .ok found) :
    n.line.isNumeric = true ∧ n.lastLine.isNumeric = true := by
  unfold outsideSource? checkNumeric at h
  by_cases hfirst : n.line.isNumeric = true
  · by_cases hlast : n.lastLine.isNumeric = true
    · exact ⟨hfirst, hlast⟩
    · rw [if_pos hfirst, if_neg hlast] at h
      cases h
  · rw [if_neg hfirst] at h
    cases h

end

/-! ## Refusals -/

/-- **A refused move gives the text back**, with a note. -/
theorem uncheckedMove_of_refused {document : String} {source : UncheckedNode}
    {target : Option UncheckedNode} (h : Refused document source target) (width : Int) :
    ∃ note, note.refuses = true ∧
      uncheckedMove document source target width = .ok ⟨document, [note]⟩ := by
  unfold uncheckedMove
  cases h with
  | cyclic h =>
    simp only [h, if_true]
    exact ⟨_, rfl, rfl⟩
  | @targetOutside target hline h =>
    by_cases hcyclic : source.contains target = true
    · simp only [hcyclic, if_true]
      exact ⟨_, rfl, rfl⟩
    · simp only [hcyclic, outsideTarget?_eq _ hline, h]
      exact ⟨_, rfl, rfl⟩
  | sourceOutside htarget hfirst hlast h =>
    cases target with
    | none =>
      simp only [outsideSource?_eq _ hfirst hlast, h]
      exact ⟨_, rfl, rfl⟩
    | some target =>
      obtain ⟨hline, hwithin⟩ := htarget target rfl
      by_cases hcyclic : source.contains target = true
      · simp only [hcyclic, if_true]
        exact ⟨_, rfl, rfl⟩
      · simp only [hcyclic, outsideTarget?_eq _ hline, hwithin, outsideSource?_eq _ hfirst hlast, h]
        exact ⟨_, rfl, rfl⟩

theorem number?_of_integer? {d : Data} {k : Int} (h : d.integer? = some k) :
    d.number? = some (.finite k) := by
  cases d with
  | int n =>
    obtain rfl := Option.some.inj h
    rfl
  | bool b =>
    obtain rfl := Option.some.inj h
    cases b <;> rfl
  | _ => cases h

/-- Values that are integers are compared as integers. -/
theorem leNumber_of_integer? {a b : Data} {x y : Int} (ha : a.integer? = some x)
    (hb : b.integer? = some y) : a.leNumber b = decide (x ≤ y) := by
  rw [← Data.leNumber_int, Data.leNumber, number?_of_integer? ha, number?_of_integer? hb]
  rfl

theorem atMost_of_integer? {a b : Data} {x y : Int} (ha : a.integer? = some x)
    (hb : b.integer? = some y) : a.atMost b = decide (x ≤ y) := by
  rw [Data.atMost, leNumber_of_integer? ha hb, number?_of_integer? ha, number?_of_integer? hb]
  rfl

/-- The lines that an edit uses are those that its checks compared. -/
theorem integer?_of_anchorOf {n : UncheckedNode} {a : Anchor} (h : anchorOf n = .ok a) :
    n.line.integer? = some a.first ∧ n.lastLine.integer? = some a.last := by
  unfold anchorOf position at h
  cases hfirst : n.line.integer? with
  | none => simp [hfirst, bind, Except.bind] at h
  | some first =>
    cases hlast : n.lastLine.integer? with
    | none => simp [hfirst, hlast, bind, Except.bind] at h
    | some last =>
      cases hinsertion : n.insertionLine.integer? with
      | none => simp [hfirst, hlast, hinsertion, bind, Except.bind] at h
      | some insertion =>
        simp only [hfirst, hlast, hinsertion, bind, Except.bind, Except.ok.injEq] at h
        subst h
        exact ⟨rfl, rfl⟩

/-- A move whose checks were passed is not refused any more. -/
theorem not_refuses_moveAnchors {document : String} {source : UncheckedNode} {a : Anchor}
    {target : Option Anchor} (ha : anchorOf source = .ok a)
    (hsource : extentWithin (lines document).length source = true)
    (htarget : ∀ t ∈ target, inDocument t.first (lines document).length = true) (width : Int) :
    ∀ note ∈ (moveAnchors document a target false width).notes, note.refuses = false := by
  obtain ⟨hfirst, hlast⟩ := integer?_of_anchorOf ha
  have hextent : extentInDocument a.first a.last (lines document).length = true := by
    unfold extentWithin at hsource
    rw [leNumber_of_integer? rfl hfirst, atMost_of_integer? rfl hlast,
      leNumber_of_integer? hfirst hlast] at hsource
    simp only [Bool.and_eq_true, Bool.not_eq_true', decide_eq_true_eq, decide_eq_false_iff_not]
      at hsource
    simp only [extentInDocument, Bool.and_eq_true, decide_eq_true_eq]
    omega
  unfold moveAnchors
  cases target with
  | none =>
    simp only [if_pos hextent]
    simp
  | some t =>
    simp only [htarget t rfl, hextent]
    simp [Note.refuses]

section
variable {document : String} {source : UncheckedNode} {found : Option Note}

/-- A target whose check comes to a result is outside the text, and the move refused, or in it. -/
theorem refused_or_within {target : UncheckedNode}
    (h : outsideTarget? (lines document).length target = .ok found) :
    Refused document source (some target) ∨ found = none ∧ target.line.isNumeric = true ∧
      withinLines (lines document).length target.line = true := by
  have hline := isNumeric_of_outsideTarget? _ h
  rw [outsideTarget?_eq _ hline] at h
  cases hwithin : withinLines (lines document).length target.line with
  | false => exact .inl (.targetOutside hline hwithin)
  | true =>
    rw [hwithin] at h
    exact .inr ⟨(Except.ok.inj h).symm, hline, rfl⟩

/-- A source whose check comes to a result is outside the text, and the move refused, or in it. -/
theorem refused_or_extentWithin {target : Option UncheckedNode}
    (htarget : ∀ t ∈ target, t.line.isNumeric = true ∧
      withinLines (lines document).length t.line = true)
    (h : outsideSource? (lines document).length source = .ok found) :
    Refused document source target ∨
      found = none ∧ extentWithin (lines document).length source = true := by
  obtain ⟨hfirst, hlast⟩ := isNumeric_of_outsideSource? _ h
  rw [outsideSource?_eq _ hfirst hlast] at h
  cases hextent : extentWithin (lines document).length source with
  | false => exact .inl (.sourceOutside htarget hfirst hlast hextent)
  | true =>
    rw [hextent] at h
    exact .inr ⟨(Except.ok.inj h).symm, rfl⟩

end

/-- A move that is not refused does not say so. -/
theorem not_refuses_uncheckedMove {document : String} {source : UncheckedNode}
    {target : Option UncheckedNode} {width : Int} {edited : Edited}
    (hnot : ¬Refused document source target)
    (h : uncheckedMove document source target width = .ok edited) :
    ∀ note ∈ edited.notes, note.refuses = false := by
  unfold uncheckedMove at h
  cases target with
  | none =>
    simp only at h
    obtain ⟨found, hsource, h⟩ := bind_eq_ok_iff.mp h
    have hnone : ∀ t ∈ (none : Option UncheckedNode), t.line.isNumeric = true ∧
        withinLines (lines document).length t.line = true := by
      simp
    obtain hrefused | ⟨rfl, hextent⟩ := refused_or_extentWithin hnone hsource
    · exact absurd hrefused hnot
    · obtain ⟨a, ha, h⟩ := bind_eq_ok_iff.mp h
      obtain rfl := Except.ok.inj h
      exact not_refuses_moveAnchors ha hextent (by simp) width
  | some target =>
    have hcyclic : source.contains target = false := by
      cases hc : source.contains target with
      | false => rfl
      | true => exact absurd (.cyclic hc) hnot
    simp only [hcyclic, Bool.false_eq_true, if_false] at h
    obtain ⟨found, htarget, h⟩ := bind_eq_ok_iff.mp h
    obtain hrefused | ⟨rfl, hline, hwithin⟩ := refused_or_within htarget
    · exact absurd hrefused hnot
    · have hin : ∀ t ∈ some target, t.line.isNumeric = true ∧
          withinLines (lines document).length t.line = true := by
        rintro t ⟨⟩
        exact ⟨hline, hwithin⟩
      obtain ⟨found, hsource, h⟩ := bind_eq_ok_iff.mp h
      obtain hrefused | ⟨rfl, hextent⟩ := refused_or_extentWithin hin hsource
      · exact absurd hrefused hnot
      · obtain ⟨a, ha, h⟩ := bind_eq_ok_iff.mp h
        obtain ⟨b, hb, h⟩ := bind_eq_ok_iff.mp h
        obtain rfl := Except.ok.inj h
        have hdocument : ∀ t ∈ some b, inDocument t.first (lines document).length = true := by
          rintro t ⟨⟩
          have hfirst := (integer?_of_anchorOf hb).1
          unfold withinLines at hwithin
          rw [atMost_of_integer? rfl hfirst, atMost_of_integer? hfirst rfl] at hwithin
          exact hwithin
        exact not_refuses_moveAnchors ha hextent hdocument width

/-- **Exactly the refused moves say so.** -/
theorem refused_iff {document : String} {source : UncheckedNode} {target : Option UncheckedNode}
    {width : Int} {edited : Edited} (h : uncheckedMove document source target width = .ok edited) :
    Refused document source target ↔ ∃ note ∈ edited.notes, note.refuses = true := by
  constructor
  · intro hrefused
    obtain ⟨note, hnote, heq⟩ := uncheckedMove_of_refused hrefused width
    obtain rfl := Except.ok.inj (h.symm.trans heq)
    exact ⟨note, List.mem_singleton_self note, hnote⟩
  · rintro ⟨note, hmem, hnote⟩
    by_contra hnot
    rw [not_refuses_uncheckedMove hnot h note hmem] at hnote
    cases hnote

/-- **A snippet of blank lines changes nothing.** -/
theorem insert_of_blank {snippet : String}
    (h : ∀ l ∈ (dropEndMark snippet.toList).splitOn '\n', isBlank l = true) (source : String)
    (line column width : Int) : insert source snippet line column width = ⟨source, []⟩ := by
  have hblock : anchoredSnippet snippet (roundIndent column width) = [] := by
    unfold anchoredSnippet anchor
    rw [List.filter_eq_nil_iff.mpr]
    · rfl
    · intro l hl
      simp [h l hl]
  unfold insert
  simp only [hblock]
  rfl

end Edit

end KvMarkup
