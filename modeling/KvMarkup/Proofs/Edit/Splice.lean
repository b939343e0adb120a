import KvMarkup.Edit.Move
import KvMarkup.Proofs.Text.Lines
import KvMarkup.Proofs.Text.Trim

/-!
# Lines with a run of lines put in

`Spliced rest run result` says that `result` is `rest` with the lines `run` put in together at one
place.  Putting a block in front of any position does that, whether the position lies among the
lines, counts from the back or points past the end:

    Spliced ls block (splice ls position block)                               (spliced_splice)
    splice (xs ++ ys) xs.length block = xs ++ block ++ ys                       (splice_append)

The texts of the result are those of the run and those of the rest, each as often as before.
-/

namespace KvMarkup.Edit

open KvMarkup.Text

/-- The lines `rest` with the lines `run` put in together at one place. -/
def Spliced (rest run result : List Line) : Prop :=
  ∃ before after, rest = before ++ after ∧ result = before ++ run ++ after

theorem spliced_splice (ls block : List Line) (position : Int) :
    Spliced ls block (splice ls position block) :=
  ⟨ls.take (place ls.length position), ls.drop (place ls.length position),
    (List.take_append_drop _ _).symm, rfl⟩

theorem spliced_append (ls block : List Line) : Spliced ls block (append ls block) := by
  unfold append
  split
  · exact spliced_splice ls block _
  · exact ⟨ls, [], by simp, by simp⟩

theorem splice_nil (ls : List Line) (position : Int) : splice ls position [] = ls := by
  rw [splice, List.append_nil, List.take_append_drop]

theorem splice_of_place {xs ys : List Line} {position : Int}
    (h : place (xs ++ ys).length position = xs.length) (block : List Line) :
    splice (xs ++ ys) position block = xs ++ block ++ ys := by
  simp only [splice, h, List.take_left, List.drop_left]

theorem splice_append (xs ys block : List Line) :
    splice (xs ++ ys) (xs.length : Int) block = xs ++ block ++ ys := by
  apply splice_of_place
  unfold place
  rw [List.length_append]
  split <;> omega

namespace Spliced

variable {rest run result : List Line}

theorem noBreaks (h : Spliced rest run result) (hrest : NoBreaks rest) (hrun : NoBreaks run) :
    NoBreaks result := by
  obtain ⟨before, after, rfl, rfl⟩ := h
  rw [noBreaks_append] at hrest
  simp only [noBreaks_append]
  exact ⟨⟨hrest.1, hrun⟩, hrest.2⟩

theorem ne_nil (h : Spliced rest run result) (hrun : run ≠ []) : result ≠ [] := by
  obtain ⟨before, after, rfl, rfl⟩ := h
  simp [hrun]

theorem perm (h : Spliced rest run result) : result.Perm (run ++ rest) := by
  obtain ⟨before, after, rfl, rfl⟩ := h
  rw [← List.append_assoc run]
  exact List.perm_append_comm.append_right after

end Spliced

/-- Joining the lines of a text with a block put in, and cutting again, gives the same lines. -/
theorem lines_ofLines_splice (text : String) (position : Int) {block : List Line} (hne : block ≠ [])
    (h : NoBreaks block) :
    lines (ofLines (splice (lines text) position block)) = splice (lines text) position block := by
  have hs := spliced_splice (lines text) block position
  exact lines_ofLines (hs.ne_nil hne) (hs.noBreaks (noBreaks_lines text) h)

/-! ## The texts of some lines -/

/-- The trimmed texts of the lines that are not blank. -/
def texts (ls : List Line) : List Line := (content ls).map trim

@[simp]
theorem texts_append (ls ms : List Line) : texts (ls ++ ms) = texts ls ++ texts ms := by
  simp [texts]

theorem texts_congr {ls ms : List Line} (h : ls.map trim = ms.map trim) : texts ls = texts ms := by
  rw [texts, texts, map_trim_content, map_trim_content, h]

theorem texts_perm {ls ms : List Line} (h : ls.Perm ms) : (texts ls).Perm (texts ms) :=
  (h.filter _).map _

end KvMarkup.Edit
