import KvMarkup.Proofs.Json.Record
import KvMarkup.Service

/-!
# The result of an edit, read back

What a host gets as text it reads as the mapping that it could have got instead, whatever the text
of the document is:

    decode r.json = .ok r.wire                                                   (json_reads_back)
-/

namespace KvMarkup.Edit

open KvMarkup.Json KvMarkup.Outline

/-- The fields of a result that are there. -/
def Result.fields : Result → List (String × Data)
  | .done text => [("success", .bool true), ("kvCode", .str text)]
  | .failed reason => [("success", .bool false), ("error", .str reason)]

theorem Result.wire_eq (r : Result) : r.wire = record r.fields := by
  cases r <;> rfl

/-- A truth value under one key and a text under another, as they are written on one line. -/
theorem members_truth_text (b : Bool) (flag key text : String) :
    ∃ ms, Members [(flag, .bool b), (key, .str text)] ms ∧
      '\x7b' :: (ms ++ ['\x7d']) = ("\x7b" ++ escapeText flag ++ ":" ++
        (if b then "true" else "false") ++ "," ++ escapeText key ++ ":" ++ escapeText text ++
        "\x7d").toList := by
  refine ⟨_, .more flag (.truth b) (.last key (.text text)), ?_⟩
  simp

/-- A result is written as its fields on one line. -/
theorem Result.exists_members (r : Result) :
    ∃ ms, Members r.fields ms ∧ r.json.toList = '\x7b' :: (ms ++ ['\x7d']) := by
  cases r with
  | done text =>
    obtain ⟨ms, hms, heq⟩ := members_truth_text true "success" "kvCode" text
    refine ⟨ms, hms, ?_⟩
    rw [heq]
    rfl
  | failed reason =>
    obtain ⟨ms, hms, heq⟩ := members_truth_text false "success" "error" reason
    refine ⟨ms, hms, ?_⟩
    rw [heq]
    rfl

/-- **A result is read back from its text.**  Whatever characters the new document or the reason
has, the text of a result is JSON, and reading it gives the result as a mapping. -/
theorem json_reads_back (r : Result) : IsJson r.json.toList ∧ decode r.json.toList = .ok r.wire := by
  obtain ⟨ms, hms, heq⟩ := r.exists_members
  have hnodup : (r.fields.map Prod.fst).Nodup := by
    cases r <;> simp [Result.fields]
  rw [heq, r.wire_eq]
  exact ⟨hms.isJson, hms.decode_record hnodup⟩

end KvMarkup.Edit
