import KvMarkup.Text.Lines
import KvMarkup.Text.Utf8

/-!
# Text files, read and written again

A text that was read from bytes has those bytes again:

    decodeUtf8? bytes = some text → encodeUtf8 text = bytes             (encodeUtf8_of_decodeUtf8?)

Reading a file also writes every line break as a line feed.  That leaves the text alone exactly when
it has no carriage return, and only then are the bytes the same when it is written back
(`encodeUtf8_universal_iff`).
-/

namespace KvMarkup.Text

/-! ## Bytes -/

theorem toList_loop_eq (bytes : ByteArray) (i : Nat) (read : List UInt8) :
    ByteArray.toList.loop bytes i read = read.reverse ++ bytes.data.toList.drop i := by
  induction i, read using ByteArray.toList.loop.induct bytes with
  | case1 i read hi ih =>
    have hlt : i < bytes.data.toList.length := by simpa using hi
    have hget : bytes.get! i = bytes.data.toList[i] := by
      rw [ByteArray.get!, Array.getElem_toList]
      exact getElem!_pos bytes.data i (by simpa using hi)
    rw [ByteArray.toList.loop, if_pos hi, ih, List.drop_eq_getElem_cons hlt, hget]
    simp
  | case2 i read hi =>
    have hle : bytes.data.toList.length ≤ i := by simpa using hi
    rw [ByteArray.toList.loop, if_neg hi, List.drop_eq_nil_of_le hle, List.append_nil]

theorem byteArray_toList (bytes : ByteArray) : bytes.toList = bytes.data.toList := by
  rw [ByteArray.toList, toList_loop_eq, List.drop_zero]
  rfl

/-- A text that was read from bytes has those bytes. -/
theorem encodeUtf8_of_decodeUtf8? {bytes : List UInt8} {text : String}
    (h : decodeUtf8? bytes = some text) : encodeUtf8 text = bytes := by
  unfold decodeUtf8? String.fromUTF8? at h
  split at h
  · cases h
    exact byteArray_toList _
  · cases h

/-- Different texts have different bytes. -/
theorem encodeUtf8_inj {s t : String} : encodeUtf8 s = encodeUtf8 t ↔ s = t := by
  constructor
  · intro h
    unfold encodeUtf8 at h
    rw [byteArray_toList, byteArray_toList, String.toUTF8_eq_toByteArray,
      String.toUTF8_eq_toByteArray] at h
    exact String.toByteArray_inj.mp (ByteArray.ext (Array.toList_inj.mp h))
  · rintro rfl
    rfl

/-! ## Line breaks -/

theorem not_mem_universalBreaks (cs : List Char) : '\r' ∉ universalBreaks cs := by
  fun_induction universalBreaks cs with
  | case1 => exact List.not_mem_nil
  | case2 cs ih => simp [ih]
  | case3 cs _ ih => simp [ih]
  | case4 c cs _ hc ih =>
    have : c ≠ '\r' := hc
    simp [this.symm, ih]

theorem universalBreaks_of_not_mem {cs : List Char} (h : '\r' ∉ cs) : universalBreaks cs = cs := by
  fun_induction universalBreaks cs with
  | case1 => rfl
  | case2 cs ih => simp at h
  | case3 cs _ ih => simp at h
  | case4 c cs _ hc ih => rw [ih fun hcs => h (List.mem_cons_of_mem c hcs)]

/-- Writing every line break as a line feed leaves a text alone if it has no carriage return. -/
theorem universal_eq_self_iff {text : String} : universal text = text ↔ '\r' ∉ text.toList := by
  constructor
  · intro h
    rw [← h, universal, String.toList_ofList]
    exact not_mem_universalBreaks _
  · intro h
    rw [universal, universalBreaks_of_not_mem h, String.ofList_toList]

/-- **A text file that is read and written back keeps its bytes exactly when it has no carriage
return.** -/
theorem encodeUtf8_universal_iff {bytes : List UInt8} {text : String}
    (h : decodeUtf8? bytes = some text) :
    encodeUtf8 (universal text) = bytes ↔ '\r' ∉ text.toList := by
  rw [← universal_eq_self_iff, ← encodeUtf8_inj, encodeUtf8_of_decodeUtf8? h]

end KvMarkup.Text
