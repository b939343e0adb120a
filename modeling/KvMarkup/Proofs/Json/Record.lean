import KvMarkup.Data.Key
import KvMarkup.Outline.Wire
import KvMarkup.Proofs.Json.Text

/-!
# Records on one line

`IsJson` is the grammar of JSON texts, as its standard has it, and knows nothing of the reader.

A record of texts and truth values is written on one line as its members between braces, each with
its key in quotes, a colon and its value (`Members`).  What is written so is a JSON text
(`Members.isJson`), and it is read as its fields, put one by one, since a later value under a key
takes the place of an earlier one (`Members.decode_eq`).  With keys that differ that is the record:

    decode ("\x7b" ++ ms ++ "\x7d") = .ok (record fields)                       (Members.decode_record)

A value ends where its text ends, so what follows it does not matter (`Compact.value_eq`).
-/

namespace KvMarkup.Json

open KvMarkup.Outline KvMarkup.Text

/-! ## The grammar -/

/-- White space, perhaps none. -/
def Gap (cs : List Char) : Prop := ∀ c ∈ cs, c ∈ [' ', '\t', '\n', '\r']

/-- Decimal digits, at least one. -/
def Digits (ds : List Char) : Prop := ds ≠ [] ∧ ∀ d ∈ ds, d ∈ "0123456789".toList

/-- The exponent of a number, or nothing. -/
inductive Exponent : List Char → Prop where
  | missing : Exponent []
  | marked {e : Char} {sign ds : List Char} (he : e = 'e' ∨ e = 'E')
      (hs : sign = [] ∨ sign = ['+'] ∨ sign = ['-']) (hd : Digits ds) :
      Exponent (e :: (sign ++ ds))

/-- A number.  Its whole part is zero or does not begin with a zero. -/
inductive Numeral : List Char → Prop where
  | mk {sign whole fraction exponent : List Char} (hs : sign = [] ∨ sign = ['-'])
      (hw : Digits whole) (hz : whole.head? = some '0' → whole = ['0'])
      (hf : fraction = [] ∨ ∃ ds, Digits ds ∧ fraction = '.' :: ds) (he : Exponent exponent) :
      Numeral (sign ++ (whole ++ (fraction ++ exponent)))

/-- What stands between the quotes of a text. -/
inductive Characters : List Char → Prop where
  | none : Characters []
  | plain {c : Char} {cs : List Char} (hspace : ¬c.toNat < 0x20) (hquote : c ≠ '"')
      (hslash : c ≠ '\\') (h : Characters cs) : Characters (c :: cs)
  | short {c : Char} {cs : List Char} (hc : c ∈ ['"', '\\', '/', 'b', 'f', 'n', 'r', 't'])
      (h : Characters cs) : Characters ('\\' :: c :: cs)
  | code {ds cs : List Char} (hlength : ds.length = 4)
      (hds : ∀ d ∈ ds, d ∈ "0123456789abcdefABCDEF".toList) (h : Characters cs) :
      Characters ('\\' :: 'u' :: (ds ++ cs))

mutual
/-- A value. -/
inductive IsValue : List Char → Prop where
  | null : IsValue "null".toList
  | truth (b : Bool) : IsValue (if b then "true" else "false").toList
  | number {cs : List Char} (h : Numeral cs) : IsValue cs
  | text {cs : List Char} (h : Characters cs) : IsValue ('"' :: (cs ++ ['"']))
  | emptyList {gap : List Char} (h : Gap gap) : IsValue ('[' :: (gap ++ [']']))
  | list {cs : List Char} (h : AreItems cs) : IsValue ('[' :: (cs ++ [']']))
  | emptyRecord {gap : List Char} (h : Gap gap) : IsValue ('\x7b' :: (gap ++ ['\x7d']))
  | record {cs : List Char} (h : AreMembers cs) : IsValue ('\x7b' :: (cs ++ ['\x7d']))
/-- The items of a list. -/
inductive AreItems : List Char → Prop where
  | last {before value behind : List Char} (hb : Gap before) (hv : IsValue value)
      (ha : Gap behind) : AreItems (before ++ (value ++ behind))
  | more {before value behind cs : List Char} (hb : Gap before) (hv : IsValue value)
      (ha : Gap behind) (h : AreItems cs) : AreItems (before ++ (value ++ (behind ++ ',' :: cs)))
/-- The members of a record. -/
inductive AreMembers : List Char → Prop where
  | last {before key gap ahead value behind : List Char} (hb : Gap before) (hk : Characters key)
      (hg : Gap gap) (ha : Gap ahead) (hv : IsValue value) (he : Gap behind) :
      AreMembers (before ++ '"' :: (key ++ '"' :: (gap ++ ':' :: (ahead ++ (value ++ behind)))))
  | more {before key gap ahead value behind cs : List Char} (hb : Gap before) (hk : Characters key)
      (hg : Gap gap) (ha : Gap ahead) (hv : IsValue value) (he : Gap behind) (h : AreMembers cs) :
      AreMembers (before ++
        '"' :: (key ++ '"' :: (gap ++ ':' :: (ahead ++ (value ++ (behind ++ ',' :: cs))))))
end

/-- A JSON text: a value with white space around it. -/
def IsJson (cs : List Char) : Prop :=
  ∃ before value behind, Gap before ∧ IsValue value ∧ Gap behind ∧
    cs = before ++ (value ++ behind)

theorem gap_nil : Gap [] := nofun

theorem IsValue.isJson {cs : List Char} (h : IsValue cs) : IsJson cs :=
  ⟨[], cs, [], gap_nil, h, gap_nil, by simp⟩

theorem hexDigits_subset : ∀ n < 0x20, hexDigits 4 n ⊆ "0123456789abcdefABCDEF".toList := by
  decide

theorem Characters.plainChar_append (c : Char) {cs : List Char} (h : Characters cs) :
    Characters (plainChar c ++ cs) := by
  unfold plainChar
  split
  · next esc hshort =>
    unfold shortForm? at hshort
    split at hshort <;> cases hshort <;> exact .short (by decide) h
  · next hshort =>
    split
    · next hcontrol =>
      exact .code (hexCode?_hexDigits _ hcontrol).1 (fun _ hd => hexDigits_subset _ hcontrol hd) h
    · next hspace =>
      refine .plain hspace ?_ ?_ h <;> (rintro rfl; cases hshort)

theorem characters_escaped (s : List Char) : Characters (s.flatMap plainChar) := by
  induction s with
  | nil => exact .none
  | cons c s ih => exact ih.plainChar_append c

/-! ## Values on one line -/

/-- A text or a truth value as it is written on one line. -/
inductive Compact : Data → List Char → Prop where
  | truth (b : Bool) : Compact (.bool b) (if b then "true" else "false").toList
  | text (s : String) : Compact (.str s) (escapeText s).toList

theorem Compact.isValue {v : Data} {cs : List Char} (h : Compact v cs) : IsValue cs := by
  cases h with
  | truth b => exact .truth b
  | text s =>
    rw [toList_escapeText]
    exact .text (characters_escaped _)

theorem Compact.exists_cons {v : Data} {cs : List Char} (h : Compact v cs) :
    ∃ c rest, cs = c :: rest ∧ isJsonSpace c = false := by
  cases h with
  | truth b => cases b <;> exact ⟨_, _, rfl, by decide⟩
  | text s => exact ⟨_, _, toList_escapeText s, by decide⟩

/-- A value is read up to its end. -/
theorem Compact.value_eq {v : Data} {cs : List Char} (h : Compact v cs) (fuel k : Nat)
    (rest : List Char) :
    value (fuel + 1) ⟨cs ++ rest, k⟩ = .ok (v, ⟨rest, k + cs.length⟩) := by
  cases h with
  | truth b => cases b <;> rfl
  | text s =>
    have hstring := string_escapeText s rest k
    have hchars : (escapeText s).toList ++ rest =
        '"' :: (s.toList.flatMap plainChar ++ '"' :: rest) := by
      rw [toList_escapeText]
      simp
    rw [hchars] at hstring ⊢
    show (string _).map _ = _
    rw [hstring]
    rfl

/-! ## Records on one line -/

/-- Fields as they are written on one line, without white space. -/
inductive Members : List (String × Data) → List Char → Prop where
  | last (key : String) {v : Data} {cs : List Char} (h : Compact v cs) :
      Members [(key, v)] ((escapeText key).toList ++ ':' :: cs)
  | more (key : String) {v : Data} {cs ms : List Char} {fields : List (String × Data)}
      (h : Compact v cs) (hms : Members fields ms) :
      Members ((key, v) :: fields) ((escapeText key).toList ++ ':' :: (cs ++ ',' :: ms))

/-- The entries of a mapping after fields have been put into it one by one. -/
def putAll (done : List (Data × Data)) (fields : List (String × Data)) : List (Data × Data) :=
  fields.foldl (fun entries f => Data.put entries (.str f.1) f.2) done

theorem skipSpace_of_not_space {c : Char} {cs : List Char} {k : Nat} (h : isJsonSpace c = false) :
    Rest.skipSpace ⟨c :: cs, k⟩ = ⟨c :: cs, k⟩ := by
  rw [Rest.skipSpace, List.takeWhile_cons_of_neg (by simp [h])]
  rfl

/-- A member is read up to the end of its value, and what stands there decides what follows. -/
theorem entries_member {v : Data} {cs : List Char} (h : Compact v cs) (key : String)
    (fuel k : Nat) (rest : List Char) (done : List (Data × Data)) :
    ∃ k', entries (fuel + 2) ⟨(escapeText key).toList ++ ':' :: (cs ++ rest), k⟩ done =
      let after := Rest.skipSpace ⟨rest, k'⟩
      match after.chars with
      | '\x7d' :: _ => .ok (.map (Data.put done (.str key) v), after.advance 1)
      | ',' :: _ => entries (fuel + 1) (after.advance 1).skipSpace (Data.put done (.str key) v)
      | _ => after.fail .expectingComma := by
  obtain ⟨c, cs', rfl, hc⟩ := h.exists_cons
  have hkey := string_escapeText key (':' :: (c :: cs' ++ rest)) k
  obtain ⟨l, hl⟩ : ∃ l, l = k + (escapeText key).toList.length := ⟨_, rfl⟩
  have hcolon : Rest.skipSpace ⟨':' :: (c :: cs' ++ rest), l⟩ = ⟨':' :: (c :: cs' ++ rest), l⟩ :=
    skipSpace_of_not_space (by decide)
  have hvalue : Rest.skipSpace ⟨c :: cs' ++ rest, l + 1⟩ = ⟨c :: cs' ++ rest, l + 1⟩ :=
    skipSpace_of_not_space hc
  refine ⟨l + 1 + (c :: cs').length, ?_⟩
  rw [← hl] at hkey
  rw [toList_escapeText] at hkey ⊢
  rw [entries]
  show (string _ >>= _) = _
  rw [hkey]
  simp only [bind, Except.bind, hcolon]
  show (value (fuel + 1) (Rest.skipSpace ⟨c :: cs' ++ rest, l + 1⟩) >>= _) = _
  rw [hvalue, h.value_eq]
  rfl

theorem Members.length_le {fields : List (String × Data)} {ms : List Char}
    (h : Members fields ms) : fields.length ≤ ms.length := by
  induction h with
  | last =>
    simp only [List.length_cons, List.length_append, List.length_nil]
    omega
  | more _ _ _ ih =>
    simp only [List.length_cons, List.length_append]
    omega

theorem Members.exists_cons {fields : List (String × Data)} {ms : List Char}
    (h : Members fields ms) : ∃ rest, ms = '"' :: rest := by
  cases h <;> exact ⟨_, by rw [toList_escapeText]; rfl⟩

/-- The members up to the closing brace are read as the fields. -/
theorem Members.entries_eq {fields : List (String × Data)} {ms : List Char} (h : Members fields ms)
    (rest : List Char) :
    ∀ (fuel k : Nat) (done : List (Data × Data)), fields.length < fuel →
      ∃ k', entries fuel ⟨ms ++ '\x7d' :: rest, k⟩ done =
        .ok (.map (putAll done fields), ⟨rest, k'⟩) := by
  induction h with
  | last key hv =>
    intro fuel k done hfuel
    obtain ⟨fuel, rfl⟩ := Nat.exists_eq_add_of_le' hfuel
    obtain ⟨k', hk'⟩ := entries_member hv key fuel k ('\x7d' :: rest) done
    rw [skipSpace_of_not_space (by decide)] at hk'
    rw [List.append_assoc]
    exact ⟨_, hk'⟩
  | @more key v cs ms fields hv hms ih =>
    intro fuel k done hfuel
    rw [List.length_cons] at hfuel
    obtain ⟨fuel, rfl⟩ : ∃ n, fuel = n + 2 := ⟨fuel - 2, by omega⟩
    obtain ⟨k', hk'⟩ := entries_member hv key fuel k (',' :: (ms ++ '\x7d' :: rest)) done
    obtain ⟨k'', hk''⟩ := ih (fuel + 1) (k' + 1) (Data.put done (.str key) v) (by omega)
    have hnext : Rest.skipSpace ⟨ms ++ '\x7d' :: rest, k' + 1⟩ =
        ⟨ms ++ '\x7d' :: rest, k' + 1⟩ := by
      obtain ⟨ms', rfl⟩ := hms.exists_cons
      exact skipSpace_of_not_space (by decide)
    rw [skipSpace_of_not_space (by decide)] at hk'
    rw [← hnext] at hk''
    rw [List.append_assoc, List.cons_append, List.append_assoc, List.cons_append]
    exact ⟨k'', hk'.trans hk''⟩

theorem value_brace (fuel k : Nat) (cs : List Char) :
    value (fuel + 1) ⟨'\x7b' :: '"' :: cs, k⟩ = entries fuel ⟨'"' :: cs, k + 1⟩ [] := rfl

/-- The members between braces are read as their fields, put one by one. -/
theorem Members.decode_eq {fields : List (String × Data)} {ms : List Char}
    (h : Members fields ms) :
    decode ('\x7b' :: (ms ++ ['\x7d'])) = .ok (.map (putAll [] fields)) := by
  have hfuel : fields.length < 2 * ('\x7b' :: (ms ++ ['\x7d'])).length + 1 := by
    have := h.length_le
    simp only [List.length_cons, List.length_append]
    omega
  obtain ⟨k, hk⟩ := h.entries_eq [] _ 1 [] hfuel
  obtain ⟨ms', rfl⟩ := h.exists_cons
  show (value _ (Rest.skipSpace ⟨'\x7b' :: ('"' :: ms' ++ ['\x7d']), 0⟩) >>= _) = _
  rw [skipSpace_of_not_space (by decide), List.cons_append, value_brace]
  rw [List.cons_append] at hk
  rw [hk]
  rfl

theorem put_of_absent {done : List (String × Data)} {key : String} (h : key ∉ done.map Prod.fst)
    (v : Data) :
    Data.put (done.map fun f => (Data.str f.1, f.2)) (.str key) v =
      (done ++ [(key, v)]).map fun f => (Data.str f.1, f.2) := by
  induction done with
  | nil => rfl
  | cons f done ih =>
    rw [List.map_cons, List.mem_cons, not_or] at h
    have hother : ¬(Data.str f.1).same (.str key) = true := by
      rw [Data.same_str_iff, Data.str.injEq]
      exact Ne.symm h.1
    rw [List.map_cons, Data.put, if_neg hother, ih h.2]
    rfl

/-- Under keys of their own fields stay what they are. -/
theorem putAll_eq {fields : List (String × Data)} :
    ∀ done : List (String × Data), ((done ++ fields).map Prod.fst).Nodup →
      putAll (done.map fun f => (.str f.1, f.2)) fields =
        (done ++ fields).map fun f => (.str f.1, f.2) := by
  induction fields with
  | nil =>
    intro done _
    rw [List.append_nil]
    rfl
  | cons f fields ih =>
    intro done hnodup
    have habsent : f.1 ∉ done.map Prod.fst := by
      rw [List.map_append, List.map_cons, List.nodup_append] at hnodup
      exact fun hmem => hnodup.2.2 _ hmem _ List.mem_cons_self rfl
    rw [List.append_cons] at hnodup ⊢
    rw [← ih _ hnodup, ← put_of_absent habsent]
    rfl

/-- **A record on one line is read as the record.** -/
theorem Members.decode_record {fields : List (String × Data)} {ms : List Char}
    (h : Members fields ms) (hnodup : (fields.map Prod.fst).Nodup) :
    decode ('\x7b' :: (ms ++ ['\x7d'])) = .ok (record fields) := by
  rw [h.decode_eq]
  exact congrArg (fun entries => Except.ok (Data.map entries)) (putAll_eq [] hnodup)

/-- A record on one line is a JSON text. -/
theorem Members.isJson {fields : List (String × Data)} {ms : List Char} (h : Members fields ms) :
    IsJson ('\x7b' :: (ms ++ ['\x7d'])) := by
  have hmembers : AreMembers ms := by
    induction h with
    | last key hv =>
      have := AreMembers.last gap_nil (characters_escaped key.toList) gap_nil gap_nil hv.isValue
        gap_nil
      rw [toList_escapeText]
      simpa using this
    | more key hv _ ih =>
      have := AreMembers.more gap_nil (characters_escaped key.toList) gap_nil gap_nil hv.isValue
        gap_nil ih
      rw [toList_escapeText]
      simpa using this
  exact (IsValue.record hmembers).isJson

end KvMarkup.Json
