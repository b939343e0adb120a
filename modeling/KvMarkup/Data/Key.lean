import KvMarkup.Data.Basic

/-!
# Keys

A mapping or a set finds a key by equality.  Among values that can be keys, equality is an
equivalence, although it compares numbers of every kind by value: what equals one of two equal
values equals the other (`same_congr`), a key equals itself (`same_self`), and the two sides of a
comparison can be exchanged (`same_comm`).  Sets and looped sequences need not even equal
themselves, but no key holds one.
-/

namespace KvMarkup.Data

/-! ## Numbers -/

theorem Extended.same_iff (x y : Extended) : x.same y = true ↔ x = y := by
  cases x <;> cases y <;> simp [Extended.same, Extended.le]
  constructor
  · intro h
    exact Rat.le_antisymm h.1 h.2
  · rintro rfl
    exact ⟨Rat.le_refl, Rat.le_refl⟩

theorem sameScalar_of_isNumeric {a : Data} (h : a.isNumeric = true) (c : Data) :
    sameScalar a c =
      match a.number?, c.number? with
      | some x, some y => x.same y
      | _, _ => a.nan?.isSome && a.nan? == c.nan? := by
  cases a with
  | bool | int | float => rfl
  | _ => simp [isNumeric] at h

theorem nan?_eq_none_of_number? {a : Data} {x : Extended} (h : a.number? = some x) :
    a.nan? = none := by
  cases a with
  | float y =>
    rw [number?] at h
    rw [nan?]
    cases hf : y.form with
    | nan => simp [hf] at h
    | _ => simp
  | _ => rfl

theorem isNumeric_of_number? {a : Data} {x : Extended} (h : a.number? = some x) :
    a.isNumeric = true := by
  cases a with
  | bool | int | float => rfl
  | _ => simp [number?] at h

theorem isNumeric_of_nan? {a : Data} {x : Number.Binary64} (h : a.nan? = some x) :
    a.isNumeric = true := by
  cases a with
  | float => rfl
  | _ => simp [nan?] at h

/-- Equal numbers are equal to the same values. -/
theorem sameScalar_congr_of_isNumeric {a b : Data} (ha : a.isNumeric = true)
    (h : sameScalar a b = true) (c : Data) : sameScalar a c = sameScalar b c := by
  rw [sameScalar_of_isNumeric ha] at h
  cases hx : a.number? with
  | some x =>
    cases hy : b.number? with
    | some y =>
      simp only [hx, hy, Extended.same_iff] at h
      rw [sameScalar_of_isNumeric ha, sameScalar_of_isNumeric (isNumeric_of_number? hy), hx, hy, h,
        nan?_eq_none_of_number? hx, nan?_eq_none_of_number? hy]
    | none => simp [hx, hy, nan?_eq_none_of_number? hx] at h
  | none =>
    simp only [hx, Bool.and_eq_true, beq_iff_eq] at h
    obtain ⟨hsome, hnan⟩ := h
    obtain ⟨x, ha'⟩ := Option.isSome_iff_exists.mp hsome
    have hb' : b.nan? = some x := hnan ▸ ha'
    have hy : b.number? = none := by
      cases hy : b.number? with
      | none => rfl
      | some y => simp [nan?_eq_none_of_number? hy] at hb'
    rw [sameScalar_of_isNumeric ha, sameScalar_of_isNumeric (isNumeric_of_nan? hb'), hx, hy, ha',
      hb']

/-! ## Scalars -/

/-- Equal scalars are equal to the same values. -/
theorem sameScalar_congr {a b : Data} (h : sameScalar a b = true) (c : Data) :
    sameScalar a c = sameScalar b c := by
  by_cases ha : a.isNumeric = true
  · exact sameScalar_congr_of_isNumeric ha h c
  · cases a with
    | bool | int | float => simp [isNumeric] at ha
    | null =>
      cases b with
      | null => rfl
      | _ => simp [sameScalar, number?, nan?] at h
    | str s =>
      cases b with
      | str t =>
        simp only [sameScalar, beq_iff_eq] at h
        rw [h]
      | _ => simp [sameScalar, number?, nan?] at h
    | moment m =>
      cases b with
      | moment n =>
        simp only [sameScalar, Moment.same, Bool.and_eq_true, beq_iff_eq] at h
        cases c with
        | moment p => simp only [sameScalar, Moment.same, h.1, h.2]
        | _ => rfl
      | _ => simp [sameScalar, number?, nan?] at h
    | bytes s =>
      cases b with
      | bytes t =>
        simp only [sameScalar, beq_iff_eq] at h
        rw [h]
      | _ => simp [sameScalar, number?, nan?] at h
    | list | tuple | set | map | again => simp [sameScalar, number?, nan?] at h

theorem same_scalar {a : Data} (ha : a.isKey = true) (ht : ∀ xs, a ≠ .tuple xs) (c : Data) :
    a.same c = sameScalar a c := by
  cases a with
  | list | set | map | again => simp [isKey] at ha
  | tuple xs => exact absurd rfl (ht xs)
  | _ => rfl

theorem sameScalar_tuple (a : Data) (xs : List Data) : sameScalar a (.tuple xs) = false := by
  have hnan : (tuple xs).nan? = none := rfl
  cases a <;> simp [sameScalar, number?, hnan, Option.isSome_iff_ne_none]

/-! ## Keys -/

mutual
/-- What equals a key is equal to the same values as the key. -/
theorem same_congr :
    (a : Data) → {b : Data} → b.isKey = true → a.same b = true → ∀ c, a.same c = b.same c
  | .tuple xs, b, hb, h, c => by
    cases b with
    | tuple ys =>
      rw [isKey] at hb
      rw [same] at h
      cases c with
      | tuple zs => rw [same, same, sameItems_congr xs hb h]
      | _ => rfl
    | _ => simp [same] at h
  | .null, b, hb, h, c | .bool _, b, hb, h, c | .int _, b, hb, h, c | .float _, b, hb, h, c
  | .str _, b, hb, h, c | .moment _, b, hb, h, c | .bytes _, b, hb, h, c => by
    rw [same_scalar rfl (by simp)] at h ⊢
    rw [sameScalar_congr h c]
    refine (same_scalar hb ?_ c).symm
    rintro xs rfl
    rw [sameScalar_tuple] at h
    cases h
  | .list _, b, hb, h, c => by cases b <;> simp [same, isKey] at h hb
  | .set _, b, hb, h, c => by cases b <;> simp [same, isKey] at h hb
  | .map _, b, hb, h, c => by cases b <;> simp [same, isKey] at h hb
  | .again _, b, hb, h, c => by cases b <;> simp [same, sameScalar, number?, nan?] at h

theorem sameItems_congr :
    (xs : List Data) → {ys : List Data} → allKeys ys = true → sameItems xs ys = true →
      ∀ zs, sameItems xs zs = sameItems ys zs
  | [], ys, hb, h, zs => by
    cases ys with
    | nil => rfl
    | cons => simp [sameItems] at h
  | x :: xs, ys, hb, h, zs => by
    cases ys with
    | nil => simp [sameItems] at h
    | cons y ys =>
      rw [allKeys, Bool.and_eq_true] at hb
      rw [sameItems, Bool.and_eq_true] at h
      cases zs with
      | nil => rfl
      | cons z zs => rw [sameItems, sameItems, same_congr x hb.1 h.1, sameItems_congr xs hb.2 h.2]
end

theorem sameScalar_self {a : Data} (hk : a.isKey = true) (ht : ∀ xs, a ≠ .tuple xs) :
    sameScalar a a = true := by
  cases a with
  | list | set | map | again => simp [isKey] at hk
  | tuple xs => exact absurd rfl (ht xs)
  | null => rfl
  | str | bytes => simp [sameScalar]
  | moment => simp [sameScalar, Moment.same]
  | bool | int => simp [sameScalar, number?, Extended.same_iff]
  | float x =>
    rw [sameScalar_of_isNumeric rfl]
    cases hx : (Data.float x).number? with
    | some y => simp [Extended.same_iff]
    | none =>
      have : x.form = .nan := by
        rw [number?] at hx
        cases hf : x.form with
        | nan => rfl
        | infinite => simp [hf] at hx
        | finite => simp [hf, Number.Binary64.toRat?] at hx
      simp [nan?, this]

mutual
theorem same_self : (a : Data) → a.isKey = true → a.same a = true
  | .tuple xs, h => by
    rw [isKey] at h
    rw [same, sameItems_self xs h]
  | .null, h | .bool _, h | .int _, h | .float _, h | .str _, h | .moment _, h | .bytes _, h => by
    rw [same_scalar h (by simp), sameScalar_self h (by simp)]
  | .list _, h | .set _, h | .map _, h | .again _, h => by simp [isKey] at h

theorem sameItems_self : (xs : List Data) → allKeys xs = true → sameItems xs xs = true
  | [], _ => rfl
  | x :: xs, h => by
    rw [allKeys, Bool.and_eq_true] at h
    rw [sameItems, same_self x h.1, sameItems_self xs h.2, Bool.and_self]
end

theorem same_comm {a b : Data} (ha : a.isKey = true) (hb : b.isKey = true) :
    a.same b = b.same a := by
  rw [Bool.eq_iff_iff]
  constructor
  · intro h
    rw [← same_congr a hb h, same_self a ha]
  · intro h
    rw [← same_congr b ha h, same_self b hb]

/-- Equal keys are equal to the same values, on the right as well. -/
theorem same_congr_right {a b : Data} (ha : a.isKey = true) (hb : b.isKey = true)
    (h : a.same b = true) (c : Data) : c.same a = c.same b := by
  rw [Bool.eq_iff_iff]
  constructor
  · intro hc
    rw [same_congr c ha hc, h]
  · intro hc
    rw [same_congr c hb hc, same_comm hb ha, h]

/-- Only a text equals a text. -/
theorem same_str_iff {d : Data} {s : String} : d.same (.str s) = true ↔ d = .str s := by
  cases d with
  | str t => simp [same, sameScalar]
  | tuple xs => simp [same]
  | _ => simp [same, sameScalar, number?, nan?]

end KvMarkup.Data
