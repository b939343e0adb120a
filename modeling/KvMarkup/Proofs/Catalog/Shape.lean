import KvMarkup.Command.Run

/-!
# Documents that are catalogues, and documents that are refused

A document has a catalogue exactly when its parts have the shapes that are asked for (`Sound`): what
may be missing may also be nothing, and is a mapping otherwise (`HasEntries`), or has items
(`HasItems`).  The parts are looked at in order, and the first one of a wrong shape decides.  A
document that is no mapping, and an entry that is none, is refused with a message that says so
(`Refused`).  No other wrong shape has such a message, and it breaks a run off instead:

    (∃ c, ofData d = .ok c) ↔ Sound d
    (∃ e, ofData d = .error e ∧ Reported e) ↔ Refused d                            (ofData_outcome)
-/

namespace KvMarkup.Catalog

variable {α β : Type}

/-! ## Errors with a message -/

/-- An error that a run ends with, with its message; any other one breaks the run off. -/
def Reported (e : CatalogError) : Prop := Command.catalogStop e = .failed e.message

theorem reported_notAMapping : Reported .notAMapping := rfl

theorem reported_widgetEntry (name : Data) : Reported (.widgetEntry name) := rfl

theorem reported_instructionEntry (name : Data) : Reported (.instructionEntry name) := rfl

theorem not_reported_fault (f : Fault) : ¬ Reported (.fault f) := nofun

theorem not_reported_numberTooLong : ¬ Reported .numberTooLong := nofun

/-- An error that comes of a wrong shape without a message. -/
def BreaksOff (e : CatalogError) : Prop :=
  e = .numberTooLong ∨ ∃ t, e = .fault (.lacks t "items") ∨ e = .fault (.notIterable t)

/-- A result fails with a message. -/
def Refuses (x : Except CatalogError α) : Prop := ∃ e, x = .error e ∧ Reported e

/-- A result succeeds, or fails in one of the ways that a document can make it fail. -/
def Tame (x : Except CatalogError α) : Prop := ∀ e, x = .error e → Reported e ∨ BreaksOff e

/-! ## Steps in a row -/

theorem exists_bind_ok_iff {x : Except CatalogError α} {f : α → Except CatalogError β} :
    (∃ b, (x >>= f) = .ok b) ↔ ∃ a, x = .ok a ∧ ∃ b, f a = .ok b := by
  cases x <;> simp [bind, Except.bind]

theorem refuses_bind_iff {x : Except CatalogError α} {f : α → Except CatalogError β} :
    Refuses (x >>= f) ↔ Refuses x ∨ ∃ a, x = .ok a ∧ Refuses (f a) := by
  cases x <;> simp [Refuses, bind, Except.bind]

theorem Tame.bind {x : Except CatalogError α} {f : α → Except CatalogError β} (hx : Tame x)
    (hf : ∀ a, Tame (f a)) : Tame (x >>= f) := by
  intro e he
  rcases bind_eq_error he with hx' | ⟨a, -, hfa⟩
  · exact hx e hx'
  · exact hf a e hfa

theorem tame_ok (a : α) : Tame (.ok a) := nofun

theorem exists_map_ok_iff {x : Except CatalogError α} {f : α → β} :
    (∃ b, x.map f = .ok b) ↔ ∃ a, x = .ok a := by
  cases x <;> simp [Except.map]

theorem error_of_map {x : Except CatalogError α} {f : α → β} {e : CatalogError}
    (h : x.map f = .error e) : x = .error e := by
  cases x with
  | error e' => exact congrArg Except.error (Except.error.inj h)
  | ok a => cases h

theorem exists_mapM_ok_iff {f : α → Except CatalogError β} {xs : List α} :
    (∃ bs, xs.mapM f = .ok bs) ↔ ∀ x ∈ xs, ∃ b, f x = .ok b := by
  induction xs with
  | nil => simp [pure, Except.pure]
  | cons x xs ih =>
    rw [List.mapM_cons, exists_bind_ok_iff, List.forall_mem_cons, ← ih]
    constructor
    · rintro ⟨b, hb, bs, hbs⟩
      obtain ⟨cs, hcs, -⟩ := bind_eq_ok_iff.mp hbs
      exact ⟨⟨b, hb⟩, cs, hcs⟩
    · rintro ⟨⟨b, hb⟩, bs, hbs⟩
      refine ⟨b, hb, b :: bs, ?_⟩
      rw [hbs]
      rfl

/-- What is refused is the first thing that does not succeed. -/
theorem refuses_mapM_iff {f : α → Except CatalogError β} {xs : List α} :
    Refuses (xs.mapM f) ↔ ∃ before x after, xs = before ++ x :: after ∧
      (∀ y ∈ before, ∃ b, f y = .ok b) ∧ Refuses (f x) := by
  induction xs with
  | nil =>
    simp [Refuses, pure, Except.pure]
  | cons x xs ih =>
    have hrest : ∀ b, Refuses (xs.mapM f >>= fun bs => pure (b :: bs)) ↔ Refuses (xs.mapM f) := by
      intro b
      rw [refuses_bind_iff]
      simp [Refuses, pure, Except.pure]
    rw [List.mapM_cons, refuses_bind_iff]
    simp only [hrest, ih]
    constructor
    · rintro (hx | ⟨b, hb, before, y, after, rfl, hbefore, hy⟩)
      · exact ⟨[], x, xs, rfl, by simp, hx⟩
      · refine ⟨x :: before, y, after, rfl, ?_, hy⟩
        rw [List.forall_mem_cons]
        exact ⟨⟨b, hb⟩, hbefore⟩
    · rintro ⟨before, y, after, hxs, hbefore, hy⟩
      cases before with
      | nil =>
        obtain ⟨rfl, rfl⟩ := List.cons.inj hxs
        exact .inl hy
      | cons z before =>
        obtain ⟨rfl, rfl⟩ := List.cons.inj hxs
        obtain ⟨⟨b, hb⟩, hbefore⟩ := List.forall_mem_cons.mp hbefore
        exact .inr ⟨b, hb, before, y, after, rfl, hbefore, hy⟩

theorem Tame.mapM {f : α → Except CatalogError β} (hf : ∀ a, Tame (f a)) (xs : List α) :
    Tame (xs.mapM f) := by
  induction xs with
  | nil => exact tame_ok []
  | cons x xs ih =>
    rw [List.mapM_cons]
    exact (hf x).bind fun b => ih.bind fun bs => tame_ok (b :: bs)

/-! ## Shapes -/

/-- A part that may be missing or nothing, and is a mapping with these entries otherwise. -/
def HasEntries (d : Option Data) (entries : List (Data × Data)) : Prop :=
  d = some (.map entries) ∨ entries = [] ∧ ∀ v ∈ d, v.isTruthy = false

/-- A part that may be missing or nothing, and otherwise is a sequence, a set, a text, bytes or a
mapping. -/
def HasItems (d : Option Data) : Prop :=
  ∀ v ∈ d, v.isTruthy = false ∨ (∃ items, v = .list items ∨ v = .tuple items ∨ v = .set items) ∨
    (∃ s, v = .str s) ∨ (∃ bs, v = .bytes bs) ∨ ∃ entries, v = .map entries

/-- A widget type's entry: bases with items, and properties whose names and types can be written. -/
def SoundWidget (entry : Data) : Prop :=
  ∃ fields properties, HasEntries (some entry) fields ∧ HasItems (Data.field? fields "bases") ∧
    HasEntries (Data.field? fields "properties") properties ∧
    Data.entriesWritable properties = true

/-- An instruction's entry: parameters whose names and types can be written. -/
def SoundInstruction (entry : Data) : Prop :=
  ∃ parameters, HasEntries (some entry) parameters ∧ Data.entriesWritable parameters = true

/-- An entry that is something but no mapping, under a name that can be written. -/
def Misplaced (name entry : Data) : Prop :=
  (∀ fields, entry ≠ .map fields) ∧ entry.isTruthy = true ∧ name.isWritable = true

/-- All entries before a misplaced one are sound. -/
def StopsAtMisplaced (sound : Data → Prop) (entries : List (Data × Data)) : Prop :=
  ∃ before e after, entries = before ++ e :: after ∧ (∀ d ∈ before, sound d.2) ∧ Misplaced e.1 e.2

/-- A document all of whose parts have the shapes that are asked for. -/
def Sound (document : Data) : Prop :=
  ∃ fields widgets instructions, document = .map fields ∧
    HasEntries (Data.field? fields "widgets") widgets ∧ (∀ e ∈ widgets, SoundWidget e.2) ∧
    HasEntries (Data.field? fields "instructions") instructions ∧
    ∀ e ∈ instructions, SoundInstruction e.2

/-- A document that is no mapping, or in which the first part of a wrong shape is an entry that is
no mapping. -/
def Refused (document : Data) : Prop :=
  (∀ fields, document ≠ .map fields) ∨
    ∃ fields widgets, document = .map fields ∧
      HasEntries (Data.field? fields "widgets") widgets ∧
      (StopsAtMisplaced SoundWidget widgets ∨
        (∀ e ∈ widgets, SoundWidget e.2) ∧ ∃ instructions,
          HasEntries (Data.field? fields "instructions") instructions ∧
          StopsAtMisplaced SoundInstruction instructions)

/-! ## Parts of a document -/

theorem entriesOrNone_eq_ok_iff {d : Option Data} {entries : List (Data × Data)} :
    entriesOrNone d = .ok entries ↔ HasEntries d entries := by
  unfold HasEntries
  cases d with
  | none => simp [entriesOrNone]
  | some v =>
    by_cases hv : ∃ fields, v = .map fields
    · obtain ⟨fields, rfl⟩ := hv
      rw [entriesOrNone]
      constructor
      · intro h
        rw [Except.ok.inj h]
        exact .inl rfl
      · rintro (h | ⟨rfl, hfalsy⟩)
        · rw [Data.map.inj (Option.some.inj h)]
        · have hempty : fields = [] := by simpa [Data.isTruthy] using hfalsy
          rw [hempty]
    · have hnot : ∀ fields, v ≠ .map fields := fun fields h => hv ⟨fields, h⟩
      rw [entriesOrNone.eq_3 v hnot]
      cases htruthy : v.isTruthy with
      | true => simp [hnot, htruthy]
      | false => simp [hnot, htruthy]

theorem entriesOrNone_error {d : Option Data} {e : CatalogError} (h : entriesOrNone d = .error e) :
    ∃ t, e = .fault (.lacks t "items") := by
  unfold entriesOrNone at h
  split at h
  · cases h
  · cases h
  · next v _ =>
    split at h
    · exact ⟨v.typeName, (Except.error.inj h).symm⟩
    · cases h

theorem exists_itemsOrNone_ok_iff {d : Option Data} :
    (∃ items, itemsOrNone d = .ok items) ↔ HasItems d := by
  unfold HasItems
  cases d with
  | none => simp [itemsOrNone]
  | some v =>
    cases v with
    | list | tuple | set | str | bytes | map => simp [itemsOrNone]
    | null | bool | int | float | moment | again =>
      simp only [itemsOrNone, Option.mem_def, Option.some.injEq, forall_eq', reduceCtorEq,
        exists_false, or_false]
      split <;> simp_all

theorem itemsOrNone_error {d : Option Data} {e : CatalogError} (h : itemsOrNone d = .error e) :
    ∃ t, e = .fault (.notIterable t) := by
  cases d with
  | none => cases h
  | some v =>
    cases v with
    | list | tuple | set | str | bytes | map => cases h
    | null | bool | int | float | moment | again =>
      simp only [itemsOrNone] at h
      split at h
      · exact ⟨_, (Except.error.inj h).symm⟩
      · cases h

theorem exists_textEntries_ok_iff {entries : List (Data × Data)} :
    (∃ ps, textEntries entries = .ok ps) ↔ Data.entriesWritable entries = true := by
  unfold textEntries
  split <;> simp_all

theorem textEntries_error {entries : List (Data × Data)} {e : CatalogError}
    (h : textEntries entries = .error e) : e = .numberTooLong := by
  unfold textEntries at h
  split at h
  · cases h
  · exact (Except.error.inj h).symm

theorem tame_entriesOrNone (d : Option Data) : Tame (entriesOrNone d) := by
  intro e he
  obtain ⟨t, rfl⟩ := entriesOrNone_error he
  exact .inr (.inr ⟨t, .inl rfl⟩)

theorem tame_itemsOrNone (d : Option Data) : Tame (itemsOrNone d) := by
  intro e he
  obtain ⟨t, rfl⟩ := itemsOrNone_error he
  exact .inr (.inr ⟨t, .inr rfl⟩)

theorem tame_textEntries (entries : List (Data × Data)) : Tame (textEntries entries) := by
  intro e he
  exact .inr (.inl (textEntries_error he))

theorem not_refuses_entriesOrNone (d : Option Data) : ¬ Refuses (entriesOrNone d) := by
  rintro ⟨e, he, hreported⟩
  obtain ⟨t, rfl⟩ := entriesOrNone_error he
  exact not_reported_fault _ hreported

theorem not_refuses_itemsOrNone (d : Option Data) : ¬ Refuses (itemsOrNone d) := by
  rintro ⟨e, he, hreported⟩
  obtain ⟨t, rfl⟩ := itemsOrNone_error he
  exact not_reported_fault _ hreported

theorem not_refuses_textEntries (entries : List (Data × Data)) : ¬ Refuses (textEntries entries) := by
  rintro ⟨e, he, hreported⟩
  rw [textEntries_error he] at hreported
  exact not_reported_numberTooLong hreported

/-! ## Entries -/

theorem hasEntries_map {fields entries : List (Data × Data)} :
    HasEntries (some (.map fields)) entries ↔ fields = entries := by
  rw [← entriesOrNone_eq_ok_iff, entriesOrNone, Except.ok.injEq]

/-- The entry of a widget type or of an instruction, when it is no mapping. -/
theorem hasEntries_of_no_map {d : Data} (h : ∀ fields, d ≠ .map fields)
    {entries : List (Data × Data)} :
    HasEntries (some d) entries ↔ entries = [] ∧ d.isTruthy = false := by
  unfold HasEntries
  simp [h]

/-- An entry that is no mapping is used as an empty one when it is nothing, and is refused
otherwise. -/
theorem refuses_no_map_iff {name entry : Data} {k : Data → CatalogError} {a : α}
    (h : ∀ fields, entry ≠ .map fields) (hk : Reported (k name)) :
    Refuses (if entry.isTruthy then .error (naming name k) else .ok a) ↔ Misplaced name entry := by
  unfold Refuses Misplaced naming
  cases htruthy : entry.isTruthy with
  | false => simp
  | true =>
    cases hwritable : name.isWritable with
    | false => simp [not_reported_numberTooLong]
    | true => simpa [h] using hk

theorem tame_no_map {name entry : Data} {k : Data → CatalogError} {a : α} (hk : Reported (k name)) :
    Tame (if entry.isTruthy then .error (naming name k) else .ok a) := by
  intro e he
  unfold naming at he
  split at he
  · split at he
    · exact .inl (Except.error.inj he ▸ hk)
    · exact .inr (.inl (Except.error.inj he).symm)
  · cases he

theorem exists_widgetType_ok_iff {name entry : Data} :
    (∃ t, widgetType name entry = .ok t) ↔ SoundWidget entry := by
  by_cases hmap : ∃ fields, entry = .map fields
  · obtain ⟨fields, rfl⟩ := hmap
    rw [widgetType]
    constructor
    · rintro ⟨t, ht⟩
      obtain ⟨bases, hbases, ht⟩ := bind_eq_ok_iff.mp ht
      obtain ⟨properties, hproperties, ht⟩ := bind_eq_ok_iff.mp ht
      obtain ⟨texts, htexts, -⟩ := bind_eq_ok_iff.mp ht
      exact ⟨fields, properties, hasEntries_map.mpr rfl,
        exists_itemsOrNone_ok_iff.mp ⟨bases, hbases⟩, entriesOrNone_eq_ok_iff.mp hproperties,
        exists_textEntries_ok_iff.mp ⟨texts, htexts⟩⟩
    · rintro ⟨fields', properties, hfields, hitems, hproperties, hwritable⟩
      obtain rfl := hasEntries_map.mp hfields
      obtain ⟨bases, hbases⟩ := exists_itemsOrNone_ok_iff.mpr hitems
      obtain ⟨texts, htexts⟩ := exists_textEntries_ok_iff.mpr hwritable
      refine ⟨⟨name, bases, texts⟩, ?_⟩
      rw [hbases, entriesOrNone_eq_ok_iff.mpr hproperties]
      show (textEntries properties >>= _) = _
      rw [htexts]
      rfl
  · have hnot : ∀ fields, entry ≠ .map fields := fun fields h => hmap ⟨fields, h⟩
    rw [widgetType.eq_2 name entry hnot]
    constructor
    · rintro ⟨t, ht⟩
      split at ht
      · cases ht
      · next hfalsy =>
        refine ⟨[], [], (hasEntries_of_no_map hnot).mpr ⟨rfl, by simpa using hfalsy⟩, ?_,
          .inr ⟨rfl, ?_⟩, rfl⟩
        · intro v hv
          cases hv
        · intro v hv
          cases hv
    · rintro ⟨fields, properties, hfields, -⟩
      obtain ⟨-, hfalsy⟩ := (hasEntries_of_no_map hnot).mp hfields
      exact ⟨⟨name, [], []⟩, by simp [hfalsy]⟩

theorem refuses_widgetType_iff {name entry : Data} :
    Refuses (widgetType name entry) ↔ Misplaced name entry := by
  by_cases hmap : ∃ fields, entry = .map fields
  · obtain ⟨fields, rfl⟩ := hmap
    have hmisplaced : ¬ Misplaced name (.map fields) := fun h => h.1 fields rfl
    rw [widgetType]
    simp only [refuses_bind_iff, not_refuses_itemsOrNone, not_refuses_entriesOrNone,
      not_refuses_textEntries, hmisplaced]
    simp [Refuses]
  · have hnot : ∀ fields, entry ≠ .map fields := fun fields h => hmap ⟨fields, h⟩
    rw [widgetType.eq_2 name entry hnot]
    exact refuses_no_map_iff hnot (reported_widgetEntry name)

theorem tame_widgetType (name entry : Data) : Tame (widgetType name entry) := by
  unfold widgetType
  split
  · exact (tame_itemsOrNone _).bind fun _ => (tame_entriesOrNone _).bind fun _ =>
      (tame_textEntries _).bind fun _ => tame_ok _
  · exact tame_no_map (reported_widgetEntry name)

theorem exists_instructionType_ok_iff {name entry : Data} :
    (∃ t, instructionType name entry = .ok t) ↔ SoundInstruction entry := by
  unfold SoundInstruction
  by_cases hmap : ∃ parameters, entry = .map parameters
  · obtain ⟨parameters, rfl⟩ := hmap
    rw [instructionType, exists_map_ok_iff, exists_textEntries_ok_iff]
    simp [hasEntries_map]
  · have hnot : ∀ parameters, entry ≠ .map parameters := fun ps h => hmap ⟨ps, h⟩
    rw [instructionType.eq_2 name entry hnot]
    simp only [hasEntries_of_no_map hnot]
    cases entry.isTruthy with
    | true => simp
    | false => simp [Data.entriesWritable]

theorem refuses_instructionType_iff {name entry : Data} :
    Refuses (instructionType name entry) ↔ Misplaced name entry := by
  by_cases hmap : ∃ parameters, entry = .map parameters
  · obtain ⟨parameters, rfl⟩ := hmap
    have hmisplaced : ¬ Misplaced name (.map parameters) := fun h => h.1 parameters rfl
    rw [iff_false_right hmisplaced, instructionType]
    rintro ⟨e, he, hreported⟩
    exact not_refuses_textEntries parameters ⟨e, error_of_map he, hreported⟩
  · have hnot : ∀ parameters, entry ≠ .map parameters := fun ps h => hmap ⟨ps, h⟩
    rw [instructionType.eq_2 name entry hnot]
    exact refuses_no_map_iff hnot (reported_instructionEntry name)

theorem tame_instructionType (name entry : Data) : Tame (instructionType name entry) := by
  unfold instructionType
  split
  · intro e he
    exact tame_textEntries _ e (error_of_map he)
  · exact tame_no_map (reported_instructionEntry name)

/-! ## Documents -/

theorem exists_ofData_ok_iff {document : Data} :
    (∃ c, ofData document = .ok c) ↔ Sound document := by
  constructor
  · rintro ⟨c, hc⟩
    unfold ofData at hc
    split at hc
    · next fields =>
      obtain ⟨widgets, hwidgets, hc⟩ := bind_eq_ok_iff.mp hc
      obtain ⟨types, htypes, hc⟩ := bind_eq_ok_iff.mp hc
      obtain ⟨instructions, hinstructions, hc⟩ := bind_eq_ok_iff.mp hc
      obtain ⟨kinds, hkinds, -⟩ := bind_eq_ok_iff.mp hc
      have hw := exists_mapM_ok_iff.mp ⟨types, htypes⟩
      have hi := exists_mapM_ok_iff.mp ⟨kinds, hkinds⟩
      exact ⟨fields, widgets, instructions, rfl, entriesOrNone_eq_ok_iff.mp hwidgets,
        fun e he => exists_widgetType_ok_iff.mp (hw e he),
        entriesOrNone_eq_ok_iff.mp hinstructions,
        fun e he => exists_instructionType_ok_iff.mp (hi e he)⟩
    · cases hc
  · rintro ⟨fields, widgets, instructions, rfl, hwidgets, hw, hinstructions, hi⟩
    obtain ⟨types, htypes⟩ : ∃ ts, widgets.mapM (fun e => widgetType e.1 e.2) = .ok ts :=
      exists_mapM_ok_iff.mpr fun e he => exists_widgetType_ok_iff.mpr (hw e he)
    obtain ⟨kinds, hkinds⟩ : ∃ ts, instructions.mapM (fun e => instructionType e.1 e.2) = .ok ts :=
      exists_mapM_ok_iff.mpr fun e he => exists_instructionType_ok_iff.mpr (hi e he)
    refine ⟨⟨types, kinds⟩, ?_⟩
    rw [ofData, entriesOrNone_eq_ok_iff.mpr hwidgets, entriesOrNone_eq_ok_iff.mpr hinstructions]
    show (widgets.mapM (fun e => widgetType e.1 e.2) >>= _) = _
    rw [htypes]
    show (instructions.mapM (fun e => instructionType e.1 e.2) >>= _) = _
    rw [hkinds]
    rfl

theorem refuses_mapM_entries_iff {f : Data × Data → Except CatalogError α} {sound : Data → Prop}
    (hok : ∀ e, (∃ a, f e = .ok a) ↔ sound e.2) (hrefuses : ∀ e, Refuses (f e) ↔ Misplaced e.1 e.2)
    {entries : List (Data × Data)} :
    Refuses (entries.mapM f) ↔ StopsAtMisplaced sound entries := by
  rw [refuses_mapM_iff]
  simp only [hok, hrefuses, StopsAtMisplaced]

theorem refuses_ofData_iff {document : Data} : Refuses (ofData document) ↔ Refused document := by
  by_cases hmap : ∃ fields, document = .map fields
  · obtain ⟨fields, rfl⟩ := hmap
    have hw : ∀ widgets : List (Data × Data),
        Refuses (widgets.mapM fun e => widgetType e.1 e.2) ↔ StopsAtMisplaced SoundWidget widgets :=
      fun widgets => refuses_mapM_entries_iff (fun e => exists_widgetType_ok_iff)
        fun e => refuses_widgetType_iff
    have hi : ∀ instructions : List (Data × Data),
        Refuses (instructions.mapM fun e => instructionType e.1 e.2) ↔
          StopsAtMisplaced SoundInstruction instructions :=
      fun instructions => refuses_mapM_entries_iff (fun e => exists_instructionType_ok_iff)
        fun e => refuses_instructionType_iff
    have hlast : ∀ c : Catalog, ¬ Refuses (.ok c) := by
      rintro c ⟨e, he, -⟩
      cases he
    have hmapping : ¬ ∀ fields', Data.map fields ≠ .map fields' := fun h => h fields rfl
    unfold Refused
    rw [ofData]
    simp only [refuses_bind_iff, not_refuses_entriesOrNone, hw, hi, hlast, hmapping, false_or,
      and_false, exists_false, or_false, entriesOrNone_eq_ok_iff, exists_and_right,
      exists_mapM_ok_iff, exists_widgetType_ok_iff]
    constructor
    · rintro ⟨widgets, hwidgets, houtcome⟩
      exact ⟨fields, widgets, rfl, hwidgets, houtcome⟩
    · rintro ⟨fields', widgets, hfields, hwidgets, houtcome⟩
      obtain rfl := Data.map.inj hfields
      exact ⟨widgets, hwidgets, houtcome⟩
  · have hnot : ∀ fields, document ≠ .map fields := fun fields h => hmap ⟨fields, h⟩
    rw [ofData.eq_2 document hnot]
    exact iff_of_true ⟨_, rfl, reported_notAMapping⟩ (.inl hnot)

theorem tame_ofData (document : Data) : Tame (ofData document) := by
  have hw : ∀ widgets : List (Data × Data), Tame (widgets.mapM fun e => widgetType e.1 e.2) :=
    Tame.mapM fun e => tame_widgetType e.1 e.2
  have hi : ∀ instructions : List (Data × Data),
      Tame (instructions.mapM fun e => instructionType e.1 e.2) :=
    Tame.mapM fun e => tame_instructionType e.1 e.2
  unfold ofData
  split
  · refine (tame_entriesOrNone _).bind fun widgets => (hw widgets).bind fun types => ?_
    exact (tame_entriesOrNone _).bind fun instructions => (hi instructions).bind fun kinds =>
      tame_ok _
  · intro e he
    exact .inl (Except.error.inj he ▸ reported_notAMapping)

/-- **What a document comes to.**  It has a catalogue exactly when it is sound, and is refused with a
message exactly when it is no mapping or its first part of a wrong shape is an entry that is no
mapping.  Every other document breaks a run off: a part that has to be a mapping is none, bases have
no items, or a number cannot be written. -/
theorem ofData_outcome (document : Data) :
    ((∃ c, ofData document = .ok c) ↔ Sound document) ∧
    ((∃ e, ofData document = .error e ∧ Reported e) ↔ Refused document) ∧
    ∀ e, ofData document = .error e → Reported e ∨ BreaksOff e :=
  ⟨exists_ofData_ok_iff, refuses_ofData_iff, tame_ofData document⟩

/-! ## A list of widget types -/

/-- Widget types in a sequence where a mapping has to be. -/
def listedWidgets : Data := .map [(.str "widgets", .list [.str "Label"])]

/-- The sequence is not refused: the run breaks off. -/
theorem listedWidgets_break_off :
    ofData listedWidgets = .error (.fault (.lacks "list" "items")) ∧
      ¬ ((∃ c, ofData listedWidgets = .ok c) ∨
        ∃ e, ofData listedWidgets = .error e ∧ Reported e) := by
  have hfault : ofData listedWidgets = .error (.fault (.lacks "list" "items")) := rfl
  refine ⟨hfault, ?_⟩
  rw [hfault]
  rintro (⟨c, hc⟩ | ⟨e, he, hreported⟩)
  · cases hc
  · exact not_reported_fault _ (Except.error.inj he ▸ hreported)

end KvMarkup.Catalog
