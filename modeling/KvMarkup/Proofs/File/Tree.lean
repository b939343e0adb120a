import KvMarkup.File.Tree

/-!
# Writing into a tree of files

Replacing the contents of a file changes what stands at one place, and nowhere else:

    (t.writeAt place bytes).bytesAt? other = t.bytesAt? other              for other ≠ place
    t.read text = .ok bytes ↔ ∃ place, t.locate text = .ok place ∧ t.bytesAt? place = some bytes

Which paths lead where depends on the names in the tree alone, so every path leads where it did
before (`locate_writeAt`).
-/

namespace KvMarkup.File

/-- What stands somewhere, with other contents if it is the file that is written. -/
def Entry.rewritten (written : Bool) (bytes : List UInt8) : Entry → Entry
  | .file old => .file (if written then bytes else old)
  | .directory => .directory

@[simp] theorem Entry.rewritten_file (written : Bool) (bytes old : List UInt8) :
    (Entry.file old).rewritten written bytes = .file (if written then bytes else old) := rfl

@[simp] theorem Entry.rewritten_directory (written : Bool) (bytes : List UInt8) :
    Entry.directory.rewritten written bytes = .directory := rfl

namespace Tree

/-- The contents of the file at a place. -/
def bytesAt? (t : Tree) (place : List String) : Option (List UInt8) :=
  (t.files.find? (·.1 == place)).map (·.2)

/-- The tree with other contents in the file at a place. -/
def writeAt (t : Tree) (place : List String) (bytes : List UInt8) : Tree :=
  { t with files := t.files.map fun f => if f.1 == place then (f.1, bytes) else f }

theorem write_of_locate {t : Tree} {text : String} {place : List String}
    (h : t.locate text = .ok place) (bytes : List UInt8) :
    t.write text bytes = t.writeAt place bytes := by
  rw [write, h]
  rfl

section
variable (t : Tree) (place : List String) (bytes : List UInt8)

/-- The file found at a place is the one that was there, with its new contents if it is the file
that was written. -/
theorem find?_writeAt (other : List String) :
    (t.writeAt place bytes).files.find? (·.1 == other) =
      (t.files.find? (·.1 == other)).map fun f => if f.1 == place then (f.1, bytes) else f := by
  have hname : ((fun f : List String × List UInt8 => f.1 == other) ∘
      fun f => if f.1 == place then (f.1, bytes) else f) = fun f => f.1 == other := by
    funext f
    simp only [Function.comp_apply]
    split <;> rfl
  rw [writeAt, List.find?_map, hname]

theorem bytesAt?_writeAt_of_ne {other : List String} (h : other ≠ place) :
    (t.writeAt place bytes).bytesAt? other = t.bytesAt? other := by
  rw [bytesAt?, find?_writeAt, bytesAt?, Option.map_map]
  cases hf : t.files.find? (·.1 == other) with
  | none => rfl
  | some f =>
    have hother : f.1 = other := by simpa using List.find?_some hf
    rw [Option.map_some, Option.map_some, Function.comp_apply, if_neg (by simp [hother, h])]

theorem bytesAt?_writeAt {old : List UInt8} (h : t.bytesAt? place = some old) :
    (t.writeAt place bytes).bytesAt? place = some bytes := by
  rw [bytesAt?, Option.map_eq_some_iff] at h
  obtain ⟨f, hf, -⟩ := h
  have hplace : f.1 = place := by simpa using List.find?_some hf
  rw [bytesAt?, find?_writeAt, hf, Option.map_some, Option.map_some, if_pos (by simp [hplace])]

/-! ## Where paths lead -/

theorem isDirectory_writeAt (names : List String) :
    (t.writeAt place bytes).isDirectory names = t.isDirectory names := by
  have hname : ((fun f : List String × List UInt8 => names.isPrefixOf f.1.dropLast) ∘
      fun f => if f.1 == place then (f.1, bytes) else f) =
        fun f => names.isPrefixOf f.1.dropLast := by
    funext f
    simp only [Function.comp_apply]
    split <;> rfl
  simp only [isDirectory, writeAt, List.any_map, hname]

/-- What stands at a place afterwards: the same directory, or the same file with its contents. -/
theorem entry?_writeAt (names : List String) :
    Tree.entry? (t.writeAt place bytes) names =
      Option.map (Entry.rewritten (names == place) bytes) (Tree.entry? t names) := by
  unfold entry?
  rw [find?_writeAt, isDirectory_writeAt]
  cases hf : t.files.find? (·.1 == names) with
  | none =>
    simp only [Option.map_none]
    split <;> rfl
  | some f =>
    have hnames : f.1 = names := by simpa using List.find?_some hf
    simp only [Option.map_some, hnames, Entry.rewritten_file]
    split <;> rfl

theorem follow_writeAt (names : List String) :
    ∀ start, (t.writeAt place bytes).follow start names = t.follow start names := by
  induction names with
  | nil => intro start; rfl
  | cons name names ih =>
    intro start
    rw [follow, follow, entry?_writeAt]
    cases t.entry? start with
    | none => rfl
    | some e =>
      cases e with
      | file old => rfl
      | directory =>
        simp only [Option.map_some, Entry.rewritten_directory]
        split
        · exact ih start
        · split
          · exact ih start.dropLast
          · simp only [entry?_writeAt]
            cases t.entry? (start ++ [name]) with
            | none => rfl
            | some e => exact ih (start ++ [name])

theorem locate_writeAt (text : String) :
    (t.writeAt place bytes).locate text = t.locate text := by
  simp only [locate, follow_writeAt]
  rfl

end

/-! ## Reading -/

theorem entry?_eq_file_iff {t : Tree} {names : List String} {bytes : List UInt8} :
    t.entry? names = some (.file bytes) ↔ t.bytesAt? names = some bytes := by
  unfold entry? bytesAt?
  cases t.files.find? (·.1 == names) with
  | none => simp
  | some f => simp

theorem read_eq_ok_iff {t : Tree} {text : String} {bytes : List UInt8} :
    t.read text = .ok bytes ↔
      ∃ place, t.locate text = .ok place ∧ t.bytesAt? place = some bytes := by
  simp only [← entry?_eq_file_iff]
  rw [read, look]
  cases t.locate text with
  | error m => simp [bind, Except.bind]
  | ok place =>
    cases he : t.entry? place with
    | none => simp [bind, Except.bind, he]
    | some e => cases e <;> simp [bind, Except.bind, he]

/-! ## Writing through a path -/

section
variable {t : Tree} {text : String} {place : List String}

/-- Where a path does not lead, writing through it changes nothing. -/
theorem bytesAt?_write_of_ne (h : t.locate text ≠ .ok place) (bytes : List UInt8) :
    (t.write text bytes).bytesAt? place = t.bytesAt? place := by
  cases hwritten : t.locate text with
  | error m => rw [write, hwritten]
  | ok written =>
    rw [write_of_locate hwritten]
    apply bytesAt?_writeAt_of_ne
    rintro rfl
    exact h hwritten

/-- Where a path leads to a file, that file holds what was written. -/
theorem bytesAt?_write {old : List UInt8} (hread : t.read text = .ok old)
    (hplace : t.locate text = .ok place) (bytes : List UInt8) :
    (t.write text bytes).bytesAt? place = some bytes := by
  obtain ⟨found, hfound, hold⟩ := read_eq_ok_iff.mp hread
  obtain rfl := Except.ok.inj (hfound.symm.trans hplace)
  rw [write_of_locate hplace, bytesAt?_writeAt _ _ _ hold]

/-- A file that was written is read with its new contents. -/
theorem read_write {old : List UInt8} (h : t.read text = .ok old) (bytes : List UInt8) :
    (t.write text bytes).read text = .ok bytes := by
  obtain ⟨place, hplace, -⟩ := read_eq_ok_iff.mp h
  rw [read_eq_ok_iff]
  refine ⟨place, ?_, bytesAt?_write h hplace bytes⟩
  rw [write_of_locate hplace, locate_writeAt, hplace]

end

end Tree

end KvMarkup.File
