import Mathlib.Data.List.DropRight
import KvMarkup.Text.Space

/-!
# Trimmed texts behind a margin of blanks

A text is *tight* when it neither begins nor ends with white space.  Trimming gives a tight text and
leaves tight texts alone, and a margin of blanks in front of a tight text can be read off again:

    Tight (trim l)                                                                  (tight_trim)
    Tight l → trim l = l                                                      (trim_eq_of_tight)
    trim (blanks n ++ l) = trim l                                            (trim_blanks_append)
    Tight l → leadingSpace (blanks n ++ l) = n.toNat                  (leadingSpace_blanks_tight)

Every line that an edit writes is such a margin with a trimmed text behind it.
-/

namespace KvMarkup.Text

/-- A text that neither begins nor ends with white space. -/
def Tight (l : Line) : Prop :=
  (∀ c ∈ l.head?, isSpace c = false) ∧ ∀ c ∈ l.getLast?, isSpace c = false

theorem isSpace_blank : isSpace ' ' = true := by decide

/-! ## Trimming -/

theorem trimEnd_eq_rdropWhile (l : Line) : trimEnd l = l.rdropWhile isSpace := rfl

theorem trimStart_of_blank_append {m : Line} (h : isBlank m = true) (l : Line) :
    trimStart (m ++ l) = trimStart l :=
  List.dropWhile_append_of_pos (List.all_eq_true.mp h)

theorem trimEnd_append_of_blank (l : Line) {m : Line} (h : isBlank m = true) :
    trimEnd (l ++ m) = trimEnd l := by
  have hall : ∀ c ∈ m.reverse, isSpace c = true := by
    intro c hc
    exact List.all_eq_true.mp h c (List.mem_reverse.mp hc)
  rw [trimEnd, List.reverse_append, List.dropWhile_append_of_pos hall, trimEnd]

/-- What trimming at the end takes off is white space. -/
theorem exists_eq_trimEnd_append (l : Line) : ∃ m, isBlank m = true ∧ l = trimEnd l ++ m := by
  refine ⟨(l.reverse.takeWhile isSpace).reverse, ?_, ?_⟩
  · rw [isBlank, List.all_reverse, List.all_takeWhile]
  · rw [trimEnd, ← List.reverse_append, List.takeWhile_append_dropWhile, List.reverse_reverse]

theorem leadingSpace_add_trimStart (l : Line) :
    leadingSpace l + (trimStart l).length = l.length := by
  rw [leadingSpace, trimStart, ← List.length_append, List.takeWhile_append_dropWhile]

/-- A line is its trimmed text between white space that it begins with and white space at its end. -/
theorem exists_eq_append_trim (l : Line) :
    ∃ margin tail, l = margin ++ (trim l ++ tail) ∧ margin.length = leadingSpace l ∧
      isBlank margin = true ∧ isBlank tail = true := by
  obtain ⟨tail, hblank, htail⟩ := exists_eq_trimEnd_append (trimStart l)
  refine ⟨l.takeWhile isSpace, tail, ?_, rfl, List.all_takeWhile, hblank⟩
  rw [trim, ← htail, trimStart, List.takeWhile_append_dropWhile]

/-- What is not white space stays. -/
theorem mem_trim {l : Line} {c : Char} (h : c ∈ l) (hc : isSpace c = false) : c ∈ trim l := by
  obtain ⟨margin, tail, heq, -, hmargin, htail⟩ := exists_eq_append_trim l
  have hblank : ∀ m : Line, isBlank m = true → c ∉ m := by
    intro m hm hmem
    rw [List.all_eq_true.mp hm c hmem] at hc
    cases hc
  rw [heq, List.mem_append, List.mem_append] at h
  exact (h.resolve_left (hblank _ hmargin)).resolve_right (hblank _ htail)

theorem trim_of_blank_append {m : Line} (h : isBlank m = true) (l : Line) :
    trim (m ++ l) = trim l := by
  rw [trim, trim, trimStart_of_blank_append h]

theorem trim_append_of_blank (l : Line) {m : Line} (h : isBlank m = true) :
    trim (l ++ m) = trim l := by
  rw [trim, trim, trimStart, trimStart, List.dropWhile_append]
  split
  · next hl =>
    rw [List.isEmpty_iff] at hl
    rw [hl, (dropWhile_isSpace_eq_nil_iff m).mpr h]
  · exact trimEnd_append_of_blank _ h

theorem trim_subset (l : Line) : trim l ⊆ l :=
  List.Subset.trans (List.rdropWhile_prefix isSpace _).subset (List.dropWhile_subset isSpace)

theorem head?_trimStart {l : Line} {c : Char} (h : c ∈ (trimStart l).head?) :
    isSpace c = false := by
  have key := List.head?_dropWhile_not isSpace l
  rw [show (l.dropWhile isSpace).head? = some c from h] at key
  simpa using key

theorem getLast?_trimEnd {l : Line} {c : Char} (h : c ∈ (trimEnd l).getLast?) :
    isSpace c = false := by
  obtain ⟨hne, rfl⟩ := List.mem_getLast?_eq_getLast h
  have key := List.rdropWhile_last_not isSpace l hne
  rw [Bool.not_eq_true] at key
  exact key

theorem tight_trim (l : Line) : Tight (trim l) := by
  refine ⟨fun c hc => ?_, fun c hc => getLast?_trimEnd hc⟩
  -- what trimming at the end leaves begins as the text did
  obtain ⟨rest, hrest⟩ : trim l <+: trimStart l := List.rdropWhile_prefix isSpace _
  apply head?_trimStart (l := l)
  rw [← hrest, List.head?_append]
  simp [Option.mem_def.mp hc]

theorem trimStart_eq_of_head {l : Line} (h : ∀ c ∈ l.head?, isSpace c = false) :
    trimStart l = l := by
  cases l with
  | nil => rfl
  | cons c cs =>
    have hc : isSpace c = false := h c rfl
    exact List.dropWhile_cons_of_neg (by simp [hc])

theorem trimEnd_eq_of_getLast {l : Line} (h : ∀ c ∈ l.getLast?, isSpace c = false) :
    trimEnd l = l := by
  rw [trimEnd_eq_rdropWhile, List.rdropWhile_eq_self_iff]
  intro hne
  have := h _ (List.getLast_mem_getLast? hne)
  simp [this]

theorem trim_eq_of_tight {l : Line} (h : Tight l) : trim l = l := by
  rw [trim, trimStart_eq_of_head h.1, trimEnd_eq_of_getLast h.2]

theorem trim_eq_self_iff {l : Line} : trim l = l ↔ Tight l := by
  constructor
  · intro h
    rw [← h]
    exact tight_trim l
  · exact trim_eq_of_tight

instance (l : Line) : Decidable (Tight l) := decidable_of_iff (trim l = l) trim_eq_self_iff

theorem trim_trim (l : Line) : trim (trim l) = trim l := trim_eq_of_tight (tight_trim l)

theorem isBlank_trim (l : Line) : isBlank (trim l) = isBlank l := by
  rw [Bool.eq_iff_iff, isBlank_iff_trim, isBlank_iff_trim, trim_trim]

theorem trim_trimStart (l : Line) : trim (trimStart l) = trim l := by
  rw [trim, trimStart, trimStart, List.dropWhile_idempotent, trim, trimStart]

/-! ## Margins -/

theorem isBlank_blanks (n : Int) : isBlank (blanks n) = true := by
  rw [isBlank, List.all_eq_true]
  intro c hc
  rw [List.eq_of_mem_replicate hc, isSpace_blank]

theorem trim_blanks_append (n : Int) (l : Line) : trim (blanks n ++ l) = trim l :=
  trim_of_blank_append (isBlank_blanks n) l

theorem isBlank_blanks_append (n : Int) (l : Line) : isBlank (blanks n ++ l) = isBlank l := by
  rw [Bool.eq_iff_iff, isBlank_iff_trim, isBlank_iff_trim, trim_blanks_append]

theorem takeWhile_blanks_tight {p : Char → Bool} (hp : p ' ' = true)
    (hs : ∀ c, p c = true → isSpace c = true) (n : Int) {l : Line} (h : Tight l) :
    (blanks n ++ l).takeWhile p = blanks n := by
  have hall : ∀ c ∈ blanks n, p c = true := by
    intro c hc
    rw [List.eq_of_mem_replicate hc, hp]
  rw [List.takeWhile_append_of_pos hall]
  suffices l.takeWhile p = [] by rw [this, List.append_nil]
  cases l with
  | nil => rfl
  | cons c cs =>
    apply List.takeWhile_cons_of_neg
    intro hc
    have := h.1 c rfl
    rw [hs c hc] at this
    cases this

theorem leadingSpace_blanks_tight (n : Int) {l : Line} (h : Tight l) :
    leadingSpace (blanks n ++ l) = n.toNat := by
  rw [leadingSpace, takeWhile_blanks_tight isSpace_blank (fun _ hc => hc) n h]
  exact List.length_replicate

theorem leadingBlanks_blanks_tight (n : Int) {l : Line} (h : Tight l) :
    leadingBlanks (blanks n ++ l) = n.toNat := by
  have hs : ∀ c : Char, (c == ' ') = true → isSpace c = true := by
    intro c hc
    rw [beq_iff_eq.mp hc, isSpace_blank]
  rw [leadingBlanks, takeWhile_blanks_tight rfl hs n h]
  exact List.length_replicate

/-! ## Lines with content -/

/-- The lines that are not blank. -/
def content (ls : List Line) : List Line := ls.filter (!isBlank ·)

@[simp]
theorem content_nil : content [] = [] := rfl

@[simp]
theorem content_append (ls ms : List Line) : content (ls ++ ms) = content ls ++ content ms :=
  List.filter_append ls ms

theorem content_cons_of_blank {l : Line} (h : isBlank l = true) (ls : List Line) :
    content (l :: ls) = content ls := by
  simp [content, h]

theorem content_cons_of_not_blank {l : Line} (h : isBlank l = false) (ls : List Line) :
    content (l :: ls) = l :: content ls := by
  simp [content, h]

theorem mem_content {ls : List Line} {l : Line} :
    l ∈ content ls ↔ l ∈ ls ∧ isBlank l = false := by
  simp [content]

theorem content_eq_self {ls : List Line} (h : ∀ l ∈ ls, isBlank l = false) : content ls = ls := by
  rw [content, List.filter_eq_self]
  intro l hl
  simp [h l hl]

/-- The trimmed content depends on the trimmed lines alone. -/
theorem map_trim_content (ls : List Line) :
    (content ls).map trim = (ls.map trim).filter (!isBlank ·) := by
  rw [content, List.filter_map]
  congr 1
  apply List.filter_congr
  intro l _
  simp [isBlank_trim]

end KvMarkup.Text
