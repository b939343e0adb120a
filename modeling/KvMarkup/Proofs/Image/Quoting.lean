import KvMarkup.Image.Preview
import KvMarkup.Proofs.Text.Lines
import KvMarkup.Proofs.Text.Trim

/-!
# Pictures in quotes

The value of a picture property is read off a line as a pattern: white space, a quote or none, a
body, a quote or none, and white space up to the end.  The white space in front is taken as a whole,
a quote behind it opens the value, and the body is the shortest one that the rest may stand behind
(`Reads`):

    Reads margin opening body rest → isBlank body = false →
      pictureValue? (margin ++ opening ++ body ++ rest) = some (unquoted body)
                                                                        (Reads.pictureValue?_eq)

What may stand behind a body consists of quotes and white space.  So a path without quotes that ends
with something else is the body as a whole, bare or between quotes, whatever stands inside of it
(`reads_path`).
-/

namespace KvMarkup.Image

open KvMarkup.Text KvMarkup.File

/-! ## The pattern of a value -/

/-- A quote or nothing. -/
def OptionalMark (l : Line) : Prop := l = [] ∨ ∃ c, isMark c = true ∧ l = [c]

/-- What may stand behind a body: a quote or none, and white space up to the end. -/
def Closes (rest : Line) : Prop :=
  ∃ closing tail, rest = closing ++ tail ∧ OptionalMark closing ∧ isBlank tail = true

/-- The parts that a value is read as. -/
structure Reads (margin opening body rest : Line) : Prop where
  blank : isBlank margin = true
  /-- The margin is all the white space that the value begins with. -/
  tight : ∀ c ∈ (opening ++ body).head?, isSpace c = false
  opens : OptionalMark opening
  /-- A quote behind the margin opens the value. -/
  bare : opening = [] → ∀ c ∈ body.head?, isMark c = false
  nonempty : body ≠ []
  oneLine : '\n' ∉ body
  closes : Closes rest
  /-- The rest may not begin any earlier. -/
  shortest : ∀ shorter left, body = shorter ++ left → shorter ≠ [] → left ≠ [] →
    ¬Closes (left ++ rest)

/-- The text of a body: no white space around it and no quotes in it. -/
def unquoted (body : Line) : Line := (trim body).filter (!isMark ·)

/-- The text behind a quote that opens it. -/
def withoutOpening (l : Line) : Line :=
  match l with
  | c :: rest => if isMark c then rest else l
  | [] => []

/-- The text in front of a quote that closes it; a quote on its own closes nothing. -/
def withoutClosing (l : Line) : Line :=
  match l.getLast? with
  | some c => if isMark c && l.length ≥ 2 then l.dropLast else l
  | none => l

theorem pictureValue?_eq (value : Line) :
    pictureValue? value =
      let text := withoutClosing (trimEnd (withoutOpening (trimStart value)))
      if text.isEmpty || text.contains '\n' then none else some (unquoted text) := rfl

theorem isMark_iff {c : Char} : isMark c = true ↔ c = '\'' ∨ c = '"' := by
  simp [isMark]

theorem isSpace_of_isMark {c : Char} (h : isMark c = true) : isSpace c = false := by
  rcases isMark_iff.mp h with rfl | rfl <;> decide

theorem withoutOpening_of_head {l : Line} (h : ∀ c ∈ l.head?, isMark c = false) :
    withoutOpening l = l := by
  cases l with
  | nil => rfl
  | cons c cs => rw [withoutOpening, h c rfl, if_neg Bool.false_ne_true]

theorem withoutClosing_append_mark {l : Line} {c : Char} (hl : l ≠ []) (hc : isMark c = true) :
    withoutClosing (l ++ [c]) = l := by
  have hlength : 0 < l.length := List.length_pos_iff.mpr hl
  rw [withoutClosing, List.getLast?_concat]
  simp only [hc, List.length_append, List.length_singleton, List.dropLast_concat]
  rw [if_pos (by simp; omega)]

theorem withoutClosing_append_other {l : Line} {c : Char} (h : l = [] ∨ isMark c = false) :
    withoutClosing (l ++ [c]) = l ++ [c] := by
  rw [withoutClosing, List.getLast?_concat]
  rcases h with rfl | hc
  · simp
  · simp [hc]

/-- What may stand behind a body consists of quotes and white space. -/
theorem Closes.isMark_or_isSpace {rest : Line} (h : Closes rest) {c : Char} (hc : c ∈ rest) :
    isMark c = true ∨ isSpace c = true := by
  obtain ⟨closing, tail, rfl, hclosing, htail⟩ := h
  rcases List.mem_append.mp hc with hc | hc
  · rcases hclosing with rfl | ⟨q, hq, rfl⟩
    · cases hc
    · obtain rfl := List.mem_singleton.mp hc
      exact .inl hq
  · exact .inr (List.all_eq_true.mp htail c hc)

section
variable {margin opening body rest : Line}

/-- Behind the margin, a quote that opens the value is taken off and nothing else. -/
theorem Reads.withoutOpening_eq (h : Reads margin opening body rest) :
    withoutOpening (trimStart (margin ++ (opening ++ (body ++ rest)))) = body ++ rest := by
  obtain ⟨c, cs, rfl⟩ := List.exists_cons_of_ne_nil h.nonempty
  rw [trimStart_of_blank_append h.blank]
  rcases h.opens with rfl | ⟨q, hq, rfl⟩
  · have hc : isSpace c = false := h.tight c rfl
    rw [List.nil_append, trimStart_eq_of_head (by simpa using hc)]
    exact withoutOpening_of_head (by simpa using h.bare rfl)
  · rw [trimStart_eq_of_head (by simpa using isSpace_of_isMark hq)]
    simp only [List.cons_append, List.nil_append, withoutOpening, hq, if_true]

/-- A body with white space alone behind it ends with neither white space nor, unless the quote is
all of it, a quote. -/
theorem Reads.last_of_blank (h : Reads margin opening body rest) (hb : isBlank body = false)
    (hrest : isBlank rest = true) :
    ∃ front c, body = front ++ [c] ∧ isSpace c = false ∧ (front = [] ∨ isMark c = false) := by
  obtain ⟨front, c, rfl⟩ := (List.eq_nil_or_concat' body).resolve_left h.nonempty
  have hshortest : front ≠ [] → ¬Closes (c :: rest) := fun hfront =>
    h.shortest front [c] rfl hfront (List.cons_ne_nil c [])
  refine ⟨front, c, rfl, ?_, ?_⟩
  · rw [Bool.eq_false_iff]
    intro hc
    have hfront : front ≠ [] := by
      rintro rfl
      simp [isBlank, hc] at hb
    refine hshortest hfront ⟨[], c :: rest, rfl, .inl rfl, ?_⟩
    simpa [isBlank, hc] using hrest
  · by_cases hfront : front = []
    · exact .inl hfront
    · refine .inr (Bool.eq_false_iff.mpr fun hc => ?_)
      exact hshortest hfront ⟨[c], rest, rfl, .inr ⟨c, hc, rfl⟩, hrest⟩

/-- The rest is taken off up to the body. -/
theorem Reads.withoutClosing_eq (h : Reads margin opening body rest) (hb : isBlank body = false) :
    withoutClosing (trimEnd (body ++ rest)) = body := by
  obtain ⟨closing, tail, hrest, hclosing, htail⟩ := h.closes
  rw [hrest, ← List.append_assoc, trimEnd_append_of_blank _ htail]
  rcases hclosing with rfl | ⟨q, hq, rfl⟩
  · obtain ⟨front, c, rfl, hspace, hmark⟩ := h.last_of_blank hb (hrest ▸ htail)
    rw [List.append_nil, trimEnd_eq_of_getLast (by simpa using hspace)]
    exact withoutClosing_append_other hmark
  · rw [trimEnd_eq_of_getLast (by simpa using isSpace_of_isMark hq)]
    exact withoutClosing_append_mark h.nonempty hq

/-- **The value is the body.** -/
theorem Reads.pictureValue?_eq (h : Reads margin opening body rest) (hb : isBlank body = false) :
    pictureValue? (margin ++ (opening ++ (body ++ rest))) = some (unquoted body) := by
  rw [Image.pictureValue?_eq, h.withoutOpening_eq, h.withoutClosing_eq hb]
  simp only
  rw [if_neg]
  simpa using ⟨h.nonempty, h.oneLine⟩

end

/-! ## Paths -/

/-- A path as it may stand on a line: neither quotes nor line feeds in it and no white space around
it. -/
structure IsPath (s : Line) : Prop where
  nonempty : s ≠ []
  tight : Tight s
  plain : ∀ c ∈ s, isMark c = false
  oneLine : '\n' ∉ s

instance (s : Line) : Decidable (IsPath s) :=
  decidable_of_iff (s ≠ [] ∧ Tight s ∧ s.all (!isMark ·) = true ∧ '\n' ∉ s)
    ⟨fun ⟨h1, h2, h3, h4⟩ => ⟨h1, h2, by simpa using h3, h4⟩,
      fun ⟨h1, h2, h3, h4⟩ => ⟨h1, h2, by simpa using h3, h4⟩⟩

section
variable {s margin opening closing tail : Line}

theorem IsPath.not_blank (h : IsPath s) : isBlank s = false := by
  rw [Bool.eq_false_iff]
  intro hb
  rw [isBlank_iff_trim, trim_eq_of_tight h.tight] at hb
  exact h.nonempty hb

theorem IsPath.unquoted_eq (h : IsPath s) : unquoted s = s := by
  rw [unquoted, trim_eq_of_tight h.tight, List.filter_eq_self]
  intro c hc
  rw [h.plain c hc, Bool.not_false]

/-- A path is read as it stands, with quotes around it or without them. -/
theorem reads_path (h : IsPath s) (hmargin : isBlank margin = true) (htail : isBlank tail = true)
    (hopening : OptionalMark opening) (hclosing : OptionalMark closing) :
    Reads margin opening s (closing ++ tail) where
  blank := hmargin
  tight := by
    intro c hc
    rcases hopening with rfl | ⟨q, hq, rfl⟩
    · exact h.tight.1 c hc
    · obtain rfl : q = c := by simpa using hc
      exact isSpace_of_isMark hq
  opens := hopening
  bare := fun _ c hc => h.plain c (List.mem_of_mem_head? hc)
  nonempty := h.nonempty
  oneLine := h.oneLine
  closes := ⟨closing, tail, rfl, hclosing, htail⟩
  shortest := by
    -- the last character of the path would stand behind the body
    intro shorter left hs _ hleft hcloses
    obtain ⟨front, c, rfl⟩ := (List.eq_nil_or_concat' left).resolve_left hleft
    have hlast : c ∈ s.getLast? := by rw [hs, ← List.append_assoc, List.getLast?_concat]; rfl
    have hmark := h.plain c (List.mem_of_mem_getLast? hlast)
    have hspace := h.tight.2 c hlast
    have := hcloses.isMark_or_isSpace (c := c) (by simp)
    simp [hmark, hspace] at this

theorem pictureValue?_path (h : IsPath s) (hmargin : isBlank margin = true)
    (htail : isBlank tail = true) (hopening : OptionalMark opening)
    (hclosing : OptionalMark closing) :
    pictureValue? (margin ++ (opening ++ (s ++ (closing ++ tail)))) = some s := by
  rw [(reads_path h hmargin htail hopening hclosing).pictureValue?_eq h.not_blank, h.unquoted_eq]

end

/-! ## Lines -/

section
variable {p : String} (hp : p ∈ pictureProperties)
include hp

theorem not_mem_pictureProperty : ':' ∉ p.toList := by
  revert p
  decide

theorem head_pictureProperty (value : Line) :
    ∀ c ∈ (p.toList ++ ':' :: value).head?, isSpace c = false := by
  have hhead : (p.toList ++ [':']).head?.all (!isSpace ·) = true := by
    revert p
    decide
  have heq : (p.toList ++ ':' :: value).head? = (p.toList ++ [':']).head? := by
    cases p.toList <;> rfl
  intro c hc
  rw [heq] at hc
  simpa using (Option.all_eq_true _ _).mp hhead c hc

/-- The property of a line is what stands in front of its first colon. -/
theorem find?_pictureProperty (value : Line) :
    pictureProperties.find? (fun q => (q.toList ++ [':']).isPrefixOf (p.toList ++ ':' :: value)) =
      some p := by
  have hsome : (pictureProperties.find? fun q =>
      (q.toList ++ [':']).isPrefixOf (p.toList ++ ':' :: value)).isSome = true := by
    refine List.find?_isSome.mpr ⟨p, hp, List.isPrefixOf_iff_prefix.mpr ⟨value, ?_⟩⟩
    rw [List.append_assoc, List.singleton_append]
  obtain ⟨q, hq⟩ := Option.isSome_iff_exists.mp hsome
  have hprefix : (q.toList ++ [':']).isPrefixOf (p.toList ++ ':' :: value) = true := by
    have := List.find?_some hq
    exact this
  obtain ⟨other, hother⟩ := List.isPrefixOf_iff_prefix.mp hprefix
  rw [List.append_assoc, List.singleton_append] at hother
  have hsame : q.toList = p.toList := by
    rw [← takeWhile_before (not_mem_pictureProperty (List.mem_of_find?_eq_some hq)) other, hother,
      takeWhile_before (not_mem_pictureProperty hp)]
  rw [hq, String.toList_injective hsame]

theorem reference?_line {margin : Line} (hmargin : isBlank margin = true) (value : Line) :
    reference? (margin ++ (p.toList ++ ':' :: value)) =
      (pictureValue? value).map fun v => (p, String.ofList v) := by
  unfold reference?
  rw [trimStart_of_blank_append hmargin, trimStart_eq_of_head (head_pictureProperty hp value)]
  simp only [find?_pictureProperty hp]
  rw [← String.length_toList, drop_behind]

end

/-! ## Previews -/

/-- The preview of the picture at a path that a property names. -/
def previewOf (tree : Tree) (property path : String) (document workspace : Option Path) :
    Noted (Option Preview) :=
  if !pictureSuffixes.contains (lowerSuffix (Path.ofText path)) then ⟨none, []⟩
  else
    match resolve? tree path (document.map (·.parent)) workspace with
    | none => ⟨none, [.imageMissing (quote path) property]⟩
    | some resolved =>
      let found := dimensions tree resolved
      let size := match tree.read resolved.text with
        | .ok bytes => bytes.length
        | .error _ => 0
      ⟨some ⟨property, path, resolved, tree.resolve resolved, size, found.value⟩, found.notes⟩

section
variable {tree : Tree} {document workspace : Option Path} {property path : String}

theorem preview_of_reference {line : Line} (h : reference? line = some (property, path)) :
    preview tree line document workspace = previewOf tree property path document workspace := by
  unfold preview
  rw [h]
  rfl

theorem previewOf_isSome_iff :
    (previewOf tree property path document workspace).value.isSome = true ↔
      lowerSuffix (Path.ofText path) ∈ pictureSuffixes ∧
        (resolve? tree path (document.map (·.parent)) workspace).isSome = true := by
  unfold previewOf
  by_cases hsuffix : lowerSuffix (Path.ofText path) ∈ pictureSuffixes
  · rw [if_neg (by simpa using hsuffix)]
    cases resolve? tree path (document.map (·.parent)) workspace <;> simp [hsuffix]
  · rw [if_pos (by simpa using hsuffix)]
    simp [hsuffix]

theorem previewOf_eq_some {found : Preview}
    (h : (previewOf tree property path document workspace).value = some found) :
    found.property = property ∧ found.path = path ∧
      resolve? tree path (document.map (·.parent)) workspace = some found.resolved := by
  unfold previewOf at h
  split at h
  · cases h
  · split at h
    · cases h
    · next resolved hresolved =>
      cases h
      exact ⟨rfl, rfl, hresolved⟩

end

/-- **Quotes around a path do not matter.**  Whatever the files are and wherever the document is, a
line that sets a picture property gives the same preview with the path bare, in single quotes or in
double quotes.  There is one exactly when the path has the suffix of a picture and leads to a file,
and it is the preview of that property, path and file. -/
theorem preview_ignores_quotes (tree : Tree) (document workspace : Option Path) {p : String}
    {u v s z : Line} (hp : p ∈ pictureProperties) (hu : isBlank u = true) (hv : isBlank v = true)
    (hs : IsPath s) (hz : isBlank z = true) :
    let bare := preview tree (u ++ (p.toList ++ ':' :: (v ++ (s ++ z)))) document workspace
    let path := String.ofList s
    preview tree (u ++ (p.toList ++ ':' :: (v ++ ('\'' :: s ++ '\'' :: z)))) document workspace =
        bare ∧
      preview tree (u ++ (p.toList ++ ':' :: (v ++ ('"' :: s ++ '"' :: z)))) document workspace =
        bare ∧
      (bare.value.isSome = true ↔ lowerSuffix (Path.ofText path) ∈ pictureSuffixes ∧
        (resolve? tree path (document.map (·.parent)) workspace).isSome = true) ∧
      ∀ found, bare.value = some found → found.property = p ∧ found.path = path ∧
        resolve? tree path (document.map (·.parent)) workspace = some found.resolved := by
  have hline : ∀ opening closing, OptionalMark opening → OptionalMark closing →
      preview tree (u ++ (p.toList ++ ':' :: (v ++ (opening ++ (s ++ (closing ++ z))))))
        document workspace = previewOf tree p (String.ofList s) document workspace := by
    intro opening closing hopening hclosing
    apply preview_of_reference
    rw [reference?_line hp hu, pictureValue?_path hs hv hz hopening hclosing, Option.map_some]
  have hbare := hline [] [] (.inl rfl) (.inl rfl)
  have hsingle := hline ['\''] ['\''] (.inr ⟨_, rfl, rfl⟩) (.inr ⟨_, rfl, rfl⟩)
  have hdouble := hline ['"'] ['"'] (.inr ⟨_, rfl, rfl⟩) (.inr ⟨_, rfl, rfl⟩)
  intro bare path
  have hbare : bare = previewOf tree p path document workspace := hbare
  rw [hbare]
  exact ⟨hsingle, hdouble, previewOf_isSome_iff, fun found h => previewOf_eq_some h⟩

/-- A path with blanks, a `#` and a colon in it. -/
def spacedPath : Line := "a b #1:2.PNG".toList

/-- A document. -/
def spacedDocument : Path := ⟨"", ["a.kv"]⟩

/-- A tree with an empty file at the path, beside the document. -/
def spacedTree : Tree := ⟨["w"], [(["w", "a b #1:2.PNG"], [])], []⟩

/-- The picture is found with quotes around its path and white space of other kinds around these. -/
theorem preview_ignores_quotes_spaced :
    "background_down" ∈ pictureProperties ∧ isBlank ['\t', '\u00a0'] = true ∧
      isBlank ['\u3000'] = true ∧ IsPath spacedPath ∧ isBlank [' ', '\r'] = true ∧
      ∃ found, (preview spacedTree "\t\u00a0background_down:\u3000\"a b #1:2.PNG\" \r".toList
          (some spacedDocument) none).value = some found ∧
        found.property = "background_down" ∧ found.path = "a b #1:2.PNG" ∧
        found.resolved = ⟨"", ["a b #1:2.PNG"]⟩ := by
  have hp : "background_down" ∈ pictureProperties := by decide
  have hu : isBlank ['\t', '\u00a0'] = true := by decide
  have hv : isBlank ['\u3000'] = true := by decide
  have hs : IsPath spacedPath := by decide
  have hz : isBlank [' ', '\r'] = true := by decide
  have hsuffix : lowerSuffix (Path.ofText (String.ofList spacedPath)) ∈ pictureSuffixes := by
    decide +kernel
  have hresolve : resolve? spacedTree (String.ofList spacedPath)
      ((some spacedDocument).map (·.parent)) none = some ⟨"", ["a b #1:2.PNG"]⟩ := by
    decide +kernel
  obtain ⟨-, hdouble, hfound, hexact⟩ :=
    preview_ignores_quotes spacedTree (some spacedDocument) none hp hu hv hs hz
  obtain ⟨found, h⟩ :=
    Option.isSome_iff_exists.mp (hfound.mpr ⟨hsuffix, by rw [hresolve, Option.isSome_some]⟩)
  obtain ⟨hproperty, hpath, hresolved⟩ := hexact found h
  have hline := (congrArg Noted.value hdouble).trans h
  exact ⟨hp, hu, hv, hs, hz, found, hline, hproperty, hpath,
    Option.some.inj (hresolved.symm.trans hresolve)⟩

end KvMarkup.Image
