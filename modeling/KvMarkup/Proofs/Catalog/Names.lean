import Mathlib.Data.List.Nodup
import KvMarkup.Proofs.Catalog.Failure

/-!
# Catalogues whose names are texts

The types of a catalogue are looked up by their names.  Where these are texts and no two types have
the same one, a type is what is found under its name (`Textual.widget?_eq`), with its bases and the
properties that it declares itself.

The catalogue of a document has the keys of a mapping for its names, and the properties of a type
are put together one by one, the same one in its place (`putText`), so those of one type differ from
each other whatever the document is (`ofData_widgets`).
-/

namespace KvMarkup.Catalog

/-! ## Catalogues of documents -/

theorem mem_keys_putText {texts : List (String × String)} {key value k : String} :
    k ∈ (putText texts key value).map (·.1) ↔ k = key ∨ k ∈ texts.map (·.1) := by
  induction texts with
  | nil => simp [putText]
  | cons entry texts ih =>
    rw [putText]
    split
    · next heq =>
      rw [beq_iff_eq] at heq
      simp [heq]
    · rw [List.map_cons, List.mem_cons, ih, List.map_cons, List.mem_cons, or_left_comm]

theorem nodup_keys_putText {texts : List (String × String)} (h : (texts.map (·.1)).Nodup)
    (key value : String) : ((putText texts key value).map (·.1)).Nodup := by
  induction texts with
  | nil => exact List.nodup_singleton _
  | cons entry texts ih =>
    rw [List.map_cons, List.nodup_cons] at h
    rw [putText]
    split
    · exact List.nodup_cons.mpr h
    · next hne =>
      rw [beq_iff_eq] at hne
      rw [List.map_cons, List.nodup_cons, mem_keys_putText]
      exact ⟨not_or.mpr ⟨hne, h.1⟩, ih h.2⟩

theorem nodup_keys_foldl {texts : List (String × String)} (h : (texts.map (·.1)).Nodup)
    (entries : List (Data × Data)) :
    ((entries.foldl (fun acc e => putText acc e.1.shown e.2.shown) texts).map (·.1)).Nodup := by
  induction entries generalizing texts with
  | nil => exact h
  | cons e entries ih => exact ih (nodup_keys_putText h _ _)

theorem nodup_keys_textEntries {entries : List (Data × Data)} {texts : List (String × String)}
    (h : textEntries entries = .ok texts) : (texts.map (·.1)).Nodup := by
  unfold textEntries at h
  split at h
  · obtain rfl := Except.ok.inj h
    have hempty : (([] : List (String × String)).map (·.1)).Nodup := List.nodup_nil
    exact nodup_keys_foldl hempty entries
  · cases h

theorem widgetType_eq_ok {name entry : Data} {t : WidgetType} (h : widgetType name entry = .ok t) :
    t.name = name ∧ (t.properties.map (·.1)).Nodup := by
  unfold widgetType at h
  split at h
  · obtain ⟨bases, -, h⟩ := bind_eq_ok_iff.mp h
    obtain ⟨properties, -, h⟩ := bind_eq_ok_iff.mp h
    obtain ⟨texts, htexts, h⟩ := bind_eq_ok_iff.mp h
    obtain rfl := Except.ok.inj h
    exact ⟨rfl, nodup_keys_textEntries htexts⟩
  · split at h
    · cases h
    · obtain rfl := Except.ok.inj h
      exact ⟨rfl, List.nodup_nil⟩

theorem mapM_widgetType {entries : List (Data × Data)} {types : List WidgetType}
    (h : entries.mapM (fun e => widgetType e.1 e.2) = .ok types) :
    types.map (·.name) = entries.map (·.1) ∧ ∀ t ∈ types, (t.properties.map (·.1)).Nodup := by
  induction entries generalizing types with
  | nil =>
    obtain rfl := Except.ok.inj h
    exact ⟨rfl, nofun⟩
  | cons e entries ih =>
    rw [List.mapM_cons] at h
    obtain ⟨t, ht, h⟩ := bind_eq_ok_iff.mp h
    obtain ⟨ts, hts, h⟩ := bind_eq_ok_iff.mp h
    obtain rfl := Except.ok.inj h
    obtain ⟨hname, hapart⟩ := widgetType_eq_ok ht
    obtain ⟨hnames, hall⟩ := ih hts
    rw [List.map_cons, hname, hnames, List.forall_mem_cons]
    exact ⟨rfl, hapart, hall⟩

/-- The types of a document are named by its keys, and their properties by different texts. -/
theorem ofData_widgets {document : Data} {c : Catalog} (h : ofData document = .ok c) :
    ∃ fields entries, document = .map fields ∧
      entriesOrNone (Data.field? fields "widgets") = .ok entries ∧
      c.widgetNames = entries.map (·.1) ∧ ∀ t ∈ c.widgets, (t.properties.map (·.1)).Nodup := by
  unfold ofData at h
  split at h
  · next fields =>
    obtain ⟨entries, hentries, h⟩ := bind_eq_ok_iff.mp h
    obtain ⟨types, htypes, h⟩ := bind_eq_ok_iff.mp h
    obtain ⟨instructions, -, h⟩ := bind_eq_ok_iff.mp h
    obtain ⟨kinds, -, h⟩ := bind_eq_ok_iff.mp h
    obtain rfl := Except.ok.inj h
    obtain ⟨hnames, hapart⟩ := mapM_widgetType htypes
    exact ⟨fields, entries, rfl, hentries, hnames, hapart⟩
  · cases h

/-! ## Looking up texts -/

/-- The names of a catalogue are texts, on one line where a snippet shows them, and different types
have different names, as have different properties of a type. -/
structure Textual (c : Catalog) : Prop where
  name : ∀ t ∈ c.widgets, ∃ s, t.name = .str s ∧ '\n' ∉ s.toList
  distinct : c.widgetNames.Nodup
  base : ∀ t ∈ c.widgets, ∀ b ∈ t.bases, ∃ s, b = .str s
  property : ∀ t ∈ c.widgets, ∀ p ∈ t.properties, '\n' ∉ p.1.toList
  apart : ∀ t ∈ c.widgets, (t.properties.map (·.1)).Nodup

theorem exists_texts {ds : List Data} (h : ∀ d ∈ ds, ∃ s, d = .str s) :
    ∃ ss : List String, ds = ss.map .str := by
  induction ds with
  | nil => exact ⟨[], rfl⟩
  | cons d ds ih =>
    rw [List.forall_mem_cons] at h
    obtain ⟨⟨s, rfl⟩, h⟩ := h
    obtain ⟨ss, rfl⟩ := ih h
    exact ⟨s :: ss, rfl⟩

section
variable {c : Catalog} (h : c.Textual)
include h

theorem Textual.exists_labels :
    ∃ labels : List String, c.widgetNames = labels.map .str ∧ labels.Nodup := by
  have htexts : ∀ d ∈ c.widgetNames, ∃ s, d = .str s := by
    intro d hd
    obtain ⟨t, ht, rfl⟩ := List.mem_map.mp hd
    obtain ⟨s, hs, -⟩ := h.name t ht
    exact ⟨s, hs⟩
  obtain ⟨labels, hlabels⟩ := exists_texts htexts
  have hdistinct := h.distinct
  rw [hlabels] at hdistinct
  exact ⟨labels, hlabels, hdistinct.of_map⟩

/-- A type is found under its own name. -/
theorem Textual.widget?_eq {t : WidgetType} (ht : t ∈ c.widgets) {s : String}
    (hs : t.name = .str s) : c.widget? (.str s) = some t := by
  cases hfound : c.widget? (.str s) with
  | none =>
    have hmem : t.name ∈ c.widgetNames := List.mem_map_of_mem ht
    rw [hs] at hmem
    exact absurd hmem (widget?_str_eq_none_iff.mp hfound)
  | some t' =>
    have hname : t'.name = t.name := by
      rw [hs, ← Data.same_str_iff]
      exact same_of_widget? hfound
    rw [List.inj_on_of_nodup_map h.distinct (mem_of_widget? hfound) ht hname]

theorem Textual.bases_eq {t : WidgetType} (ht : t ∈ c.widgets) {s : String} (hs : t.name = .str s) :
    c.bases (.str s) = .ok t.bases := by
  rw [bases, widgetInfo, h.widget?_eq ht hs]
  rfl

theorem Textual.properties_eq {t : WidgetType} (ht : t ∈ c.widgets) {s : String}
    (hs : t.name = .str s) : c.properties (.str s) = .ok t.properties := by
  rw [properties, widgetInfo, h.widget?_eq ht hs]
  rfl

end

end KvMarkup.Catalog
