import KvMarkup.Completion.Provider
import KvMarkup.Proofs.Catalog.Names
import KvMarkup.Proofs.Outline.Showable
import KvMarkup.Proofs.Text.Lines

/-!
# The candidates for widget types

A catalogue whose names are texts has candidates for its types, in the increasing order of their
names:

    widgetCandidates c true      one for each type
    widgetCandidates c false     one for each type but the mix-ins, with a snippet

Both are made name by name of the same sorted names, where a name may be left out
(`exists_widgetCandidates`), so the second list is the first one without the mix-ins
(`widgetCandidates_view`).  A snippet has a line for the type and under it one for each property
that the type declares itself, again in increasing order and numbered from one, or a line that
stands for them where there are none (`IsSnippet`).
-/

namespace KvMarkup.Completion

open KvMarkup.Text KvMarkup.Number KvMarkup.Outline

/-! ## Names in order -/

theorem sortNames_perm (names : List String) : (sortNames names).Perm names :=
  List.mergeSort_perm _ _

theorem pairwise_lt_sortNames {names : List String} (h : names.Nodup) :
    (sortNames names).Pairwise (· < ·) := by
  have hle : (sortNames names).Pairwise fun a b => decide (a ≤ b) = true := by
    apply List.pairwise_mergeSort
    · intro a b c hab hbc
      rw [decide_eq_true_eq] at hab hbc ⊢
      exact String.le_trans hab hbc
    · intro a b
      simpa using String.le_total a b
  have hne : (sortNames names).Nodup := (sortNames_perm names).nodup_iff.mpr h
  refine (hle.and hne).imp ?_
  rintro a b ⟨hab, hne⟩
  rw [← String.not_le]
  intro hba
  exact hne (String.le_antisymm (of_decide_eq_true hab) hba)

/-- The order of texts as values is their order. -/
theorem mergeSort_texts (names : List String) :
    (names.map Data.str).mergeSort (fun a b => (a.le? b).getD true) =
      (sortNames names).map .str := by
  rw [sortNames, List.map_mergeSort]
  intro a _ b _
  rfl

theorem checkOrder_texts (names : List String) : checkOrder (names.map .str) = .ok () := by
  rw [checkOrder_eq_ok_iff, List.pairwise_map]
  exact List.pairwise_of_forall fun a b => ⟨_, rfl⟩

/-! ## Snippets -/

/-- The line of a property in a snippet. -/
def stopLine (n : Nat) (property : String) : Line :=
  ("    " ++ property ++ ": $\x7b" ++ toString n ++ "\x7d").toList

/-- The lines of the snippet of a type with these properties. -/
inductive IsSnippet (label : String) (properties : List String) : List Line → Prop where
  | placeholder (h : properties = []) :
      IsSnippet label properties [(label ++ ":").toList, "    $\x7b1:# properties\x7d".toList]
  | stops {sorted : List String} (h : properties ≠ []) (hperm : sorted.Perm properties)
      (hlt : sorted.Pairwise (· < ·)) :
      IsSnippet label properties
        ((label ++ ":").toList :: sorted.mapIdx fun i property => stopLine (i + 1) property)

theorem not_break_mem_toDigits (n : Nat) : '\n' ∉ Nat.toDigits 10 n := by
  intro h
  have hdigit := Nat.isDigit_of_mem_toDigits (by decide) (by decide) h
  revert hdigit
  decide

theorem not_break_mem_stopLine {property : String} (h : '\n' ∉ property.toList) (n : Nat) :
    '\n' ∉ stopLine n property := by
  simp [stopLine, h, not_break_mem_toDigits n]

theorem showInt_natCast (n : Nat) : showInt n = toString n := by
  rw [showInt, if_neg (by omega), Int.natAbs_natCast]
  rfl

theorem map_toList_tabStops (names : List String) :
    (tabStops names).map String.toList =
      names.mapIdx fun i property => stopLine (i + 1) property := by
  apply List.ext_getElem
  · simp [tabStops]
  · intro i hi hi'
    simp [tabStops, snippetIndent, stopLine, showInt_natCast, Nat.add_comm 1]

theorem lines_intercalate {ls : List String} (hne : ls ≠ []) (h : NoBreaks (ls.map String.toList)) :
    lines ("\n".intercalate ls) = ls.map String.toList := by
  have hlines : "\n".intercalate ls = ofLines (ls.map String.toList) := by
    apply String.toList_injective
    simp [ofLines]
  rw [hlines, lines_ofLines (by simpa using hne) h]

theorem isSnippet_widgetSnippet {label : String} {properties : List String}
    (hlabel : '\n' ∉ label.toList) (hbreaks : ∀ p ∈ properties, '\n' ∉ p.toList)
    (hdistinct : properties.Nodup) :
    IsSnippet label properties (lines (widgetSnippet label properties)) := by
  have hheader : '\n' ∉ (label ++ ":").toList := by
    simp [hlabel]
  unfold widgetSnippet
  by_cases hnone : properties = []
  · rw [if_pos (by simpa using hnone), lines_intercalate (List.cons_ne_nil _ _)]
    · exact .placeholder hnone
    · rw [List.map_cons, NoBreaks, List.forall_mem_cons]
      exact ⟨hheader, by decide⟩
  · rw [if_neg (by simpa using hnone), lines_intercalate (List.cons_ne_nil _ _), List.map_cons,
      map_toList_tabStops]
    · exact .stops hnone (sortNames_perm properties) (pairwise_lt_sortNames hdistinct)
    · rw [List.map_cons, NoBreaks, List.forall_mem_cons, map_toList_tabStops]
      refine ⟨hheader, ?_⟩
      intro l hl
      obtain ⟨i, hi, rfl⟩ := List.mem_mapIdx.mp hl
      apply not_break_mem_stopLine
      exact hbreaks _ ((sortNames_perm properties).mem_iff.mp (List.getElem_mem hi))

/-! ## Candidates -/

/-- What is made of a name: a candidate with it for the label if the name is kept, and nothing
otherwise. -/
def Offers (keep : String → Bool) (P : Candidate → Prop) (s : String)
    (made : Except Fault (Option Candidate)) : Prop :=
  ∃ o, made = .ok o ∧ o.map (·.label) = (if keep s then some s else none) ∧ ∀ x ∈ o, P x

section
variable {names : List String} {keep : String → Bool} {P : Candidate → Prop}

/-- What is made of each name in turn is what is made of the names that are kept. -/
theorem exists_mapM_candidates {f : Data → Except Fault (Option Candidate)}
    (h : ∀ s ∈ names, Offers keep P s (f (.str s))) :
    ∃ os, (names.map Data.str).mapM f = .ok os ∧
      (os.filterMap id).map (·.label) = names.filter keep ∧ ∀ x ∈ os.filterMap id, P x := by
  induction names with
  | nil => exact ⟨[], rfl, rfl, nofun⟩
  | cons s names ih =>
    rw [List.forall_mem_cons] at h
    obtain ⟨⟨o, ho, hlabel, hP⟩, h⟩ := h
    obtain ⟨os, hos, hlabels, hall⟩ := ih h
    refine ⟨o :: os, by rw [List.map_cons, List.mapM_cons, ho, hos]; rfl, ?_⟩
    cases hkeep : keep s with
    | false =>
      obtain rfl : o = none := by simpa [hkeep] using hlabel
      rw [List.filter_cons_of_neg (by simp [hkeep])]
      exact ⟨hlabels, hall⟩
    | true =>
      obtain ⟨x, rfl, rfl⟩ : ∃ x, o = some x ∧ x.label = s := by simpa [hkeep] using hlabel
      rw [List.filter_cons_of_pos hkeep, ← hlabels]
      refine ⟨rfl, ?_⟩
      change ∀ y ∈ x :: os.filterMap id, P y
      rw [List.forall_mem_cons]
      exact ⟨hP x rfl, hall⟩

theorem exists_widgetCandidates {c : Catalog} (inHeader : Bool)
    (hnames : c.widgetNames = names.map .str)
    (h : ∀ s ∈ names, Offers keep P s
      (if inHeader then headerCandidate c (.str s) else widgetCandidate c (.str s))) :
    ∃ cs, widgetCandidates c inHeader = .ok cs ∧
      cs.map (·.label) = (sortNames names).filter keep ∧ ∀ x ∈ cs, P x := by
  obtain ⟨os, hos, hlabels, hall⟩ := exists_mapM_candidates
    (f := fun name => if inHeader then headerCandidate c name else widgetCandidate c name)
    fun s hs => h s ((sortNames_perm names).mem_iff.mp hs)
  refine ⟨os.filterMap id, ?_, hlabels, hall⟩
  rw [widgetCandidates, hnames, checkOrder_texts, mergeSort_texts]
  simp only [hos]
  rfl

end

/-- A candidate inserts the snippet of the type that it is labelled with. -/
def ShowsType (c : Catalog) (x : Candidate) : Prop :=
  ∃ t ∈ c.widgets, t.name = .str x.label ∧
    IsSnippet x.label (t.properties.map (·.1)) (lines x.insertText)

theorem baseNames_texts (ss : List String) : baseNames (ss.map .str) = .ok ss := by
  induction ss with
  | nil => rfl
  | cons s ss ih =>
    rw [baseNames] at ih
    rw [baseNames, List.map_cons, List.mapM_cons, ih]
    rfl

theorem isMixin_iff {s : String} : isMixin s = true ↔ "Behavior".toList <:+ s.toList :=
  List.isSuffixOf_iff_suffix

section
variable {c : Catalog} (h : c.Textual) {t : WidgetType} (ht : t ∈ c.widgets) {s : String}
  (hs : t.name = .str s)
include h ht hs

theorem offers_headerCandidate :
    Offers (fun _ => true) (fun _ => True) s (headerCandidate c (.str s)) := by
  obtain ⟨bases, hbases⟩ := Catalog.exists_texts (h.base t ht)
  have hnames : baseNames t.bases = .ok bases := by rw [hbases, baseNames_texts]
  simp only [headerCandidate, h.bases_eq ht hs, hnames, labelText?, bind, Except.bind]
  exact ⟨_, rfl, rfl, fun _ _ => trivial⟩

theorem offers_widgetCandidate :
    Offers (fun s => !isMixin s) (ShowsType c) s (widgetCandidate c (.str s)) := by
  rw [widgetCandidate]
  by_cases hmixin : isMixin s = true
  · rw [if_pos hmixin]
    exact ⟨none, rfl, by simp [hmixin], nofun⟩
  · obtain ⟨bases, hbases⟩ := Catalog.exists_texts (h.base t ht)
    have hnames : baseNames t.bases = .ok bases := by rw [hbases, baseNames_texts]
    have hsnippet : snippetOf c (.str s) = .ok (widgetSnippet s (t.properties.map (·.1))) := by
      rw [snippetOf, h.properties_eq ht hs]
      rfl
    have hlabel : '\n' ∉ s.toList := by
      obtain ⟨s', hs', hbreak⟩ := h.name t ht
      obtain rfl : s' = s := Data.str.inj (hs'.symm.trans hs)
      exact hbreak
    have hlines := isSnippet_widgetSnippet hlabel (List.forall_mem_map.mpr (h.property t ht))
      (h.apart t ht)
    rw [if_neg hmixin]
    simp only [h.bases_eq ht hs, hnames, hsnippet, bind, Except.bind]
    refine ⟨_, rfl, by simp [hmixin], ?_⟩
    intro x hx
    obtain rfl := Option.mem_some.mp hx
    exact ⟨t, ht, hs, hlines⟩

end

/-- **The candidates are the types of the catalogue.**  A header has a candidate for each type, in
increasing order of their names; a widget has those for the types that are no mix-ins, and each of
them inserts a snippet with a numbered line for each property that the type declares itself. -/
theorem widgetCandidates_view {c : Catalog} (h : c.Textual) :
    ∃ header body, widgetCandidates c true = .ok header ∧ widgetCandidates c false = .ok body ∧
      (header.map (·.label)).Pairwise (· < ·) ∧
      ((header.map (·.label)).map Data.str).Perm c.widgetNames ∧
      body.map (·.label) =
        (header.map (·.label)).filter (fun s => ¬"Behavior".toList <:+ s.toList) ∧
      ∀ x ∈ body, ShowsType c x := by
  obtain ⟨labels, hlabels, hdistinct⟩ := h.exists_labels
  have htype : ∀ s ∈ labels, ∃ t ∈ c.widgets, t.name = .str s := by
    intro s hs
    rw [← List.mem_map, ← Catalog.widgetNames, hlabels]
    exact List.mem_map_of_mem hs
  obtain ⟨header, hheader, hall, -⟩ := exists_widgetCandidates true hlabels fun s hs => by
    obtain ⟨t, ht, hname⟩ := htype s hs
    exact offers_headerCandidate h ht hname
  obtain ⟨body, hbody, hkept, hsnippets⟩ := exists_widgetCandidates false hlabels fun s hs => by
    obtain ⟨t, ht, hname⟩ := htype s hs
    exact offers_widgetCandidate h ht hname
  rw [List.filter_true] at hall
  refine ⟨header, body, hheader, hbody, ?_, ?_, ?_, hsnippets⟩
  · rw [hall]
    exact pairwise_lt_sortNames hdistinct
  · rw [hall, hlabels]
    exact (sortNames_perm labels).map _
  · rw [hkept, hall]
    apply List.filter_congr
    intro s _
    rw [Bool.eq_iff_iff, Bool.not_eq_true', ← Bool.not_eq_true, isMixin_iff, decide_eq_true_iff]

/-- A document with a type of two properties, a mix-in and a type that declares nothing. -/
def shelf : Data :=
  .map [(.str "widgets", .map
    [(.str "Slider", .map
        [(.str "bases", .list [.str "Widget"]),
         (.str "properties", .map
            [(.str "value", .str "NumericProperty"), (.str "max", .str "NumericProperty")])]),
     (.str "DragBehavior", .null),
     (.str "Button", .null)])]

/-- Its catalogue. -/
def shelfCatalog : Catalog where
  widgets :=
    [⟨.str "Slider", [.str "Widget"], [("value", "NumericProperty"), ("max", "NumericProperty")]⟩,
     ⟨.str "DragBehavior", [], []⟩, ⟨.str "Button", [], []⟩]
  instructions := []

/-- The candidates of the document's catalogue, as the general theorem has them. -/
theorem widgetCandidates_view_shelf :
    Catalog.ofData shelf = .ok shelfCatalog ∧ shelfCatalog.Textual ∧
      ∃ header body, widgetCandidates shelfCatalog true = .ok header ∧
        widgetCandidates shelfCatalog false = .ok body ∧
        ((header.map (·.label)).map Data.str).Perm shelfCatalog.widgetNames ∧
        ∀ x ∈ body, ShowsType shelfCatalog x := by
  have hdocument : Catalog.ofData shelf = .ok shelfCatalog := rfl
  have htextual : shelfCatalog.Textual := by
    constructor
    · simp [shelfCatalog]
    · simp [Catalog.widgetNames, shelfCatalog]
    · simp [shelfCatalog]
    · decide
    · obtain ⟨-, -, -, -, -, hapart⟩ := Catalog.ofData_widgets hdocument
      exact hapart
  obtain ⟨header, body, hheader, hbody, -, hall, -, hsnippets⟩ := widgetCandidates_view htextual
  exact ⟨hdocument, htextual, header, body, hheader, hbody, hall, hsnippets⟩

end KvMarkup.Completion
