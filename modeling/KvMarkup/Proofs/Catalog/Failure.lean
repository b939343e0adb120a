import Mathlib.Data.Fintype.EquivFin
import KvMarkup.Proofs.Catalog.Resolution

/-!
# Look-ups that fail

A catalogue keeps the bases of a widget type as they stand in its document, and there may be anything
among them.  Only looking up a property goes from base to base, so it is the only look-up by a text
that can fail, and it fails at a base that cannot be a key (`search_error`).  A search that finds
nothing has visited all that the owner reaches: what it has seen is closed under bases, and they are
keys (`exists_swept`).  So every property of a text can be looked up exactly when no such base is in
the way:

    (∀ p, ∃ found, c.propertyType p (.str text) = .ok found) ↔ c.KeyedFrom (.str text)

Towards the right, a property that no type declares makes the search go all the way.
-/

namespace KvMarkup.Catalog

/-- Every base of every type that the owner reaches can be a key. -/
def KeyedFrom (c : Catalog) (owner : Data) : Prop :=
  ∀ t, c.Reaches owner t → ∀ b ∈ t.bases, b.isKey = true

section
variable {c : Catalog} {property : String} {owner name : Data} {seen pending : List Data}

/-! ## A search that fails or finds something -/

/-- A base of a type that one of some names reaches. -/
def BaseBelow (c : Catalog) (names : List Data) (b : Data) : Prop :=
  ∃ n ∈ names, ∃ t, c.Reaches n t ∧ b ∈ t.bases

theorem BaseBelow.mono {names names' : List Data} {b : Data} (h : BaseBelow c names b)
    (hsub : names ⊆ names') : BaseBelow c names' b := by
  obtain ⟨n, hn, hb⟩ := h
  exact ⟨n, hsub hn, hb⟩

/-- Going on with the bases of a type leads to nothing that its name does not lead to. -/
theorem reaches_of_visit {n : Data} {t u : WidgetType} (ht : c.widget? name = some t)
    (hn : n ∈ t.bases ++ pending) (hu : c.Reaches n u) : ∃ m ∈ name :: pending, c.Reaches m u := by
  rcases List.mem_append.mp hn with hn | hn
  · exact ⟨name, List.mem_cons_self, .base ht hn hu⟩
  · exact ⟨n, List.mem_cons_of_mem _ hn, hu⟩

/-- A search fails at a name that cannot be a key: one that was pending, or a base further on. -/
theorem search_error {f : Fault} (h : c.search property seen pending = .error f) :
    ∃ b, (b ∈ pending ∨ BaseBelow c pending b) ∧ b.isKey = false ∧ f = .notAKey b.typeName := by
  fun_induction search c property seen pending with
  | case1 seen => cases h
  | case2 seen name pending hname hs ih =>
    obtain ⟨b, hb, hkey, hf⟩ := ih h
    have hsub := List.subset_cons_self name pending
    exact ⟨b, hb.imp (fun hb => hsub hb) fun hb => hb.mono hsub, hkey, hf⟩
  | case3 seen name pending hname hs hnone ih =>
    obtain ⟨b, hb, hkey, hf⟩ := ih h
    have hsub := List.subset_cons_self name pending
    exact ⟨b, hb.imp (fun hb => hsub hb) fun hb => hb.mono hsub, hkey, hf⟩
  | case4 seen name pending hname hs t ht type htype => cases h
  | case5 seen name pending hname hs t ht hnone ih =>
    obtain ⟨b, hb, hkey, hf⟩ := ih h
    refine ⟨b, ?_, hkey, hf⟩
    rcases hb with hb | ⟨n, hn, u, hu, hb⟩
    · rcases List.mem_append.mp hb with hb | hb
      · exact .inr ⟨name, List.mem_cons_self, t, .self ht, hb⟩
      · exact .inl (List.mem_cons_of_mem _ hb)
    · obtain ⟨m, hm, hu⟩ := reaches_of_visit ht hn hu
      exact .inr ⟨m, hm, u, hu, hb⟩
  | case6 seen name pending hname =>
    exact ⟨name, .inl List.mem_cons_self, by simpa using hname, (Except.error.inj h).symm⟩

/-- What a search finds is declared by a type that a pending name reaches. -/
theorem search_some {type : String} (h : c.search property seen pending = .ok (some type)) :
    ∃ n ∈ pending, ∃ t, c.Reaches n t ∧ t.properties.lookup property = some type := by
  fun_induction search c property seen pending with
  | case1 seen => cases h
  | case2 seen name pending hname hs ih =>
    obtain ⟨n, hn, ht⟩ := ih h
    exact ⟨n, List.mem_cons_of_mem _ hn, ht⟩
  | case3 seen name pending hname hs hnone ih =>
    obtain ⟨n, hn, ht⟩ := ih h
    exact ⟨n, List.mem_cons_of_mem _ hn, ht⟩
  | case4 seen name pending hname hs t ht type' htype =>
    obtain rfl : type' = type := by simpa using h
    exact ⟨name, List.mem_cons_self, t, .self ht, htype⟩
  | case5 seen name pending hname hs t ht hnone ih =>
    obtain ⟨n, hn, u, hu, htype⟩ := ih h
    obtain ⟨m, hm, hu⟩ := reaches_of_visit ht hn hu
    exact ⟨m, hm, u, hu, htype⟩
  | case6 seen name pending hname => cases h

/-! ## A search that finds nothing -/

/-- A name that can be a key and was seen. -/
def Visited (seen : List Data) (n : Data) : Prop := n.isKey = true ∧ seen.any n.same = true

/-- A seen name whose type, if the catalogue knows it, does not declare the property, and all of
whose bases were visited. -/
def Swept (c : Catalog) (property : String) (seen : List Data) (s : Data) : Prop :=
  s.isKey = true ∧ ∀ t, c.widget? s = some t →
    t.properties.lookup property = none ∧ ∀ b ∈ t.bases, Visited seen b

theorem visited_of_mem {n : Data} (hk : n.isKey = true) (h : n ∈ seen) : Visited seen n :=
  ⟨hk, List.any_eq_true.mpr ⟨n, h, Data.same_self n hk⟩⟩

/-- What a search that finds nothing leaves behind: all that was pending is visited, and what was
not seen before is swept. -/
theorem exists_swept (h : c.search property seen pending = .ok none) :
    ∃ seen', seen ⊆ seen' ∧ (∀ n ∈ pending, Visited seen' n) ∧
      ∀ s ∈ seen', s ∈ seen ∨ Swept c property seen' s := by
  fun_induction search c property seen pending with
  | case1 seen => exact ⟨seen, List.Subset.refl _, by simp, fun s hs => .inl hs⟩
  | case2 seen name pending hname hs ih =>
    obtain ⟨seen', hsub, hpending, hswept⟩ := ih h
    have hvisited : Visited seen' name := by
      obtain ⟨s, hmem, hsame⟩ := List.any_eq_true.mp hs
      exact ⟨hname, List.any_eq_true.mpr ⟨s, hsub hmem, hsame⟩⟩
    exact ⟨seen', hsub, List.forall_mem_cons.mpr ⟨hvisited, hpending⟩, hswept⟩
  | case3 seen name pending hname hs hnone ih =>
    obtain ⟨seen', hsub, hpending, hswept⟩ := ih h
    have hvisited := visited_of_mem hname (hsub List.mem_cons_self)
    refine ⟨seen', List.Subset.trans (List.subset_cons_self _ _) hsub,
      List.forall_mem_cons.mpr ⟨hvisited, hpending⟩, ?_⟩
    intro s hs
    rcases hswept s hs with hmem | hswept
    · rcases List.mem_cons.mp hmem with rfl | hmem
      · exact .inr ⟨hname, fun t ht => by rw [hnone] at ht; cases ht⟩
      · exact .inl hmem
    · exact .inr hswept
  | case4 seen name pending hname hs t ht type htype => cases h
  | case5 seen name pending hname hs t ht hnone ih =>
    obtain ⟨seen', hsub, hpending, hswept⟩ := ih h
    have hvisited := visited_of_mem hname (hsub List.mem_cons_self)
    refine ⟨seen', List.Subset.trans (List.subset_cons_self _ _) hsub,
      List.forall_mem_cons.mpr ⟨hvisited, fun n hn => hpending n (List.mem_append_right _ hn)⟩, ?_⟩
    intro s hs
    rcases hswept s hs with hmem | hswept
    · rcases List.mem_cons.mp hmem with rfl | hmem
      · refine .inr ⟨hname, ?_⟩
        intro u hu
        obtain rfl := Option.some.inj (ht.symm.trans hu)
        exact ⟨hnone, fun b hb => hpending b (List.mem_append_left _ hb)⟩
      · exact .inl hmem
    · exact .inr hswept
  | case6 seen name pending hname => cases h

/-- Where every seen name is swept, so is all that a visited name reaches. -/
theorem swept_of_reaches (hswept : ∀ s ∈ seen, Swept c property seen s) {n : Data} {t : WidgetType}
    (ht : c.Reaches n t) (hn : Visited seen n) :
    t.properties.lookup property = none ∧ ∀ b ∈ t.bases, Visited seen b := by
  have hown : ∀ {n : Data} {t : WidgetType}, Visited seen n → c.widget? n = some t →
      t.properties.lookup property = none ∧ ∀ b ∈ t.bases, Visited seen b := by
    rintro n t ⟨hk, hany⟩ ht
    obtain ⟨s, hs, hsame⟩ := List.any_eq_true.mp hany
    obtain ⟨hskey, hclosed⟩ := hswept s hs
    exact hclosed t (widget?_congr hk hskey hsame ▸ ht)
  induction ht with
  | self h => exact hown hn h
  | base h hb _ ih => exact ih ((hown hn h).2 _ hb)

/-- A search that finds nothing shows that no type which the owner reaches declares the property,
and that all their bases can be keys. -/
theorem propertyType_none (h : c.propertyType property owner = .ok none) :
    (∀ t, c.Reaches owner t → t.properties.lookup property = none) ∧ c.KeyedFrom owner := by
  obtain ⟨seen', -, hpending, hswept⟩ := exists_swept h
  have hall : ∀ s ∈ seen', Swept c property seen' s := fun s hs =>
    (hswept s hs).resolve_left List.not_mem_nil
  have howner := hpending owner (List.mem_singleton_self owner)
  constructor
  · intro t ht
    exact (swept_of_reaches hall ht howner).1
  · intro t ht b hb
    exact ((swept_of_reaches hall ht howner).2 b hb).1

/-- A property that no type of the catalogue declares. -/
theorem exists_undeclared (c : Catalog) :
    ∃ property, ∀ t ∈ c.widgets, t.properties.lookup property = none := by
  obtain ⟨property, hfresh⟩ := Infinite.exists_notMem_finset
    (c.widgets.flatMap fun t => t.properties.map (·.1)).toFinset
  refine ⟨property, ?_⟩
  intro t ht
  rw [List.lookup_eq_none_iff]
  intro p hp
  rw [bne_iff_ne]
  rintro rfl
  apply hfresh
  rw [List.mem_toFinset, List.mem_flatMap]
  exact ⟨t, ht, List.mem_map_of_mem hp⟩

/-! ## Owners that are texts -/

/-- A look-up of a property by a text fails at a base that cannot be a key, of a type that the text
reaches. -/
theorem propertyType_error {text : String} {f : Fault}
    (h : c.propertyType property (.str text) = .error f) :
    ∃ t, c.Reaches (.str text) t ∧ ∃ b ∈ t.bases, b.isKey = false ∧ f = .notAKey b.typeName := by
  obtain ⟨b, hb, hkey, hf⟩ := search_error h
  rcases hb with hb | ⟨n, hn, t, ht, hb⟩
  · -- the only name that was pending is the text, and texts can be keys
    obtain rfl := List.mem_singleton.mp hb
    cases hkey
  · obtain rfl := List.mem_singleton.mp hn
    exact ⟨t, ht, b, hb, hkey, hf⟩

/-- A look-up of a property that returns finds nothing exactly when no reached type declares the
property. -/
theorem propertyType_ok_iff {found : Option String} (h : c.propertyType property owner = .ok found) :
    found = none ↔ ∀ t, c.Reaches owner t → t.properties.lookup property = none := by
  constructor
  · rintro rfl
    exact (propertyType_none h).1
  · intro hnone
    cases found with
    | none => rfl
    | some type =>
      obtain ⟨n, hn, t, ht, htype⟩ := search_some h
      obtain rfl := List.mem_singleton.mp hn
      rw [hnone t ht] at htype
      cases htype

/-- Every property of a text can be looked up exactly when all bases that the text leads to can be
keys. -/
theorem exists_propertyType_ok_iff {text : String} :
    (∀ property, ∃ found, c.propertyType property (.str text) = .ok found) ↔
      c.KeyedFrom (.str text) := by
  constructor
  · intro h
    obtain ⟨property, hundeclared⟩ := exists_undeclared c
    obtain ⟨found, hfound⟩ := h property
    have hnone : found = none :=
      (propertyType_ok_iff hfound).mpr fun t ht => hundeclared t ht.mem_widgets
    subst hnone
    exact (propertyType_none hfound).2
  · intro hkeyed property
    cases hlookup : c.propertyType property (.str text) with
    | ok found => exact ⟨found, rfl⟩
    | error f =>
      obtain ⟨t, ht, b, hb, hkey, -⟩ := propertyType_error hlookup
      rw [hkeyed t ht b hb] at hkey
      cases hkey

end

/-- A text is known by its own name only. -/
theorem widget?_str_eq_none_iff {c : Catalog} {text : String} :
    c.widget? (.str text) = none ↔ .str text ∉ c.widgetNames := by
  unfold widget? widgetNames
  rw [List.find?_eq_none, List.mem_map]
  simp only [Data.same_str_iff]
  constructor
  · rintro h ⟨t, ht, hname⟩
    exact h t ht hname
  · intro h t ht hname
    exact h ⟨t, ht, hname⟩

/-- No instruction's parameters are looked up under a text that names none. -/
theorem parameterType_of_unknown {c : Catalog} {text : String}
    (h : ∀ i ∈ c.instructions, i.name ≠ .str text) (parameter : String) :
    c.parameterType parameter (.str text) = .ok none := by
  have hnone : (c.instructions.find? fun i => i.name.same (.str text)) = none := by
    rw [List.find?_eq_none]
    intro i hi
    rw [Data.same_str_iff]
    exact h i hi
  rw [parameterType, hnone]
  rfl

/-- A text that names no widget type leads nowhere. -/
theorem not_reaches_of_unknown {c : Catalog} {text : String} (h : .str text ∉ c.widgetNames)
    {t : WidgetType} : ¬ c.Reaches (.str text) t := by
  intro ht
  have hnone := widget?_str_eq_none_iff.mpr h
  cases ht with
  | self h => simp [hnone] at h
  | base h _ _ => simp [hnone] at h

/-- Every look-up by a text that names no widget type returns, and finds nothing. -/
theorem lookups_of_unknown {c : Catalog} {text : String} (h : .str text ∉ c.widgetNames) :
    c.widgetInfo (.str text) = .ok none ∧ c.bases (.str text) = .ok [] ∧
      c.properties (.str text) = .ok [] ∧
      ∀ property, c.propertyType property (.str text) = .ok none := by
  have hinfo : c.widgetInfo (.str text) = .ok none := by
    rw [widgetInfo, widget?_str_eq_none_iff.mpr h]
    rfl
  refine ⟨hinfo, by rw [bases, hinfo]; rfl, by rw [properties, hinfo]; rfl, ?_⟩
  intro property
  have hkeyed : c.KeyedFrom (.str text) := fun t ht => absurd ht (not_reaches_of_unknown h)
  obtain ⟨found, hfound⟩ := exists_propertyType_ok_iff.mpr hkeyed property
  have hnone : found = none :=
    (propertyType_ok_iff hfound).mpr fun t ht => absurd ht (not_reaches_of_unknown h)
  rw [hfound, hnone]

/-- **Which look-ups return.**  The names of a catalogue are a list, and looking up by a text a widget
type, its bases, what it declares itself, or a parameter of an instruction always returns; a text
that names nothing finds nothing.  Every property of a text can be looked up exactly when all bases
that the text leads to can be keys.  A look-up that returns finds nothing exactly when no type that
the text reaches declares the property, and one that fails does so at a base that cannot be a key. -/
theorem lookups_return_iff (c : Catalog) (text : String) :
    ((∃ found, c.widgetInfo (.str text) = .ok found) ∧
      (∃ found, c.bases (.str text) = .ok found) ∧
      (∃ found, c.properties (.str text) = .ok found) ∧
      ∀ parameter, ∃ found, c.parameterType parameter (.str text) = .ok found) ∧
    (.str text ∉ c.widgetNames → c.widgetInfo (.str text) = .ok none ∧
      c.bases (.str text) = .ok [] ∧ c.properties (.str text) = .ok [] ∧
      ∀ property, c.propertyType property (.str text) = .ok none) ∧
    ((∀ i ∈ c.instructions, i.name ≠ .str text) →
      ∀ parameter, c.parameterType parameter (.str text) = .ok none) ∧
    ((∀ property, ∃ found, c.propertyType property (.str text) = .ok found) ↔
      c.KeyedFrom (.str text)) ∧
    ∀ property,
      (∀ found, c.propertyType property (.str text) = .ok found →
        (found = none ↔ ∀ t, c.Reaches (.str text) t → t.properties.lookup property = none)) ∧
      ∀ f, c.propertyType property (.str text) = .error f →
        ∃ t, c.Reaches (.str text) t ∧ ∃ b ∈ t.bases, b.isKey = false ∧ f = .notAKey b.typeName := by
  refine ⟨⟨?_, ?_, ?_, ?_⟩, lookups_of_unknown, parameterType_of_unknown,
    exists_propertyType_ok_iff, ?_⟩
  · exact ⟨_, rfl⟩
  · exact ⟨_, rfl⟩
  · exact ⟨_, rfl⟩
  · intro parameter
    exact ⟨_, rfl⟩
  · intro property
    exact ⟨fun found hfound => propertyType_ok_iff hfound, fun f hf => propertyType_error hf⟩

/-! ## A base that is a list -/

/-- A widget type one of whose bases is a list. -/
def nestedBases : Data :=
  .map [(.str "widgets", .map [(.str "Label", .map [(.str "bases", .list [.list [.str "Widget"]])])])]

/-- Its catalogue. -/
def nestedCatalog : Catalog where
  widgets := [⟨.str "Label", [.list [.str "Widget"]], []⟩]
  instructions := []

/-- The document has a catalogue, and a property of the type cannot be looked up in it. -/
theorem nestedBases_lookup_fails :
    ofData nestedBases = .ok nestedCatalog ∧
      nestedCatalog.propertyType "text" (.str "Label") = .error (.notAKey "list") ∧
      ¬ ∃ found, nestedCatalog.propertyType "text" (.str "Label") = .ok found := by
  have hsearch : nestedCatalog.propertyType "text" (.str "Label") = .error (.notAKey "list") := by
    rw [propertyType, search_cons]
    show nestedCatalog.search _ _ [.list [.str "Widget"]] = _
    rw [search_cons]
    rfl
  refine ⟨rfl, hsearch, ?_⟩
  rintro ⟨found, hfound⟩
  rw [hsearch] at hfound
  cases hfound

end KvMarkup.Catalog
