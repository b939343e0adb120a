import KvMarkup.Catalog.Basic

/-!
# Inherited properties

A widget type has the properties of every type that base names lead to, step by step through types
that the catalogue knows (`Reaches`).  The search for a property keeps the names it has seen and
those that are pending, and three facts about them from turn to turn (`Searching`):

* what a pending name reaches, the owner reaches;
* the owner is pending or seen;
* no type of a seen name declares the property, and its bases are pending or seen again.

When nothing is pending any more, the seen names are closed under bases, and so no type that the
owner reaches declares the property (`Searching.undeclared`).  No shape of the bases is excluded:
they may be unknown, repeated, shared or lead back.
-/

namespace KvMarkup.Catalog

/-- The types that a name stands for or inherits from: each base name on the way is known. -/
inductive Reaches (c : Catalog) : Data → WidgetType → Prop where
  | self {name : Data} {t : WidgetType} (h : c.widget? name = some t) : Reaches c name t
  | base {name b : Data} {t u : WidgetType} (h : c.widget? name = some t) (hb : b ∈ t.bases)
      (hu : Reaches c b u) : Reaches c name u

/-- Every base of a widget type can be looked up, as every text can. -/
def BasesAreKeys (c : Catalog) : Prop := ∀ t ∈ c.widgets, ∀ b ∈ t.bases, b.isKey = true

instance (c : Catalog) : Decidable c.BasesAreKeys :=
  inferInstanceAs (Decidable (∀ t ∈ c.widgets, ∀ b ∈ t.bases, b.isKey = true))

theorem Reaches.mem_widgets {c : Catalog} {name : Data} {t : WidgetType} (h : c.Reaches name t) :
    t ∈ c.widgets := by
  induction h with
  | self h => exact mem_of_widget? h
  | base _ _ _ ih => exact ih

theorem widget?_congr {c : Catalog} {a b : Data} (ha : a.isKey = true) (hb : b.isKey = true)
    (h : a.same b = true) : c.widget? a = c.widget? b := by
  have hsame : (fun t : WidgetType => t.name.same a) = fun t => t.name.same b :=
    funext fun t => Data.same_congr_right ha hb h t.name
  rw [widget?, widget?, hsame]

/-! ## The state of a search -/

/-- A name that is pending or was seen. -/
def Known (seen pending : List Data) (name : Data) : Prop :=
  name ∈ pending ∨ seen.any name.same = true

/-- What holds in every turn of a search for a property of an owner. -/
structure Searching (c : Catalog) (property : String) (owner : Data) (seen pending : List Data) :
    Prop where
  seenKeys : ∀ n ∈ seen, n.isKey = true
  pendingKeys : ∀ n ∈ pending, n.isKey = true
  sound : ∀ n ∈ pending, ∀ t, c.Reaches n t → c.Reaches owner t
  started : Known seen pending owner
  closed : ∀ n ∈ seen, ∀ t, c.widget? n = some t →
    t.properties.lookup property = none ∧ ∀ b ∈ t.bases, Known seen pending b

section
variable {c : Catalog} {property : String} {owner name : Data} {seen pending : List Data}

theorem searching_start (property : String) (h : owner.isKey = true) :
    Searching c property owner [] [owner] where
  seenKeys := by simp
  pendingKeys := by simpa using h
  sound := by simp
  started := .inl (List.mem_singleton_self owner)
  closed := by simp

theorem any_same_cons (h : seen.any name.same = true) (n : Data) :
    (n :: seen).any name.same = true := by
  rw [List.any_cons, h, Bool.or_true]

/-- A name stays known when the first pending name is passed over because it was seen. -/
theorem Known.skip {n : Data} (h : Known seen (name :: pending) n)
    (hs : seen.any name.same = true) : Known seen pending n := by
  rcases h with h | h
  · rcases List.mem_cons.mp h with rfl | h
    · exact .inr hs
    · exact .inl h
  · exact .inr h

/-- A name stays known when the first pending name moves to the seen ones and others come in. -/
theorem Known.visit {n : Data} (h : Known seen (name :: pending) n) (hk : name.isKey = true)
    (bases : List Data) : Known (name :: seen) (bases ++ pending) n := by
  rcases h with h | h
  · rcases List.mem_cons.mp h with rfl | h
    · exact .inr (by rw [List.any_cons, Data.same_self n hk, Bool.true_or])
    · exact .inl (List.mem_append_right _ h)
  · exact .inr (any_same_cons h name)

namespace Searching

variable (hi : Searching c property owner seen (name :: pending))
include hi

theorem key : name.isKey = true := hi.pendingKeys name List.mem_cons_self

theorem skip (hs : seen.any name.same = true) : Searching c property owner seen pending where
  seenKeys := hi.seenKeys
  pendingKeys n hn := hi.pendingKeys n (List.mem_cons_of_mem _ hn)
  sound n hn := hi.sound n (List.mem_cons_of_mem _ hn)
  started := hi.started.skip hs
  closed n hn t ht :=
    have ⟨hnone, hbases⟩ := hi.closed n hn t ht
    ⟨hnone, fun b hb => (hbases b hb).skip hs⟩

/-- The first pending name is seen; its bases, if the catalogue knows it, come in front of the other
pending names. -/
theorem visit (hkeys : c.BasesAreKeys) (bases : List Data)
    (hbases : ∀ b ∈ bases, ∃ t, c.widget? name = some t ∧ b ∈ t.bases)
    (hall : ∀ t, c.widget? name = some t →
      t.properties.lookup property = none ∧ ∀ b ∈ t.bases, b ∈ bases) :
    Searching c property owner (name :: seen) (bases ++ pending) where
  seenKeys n hn := by
    rcases List.mem_cons.mp hn with rfl | hn
    · exact hi.key
    · exact hi.seenKeys n hn
  pendingKeys n hn := by
    rcases List.mem_append.mp hn with hn | hn
    · obtain ⟨t, ht, hb⟩ := hbases n hn
      exact hkeys t (mem_of_widget? ht) n hb
    · exact hi.pendingKeys n (List.mem_cons_of_mem _ hn)
  sound n hn u hu := by
    rcases List.mem_append.mp hn with hn | hn
    · obtain ⟨t, ht, hb⟩ := hbases n hn
      exact hi.sound name List.mem_cons_self u (.base ht hb hu)
    · exact hi.sound n (List.mem_cons_of_mem _ hn) u hu
  started := hi.started.visit hi.key bases
  closed n hn t ht := by
    rcases List.mem_cons.mp hn with rfl | hn
    · obtain ⟨hnone, hin⟩ := hall t ht
      exact ⟨hnone, fun b hb => .inl (List.mem_append_left _ (hin b hb))⟩
    · obtain ⟨hnone, hknown⟩ := hi.closed n hn t ht
      exact ⟨hnone, fun b hb => (hknown b hb).visit hi.key bases⟩

end Searching

/-- When nothing is pending, no type that a seen name reaches declares the property. -/
theorem Searching.undeclared_of_seen (hi : Searching c property owner seen [])
    (hkeys : c.BasesAreKeys) {n : Data} {t : WidgetType} (ht : c.Reaches n t)
    (hk : n.isKey = true) (hn : seen.any n.same = true) : t.properties.lookup property = none := by
  induction ht with
  | self h =>
    obtain ⟨s, hs, hsame⟩ := List.any_eq_true.mp hn
    exact (hi.closed s hs _ (widget?_congr hk (hi.seenKeys s hs) hsame ▸ h)).1
  | base h hb _ ih =>
    obtain ⟨s, hs, hsame⟩ := List.any_eq_true.mp hn
    have hclosed := hi.closed s hs _ (widget?_congr hk (hi.seenKeys s hs) hsame ▸ h)
    rcases hclosed.2 _ hb with hmem | hseen
    · cases hmem
    · exact ih (hkeys _ (mem_of_widget? h) _ hb) hseen

/-- When nothing is pending, no type that the owner reaches declares the property. -/
theorem Searching.undeclared (hi : Searching c property owner seen []) (hkeys : c.BasesAreKeys)
    (hk : owner.isKey = true) {t : WidgetType} (ht : c.Reaches owner t) :
    t.properties.lookup property = none := by
  rcases hi.started with hmem | hseen
  · cases hmem
  · exact hi.undeclared_of_seen hkeys ht hk hseen

/-! ## The whole search -/

/-- A search ends with a type that the owner has, or with none when the owner has none. -/
theorem search_outcome (hkeys : c.BasesAreKeys) (hk : owner.isKey = true)
    (hi : Searching c property owner seen pending) :
    ∃ found, c.search property seen pending = .ok found ∧
      (found = none → ∀ t, c.Reaches owner t → t.properties.lookup property = none) ∧
      ∀ type, found = some type → ∃ t, c.Reaches owner t ∧
        t.properties.lookup property = some type := by
  fun_induction search c property seen pending with
  | case1 seen =>
    exact ⟨none, rfl, fun _ t ht => hi.undeclared hkeys hk ht, by simp⟩
  | case2 seen name pending hname hs ih =>
    exact ih (hi.skip hs)
  | case3 seen name pending hname hs hnone ih =>
    refine ih (hi.visit hkeys [] (by simp) ?_)
    intro t ht
    rw [hnone] at ht
    cases ht
  | case4 seen name pending hname hs t ht type htype =>
    refine ⟨some type, rfl, by simp, ?_⟩
    rintro _ ⟨⟩
    exact ⟨t, hi.sound name List.mem_cons_self t (.self ht), htype⟩
  | case5 seen name pending hname hs t ht hnone ih =>
    refine ih (hi.visit hkeys t.bases (fun b hb => ⟨t, ht, hb⟩) ?_)
    intro u hu
    obtain rfl := Option.some.inj (ht.symm.trans hu)
    exact ⟨hnone, fun b hb => hb⟩
  | case6 seen name pending hname =>
    exact absurd hi.key hname

/-- The type that the owner itself declares comes first. -/
theorem propertyType_of_own {t : WidgetType} {type : String} (hk : owner.isKey = true)
    (h : c.widget? owner = some t) (htype : t.properties.lookup property = some type) :
    c.propertyType property owner = .ok (some type) := by
  rw [propertyType, search, dif_pos hk, dif_neg (by simp)]
  split
  · next hnone => simp [h] at hnone
  · next u hu =>
    obtain rfl := Option.some.inj (h.symm.trans hu)
    rw [htype]

end

/-- **Property lookup is sound and complete.**  It always ends, whatever the bases look like.  It
finds nothing exactly when no type that the owner reaches declares the property; what it finds is
declared by such a type, and by the owner itself if that declares the property. -/
theorem propertyType_exact {c : Catalog} (hkeys : c.BasesAreKeys) (property : String) {owner : Data}
    (hk : owner.isKey = true) :
    ∃ found, c.propertyType property owner = .ok found ∧
      (found = none ↔ ∀ t, c.Reaches owner t → t.properties.lookup property = none) ∧
      (∀ type, found = some type →
        ∃ t, c.Reaches owner t ∧ t.properties.lookup property = some type) ∧
      ∀ t type, c.widget? owner = some t → t.properties.lookup property = some type →
        found = some type := by
  obtain ⟨found, hfound, hcomplete, hsound⟩ :=
    search_outcome hkeys hk (searching_start property hk)
  refine ⟨found, hfound, ⟨hcomplete, ?_⟩, hsound, ?_⟩
  · intro hnone
    cases found with
    | none => rfl
    | some type =>
      obtain ⟨t, ht, htype⟩ := hsound type rfl
      rw [hnone t ht] at htype
      cases htype
  · intro t type ht htype
    have hown := propertyType_of_own hk ht htype
    exact Except.ok.inj (hfound.symm.trans hown)

/-! ## Bases that lead back -/

/-- Two types that are bases of each other, one of them twice, beside an unknown base and a shared
one. -/
def looped : Catalog where
  widgets :=
    [⟨.str "Label", [.str "Mixin", .str "Label", .str "Widget", .str "Widget"], []⟩,
     ⟨.str "Widget", [.str "Label", .str "Base"], [("size", "ListProperty")]⟩,
     ⟨.str "Base", [], [("text", "StringProperty")]⟩]
  instructions := []

theorem propertyType_exact_looped :
    looped.BasesAreKeys ∧ (Data.str "Label").isKey = true ∧
      looped.propertyType "text" (.str "Label") = .ok (some "StringProperty") := by
  have hkeys : looped.BasesAreKeys := by decide
  have hk : (Data.str "Label").isKey = true := rfl
  obtain ⟨found, hfound, hnone, hsound, -⟩ := propertyType_exact hkeys "text" hk
  refine ⟨hkeys, hk, ?_⟩
  have hreached : looped.Reaches (.str "Label") ⟨.str "Base", [], [("text", "StringProperty")]⟩ :=
    .base rfl (b := .str "Widget") (by simp) (.base rfl (b := .str "Base") (by simp) (.self rfl))
  cases found with
  | none => cases hnone.mp rfl _ hreached
  | some type =>
    -- no other type of the catalogue declares the property
    obtain ⟨t, ht, htype⟩ := hsound type rfl
    have hmem := ht.mem_widgets
    simp only [looped, List.mem_cons, List.not_mem_nil, or_false] at hmem
    obtain rfl | rfl | rfl := hmem
    · simp at htype
    · simp at htype
    · obtain rfl : "StringProperty" = type := by simpa using htype
      exact hfound

end KvMarkup.Catalog
