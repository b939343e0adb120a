import Mathlib.Data.Set.Card
import Mathlib.Logic.Relation
import KvMarkup.Proofs.Catalog.Inheritance

/-!
# Property lookup as a plain recursion

Where no widget type is among its own ancestors (`Acyclic`), a property can be resolved without any
record of the names seen (`resolve`): the type's own declaration, or else the first answer among its
bases, in declared order.  The search with its seen and pending names comes to the same answer:

    c.Acyclic → c.propertyType property owner = c.resolve property owner   (propertyType_eq_resolve)

A name that is skipped because it was seen is one of two kinds.  Its search came to nothing, and then
the recursion finds nothing there either (`Barren`); or its bases are still being searched, and then
a type would be among its own ancestors.  So what is carried along is that every seen name is barren
or leads to all of the names that come next (`Settled`); the search of these comes to the answer of
the recursion, and leaves further seen names behind that are barren (`ComesTo`).
-/

namespace KvMarkup.Catalog

open Relation

/-! ## Answers in turn -/

/-- What a look-up comes to. -/
abbrev Answer := Except Fault (Option String)

/-- The first answer, or the next one where the first finds nothing. -/
def Answer.orNext : Answer → Answer → Answer
  | .ok none, next => next
  | answer, _ => answer

/-- The first of some answers that finds something or fails. -/
def Answer.first (answers : List Answer) : Answer := answers.foldr Answer.orNext (.ok none)

namespace Answer

@[simp]
theorem orNext_none (next : Answer) : orNext (.ok none) next = next := rfl

theorem orNext_of_ne {a : Answer} (h : a ≠ .ok none) (next : Answer) : orNext a next = a := by
  match a with
  | .ok none => exact absurd rfl h
  | .ok (some _) => rfl
  | .error _ => rfl

theorem orNext_nothing (a : Answer) : orNext a (.ok none) = a := by
  by_cases h : a = .ok none
  · rw [h, orNext_none]
  · exact orNext_of_ne h _

theorem orNext_assoc (a b c : Answer) : orNext (orNext a b) c = orNext a (orNext b c) := by
  by_cases h : a = .ok none
  · rw [h, orNext_none, orNext_none]
  · rw [orNext_of_ne h, orNext_of_ne h, orNext_of_ne h]

theorem first_cons (a : Answer) (answers : List Answer) :
    first (a :: answers) = orNext a (first answers) := rfl

end Answer

/-! ## Types that are not among their own ancestors -/

theorem widgetInfo_eq_some_iff {c : Catalog} {name : Data} {t : WidgetType} :
    c.widgetInfo name = .ok (some t) ↔ name.isKey = true ∧ c.widget? name = some t := by
  unfold widgetInfo
  split <;> simp [*]

theorem widgetInfo_congr {c : Catalog} {a b : Data} (ha : a.isKey = true) (hb : b.isKey = true)
    (h : a.same b = true) : c.widgetInfo a = c.widgetInfo b := by
  rw [widgetInfo, widgetInfo, if_pos ha, if_pos hb, widget?_congr ha hb h]

/-- The name `b` is a base of the type that the name `a` stands for. -/
def Derives (c : Catalog) (a b : Data) : Prop :=
  ∃ t, c.widgetInfo a = .ok (some t) ∧ b ∈ t.bases

/-- No widget type is among its own ancestors: no name leads, base by base, to a name of the same
type. -/
def Acyclic (c : Catalog) : Prop :=
  ∀ a b, TransGen c.Derives a b → ∀ t, c.widgetInfo a = .ok (some t) →
    c.widgetInfo b ≠ .ok (some t)

/-- A name does not equal one that leads to it. -/
theorem Acyclic.same_eq_false {c : Catalog} (hc : c.Acyclic) {s n : Data}
    (hpath : TransGen c.Derives s n) (hn : n.isKey = true) : n.same s = false := by
  obtain ⟨m, ⟨t, ht, -⟩, -⟩ := TransGen.head'_iff.mp hpath
  rw [Bool.eq_false_iff]
  intro hsame
  have hs := (widgetInfo_eq_some_iff.mp ht).1
  exact hc s n hpath t ht ((widgetInfo_congr hn hs hsame).trans ht)

/-- The types that a name stands for or inherits from. -/
def lineage (c : Catalog) (name : Data) : Set WidgetType :=
  {t | ∃ n, ReflTransGen c.Derives name n ∧ c.widgetInfo n = .ok (some t)}

theorem lineage_finite (c : Catalog) (name : Data) : (c.lineage name).Finite := by
  refine (List.finite_toSet c.widgets).subset ?_
  rintro t ⟨n, -, ht⟩
  exact mem_of_widget? (widgetInfo_eq_some_iff.mp ht).2

/-- A base has fewer types in its lineage than a type that is derived from it. -/
theorem Acyclic.lineage_lt {c : Catalog} (hc : c.Acyclic) {a b : Data} (h : c.Derives a b) :
    (c.lineage b).ncard < (c.lineage a).ncard := by
  obtain ⟨t, ht, hb⟩ := h
  refine Set.ncard_lt_ncard ⟨?_, ?_⟩ (c.lineage_finite a)
  · rintro u ⟨n, hn, hu⟩
    exact ⟨n, .head ⟨t, ht, hb⟩ hn, hu⟩
  · intro hsub
    obtain ⟨n, hn, hself⟩ := hsub ⟨a, .refl, ht⟩
    exact hc a n (.head' ⟨t, ht, hb⟩ hn) t ht hself

/-- Types that can be numbered so that every base comes before what is derived from it are not among
their own ancestors. -/
theorem acyclic_of_rank {c : Catalog} (rank : WidgetType → Nat)
    (h : ∀ t ∈ c.widgets, ∀ b ∈ t.bases, ∀ u ∈ c.widget? b, rank u < rank t) : c.Acyclic := by
  have hlt : ∀ a b, TransGen c.Derives a b → ∀ t u, c.widgetInfo a = .ok (some t) →
      c.widgetInfo b = .ok (some u) → rank u < rank t := by
    intro a b hab
    induction hab with
    | single hb =>
      intro t u ht hu
      obtain ⟨t', ht', hmem⟩ := hb
      obtain rfl : t = t' := by simpa [ht] using ht'
      exact h t (mem_of_widget? (widgetInfo_eq_some_iff.mp ht).2) _ hmem u
        (widgetInfo_eq_some_iff.mp hu).2
    | tail _ hb ih =>
      intro t u ht hu
      obtain ⟨v, hv, hmem⟩ := hb
      have hstep := h v (mem_of_widget? (widgetInfo_eq_some_iff.mp hv).2) _ hmem u
        (widgetInfo_eq_some_iff.mp hu).2
      exact hstep.trans (ih t v ht hv)
  intro a b hab t ht hself
  exact absurd (hlt a b hab t t ht hself) (Nat.lt_irrefl _)

/-! ## The plain recursion -/

/-- The type of a property by recursion over the bases: the type's own declaration, or else the first
answer of its bases, in declared order, and none for an unknown type.  A name that cannot be a key is
a fault. -/
def resolve (c : Catalog) (hc : c.Acyclic) (property : String) (name : Data) : Answer :=
  match _h : c.widgetInfo name with
  | .error fault => .error fault
  | .ok none => .ok none
  | .ok (some t) =>
    match t.properties.lookup property with
    | some type => .ok (some type)
    | none => .first (t.bases.attach.map fun b => c.resolve hc property b.1)
termination_by (c.lineage name).ncard
decreasing_by exact hc.lineage_lt ⟨t, _h, b.2⟩

section
variable {c : Catalog} {hc : c.Acyclic} {property : String} {name : Data}

theorem resolve_eq : c.resolve hc property name =
    match c.widgetInfo name with
    | .error fault => .error fault
    | .ok none => .ok none
    | .ok (some t) =>
      match t.properties.lookup property with
      | some type => .ok (some type)
      | none => .first (t.bases.map (c.resolve hc property)) := by
  rw [resolve]
  split
  · next h => rw [h]
  · next h => rw [h]
  · next h => simp only [h, List.map_attach_eq_pmap, List.pmap_eq_map]

theorem resolve_congr {a b : Data} (ha : a.isKey = true) (hb : b.isKey = true)
    (h : a.same b = true) : c.resolve hc property a = c.resolve hc property b := by
  rw [resolve_eq, resolve_eq, widgetInfo_congr ha hb h]

/-- Nothing is found at the name of an unknown type. -/
theorem resolve_of_unknown (hk : name.isKey = true) (hw : c.widget? name = none) :
    c.resolve hc property name = .ok none := by
  rw [resolve_eq, widgetInfo, if_pos hk, hw]

section
variable {t : WidgetType} (ht : c.widgetInfo name = .ok (some t))
include ht

/-- The declaration of the type itself wins. -/
theorem resolve_of_own {type : String} (hown : t.properties.lookup property = some type) :
    c.resolve hc property name = .ok (some type) := by
  simp only [resolve_eq, ht, hown]

/-- A type without a declaration of its own leaves the answer to its bases. -/
theorem resolve_of_inherited (hown : t.properties.lookup property = none) :
    c.resolve hc property name = .first (t.bases.map (c.resolve hc property)) := by
  simp only [resolve_eq, ht, hown]

end

/-- One turn of the search. -/
theorem search_cons (seen pending : List Data) :
    c.search property seen (name :: pending) =
      if name.isKey = true then
        if seen.any name.same = true then c.search property seen pending
        else
          match c.widget? name with
          | none => c.search property (name :: seen) pending
          | some t =>
            match t.properties.lookup property with
            | some type => .ok (some type)
            | none => c.search property (name :: seen) (t.bases ++ pending)
      else .error (.notAKey name.typeName) := by
  rw [search]
  simp only [dite_eq_ite]
  split
  · split
    · rfl
    · split
      · next h => simp only [h]
      · next t h => cases hown : t.properties.lookup property <;> simp only [h, hown]
  · rfl

/-! ## The search along the recursion -/

/-- The recursion finds nothing at a name. -/
def Barren (hc : c.Acyclic) (property : String) (s : Data) : Prop :=
  c.resolve hc property s = .ok none

/-- Only a name that can be a key is barren; any other one is a fault. -/
theorem Barren.isKey {s : Data} (h : Barren hc property s) : s.isKey = true := by
  by_contra hk
  rw [Barren, resolve_eq, widgetInfo, if_neg hk] at h
  cases h

/-- A seen name is barren or leads to all of the names that come next. -/
def Settled (hc : c.Acyclic) (property : String) (names : List Data) (s : Data) : Prop :=
  Barren hc property s ∨ ∀ n ∈ names, TransGen c.Derives s n

theorem Settled.mono {names more : List Data} {s : Data} (h : Settled hc property more s)
    (hsub : names ⊆ more) : Settled hc property names s :=
  h.imp_right fun hpath n hn => hpath n (hsub hn)

/-- What a search that began with the names `seen` has come to: it stops with the answer, or, where
that is nothing, goes on with the pending names, and all further seen names are barren. -/
def ComesTo (hc : c.Acyclic) (property : String) (seen pending : List Data)
    (run answer : Answer) : Prop :=
  ∃ seen', (∀ s ∈ seen', s ∈ seen ∨ Barren hc property s) ∧
    run = answer.orNext (c.search property seen' pending)

section
variable {seen pending : List Data}

/-- A search that found something or failed is over. -/
theorem comesTo_of_ne {answer : Answer} (h : answer ≠ .ok none) :
    ComesTo hc property seen pending answer answer :=
  ⟨seen, fun _ hs => .inl hs, (Answer.orNext_of_ne h _).symm⟩

/-- A barren name was visited or skipped. -/
theorem Barren.comesTo (h : Barren hc property name) :
    ComesTo hc property seen pending (c.search property (name :: seen) pending) (.ok none) ∧
      ComesTo hc property seen pending (c.search property seen pending) (.ok none) := by
  refine ⟨⟨name :: seen, fun s hs => ?_, rfl⟩, ⟨seen, fun _ hs => .inl hs, rfl⟩⟩
  rcases List.mem_cons.mp hs with rfl | hs
  · exact .inr h
  · exact .inl hs

/-- What was found below a name that was just visited is found at the name. -/
theorem ComesTo.of_visited {run : Answer}
    (h : ComesTo hc property (name :: seen) pending run (c.resolve hc property name)) :
    ComesTo hc property seen pending run (c.resolve hc property name) := by
  obtain ⟨seen', hseen', hrun⟩ := h
  by_cases hbarren : c.resolve hc property name = .ok none
  · refine ⟨seen', fun s hs => ?_, hrun⟩
    rcases hseen' s hs with hs | hs
    · rcases List.mem_cons.mp hs with rfl | hs
      · exact .inr hbarren
      · exact .inl hs
    · exact .inr hs
  · rw [Answer.orNext_of_ne hbarren] at hrun
    rw [hrun]
    exact comesTo_of_ne hbarren

end

/-- From any state in which the seen names are settled, the search of the names in front comes to the
answer. -/
def Follows (hc : c.Acyclic) (property : String) (names : List Data) (answer : Answer) : Prop :=
  ∀ seen pending, (∀ s ∈ seen, Settled hc property names s) →
    ComesTo hc property seen pending (c.search property seen (names ++ pending)) answer

/-- Names are searched one after the other. -/
theorem follows_names {names : List Data}
    (h : ∀ n ∈ names, Follows hc property [n] (c.resolve hc property n)) :
    Follows hc property names (.first (names.map (c.resolve hc property))) := by
  induction names with
  | nil => exact fun seen pending _ => ⟨seen, fun s hs => .inl hs, rfl⟩
  | cons n names ih =>
    intro seen pending hseen
    obtain ⟨seen₁, hseen₁, hfirst⟩ := h n List.mem_cons_self seen (names ++ pending)
      fun s hs => (hseen s hs).mono (by simp)
    have hrest : ∀ s ∈ seen₁, Settled hc property names s := by
      intro s hs
      rcases hseen₁ s hs with hs | hbarren
      · exact (hseen s hs).mono (List.subset_cons_self n names)
      · exact .inl hbarren
    obtain ⟨seen₂, hseen₂, hnext⟩ :=
      ih (fun m hm => h m (List.mem_cons_of_mem _ hm)) seen₁ pending hrest
    refine ⟨seen₂, fun s hs => ?_, ?_⟩
    · rcases hseen₂ s hs with hs | hbarren
      · exact hseen₁ s hs
      · exact .inr hbarren
    · rw [List.map_cons, Answer.first_cons, Answer.orNext_assoc, ← hnext]
      exact hfirst

/-- A name that was seen is skipped, and the recursion finds nothing there. -/
theorem barren_of_seen {seen : List Data} (hseen : ∀ s ∈ seen, Settled hc property [name] s)
    (hk : name.isKey = true) (hs : seen.any name.same = true) : Barren hc property name := by
  obtain ⟨s, hmem, hsame⟩ := List.any_eq_true.mp hs
  rcases hseen s hmem with hbarren | hpath
  · rw [Barren, resolve_congr hk hbarren.isKey hsame]
    exact hbarren
  · rw [hc.same_eq_false (hpath name (List.mem_singleton_self name)) hk] at hsame
    cases hsame

/-- The seen names are settled for the bases of the name that is visited next. -/
theorem settled_bases {seen : List Data} (hseen : ∀ s ∈ seen, Settled hc property [name] s)
    {t : WidgetType} (ht : c.widgetInfo name = .ok (some t)) :
    ∀ s ∈ name :: seen, Settled hc property t.bases s := by
  intro s hs
  rcases List.mem_cons.mp hs with rfl | hs
  · exact .inr fun b hb => .single ⟨t, ht, hb⟩
  · refine (hseen s hs).imp_right fun hpath b hb => ?_
    exact (hpath name (List.mem_singleton_self name)).tail ⟨t, ht, hb⟩

/-- The search of a name comes to the answer of the recursion.  The induction is on the lineage of the
name, since the search goes on with its bases. -/
theorem follows_name (hc : c.Acyclic) (property : String) (name : Data) :
    Follows hc property [name] (c.resolve hc property name) := by
  intro seen pending hseen
  rw [List.singleton_append, search_cons]
  by_cases hk : name.isKey = true
  · rw [if_pos hk]
    by_cases hs : seen.any name.same = true
    · have hbarren := barren_of_seen hseen hk hs
      rw [if_pos hs, show c.resolve hc property name = .ok none from hbarren]
      exact hbarren.comesTo.2
    · rw [if_neg hs]
      cases hw : c.widget? name with
      | none =>
        have hbarren : Barren hc property name := resolve_of_unknown hk hw
        rw [resolve_of_unknown hk hw]
        exact hbarren.comesTo.1
      | some t =>
        have ht : c.widgetInfo name = .ok (some t) := widgetInfo_eq_some_iff.mpr ⟨hk, hw⟩
        cases hown : t.properties.lookup property with
        | some type =>
          simp only [hown, resolve_of_own ht hown]
          exact comesTo_of_ne (by simp)
        | none =>
          -- the bases go in front of what is pending, and the name itself counts as seen
          have hrun := follows_names (fun b hb => follows_name hc property b) (name :: seen) pending
            (settled_bases hseen ht)
          simp only [hown]
          rw [← resolve_of_inherited ht hown] at hrun
          exact hrun.of_visited
  · rw [if_neg hk, resolve_eq, widgetInfo, if_neg hk]
    exact comesTo_of_ne (by simp)
termination_by (c.lineage name).ncard
decreasing_by exact hc.lineage_lt ⟨t, ht, hb⟩

end

/-- **The search needs no record of what it has seen.**  Where no widget type is among its own
ancestors, looking a property up with seen and pending names comes to what plain recursion over the
bases comes to, for every name and every property; also where it fails.  However often types share
an ancestor, a name that is skipped never decides which declaration wins. -/
theorem propertyType_eq_resolve {c : Catalog} (hc : c.Acyclic) (property : String) (owner : Data) :
    c.propertyType property owner = c.resolve hc property owner := by
  obtain ⟨seen', -, hsearch⟩ := follows_name hc property owner [] [] (by simp)
  have hnone : c.search property seen' [] = .ok none := by rw [search]
  rw [hnone, Answer.orNext_nothing] at hsearch
  exact hsearch

/-! ## A shared ancestor -/

/-- A type whose first two bases share an ancestor.  Behind that ancestor, the second base leads to a
declaration of `size`, ahead of the one of the third base. -/
def diamond : Catalog where
  widgets :=
    [⟨.str "Widget", [], [("text", "StringProperty")]⟩,
     ⟨.str "Layout", [], [("size", "ListProperty")]⟩,
     ⟨.str "Image", [], [("size", "AliasProperty")]⟩,
     ⟨.str "Behavior", [.str "Widget", .str "Unknown"], []⟩,
     ⟨.str "Label", [.str "Widget", .str "Layout"], []⟩,
     ⟨.str "Button", [.str "Behavior", .str "Label", .str "Image"], []⟩]
  instructions := []

theorem acyclic_diamond : diamond.Acyclic :=
  acyclic_of_rank (fun t => diamond.widgets.findIdx (·.name.same t.name)) (by decide)

/-- The shared ancestor is skipped the second time, and the base behind it is still found. -/
theorem propertyType_eq_resolve_diamond :
    diamond.Acyclic ∧
      diamond.propertyType "size" (.str "Button") = .ok (some "ListProperty") := by
  refine ⟨acyclic_diamond, ?_⟩
  rw [propertyType_eq_resolve acyclic_diamond]
  have hwidget : diamond.resolve acyclic_diamond "size" (.str "Widget") = .ok none := by
    rw [resolve_eq]
    rfl
  have hunknown : diamond.resolve acyclic_diamond "size" (.str "Unknown") = .ok none := by
    rw [resolve_eq]
    rfl
  have hlayout : diamond.resolve acyclic_diamond "size" (.str "Layout") =
      .ok (some "ListProperty") := by
    rw [resolve_eq]
    rfl
  have hbehavior : diamond.resolve acyclic_diamond "size" (.str "Behavior") = .ok none := by
    rw [resolve_eq]
    show Answer.first ([_, _].map (diamond.resolve acyclic_diamond "size")) = _
    rw [List.map_cons, hwidget, List.map_cons, hunknown]
    rfl
  have hlabel : diamond.resolve acyclic_diamond "size" (.str "Label") =
      .ok (some "ListProperty") := by
    rw [resolve_eq]
    show Answer.first ([_, _].map (diamond.resolve acyclic_diamond "size")) = _
    rw [List.map_cons, hwidget, List.map_cons, hlayout]
    rfl
  rw [resolve_eq]
  show Answer.first ([_, _, _].map (diamond.resolve acyclic_diamond "size")) = _
  rw [List.map_cons, hbehavior, List.map_cons, hlabel]
  rfl

end KvMarkup.Catalog
