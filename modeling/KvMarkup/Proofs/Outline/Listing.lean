import Mathlib.Data.List.Forall2
import Mathlib.Data.List.Induction
import KvMarkup.Outline.Reading
import KvMarkup.Proofs.Outline.Position
import KvMarkup.Text.Lines

/-!
# Listings in depth-first order

Positions are compared index by index, and one that continues another comes after it, as in a
depth-first walk.  So a result lists the values that a relation gives to positions, in depth-first
order, when it has one value for each such position and the positions increase (`Lists`).

Many results come from a walk.  Some nodes are skipped with all that is below them, and every other
node has what `f` finds at it, if anything, in front of what its children have:

    F n = if skips n then [] else (f n).toList ++ n.children.flatMap F

The values of `F` below the trees of an outline list what `f` finds at the positions below the trees
that no skipped node is at or above (`lists_below`).
-/

namespace KvMarkup.Outline

open KvMarkup.Text

/-! ## Listings -/

section
variable {α β : Type} {R S : List Nat → α → Prop} {out : List α}

/-- The values that a relation gives to positions, in depth-first order: one for each position that
has any. -/
def Lists (R : List Nat → α → Prop) (out : List α) : Prop :=
  ∃ ps : List (List Nat), ps.Pairwise (· < ·) ∧ (∀ p, p ∈ ps ↔ ∃ a, R p a) ∧
    List.Forall₂ R ps out

theorem lists_nil (h : ∀ p a, ¬ R p a) : Lists R [] := by
  refine ⟨[], List.Pairwise.nil, ?_, .nil⟩
  intro p
  simp [h p]

/-- At most one position has a value. -/
theorem lists_toList {value? : Option α} (h : ∀ p a, R p a ↔ p = [] ∧ value? = some a) :
    Lists R value?.toList := by
  cases value? with
  | none => exact lists_nil fun p a => by simp [h]
  | some a =>
    refine ⟨[[]], List.pairwise_singleton _ _, ?_, .cons ((h [] a).mpr ⟨rfl, rfl⟩) .nil⟩
    intro p
    simp [h]

theorem Lists.congr (hl : Lists R out) (h : ∀ p a, R p a ↔ S p a) : Lists S out := by
  have hRS : R = S := funext fun p => funext fun a => propext (h p a)
  exact hRS ▸ hl

/-- Every value that is listed belongs to a position. -/
theorem Lists.exists_position (hl : Lists R out) {a : α} (ha : a ∈ out) : ∃ p, R p a := by
  obtain ⟨ps, -, -, hrel⟩ := hl
  obtain ⟨i, hi, rfl⟩ := List.getElem_of_mem ha
  rw [List.forall₂_iff_get] at hrel
  exact ⟨_, hrel.2 i (hrel.1 ▸ hi) hi⟩

/-- A listing and then another one, all of whose positions come later. -/
theorem Lists.append {out' : List α} (h : Lists R out) (h' : Lists S out')
    (hlt : ∀ p q a b, R p a → S q b → p < q) :
    Lists (fun p a => R p a ∨ S p a) (out ++ out') := by
  obtain ⟨ps, hsorted, hmem, hrel⟩ := h
  obtain ⟨qs, hsorted', hmem', hrel'⟩ := h'
  refine ⟨ps ++ qs, ?_, ?_, List.rel_append (hrel.imp fun _ _ => .inl) (hrel'.imp fun _ _ => .inr)⟩
  · rw [List.pairwise_append]
    refine ⟨hsorted, hsorted', ?_⟩
    intro p hp q hq
    obtain ⟨a, ha⟩ := (hmem p).mp hp
    obtain ⟨b, hb⟩ := (hmem' q).mp hq
    exact hlt p q a b ha hb
  · intro p
    rw [List.mem_append, hmem, hmem', exists_or]

/-- What is listed from a node on is listed from its parent on, behind the node's number. -/
theorem Lists.cons (h : Lists R out) (i : Nat) :
    Lists (fun p a => ∃ r, p = i :: r ∧ R r a) out := by
  obtain ⟨ps, hsorted, hmem, hrel⟩ := h
  refine ⟨ps.map (i :: ·), ?_, ?_, ?_⟩
  · rw [List.pairwise_map]
    exact hsorted.imp fun hlt => List.cons_lt_cons_iff.mpr (.inr ⟨rfl, hlt⟩)
  · intro p
    rw [List.mem_map]
    constructor
    · rintro ⟨r, hr, rfl⟩
      obtain ⟨a, ha⟩ := (hmem r).mp hr
      exact ⟨a, r, rfl, ha⟩
    · rintro ⟨a, r, rfl, ha⟩
      exact ⟨r, (hmem r).mpr ⟨a, ha⟩, rfl⟩
  · rw [List.forall₂_map_left_iff]
    exact hrel.imp fun r a ha => ⟨r, rfl, ha⟩

/-- The listings from some nodes on, one after another. -/
theorem lists_flatMap {F : β → List α} {R : β → List Nat → α → Prop} (ns : List β)
    (h : ∀ n ∈ ns, Lists (R n) (F n)) :
    Lists (fun p a => ∃ i r n, p = i :: r ∧ ns[i]? = some n ∧ R n r a) (ns.flatMap F) := by
  -- the last node comes off first, since its number is how many others there are
  induction ns using List.reverseRecOn with
  | nil => exact lists_nil fun p a => by simp
  | append_singleton ns last ih =>
    have hinit := ih fun n hn => h n (List.mem_append_left _ hn)
    have hlast := (h last (by simp)).cons ns.length
    rw [List.flatMap_append, List.flatMap_singleton]
    refine (hinit.append hlast ?_).congr ?_
    · rintro p q a b ⟨i, r, n, rfl, hn, -⟩ ⟨r', rfl, -⟩
      have hi := (List.getElem?_eq_some_iff.mp hn).1
      exact List.cons_lt_cons_iff.mpr (.inl hi)
    · intro p a
      constructor
      · rintro (⟨i, r, n, hp, hn, hr⟩ | ⟨r, hp, hr⟩)
        · have hi := (List.getElem?_eq_some_iff.mp hn).1
          exact ⟨i, r, n, hp, by rw [List.getElem?_append_left hi, hn], hr⟩
        · exact ⟨ns.length, r, last, hp, List.getElem?_concat_length, hr⟩
      · rintro ⟨i, r, n, hp, hn, hr⟩
        rw [List.getElem?_append] at hn
        split at hn
        · exact .inl ⟨i, r, n, hp, hn, hr⟩
        · next hi =>
          rw [List.getElem?_singleton] at hn
          split at hn
          · next hzero =>
            obtain rfl : i = ns.length := by omega
            obtain rfl := Option.some.inj hn
            exact .inr ⟨r, hp, hr⟩
          · cases hn

end

/-! ## Walks that skip nodes -/

namespace Node

variable {ν ℓ α : Type} {skips : Node ν ℓ → Bool} {f : Node ν ℓ → Option α} {F : Node ν ℓ → List α}

/-- The node `x` stands at a position below `n`, and no node from `n` to it is skipped. -/
structure Met (skips : Node ν ℓ → Bool) (n : Node ν ℓ) (p : List Nat) (x : Node ν ℓ) : Prop where
  at_position : n.descend? p = some x
  not_skipped : ∀ q y, q <+: p → n.descend? q = some y → skips y = false

theorem met_nil {n x : Node ν ℓ} : Met skips n [] x ↔ x = n ∧ skips n = false := by
  constructor
  · rintro ⟨hx, hskips⟩
    exact ⟨(Option.some.inj hx).symm, hskips [] n List.nil_prefix rfl⟩
  · rintro ⟨rfl, hskips⟩
    refine ⟨rfl, ?_⟩
    intro q y hq hy
    obtain rfl := List.prefix_nil.mp hq
    obtain rfl := Option.some.inj hy
    exact hskips

theorem met_cons {n x : Node ν ℓ} {i : Nat} {p : List Nat} :
    Met skips n (i :: p) x ↔
      skips n = false ∧ ∃ c, n.children[i]? = some c ∧ Met skips c p x := by
  constructor
  · rintro ⟨hx, hskips⟩
    obtain ⟨c, hc, hx⟩ := descend?_cons_eq_some.mp hx
    refine ⟨hskips [] n List.nil_prefix rfl, c, hc, hx, ?_⟩
    intro q y hq hy
    have hqi : i :: q <+: i :: p := List.cons_prefix_cons.mpr ⟨rfl, hq⟩
    exact hskips (i :: q) y hqi (descend?_cons_eq_some.mpr ⟨c, hc, hy⟩)
  · rintro ⟨hn, c, hc, hx, hskips⟩
    refine ⟨descend?_cons_eq_some.mpr ⟨c, hc, hx⟩, ?_⟩
    intro q y hq hy
    cases q with
    | nil =>
      obtain rfl := Option.some.inj hy
      exact hn
    | cons j q =>
      obtain ⟨rfl, hqp⟩ := List.cons_prefix_cons.mp hq
      obtain ⟨d, hd, hy⟩ := descend?_cons_eq_some.mp hy
      obtain rfl := Option.some.inj (hc.symm.trans hd)
      exact hskips q y hqp hy

/-- A walk from a node on lists what it finds at the nodes that it meets. -/
theorem lists_walk (hF : ∀ n, F n = if skips n then [] else (f n).toList ++ n.children.flatMap F)
    (n : Node ν ℓ) : Lists (fun p a => ∃ x, Met skips n p x ∧ f x = some a) (F n) := by
  induction n using Node.induction with
  | step n ih =>
    rw [hF]
    cases hn : skips n with
    | true =>
      apply lists_nil
      rintro (_ | ⟨i, p⟩) a ⟨x, hx, -⟩
      · simp [met_nil, hn] at hx
      · simp [met_cons, hn] at hx
    | false =>
      rw [if_neg Bool.false_ne_true]
      have hown : Lists (fun p a => p = [] ∧ f n = some a) (f n).toList :=
        lists_toList fun p a => Iff.rfl
      refine (hown.append (lists_flatMap n.children ih) ?_).congr ?_
      · rintro p q a b ⟨rfl, -⟩ ⟨i, r, c, rfl, -⟩
        exact List.nil_lt_cons i r
      · intro p a
        cases p with
        | nil => simp [met_nil, hn]
        | cons i p =>
          constructor
          · rintro (⟨hp, -⟩ | ⟨_, _, c, hp, hc, x, hx, ha⟩)
            · cases hp
            · obtain ⟨rfl, rfl⟩ := List.cons.inj hp
              exact ⟨x, met_cons.mpr ⟨hn, c, hc, hx⟩, ha⟩
          · rintro ⟨x, hx, ha⟩
            obtain ⟨-, c, hc, hx⟩ := met_cons.mp hx
            exact .inr ⟨i, p, c, rfl, hc, x, hx, ha⟩

/-- The node `x` stands at a position below the trees of an outline, and neither it nor a node
above it that is below the tree is skipped. -/
structure Below (skips : Node ν ℓ → Bool) (trees : List (Node ν ℓ)) (p : List Nat)
    (x : Node ν ℓ) : Prop where
  at_position : locate? trees p = some x
  below_tree : 2 ≤ p.length
  not_skipped : ∀ q y, q <+: p → 2 ≤ q.length → locate? trees q = some y → skips y = false

theorem below_iff {trees : List (Node ν ℓ)} {p : List Nat} {x : Node ν ℓ} :
    Below skips trees p x ↔ ∃ i r t, p = i :: r ∧ trees[i]? = some t ∧
      ∃ j s c, r = j :: s ∧ t.children[j]? = some c ∧ Met skips c s x := by
  constructor
  · rintro ⟨hx, hlen, hskips⟩
    obtain _ | ⟨i, _ | ⟨j, s⟩⟩ := p
    · cases hx
    · simp at hlen
    obtain ⟨t, ht, hx⟩ := locate?_cons_eq_some.mp hx
    obtain ⟨c, hc, hx⟩ := descend?_cons_eq_some.mp hx
    refine ⟨i, j :: s, t, rfl, ht, j, s, c, rfl, hc, hx, ?_⟩
    intro q y hq hy
    have hqp : i :: j :: q <+: i :: j :: s := by simpa using hq
    refine hskips _ y hqp (by simp) (locate?_cons_eq_some.mpr ⟨t, ht, ?_⟩)
    exact descend?_cons_eq_some.mpr ⟨c, hc, hy⟩
  · rintro ⟨i, _, t, rfl, ht, j, s, c, rfl, hc, hx, hskips⟩
    refine ⟨locate?_cons_eq_some.mpr ⟨t, ht, descend?_cons_eq_some.mpr ⟨c, hc, hx⟩⟩, by simp, ?_⟩
    intro q y hq hlen hy
    obtain _ | ⟨i', _ | ⟨j', q⟩⟩ := q
    · cases hy
    · simp at hlen
    simp only [List.cons_prefix_cons] at hq
    obtain ⟨rfl, rfl, hqs⟩ := hq
    obtain ⟨t', ht', hy⟩ := locate?_cons_eq_some.mp hy
    obtain rfl := Option.some.inj (ht.symm.trans ht')
    obtain ⟨c', hc', hy⟩ := descend?_cons_eq_some.mp hy
    obtain rfl := Option.some.inj (hc.symm.trans hc')
    exact hskips q y hqs hy

/-- **A walk below the trees of an outline is a listing.**  It lists what it finds at the nodes that
are below a tree and not in a part that is skipped, each at its position. -/
theorem lists_below (hF : ∀ n, F n = if skips n then [] else (f n).toList ++ n.children.flatMap F)
    (trees : List (Node ν ℓ)) :
    Lists (fun p a => ∃ x, Below skips trees p x ∧ f x = some a)
      (trees.flatMap fun t => t.children.flatMap F) := by
  have hchildren : ∀ t ∈ trees, Lists _ (t.children.flatMap F) := fun t _ =>
    lists_flatMap t.children fun c _ => lists_walk hF c
  refine (lists_flatMap trees hchildren).congr ?_
  intro p a
  constructor
  · rintro ⟨i, r, t, hp, ht, j, s, c, hr, hc, x, hx, ha⟩
    exact ⟨x, below_iff.mpr ⟨i, r, t, hp, ht, j, s, c, hr, hc, hx⟩, ha⟩
  · rintro ⟨x, hx, ha⟩
    obtain ⟨i, r, t, hp, ht, j, s, c, hr, hc, hx⟩ := below_iff.mp hx
    exact ⟨i, r, t, hp, ht, j, s, c, hr, hc, x, hx, ha⟩

/-! ## Lines -/

/-- The text has the line that a node stands on, and `l` is that line. -/
def StandsOn (n : Node ν Int) (text : String) (l : Line) : Prop :=
  1 ≤ n.line ∧ (lines text)[(n.line - 1).toNat]? = some l

end Node

/-! ## Unchecked outlines -/

theorem children_ofTyped (n : Node String Int) :
    (ofTyped n).children = Node.mapAll .str .int n.children := by
  cases n
  rfl

/-- What is read off the nodes below well-typed trees comes to what is below the trees, if it does so
for any well-typed nodes. -/
theorem read_below_ofTyped {β γ : Type} {read : List UncheckedNode → Except Fault β}
    {g : β → List γ} {k : List (Node String Int) → List γ}
    (h : ∀ ns, ∃ b, read (Node.mapAll .str .int ns) = .ok b ∧ g b = k ns)
    (trees : List (Node String Int)) :
    ∃ bs, (trees.map ofTyped).mapM (fun t => read t.children) = .ok bs ∧
      bs.flatMap g = trees.flatMap fun t => k t.children := by
  induction trees with
  | nil => exact ⟨[], rfl, rfl⟩
  | cons t ts ih =>
    obtain ⟨b, hb, hg⟩ := h t.children
    obtain ⟨bs, hbs, hgs⟩ := ih
    refine ⟨b :: bs, ?_, ?_⟩
    · rw [List.map_cons, List.mapM_cons, hbs, children_ofTyped, hb]
      rfl
    · rw [List.flatMap_cons, List.flatMap_cons, hg, hgs]

end KvMarkup.Outline
