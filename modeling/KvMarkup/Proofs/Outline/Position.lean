import KvMarkup.Proofs.Outline.Extent

/-!
# Positions in an outline

A position is a list of indices: the first picks a tree and each further one a child.  `descend?`
follows indices below a node and `locate?` from the trees of an outline on:

    locate? ns (p ++ r) = (locate? ns p).bind (·.descend? r)          for p ≠ []   (locate?_append)
    x ∈ n.walk ↔ ∃ r, n.descend? r = some x                                  (mem_walk_iff_descend?)

Nodes are compared by what they show, so two positions might hold the same node.  In an orderly
outline they do not: siblings share no line, so what lies below one of them lies below no other
(`Orderly.descend?_inj`), and no node lies below itself.
-/

namespace KvMarkup.Outline.Node

variable {ν ℓ : Type}

/-- The node below a node that indices of children lead to; no index leads to the node itself. -/
def descend? (n : Node ν ℓ) : List Nat → Option (Node ν ℓ)
  | [] => some n
  | i :: rest => n.children[i]?.bind fun c => c.descend? rest

/-- The node of an outline at a position; no tree stands at the empty one. -/
def locate? (ns : List (Node ν ℓ)) : List Nat → Option (Node ν ℓ)
  | [] => none
  | i :: rest => ns[i]?.bind fun n => n.descend? rest

/-! ## Following indices -/

theorem descend?_cons_eq_some {n x : Node ν ℓ} {i : Nat} {rest : List Nat} :
    n.descend? (i :: rest) = some x ↔
      ∃ c, n.children[i]? = some c ∧ c.descend? rest = some x := by
  rw [descend?, Option.bind_eq_some_iff]

theorem locate?_cons_eq_some {ns : List (Node ν ℓ)} {x : Node ν ℓ} {i : Nat} {rest : List Nat} :
    locate? ns (i :: rest) = some x ↔ ∃ n, ns[i]? = some n ∧ n.descend? rest = some x := by
  rw [locate?, Option.bind_eq_some_iff]

theorem descend?_append (n : Node ν ℓ) (p r : List Nat) :
    n.descend? (p ++ r) = (n.descend? p).bind fun x => x.descend? r := by
  induction p generalizing n with
  | nil => rfl
  | cons i p ih =>
    rw [List.cons_append, descend?, descend?, Option.bind_assoc]
    congr 1
    funext c
    exact ih c

theorem locate?_append {ns : List (Node ν ℓ)} {p : List Nat} {a : Node ν ℓ}
    (h : locate? ns p = some a) (r : List Nat) : locate? ns (p ++ r) = a.descend? r := by
  cases p with
  | nil => cases h
  | cons i p =>
    obtain ⟨n, hn, ha⟩ := locate?_cons_eq_some.mp h
    rw [List.cons_append, locate?, hn, Option.bind_some, descend?_append, ha, Option.bind_some]

/-- What indices lead to is what the walk visits. -/
theorem mem_walk_iff_descend? {n x : Node ν ℓ} : x ∈ n.walk ↔ ∃ r, n.descend? r = some x := by
  induction n using Node.induction with
  | step n ih =>
    rw [mem_walk]
    constructor
    · rintro (rfl | ⟨c, hc, hx⟩)
      · exact ⟨[], rfl⟩
      · obtain ⟨i, hi⟩ := List.getElem?_of_mem hc
        obtain ⟨r, hr⟩ := (ih c hc).mp hx
        exact ⟨i :: r, descend?_cons_eq_some.mpr ⟨c, hi, hr⟩⟩
    · rintro ⟨r, hr⟩
      cases r with
      | nil => exact .inl (Option.some.inj hr).symm
      | cons i r =>
        obtain ⟨c, hi, hr⟩ := descend?_cons_eq_some.mp hr
        have hc := List.mem_of_getElem? hi
        exact .inr ⟨c, hc, (ih c hc).mpr ⟨r, hr⟩⟩

theorem mem_walk_of_descend? {n x : Node ν ℓ} {r : List Nat} (h : n.descend? r = some x) :
    x ∈ n.walk :=
  mem_walk_iff_descend?.mpr ⟨r, h⟩

theorem mem_walkAll_of_locate? {ns : List (Node ν ℓ)} {x : Node ν ℓ} {p : List Nat}
    (h : locate? ns p = some x) : x ∈ walkAll ns := by
  cases p with
  | nil => cases h
  | cons i p =>
    obtain ⟨n, hn, hx⟩ := locate?_cons_eq_some.mp h
    exact mem_walkAll.mpr ⟨n, List.mem_of_getElem? hn, mem_walk_of_descend? hx⟩

/-! ## One position for each node -/

theorem sizeOf_le_of_mem_walk {n x : Node ν ℓ} (h : x ∈ n.walk) : sizeOf x ≤ sizeOf n := by
  induction n using Node.induction with
  | step n ih =>
    rcases mem_walk.mp h with rfl | ⟨c, hc, hx⟩
    · exact Nat.le_refl _
    · have hle := ih c hc hx
      have hlt := List.sizeOf_lt_of_mem hc
      cases n
      simp only [Node.mk.sizeOf_spec] at hlt ⊢
      omega

/-- A node does not lie below one of its children. -/
theorem not_mem_walk_of_child {n c : Node ν ℓ} (hc : c ∈ n.children) : n ∉ c.walk := by
  intro h
  have hle := sizeOf_le_of_mem_walk h
  have hlt := List.sizeOf_lt_of_mem hc
  cases n
  simp only [Node.mk.sizeOf_spec] at hle hlt
  omega

/-- What lies below two trees of a forest lies below one tree, if the trees are apart. -/
theorem index_eq_of_apart {ns : List (Node ν Int)} (ho : ∀ n ∈ ns, Orderly n)
    (ha : ns.Pairwise Apart) {i j : Nat} {a b x : Node ν Int} (hi : ns[i]? = some a)
    (hj : ns[j]? = some b) (hxa : x ∈ a.walk) (hxb : x ∈ b.walk) : i = j := by
  -- the lines of `x` lie among those of both trees, which have none in common
  have hoa := ho a (List.mem_of_getElem? hi)
  have hob := ho b (List.mem_of_getElem? hj)
  have h1 := hoa.line_le hxa
  have h2 := hoa.line_le_lastLine_of_mem hxa
  have h3 := hob.line_le hxb
  have h4 := hob.line_le_lastLine_of_mem hxb
  have hshare : ¬ a.Apart b := by
    unfold Apart
    omega
  obtain ⟨hilt, rfl⟩ := List.getElem?_eq_some_iff.mp hi
  obtain ⟨hjlt, rfl⟩ := List.getElem?_eq_some_iff.mp hj
  rw [List.pairwise_iff_getElem] at ha
  rcases Nat.lt_trichotomy i j with hlt | heq | hgt
  · exact absurd (ha i j hilt hjlt hlt) hshare
  · exact heq
  · exact absurd (ha j i hjlt hilt hgt).symm hshare

theorem Orderly.descend?_inj {n x : Node ν Int} (h : Orderly n) {p q : List Nat}
    (hp : n.descend? p = some x) (hq : n.descend? q = some x) : p = q := by
  induction p generalizing n q with
  | nil =>
    obtain rfl := Option.some.inj hp
    cases q with
    | nil => rfl
    | cons j q =>
      obtain ⟨c, hj, hc⟩ := descend?_cons_eq_some.mp hq
      exact absurd (mem_walk_of_descend? hc) (not_mem_walk_of_child (List.mem_of_getElem? hj))
  | cons i p ih =>
    obtain ⟨c, hi, hc⟩ := descend?_cons_eq_some.mp hp
    cases q with
    | nil =>
      obtain rfl := Option.some.inj hq
      exact absurd (mem_walk_of_descend? hc) (not_mem_walk_of_child (List.mem_of_getElem? hi))
    | cons j q =>
      obtain ⟨d, hj, hd⟩ := descend?_cons_eq_some.mp hq
      obtain rfl : i = j := index_eq_of_apart (fun c hc => h.child hc)
        (h.inPlace.inOrder.imp .inl) hi hj (mem_walk_of_descend? hc) (mem_walk_of_descend? hd)
      obtain rfl := Option.some.inj (hi.symm.trans hj)
      rw [ih (h.child (List.mem_of_getElem? hi)) hc hd]

/-- No two positions of a forest hold the same node, if its trees are orderly and apart. -/
theorem locate?_inj {ns : List (Node ν Int)} (ho : ∀ n ∈ ns, Orderly n) (ha : ns.Pairwise Apart)
    {x : Node ν Int} {p q : List Nat} (hp : locate? ns p = some x) (hq : locate? ns q = some x) :
    p = q := by
  cases p with
  | nil => cases hp
  | cons i p =>
    cases q with
    | nil => cases hq
    | cons j q =>
      obtain ⟨a, hi, hxa⟩ := locate?_cons_eq_some.mp hp
      obtain ⟨b, hj, hxb⟩ := locate?_cons_eq_some.mp hq
      obtain rfl : i = j := index_eq_of_apart ho ha hi hj (mem_walk_of_descend? hxa)
        (mem_walk_of_descend? hxb)
      obtain rfl := Option.some.inj (hi.symm.trans hj)
      rw [(ho a (List.mem_of_getElem? hi)).descend?_inj hxa hxb]

/-- Below a node stand exactly the positions that continue its own. -/
theorem mem_walk_iff_continues {ns : List (Node ν Int)} (ho : ∀ n ∈ ns, Orderly n)
    (ha : ns.Pairwise Apart) {x y : Node ν Int} {p q : List Nat} (hp : locate? ns p = some x)
    (hq : locate? ns q = some y) : y ∈ x.walk ↔ p <+: q := by
  constructor
  · intro h
    obtain ⟨r, hr⟩ := mem_walk_iff_descend?.mp h
    have hpr : locate? ns (p ++ r) = some y := (locate?_append hp r).trans hr
    exact ⟨r, locate?_inj ho ha hpr hq⟩
  · rintro ⟨r, rfl⟩
    rw [locate?_append hp] at hq
    exact mem_walk_of_descend? hq

end KvMarkup.Outline.Node
