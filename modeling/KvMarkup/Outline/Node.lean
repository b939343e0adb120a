/-!
# Outline nodes

The outline of a document is a forest of nodes.  A node has a display name, a kind, the span of text
that it stands for and the span to select, an optional detail and its children in order.  Lines and
columns count from one.

The line a node's subtree ends on is found by following last children (`lastLine`); `extent` is the
pair of its first and last lines, and a new last child goes in after `insertionLine` lines.

    x.contains y = true   iff   y ∈ x.walk            (for names and lines with a lawful equality)
-/

namespace KvMarkup.Outline

/-- What a node stands for. -/
inductive Kind where
  | canvasBlock
  | rule
  | property
  | instruction
  | value
  | widget
  | identifier
  | event
deriving DecidableEq, Repr

def Kind.code : Kind → Int
  | .canvasBlock => 2
  | .rule => 4
  | .property => 6
  | .instruction => 13
  | .value => 14
  | .widget => 18
  | .identifier => 19
  | .event => 23

def Kind.ofCode? (n : Int) : Option Kind :=
  [Kind.canvasBlock, .rule, .property, .instruction, .value, .widget, .identifier, .event].find?
    (·.code == n)

/-- A line and a column, from one. -/
structure Position (ℓ : Type) where
  line : ℓ
  column : Int
deriving DecidableEq

/-- A stretch of text. -/
structure Span (ℓ : Type) where
  start : Position ℓ
  stop : Position ℓ
deriving DecidableEq

/-- The span of `length` characters on one line. -/
def Span.onLine (line : ℓ) (column length : Int) : Span ℓ :=
  ⟨⟨line, column⟩, ⟨line, column + length⟩⟩

/-- A node of the outline, with names of type `ν` and lines of type `ℓ`. -/
structure Node (ν ℓ : Type) where
  name : ν
  kind : Kind
  range : Span ℓ
  selection : Span ℓ
  detail : Option String
  children : List (Node ν ℓ)

namespace Node

def line (n : Node ν ℓ) : ℓ := n.range.start.line

mutual
/-- The node and everything below it, each node before its children. -/
def walk : Node ν ℓ → List (Node ν ℓ)
  | ⟨name, kind, range, selection, detail, children⟩ =>
    ⟨name, kind, range, selection, detail, children⟩ :: walkAll children
termination_by structural n => n

def walkAll : List (Node ν ℓ) → List (Node ν ℓ)
  | [] => []
  | n :: ns => n.walk ++ walkAll ns
termination_by structural ns => ns
end

mutual
/-- The line a subtree ends on, following last children. -/
def lastLine : Node ν ℓ → ℓ
  | ⟨_, _, range, _, _, children⟩ => lastLineOr range.stop.line children
termination_by structural n => n
/-- The line the last of some nodes ends on, and `own` when there is none. -/
def lastLineOr (own : ℓ) : List (Node ν ℓ) → ℓ
  | [] => own
  | n :: ns => lastLineOr n.lastLine ns
termination_by structural ns => ns
end

/-- The first and the last line of a subtree. -/
def extent (n : Node ν ℓ) : ℓ × ℓ := (n.line, n.lastLine)

/-- The number of lines before a new last child. -/
def insertionLine (n : Node ν ℓ) : ℓ := lastLineOr n.line n.children

def sameSpan [BEq ℓ] (a b : Span ℓ) : Bool :=
  a.start.line == b.start.line && a.start.column == b.start.column &&
    a.stop.line == b.stop.line && a.stop.column == b.stop.column

mutual
def same [BEq ν] [BEq ℓ] : Node ν ℓ → Node ν ℓ → Bool
  | ⟨name, kind, range, selection, detail, children⟩, n =>
    name == n.name && kind == n.kind && sameSpan range n.range && sameSpan selection n.selection &&
      detail == n.detail && sameAll children n.children
termination_by structural n => n

def sameAll [BEq ν] [BEq ℓ] : List (Node ν ℓ) → List (Node ν ℓ) → Bool
  | [], [] => true
  | a :: as, b :: bs => a.same b && sameAll as bs
  | _, _ => false
termination_by structural ns => ns
end

instance [BEq ν] [BEq ℓ] : BEq (Node ν ℓ) := ⟨same⟩

/-- A node is the given one or lies below it. -/
def contains [BEq ν] [BEq ℓ] (ancestor n : Node ν ℓ) : Bool := ancestor.walk.any (· == n)

/-- The same span with lines of another type. -/
def mapSpan (g : ℓ → κ) (s : Span ℓ) : Span κ :=
  ⟨⟨g s.start.line, s.start.column⟩, ⟨g s.stop.line, s.stop.column⟩⟩

mutual
/-- The same tree with names and lines of other types. -/
def map (f : ν → μ) (g : ℓ → κ) : Node ν ℓ → Node μ κ
  | ⟨name, kind, range, selection, detail, children⟩ =>
    ⟨f name, kind, mapSpan g range, mapSpan g selection, detail, mapAll f g children⟩
termination_by structural n => n

def mapAll (f : ν → μ) (g : ℓ → κ) : List (Node ν ℓ) → List (Node μ κ)
  | [] => []
  | n :: ns => n.map f g :: mapAll f g ns
termination_by structural ns => ns
end

/-! ## Lemmas -/

theorem sameSpan_iff [BEq ℓ] [LawfulBEq ℓ] (a b : Span ℓ) : sameSpan a b = true ↔ a = b := by
  obtain ⟨⟨al, ac⟩, ⟨am, ad⟩⟩ := a
  obtain ⟨⟨bl, bc⟩, ⟨bm, bd⟩⟩ := b
  simp [sameSpan, and_assoc]

mutual
theorem same_iff [BEq ν] [LawfulBEq ν] [BEq ℓ] [LawfulBEq ℓ] :
    (a b : Node ν ℓ) → (a.same b = true ↔ a = b)
  | ⟨_, _, _, _, _, children⟩, ⟨_, _, _, _, _, others⟩ => by
    simp [same, sameSpan_iff, sameAll_iff children others, and_assoc]

theorem sameAll_iff [BEq ν] [LawfulBEq ν] [BEq ℓ] [LawfulBEq ℓ] :
    (as bs : List (Node ν ℓ)) → (sameAll as bs = true ↔ as = bs)
  | [], [] => by simp [sameAll]
  | [], _ :: _ => by simp [sameAll]
  | _ :: _, [] => by simp [sameAll]
  | a :: as, b :: bs => by simp [sameAll, same_iff a b, sameAll_iff as bs]
end

instance [BEq ν] [LawfulBEq ν] [BEq ℓ] [LawfulBEq ℓ] : LawfulBEq (Node ν ℓ) where
  eq_of_beq h := (same_iff _ _).1 h
  rfl := (same_iff _ _).2 rfl

/-- Containment is membership in the walk. -/
theorem contains_iff_mem_walk [BEq ν] [LawfulBEq ν] [BEq ℓ] [LawfulBEq ℓ] (x y : Node ν ℓ) :
    x.contains y = true ↔ y ∈ x.walk := by
  simp [contains]

end Node

end KvMarkup.Outline
