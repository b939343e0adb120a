import KvMarkup.Data.Show

/-!
# Faults of loosely typed data

A decoded document is used without being checked first, so a value may turn out not to be what its
place asks for.  A `Fault` says which of these happened; `Fault.kind` is the family it is reported
under and `Fault.message` the text of the report.
-/

namespace KvMarkup

/-- What a value could not be used for. -/
inductive Fault where
  | missingKey (key : String)
  /-- A value that is not a mapping was asked for a required key. -/
  | notIndexed (value : Data)
  /-- A value was walked through that has no items. -/
  | notIterable (typeName : String)
  /-- A value that is not a mapping or a text was asked for a facility of one. -/
  | lacks (typeName facility : String)
  | notAKey (typeName : String)
  | noLength (typeName : String)
  /-- Two values without a common order were compared. -/
  | unordered (left right : String)
  | notAPosition (typeName : String)
  | notJoinable (typeName : String)
  | textInBytes
  | invalidField (field : String)

/-- The families under which faults are reported. -/
inductive Fault.Kind where
  | key
  | type
  | attribute
  | validation
deriving DecidableEq

namespace Fault

def Kind.name : Kind → String
  | .key => "KeyError"
  | .type => "TypeError"
  | .attribute => "AttributeError"
  | .validation => "ValidationError"

def kind : Fault → Kind
  | .missingKey _ => .key
  | .lacks _ _ => .attribute
  | .invalidField _ => .validation
  | _ => .type

def message : Fault → String
  | .missingKey key => Text.quote key
  | .notIndexed value =>
    match value with
    | .str _ => "string indices must be integers, not 'str'"
    | .list _ => "list indices must be integers or slices, not str"
    | v => "'" ++ v.typeName ++ "' object is not subscriptable"
  | .notIterable typeName => "'" ++ typeName ++ "' object is not iterable"
  | .lacks typeName facility => "'" ++ typeName ++ "' object has no attribute '" ++ facility ++ "'"
  | .notAKey typeName => "unhashable type: '" ++ typeName ++ "'"
  | .noLength typeName => "object of type '" ++ typeName ++ "' has no len()"
  | .unordered left right =>
    "'<' not supported between instances of '" ++ left ++ "' and '" ++ right ++ "'"
  | .notAPosition typeName => "list indices must be integers or slices, not " ++ typeName
  | .notJoinable typeName => "sequence item: expected str instance, " ++ typeName ++ " found"
  | .textInBytes => "a text was looked for in bytes"
  | .invalidField field => field

end Fault

/-! ## Results that may be faults -/

section
variable {ε ε' α β : Type}

/-- Steps in a row succeed if each of them does. -/
theorem bind_eq_ok_iff {x : Except ε α} {f : α → Except ε β} {b : β} :
    (x >>= f) = .ok b ↔ ∃ a, x = .ok a ∧ f a = .ok b := by
  cases x <;> simp [bind, Except.bind]

@[simp] theorem mapError_ok (f : ε → ε') (a : α) : (Except.ok a).mapError f = .ok a := rfl

@[simp] theorem mapError_error (f : ε → ε') (e : ε) :
    (Except.error e : Except ε α).mapError f = .error (f e) := rfl

theorem mapError_eq_ok_iff {x : Except ε α} {f : ε → ε'} {a : α} :
    x.mapError f = .ok a ↔ x = .ok a := by
  cases x <;> simp

theorem bind_eq_error {x : Except ε α} {f : α → Except ε β} {e : ε} (h : (x >>= f) = .error e) :
    x = .error e ∨ ∃ a, x = .ok a ∧ f a = .error e := by
  cases x with
  | error e' => exact .inl (congrArg Except.error (Except.error.inj h))
  | ok a => exact .inr ⟨a, rfl, h⟩

end

end KvMarkup
