import KvMarkup.Data.Fault
import KvMarkup.File.Path
import KvMarkup.Number.Integer
import KvMarkup.Text.Uppercase

/-!
# Settings

What a run is configured with: a catalogue to use instead of the bundled one, the columns of an
indent level, which are at least one, and the name of the level from which notes are shown.

`ofEnvironment` never fails: a width that is not a positive number gives way to the default one.
`ofFields` takes decoded values and refuses what does not fit.
-/

namespace KvMarkup

open KvMarkup.File KvMarkup.Number KvMarkup.Text

/-- What a run is configured with. -/
structure Settings where
  catalogPath : Option Path
  indentWidth : Int
  levelName : String
  one_le_indentWidth : 1 ≤ indentWidth

namespace Settings

/-- The settings that hold unless something else is asked for. -/
def default : Settings := ⟨none, 4, "WARNING", by decide⟩

/-- The settings with another width, if it is at least one. -/
def withWidth? (s : Settings) (width : Int) : Option Settings :=
  if h : 1 ≤ width then some ⟨s.catalogPath, width, s.levelName, h⟩ else none

/-- The width that a text asks for, and the default one if it asks for none. -/
def widthOf (text : Option String) : Int :=
  match text.bind fun s => integer? s.toList with
  | some n => if 1 ≤ n then n else 4
  | none => 4

theorem one_le_widthOf (text : Option String) : 1 ≤ widthOf text := by
  unfold widthOf
  split
  · split <;> omega
  · omega

def ofEnvironment (get : String → Option String) : Settings where
  catalogPath := ((get "KVLENS_REGISTRY").filter (· != "")).map Path.ofText
  indentWidth := widthOf (get "KVLENS_INDENT_WIDTH")
  levelName := uppercase ((get "KVLENS_LOG_LEVEL").getD "WARNING")
  one_le_indentWidth := one_le_widthOf _

/-! ## Settings from decoded values -/

/-- Decimal digits with single underscores between them and an optional fraction of zeros. -/
def wholeText? (cs : List Char) : Option Nat :=
  let whole := cs.takeWhile (· != '.')
  let zeros := match cs.drop whole.length with
    | [] => true
    | _ :: fraction => fraction.all (· == '0')
  if zeros && whole.all (fun c => c.isDigit || c == '_') then natural? whole else none

/-- The whole number that a value stands for: an integer, a truth value, a floating-point number
without a fraction and below two to the power of 63, or a text that writes a whole number. -/
def whole? : Data → Option Int
  | .int n => some n
  | .bool b => some (if b then 1 else 0)
  | .float x =>
    match x.toRat? with
    | some r => if r.den == 1 && r.num.natAbs < Nat.pow 2 63 then some r.num else none
    | none => none
  | .str s =>
    match trimAround s.toList with
    | '-' :: cs => (wholeText? cs).map fun n => -(n : Int)
    | '+' :: cs => (wholeText? cs).map fun n => (n : Int)
    | cs => (wholeText? cs).map fun n => (n : Int)
  | _ => none

/-- The path of a field that may be missing or null. -/
def pathField (fields : List (Data × Data)) : Except Fault (Option Path) :=
  match Data.field? fields "registry_path" with
  | none => .ok none
  | some .null => .ok none
  | some (.str s) => .ok (some (Path.ofText s))
  | some _ => .error (.invalidField "registry_path")

/-- The level of a field that may be missing. -/
def levelField (fields : List (Data × Data)) : Except Fault String :=
  match Data.field? fields "log_level" with
  | none => .ok "WARNING"
  | some (.str s) => .ok s
  | some _ => .error (.invalidField "log_level")

/-- The width of a field that may be missing. -/
def widthField (fields : List (Data × Data)) : Except Fault Int :=
  match Data.field? fields "indent_width" with
  | none => .ok 4
  | some d =>
    match whole? d with
    | some n => .ok n
    | none => .error (.invalidField "indent_width")

/-- The settings of decoded fields; other fields are passed over. -/
def ofFields (fields : List (Data × Data)) : Except Fault Settings := do
  let path ← pathField fields
  let width ← widthField fields
  let level ← levelField fields
  if h : 1 ≤ width then .ok ⟨path, width, level, h⟩ else .error (.invalidField "indent_width")

end Settings

end KvMarkup
