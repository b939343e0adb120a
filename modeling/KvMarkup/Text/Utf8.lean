import KvMarkup.Text.Quoted

/-!
# Text as bytes

Files hold text in UTF-8.  The words of a command line are any bytes: a run gets them as characters,
with single bytes between them that are part of no character (`RawText`).  Such a text has no UTF-8
form, and cannot be written to a file; in a message each of these bytes stands as an escape.

    a:ÿ in UTF-8, and the byte FF behind it:   ['a', ':', 'ÿ', FF]      shown as  a:ÿ\udcff
-/

namespace KvMarkup.Text

def decodeUtf8? (bytes : List UInt8) : Option String := String.fromUTF8? ⟨bytes.toArray⟩

def encodeUtf8 (s : String) : List UInt8 := s.toUTF8.toList

/-- A character, or the byte `0x80 + b`, which is part of none. -/
inductive Symbol where
  | char (c : Char)
  | stray (b : Fin 128)
deriving DecidableEq

/-- A text as the system passes it. -/
abbrev RawText := List Symbol

namespace Symbol

/-- A character for the symbol: U+FFFD stands in for a stray byte. -/
def standIn : Symbol → Char
  | char c => c
  | stray _ => '\uFFFD'

def isChar : Symbol → Bool
  | char _ => true
  | stray _ => false

def bytes : Symbol → List UInt8
  | char c => encodeUtf8 (String.singleton c)
  | stray b => [UInt8.ofNat (0x80 + b)]

/-- The escape of a stray byte. -/
def escape (b : Fin 128) : List Char := '\\' :: 'u' :: hexDigits 4 (0xDC80 + b)

def shown : Symbol → List Char
  | char c => [c]
  | stray b => escape b

/-- A symbol inside quotes. -/
def quoted (mark : Char) : Symbol → List Char
  | char c => quoteChar mark c
  | stray b => escape b

/-- A character of a range. -/
def isBetween (first last : Char) : Symbol → Bool
  | char c => first ≤ c && c ≤ last
  | stray _ => false

end Symbol

/-! ## Bytes that are not UTF-8 -/

/-- The bytes that can be second in a character, from the first to the last of them, and how many
follow that one; by the first byte of the character. -/
def secondBytes? (first : UInt8) : Option (UInt8 × UInt8 × Nat) :=
  if 0xC2 ≤ first && first ≤ 0xDF then some (0x80, 0xBF, 0)
  else if first == 0xE0 then some (0xA0, 0xBF, 1)
  else if first == 0xED then some (0x80, 0x9F, 1)
  else if 0xE1 ≤ first && first ≤ 0xEF then some (0x80, 0xBF, 1)
  else if first == 0xF0 then some (0x90, 0xBF, 2)
  else if 0xF1 ≤ first && first ≤ 0xF3 then some (0x80, 0xBF, 2)
  else if first == 0xF4 then some (0x80, 0x8F, 2)
  else none

/-- The length of the character at the beginning of some bytes, or of what there is of it. -/
def partLength : List UInt8 → Nat
  | first :: second :: rest =>
    match secondBytes? first with
    | none => 1
    | some (least, greatest, more) =>
      if least ≤ second && second ≤ greatest then
        2 + ((rest.take more).takeWhile fun b => 0x80 ≤ b && b ≤ 0xBF).length
      else 1
  | bytes => bytes.length

/-- The characters of some bytes, with U+FFFD for each part that is none. -/
def replacingUtf8 : Nat → List UInt8 → List Char
  | 0, _ => []
  | _, [] => []
  | fuel + 1, bytes =>
    let part := bytes.take (partLength bytes)
    let cs := match decodeUtf8? part with
      | some s => s.toList
      | none => ['\uFFFD']
    cs ++ replacingUtf8 fuel (bytes.drop part.length)

/-! ## Raw texts -/

namespace RawText

def ofText (s : String) : RawText := s.toList.map .char

instance : Coe String RawText := ⟨ofText⟩

/-- A text with as many characters, which are the same where there are any. -/
def standIn (r : RawText) : String := String.ofList (r.map Symbol.standIn)

/-- The text, if all symbols are characters. -/
def text? (r : RawText) : Option String := if r.all Symbol.isChar then some r.standIn else none

/-- What a message shows of the text. -/
def shown (r : RawText) : String := String.ofList (r.flatMap Symbol.shown)

/-- The text between quotes. -/
def quoted (r : RawText) : String :=
  let mark := quoteMark r.standIn.toList
  String.ofList (mark :: r.flatMap (Symbol.quoted mark) ++ [mark])

/-- The text as the name of a file is shown. -/
def fileName (r : RawText) : String :=
  let bytes := r.flatMap Symbol.bytes
  String.ofList (replacingUtf8 bytes.length bytes)

section
variable (s : String)

@[simp] theorem standIn_ofText : (ofText s).standIn = s := by
  simp [standIn, ofText, Function.comp_def, Symbol.standIn]

@[simp] theorem text?_ofText : (ofText s).text? = some s := by
  rw [text?, standIn_ofText, if_pos (by simp [ofText, Symbol.isChar])]

@[simp] theorem shown_ofText : (ofText s).shown = s := by
  simp [shown, ofText, List.flatMap_map, Symbol.shown]

end

/-- What is no text has a stray byte, for which a character stands in. -/
theorem mem_standIn_of_no_text {r : RawText} (h : r.text? = none) :
    '\uFFFD' ∈ r.standIn.toList := by
  have hall : r.all Symbol.isChar = false := by
    unfold text? at h
    split at h
    · cases h
    · next hall => simpa using hall
  obtain ⟨x, hx, hchar⟩ := List.all_eq_false.mp hall
  rw [standIn, String.toList_ofList]
  cases x with
  | char c => exact absurd rfl hchar
  | stray b => exact List.mem_map_of_mem (f := Symbol.standIn) hx

end RawText

end KvMarkup.Text
