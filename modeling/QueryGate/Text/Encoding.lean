import QueryGate.Text.Character
import QueryGate.Text.Literal

/-!
# Decoding and encoding

Bytes are decoded strictly: no overlong forms, no surrogates, nothing beyond U+10FFFF. A failure
reports where the first bad sequence starts and how long it is; a sequence that is merely cut off
by the end has no length.

Texts that the operating system hands over, such as the values of the environment and the names of
files, need not be encoded properly. In a raw text the bytes that belong to no character are kept
as they are, each in the place of a character. A raw text is handed back to the operating system
byte by byte, but it can only be written as UTF-8 if it has no such bytes; a failure reports where
their first run stands. Shown by numbers, such a byte is the surrogate U+DC00 and the byte's value
above it.
-/

namespace QueryGate.Text

/-- The first bad sequence of a byte string: its start, and its length unless the end cuts it
off. -/
structure Utf8Fault where
  index : Nat
  length : Option Nat
  deriving DecidableEq, Repr

/-- The description of a bad sequence. -/
def Utf8Fault.message (fault : Utf8Fault) : String :=
  match fault.length with
  | some n => s!"invalid utf-8 sequence of {n} bytes from index {fault.index}"
  | none => s!"incomplete utf-8 byte sequence from index {fault.index}"

/-- The shape of a sequence, from its first byte: the payload bits of that byte, the number of
bytes that follow, and the range of the first of these. -/
def utf8Lead (b : Nat) : Option (Nat × Nat × Nat × Nat) :=
  if b < 0x80 then some (b, 0, 0x80, 0xbf)
  else if 0xc2 ≤ b && b ≤ 0xdf then some (b - 0xc0, 1, 0x80, 0xbf)
  else if b == 0xe0 then some (0, 2, 0xa0, 0xbf)
  else if b == 0xed then some (0xd, 2, 0x80, 0x9f)
  else if 0xe1 ≤ b && b ≤ 0xef then some (b - 0xe0, 2, 0x80, 0xbf)
  else if b == 0xf0 then some (0, 3, 0x90, 0xbf)
  else if 0xf1 ≤ b && b ≤ 0xf3 then some (b - 0xf0, 3, 0x80, 0xbf)
  else if b == 0xf4 then some (4, 3, 0x80, 0x8f)
  else none

/-- Decode bytes. `pending` is a started sequence: its start, how many of its bytes are read, its
bits so far, how many bytes are missing, and the range of the next one. -/
def decodeUtf8From (index : Nat) (pending : Option (Nat × Nat × Nat × Nat × Nat × Nat)) :
    List UInt8 → Except Utf8Fault (List Char)
  | [] => match pending with
    | some (start, _) => .error ⟨start, none⟩
    | none => .ok []
  | byte :: rest =>
      let b := byte.toNat
      match pending with
      | some (start, seen, bits, missing, low, high) =>
          if low ≤ b && b ≤ high then
            let bits := bits * 64 + (b - 0x80)
            if missing = 1 then
              (decodeUtf8From (index + 1) none rest).map (Char.ofNat bits :: ·)
            else
              decodeUtf8From (index + 1)
                (some (start, seen + 1, bits, missing - 1, 0x80, 0xbf)) rest
          else .error ⟨start, some seen⟩
      | none => match utf8Lead b with
        | none => .error ⟨index, some 1⟩
        | some (bits, 0, _, _) => (decodeUtf8From (index + 1) none rest).map (Char.ofNat bits :: ·)
        | some (bits, missing, low, high) =>
            decodeUtf8From (index + 1) (some (index, 1, bits, missing, low, high)) rest

def decodeUtf8 (bytes : List UInt8) : Except Utf8Fault String :=
  (decodeUtf8From 0 none bytes).map String.ofList

/-- A unit of a raw text. -/
inductive RawUnit where
  | char (c : Char)
  /-- A byte that belongs to no character, by its excess over the ASCII bytes. -/
  | byte (excess : Fin 128)
  deriving DecidableEq, Repr

namespace RawUnit

/-- The number by which a stray byte is shown. -/
def surrogate (excess : Fin 128) : Nat := 0xdc80 + excess.val

/-- The escape of a stray byte, by its number. -/
def byteEscape (excess : Fin 128) : List Char := '\\' :: 'u' :: hexDigits 4 (surrogate excess)

def char? : RawUnit → Option Char
  | .char c => some c
  | .byte _ => none

/-- The unit as error streams write it. -/
def escaped : RawUnit → List Char
  | .char c => [c]
  | .byte excess => byteEscape excess

def literal (quote : Char) : RawUnit → List Char
  | .char c => literalChar quote c
  | .byte excess => byteEscape excess

/-- The number of bytes that the operating system is handed for the unit. -/
def byteSize : RawUnit → Nat
  | .char c => c.utf8Size
  | .byte _ => 1

end RawUnit

/-- A text that may hold bytes which belong to no character. -/
structure RawText where
  units : List RawUnit
  deriving DecidableEq, Repr

/-- Why a raw text cannot be written as UTF-8: the first run of stray bytes, by its place, its
first byte, and how many follow. -/
structure EncodingFault where
  start : Nat
  first : Fin 128
  further : Nat
  deriving DecidableEq, Repr

def EncodingFault.message (fault : EncodingFault) : String :=
  let place :=
    if fault.further = 0 then
      "character '" ++ String.ofList (RawUnit.byteEscape fault.first) ++ "' in position " ++
        toString fault.start
    else
      "characters in position " ++ toString fault.start ++ "-" ++
        toString (fault.start + fault.further)
  "'utf-8' codec can't encode " ++ place ++ ": surrogates not allowed"

namespace RawText

@[irreducible] def ofString (s : String) : RawText := ⟨s.toList.map .char⟩

instance : Coe String RawText := ⟨ofString⟩

instance : Append RawText := ⟨fun a b => ⟨a.units ++ b.units⟩⟩

def isEmpty (raw : RawText) : Bool := raw.units.isEmpty

/-- The text consists of blank characters only. -/
def isBlank (raw : RawText) : Bool :=
  raw.units.all fun unit => (unit.char?.map Text.isBlank).getD false

/-- The characters of units that stand from an index on; stray bytes are a fault. -/
def encodeFrom (index : Nat) : List RawUnit → Except EncodingFault (List Char)
  | [] => .ok []
  | .char c :: rest => (encodeFrom (index + 1) rest).map (c :: ·)
  | .byte first :: rest =>
      .error ⟨index, first, (rest.takeWhile fun unit => unit.char?.isNone).length⟩

/-- The text to be written, unless there are stray bytes. -/
def encoded (raw : RawText) : Except EncodingFault String :=
  (encodeFrom 0 raw.units).map String.ofList

/-- The text that this is, unless there are stray bytes. -/
def text? (raw : RawText) : Option String := raw.encoded.toOption

/-- The text as error streams write it: stray bytes are written by their numbers. -/
def escaped (raw : RawText) : String := String.ofList (raw.units.flatMap (·.escaped))

def literal (raw : RawText) : String :=
  let quote := enclosingQuote (raw.units.filterMap (·.char?))
  String.ofList (quote :: (raw.units.flatMap (·.literal quote) ++ [quote]))

def byteSize (raw : RawText) : Nat :=
  raw.units.foldl (fun size unit => size + unit.byteSize) 0

theorem encodeFrom_chars (index : Nat) (cs : List Char) :
    encodeFrom index (cs.map .char) = .ok cs := by
  induction cs generalizing index with
  | nil => rfl
  | cons c rest ih => simp [encodeFrom, ih, Except.map]

/-- Only characters are encoded. -/
theorem units_of_encodeFrom {index : Nat} {units : List RawUnit} {cs : List Char}
    (h : encodeFrom index units = .ok cs) : units = cs.map .char := by
  induction units generalizing index cs with
  | nil =>
    obtain rfl := Except.ok.inj h
    rfl
  | cons unit rest ih =>
    cases unit with
    | byte first => simp [encodeFrom] at h
    | char c =>
      cases hrest : encodeFrom (index + 1) rest with
      | error fault => simp [encodeFrom, hrest, Except.map] at h
      | ok ds =>
        simp only [encodeFrom, hrest, Except.map, Except.ok.injEq] at h
        rw [← h, List.map_cons, ih hrest]

theorem units_ofString (s : String) : (ofString s).units = s.toList.map .char := by
  rw [ofString]

@[simp] theorem encoded_ofString (s : String) : (ofString s).encoded = .ok s := by
  simp [encoded, units_ofString, encodeFrom_chars, Except.map]

theorem eq_ofString_of_units {raw : RawText} {cs : List Char} (h : raw.units = cs.map .char) :
    raw = ofString (String.ofList cs) := by
  rw [ofString, String.toList_ofList, ← h]

theorem eq_of_encoded {raw : RawText} {s : String} (h : raw.encoded = .ok s) :
    raw = ofString s := by
  cases hunits : encodeFrom 0 raw.units with
  | error fault => simp [encoded, hunits, Except.map] at h
  | ok cs =>
    simp only [encoded, hunits, Except.map, Except.ok.injEq] at h
    rw [← h, eq_ofString_of_units (units_of_encodeFrom hunits)]

@[simp] theorem text?_ofString (s : String) : (ofString s).text? = some s := by
  simp [text?, Except.toOption]

theorem text?_eq_some {raw : RawText} {s : String} : raw.text? = some s ↔ raw = ofString s := by
  constructor
  · intro h
    cases hraw : raw.encoded with
    | error fault => simp [text?, hraw, Except.toOption] at h
    | ok t =>
      simp only [text?, hraw, Except.toOption, Option.some.injEq] at h
      rw [eq_of_encoded hraw, h]
  · rintro rfl
    exact text?_ofString s

theorem encoded_of_text?_eq_none {raw : RawText} (h : raw.text? = none) :
    ∃ fault, raw.encoded = .error fault := by
  cases hraw : raw.encoded with
  | error fault => exact ⟨fault, rfl⟩
  | ok s => simp [text?, hraw, Except.toOption] at h

theorem text?_append_eq_none {raw : RawText} (h : raw.text? = none) (front : RawText) :
    (front ++ raw).text? = none := by
  rw [Option.eq_none_iff_forall_ne_some]
  intro t ht
  have hunits : front.units ++ raw.units = (ofString t).units :=
    congrArg units (text?_eq_some.mp ht)
  rw [units_ofString] at hunits
  obtain ⟨front, back, -, -, hback⟩ := List.append_eq_map_iff.mp hunits
  rw [eq_ofString_of_units hback.symm, text?_ofString] at h
  cases h

theorem ofString_inj {a b : String} : ofString a = ofString b ↔ a = b := by
  refine ⟨fun h => ?_, congrArg ofString⟩
  have htext := text?_ofString a
  rw [h, text?_ofString, Option.some.injEq] at htext
  exact htext.symm

theorem ofString_append (a b : String) : ofString (a ++ b) = ofString a ++ ofString b := by
  change _ = RawText.mk (_ ++ _)
  simp [ofString]

@[simp] theorem isEmpty_ofString (s : String) : (ofString s).isEmpty = s.isEmpty := by
  rw [Bool.eq_iff_iff]
  simp [isEmpty, ofString]

@[simp] theorem isBlank_ofString (s : String) : (ofString s).isBlank = allBlank s := by
  simp [isBlank, ofString, allBlank, RawUnit.char?, Function.comp_def]

/-- A text of blanks has no stray bytes. -/
theorem exists_eq_ofString_of_isBlank {raw : RawText} (h : raw.isBlank = true) :
    ∃ s, raw = ofString s := by
  have hunits (units : List RawUnit)
      (hblank : units.all fun unit => (unit.char?.map Text.isBlank).getD false) :
      ∃ cs : List Char, units = cs.map .char := by
    induction units with
    | nil => exact ⟨[], rfl⟩
    | cons unit rest ih =>
      rw [List.all_cons, Bool.and_eq_true] at hblank
      obtain ⟨cs, rfl⟩ := ih hblank.2
      cases unit with
      | char c => exact ⟨c :: cs, rfl⟩
      | byte excess => cases hblank.1
  obtain ⟨cs, hcs⟩ := hunits raw.units h
  exact ⟨_, eq_ofString_of_units hcs⟩

@[simp] theorem escaped_ofString (s : String) : (ofString s).escaped = s := by
  simp [escaped, ofString, RawUnit.escaped, List.flatMap_map]

end RawText

end QueryGate.Text
