set_option autoImplicit false

/-!
# Text: bytes

`utf8` is the UTF-8 form of a text as a list of bytes.  `ofUtf8Lossy` reads bytes
back and puts U+FFFD in the place of each longest ill-formed start of a
character, so every list of bytes has a text.
-/

namespace Eligibility.Text

/-- The UTF-8 bytes of a text. -/
def utf8 (s : String) : List UInt8 := s.toUTF8.toList

/-- The number of bytes after the leading byte `b`, the range of the first of them, and the
bits that `b` carries. -/
def utf8Lead (b : UInt8) : Option (Nat × UInt8 × UInt8 × Nat) :=
  if 0xC2 ≤ b && b ≤ 0xDF then some (1, 0x80, 0xBF, b.toNat - 0xC0)
  else if b == 0xE0 then some (2, 0xA0, 0xBF, 0)
  else if b == 0xED then some (2, 0x80, 0x9F, 0xD)
  else if 0xE1 ≤ b && b ≤ 0xEF then some (2, 0x80, 0xBF, b.toNat - 0xE0)
  else if b == 0xF0 then some (3, 0x90, 0xBF, 0)
  else if b == 0xF4 then some (3, 0x80, 0x8F, 4)
  else if 0xF1 ≤ b && b ≤ 0xF3 then some (3, 0x80, 0xBF, b.toNat - 0xF0)
  else none

/-- Where a reader of UTF-8 stands: between characters, or owing `owed` more bytes, the next one
between `low` and `high`, to a character whose bits so far are `bits`. -/
inductive Utf8State where
  | between
  | inside (owed : Nat) (low high : UInt8) (bits : Nat)

/-- Start a character at the byte `b`. -/
def utf8Start (b : UInt8) : List Char × Utf8State :=
  if b < 0x80 then ([Char.ofNat b.toNat], .between)
  else match utf8Lead b with
    | some (owed, low, high, bits) => ([], .inside owed low high bits)
    | none => ([Char.ofNat 0xFFFD], .between)

/-- One step of the reader: the characters that the byte completes and the state after it. -/
def utf8Step (state : Utf8State) (b : UInt8) : List Char × Utf8State :=
  match state with
  | .between => utf8Start b
  | .inside owed low high bits =>
    if low ≤ b && b ≤ high then
      let bits := bits * 64 + (b.toNat - 0x80)
      if owed ≤ 1 then ([Char.ofNat bits], .between) else ([], .inside (owed - 1) 0x80 0xBF bits)
    else
      let (cs, next) := utf8Start b
      (Char.ofNat 0xFFFD :: cs, next)

/-- The characters of the bytes from a state on. -/
def utf8Chars : Utf8State → List UInt8 → List Char
  | .between, [] => []
  | .inside .., [] => [Char.ofNat 0xFFFD]
  | state, b :: bs =>
    let (cs, next) := utf8Step state b
    cs ++ utf8Chars next bs

/-- The text of the bytes, with U+FFFD for what is not UTF-8. -/
def ofUtf8Lossy (bs : List UInt8) : String := String.ofList (utf8Chars .between bs)

end Eligibility.Text
