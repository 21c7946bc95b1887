/-! Reading UTF-8 from bytes that may be damaged. Every longest beginning of a character that
cannot be completed, and every byte that begins none, becomes one replacement character.
-/

namespace ChipEight.Utf8

/-- The character that stands for bytes that are no character. -/
def replacement : Char := '\uFFFD'

/-- What a first byte says: its share of the code point, the range of the second byte, and
the number of bytes that follow.
-/
structure Lead where
  value : Nat
  low : UInt8 := 0x80
  high : UInt8 := 0xBF
  more : Nat

/-- The meaning of a first byte. The ranges leave out overlong forms, surrogates and numbers
beyond the last code point.
-/
def lead? (byte : UInt8) : Option Lead :=
  let b := byte.toNat
  if b < 0x80 then some { value := b, more := 0 }
  else if b < 0xC2 then none
  else if b < 0xE0 then some { value := b % 32, more := 1 }
  else if b = 0xE0 then some { value := 0, low := 0xA0, more := 2 }
  else if b = 0xED then some { value := 0xD, high := 0x9F, more := 2 }
  else if b < 0xF0 then some { value := b % 16, more := 2 }
  else if b = 0xF0 then some { value := 0, low := 0x90, more := 3 }
  else if b < 0xF4 then some { value := b % 8, more := 3 }
  else if b = 0xF4 then some { value := 4, high := 0x8F, more := 3 }
  else none

/-- Read the bytes that complete a character; the result is the character with the bytes
behind it.
-/
def complete (value : Nat) (low high : UInt8) : Nat → List UInt8 → Char × List UInt8
  | 0, bytes => (Char.ofNat value, bytes)
  | _ + 1, [] => (replacement, [])
  | more + 1, byte :: rest =>
    if low ≤ byte ∧ byte ≤ high then
      complete (value * 64 + byte.toNat % 64) 0x80 0xBF more rest
    else
      (replacement, byte :: rest)

/-- Completing a character adds no bytes. -/
theorem length_complete_le (value : Nat) (low high : UInt8) (more : Nat) (bytes : List UInt8)
    : (complete value low high more bytes).2.length ≤ bytes.length := by
  fun_induction complete value low high more bytes <;> simp_all
  omega

/-- The characters of a block of bytes. -/
def decodeChars (bytes : List UInt8) : List Char :=
  match bytes with
  | [] => []
  | byte :: rest =>
    match lead? byte with
    | none => replacement :: decodeChars rest
    | some lead =>
      let first := complete lead.value lead.low lead.high lead.more rest
      first.1 :: decodeChars first.2
termination_by bytes.length
decreasing_by
  · simp
  · have := length_complete_le lead.value lead.low lead.high lead.more rest
    simp only [List.length_cons]
    omega

/-- The text of a block of bytes. -/
def decode (bytes : List UInt8) : String :=
  String.ofList (decodeChars bytes)

/-- The bytes of a text. -/
def encode (text : String) : List UInt8 :=
  text.toUTF8.data.toList

end ChipEight.Utf8
