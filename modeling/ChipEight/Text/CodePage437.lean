/-! The character set of names in old archives: ASCII in its lower half, letters, box drawings
and symbols in its upper half.
-/

namespace ChipEight.CodePage437

/-- The characters of the bytes from 128 on. -/
def upperHalf : Array Char :=
  ("ÇüéâäàåçêëèïîìÄÅÉæÆôöòûùÿÖÜ¢£¥₧ƒáíóúñÑªº¿⌐¬½¼¡«»░▒▓│┤╡╢╖╕╣║╗╝╜╛┐"
    ++ "└┴┬├─┼╞╟╚╔╩╦╠═╬╧╨╤╥╙╘╒╓╫╪┘┌█▄▌▐▀αßΓπΣσµτΦΘΩδ∞φε∩≡±≥≤⌠⌡÷≈°∙·√ⁿ²■\u00A0").toList.toArray

/-- The character of a byte. -/
def decodeByte (byte : UInt8) : Char :=
  if byte < 128 then
    Char.ofNat byte.toNat
  else
    upperHalf[byte.toNat - 128]?.getD '?'

/-- The text of a block of bytes. -/
def decode (bytes : List UInt8) : String :=
  String.ofList (bytes.map decodeByte)

end ChipEight.CodePage437
