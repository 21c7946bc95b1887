import ChipEight.Keypad

/-! The keypad on the left hand side of a terminal keyboard. -/

namespace ChipEight.Terminal

/-- The terminal keys in the arrangement of the keypad, row by row. -/
def keyRows : List (List Char) :=
  [['1', '2', '3', '4'],
   ['q', 'w', 'e', 'r'],
   ['a', 's', 'd', 'f'],
   ['z', 'x', 'c', 'v']]

/-- The key at the place of a terminal key; upper case letters count as lower case. -/
def mapKey (c : Char) : Option Key :=
  (keyRows.flatten.zip keypadRows.flatten).lookup c.toLower

end ChipEight.Terminal
