import ChipEight.Display

/-! The screen as text: two pixel rows share a line of block characters. -/

namespace ChipEight

/-- The character that shows an upper and a lower pixel. -/
def halfBlock (upper lower : Bool) : Char :=
  match upper, lower with
  | true, true => '█'
  | true, false => '▀'
  | false, true => '▄'
  | false, false => ' '

/-- Different pairs of pixels have different characters. -/
theorem halfBlock_inj {upper lower upper' lower' : Bool}
    : halfBlock upper lower = halfBlock upper' lower' ↔ upper = upper' ∧ lower = lower' := by
  revert upper lower upper' lower'
  decide

namespace Display

/-- The line that shows two neighbouring rows. -/
def blockLine (display : Display) (upper lower : Fin screenHeight) : List Char :=
  (List.finRange screenWidth).map fun x =>
    halfBlock (display.pixel x upper) (display.pixel x lower)

/-- The whole screen in sixteen lines of block characters. -/
def blockLines (display : Display) : List (List Char) :=
  (List.finRange (screenHeight / 2)).map fun k =>
    display.blockLine
      ⟨2 * k.val, by have := k.isLt; simp at this; simp only [screenHeight]; omega⟩
      ⟨2 * k.val + 1, by have := k.isLt; simp at this; simp only [screenHeight]; omega⟩

end Display

end ChipEight
