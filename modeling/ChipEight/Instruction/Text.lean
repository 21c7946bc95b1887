import ChipEight.Instruction

/-! Instructions as text for journals: the name of the instruction with its operands, in
decimal.
-/

namespace ChipEight

/-- A named value with named parts, such as `Jump` with its address. -/
def recordText (name : String) (parts : List (String × String)) : String :=
  name ++ " \x7b " ++ ", ".intercalate (parts.map fun part => part.1 ++ ": " ++ part.2)
    ++ " \x7d"

/-- The name of a register operation. -/
def Arithmetic.text : Arithmetic → String
  | .assign => "Assign"
  | .or => "Or"
  | .and => "And"
  | .xor => "Xor"
  | .add => "Add"
  | .sub => "Sub"
  | .shiftRight => "ShiftRight"
  | .subReverse => "SubReverse"
  | .shiftLeft => "ShiftLeft"

/-- The name of an operation of family F. -/
def Misc.text : Misc → String
  | .getDelay => "GetDelayTimer"
  | .awaitKey => "AwaitKeyPress"
  | .setDelay => "SetDelayTimer"
  | .setSound => "SetSoundTimer"
  | .addToIndex => "AddVxToI"
  | .pointToGlyph => "SetIToSprite"
  | .storeDigits => "StoreBcd"
  | .storeRegisters => "StoreV0ToVx"
  | .loadRegisters => "FillV0ToVx"

namespace Instruction

/-- A register with a byte. -/
def byteText (name : String) (x : Register) (kk : UInt8) : String :=
  recordText name [("x", toString x.val), ("kk", toString kk.toNat)]

/-- An address. -/
def addressText (name : String) (nnn : Fin memorySize) : String :=
  recordText name [("nnn", toString nnn.val)]

/-- Two registers. -/
def pairText (name : String) (x y : Register) : String :=
  recordText name [("x", toString x.val), ("y", toString y.val)]

/-- The name of an instruction with its operands. -/
def text : Instruction → String
  | .clear => "System(Clear)"
  | .ret => "System(Return)"
  | .routine nnn => "System(Machine(" ++ toString nnn.val ++ "))"
  | .jump nnn => addressText "Jump" nnn
  | .call nnn => addressText "Call" nnn
  | .skipEqual x kk => byteText "SkipEqual" x kk
  | .skipNotEqual x kk => byteText "SkipNotEqual" x kk
  | .skipSame x y => pairText "SkipRegistersEqual" x y
  | .set x kk => byteText "SetRegister" x kk
  | .add x kk => byteText "AddRegister" x kk
  | .arithmetic op x y =>
    recordText "Arithmetic" [("op", op.text), ("x", toString x.val), ("y", toString y.val)]
  | .skipDifferent x y => pairText "SkipRegistersNotEqual" x y
  | .setIndex nnn => addressText "SetIndex" nnn
  | .jumpOffset nnn => addressText "JumpOffset" nnn
  | .random x kk => byteText "Random" x kk
  | .draw x y n =>
    recordText "Draw" [("x", toString x.val), ("y", toString y.val), ("n", toString n.val)]
  | .skipHeld x => recordText "Key" [("op", "Pressed"), ("x", toString x.val)]
  | .skipNotHeld x => recordText "Key" [("op", "NotPressed"), ("x", toString x.val)]
  | .misc op x => recordText "Misc" [("op", op.text), ("x", toString x.val)]
  | .unassigned opcode => "Unassigned(" ++ toString opcode.toNat ++ ")"

end Instruction

end ChipEight
