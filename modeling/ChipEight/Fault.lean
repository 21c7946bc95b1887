import ChipEight.Opcode
import ChipEight.Text.Hex

/-! What can stop the interpreter. A failure is a cause with its data; the wording of each
cause stands in one function.
-/

namespace ChipEight

/-- Why no instruction could be taken from memory. -/
inductive OpcodeError where
  /-- No instruction family has this opcode. -/
  | unknown (opcode : Opcode) (pointer : Nat)
  /-- The second byte of the opcode lies outside of the data. -/
  | outOfMemory (pointer length : Nat)
  deriving DecidableEq, Repr

/-- The wording of a failed fetch or decoding. -/
def OpcodeError.message : OpcodeError → String
  | .unknown opcode pointer =>
    "An unsupported opcode " ++ Hex.word opcode.toNat ++ " was used at " ++ Hex.word pointer
      ++ "."
  | .outOfMemory pointer length =>
    "Pointer location invalid there can not be an opcode at " ++ Hex.word pointer
      ++ ", if data len is " ++ toString length

/-- Why a call or a return was refused. -/
inductive StackError where
  /-- A call was made while every nesting level was in use. -/
  | overflow
  /-- A return was made outside of any call. -/
  | underflow
  deriving DecidableEq, Repr

/-- The wording of a refused call or return. -/
def StackError.message : StackError → String
  | .overflow => "All " ++ toString stackCapacity ++ " nesting levels are in use"
  | .underflow => "Return without a matching call"

/-- Why a program was not loaded. -/
inductive LoadError where
  /-- The program is longer than the memory behind its start. -/
  | tooLarge (length capacity : Nat)
  deriving DecidableEq, Repr

/-- The wording of a refused program. -/
def LoadError.message : LoadError → String
  | .tooLarge length capacity =>
    "The program is " ++ toString length ++ " bytes long, but only " ++ toString capacity
      ++ " bytes fit into memory."

/-- Every failure that can stop the interpreter. -/
inductive Fault where
  | opcode (cause : OpcodeError)
  | stack (cause : StackError)
  | load (cause : LoadError)
  deriving DecidableEq, Repr

namespace Fault

/-- The wording of the cause inside of a fault. -/
def innerMessage : Fault → String
  | .opcode cause => cause.message
  | .stack cause => cause.message
  | .load cause => cause.message

/-- The wording of a fault, which quotes its cause. -/
def message : Fault → String
  | .opcode cause => "Invalid opcode state '" ++ cause.message ++ "'"
  | .stack cause => "Invalid stack state '" ++ cause.message ++ "'"
  | .load cause => "Invalid program '" ++ cause.message ++ "'"

end Fault

end ChipEight
