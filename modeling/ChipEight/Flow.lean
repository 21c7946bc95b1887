import ChipEight.Constants

/-! How the program counter moves once an instruction is done. -/

namespace ChipEight

/-- Where execution continues, seen from the instruction that ran. -/
inductive Flow where
  /-- Stay on the instruction. -/
  | stay
  /-- Continue with the following instruction. -/
  | next
  /-- Leave out the following instruction. -/
  | skip
  /-- Continue at an absolute address. -/
  | jump (target : Nat)
  deriving DecidableEq, Repr

namespace Flow

/-- Skip the following instruction if the condition holds. -/
def skipIf (condition : Bool) : Flow :=
  if condition then .skip else .next

/-- The program counter after `current`, always inside of memory. -/
def apply (flow : Flow) (current : Nat) : Nat :=
  match flow with
  | .stay => current % memorySize
  | .next => (current + opcodeSize) % memorySize
  | .skip => (current + 2 * opcodeSize) % memorySize
  | .jump target => target % memorySize

/-- Every way of moving on ends inside of memory. -/
theorem apply_lt (flow : Flow) (current : Nat)
    : flow.apply current < memorySize := by
  cases flow <;> exact Nat.mod_lt _ (by decide)

end Flow

end ChipEight
