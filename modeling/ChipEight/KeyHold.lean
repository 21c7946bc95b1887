import ChipEight.Machine

/-! Held keys out of key presses. A terminal reports presses and repeats only, so a key
counts as held until a deadline passes without a repeat. Times are in nanoseconds after a
fixed moment.
-/

namespace ChipEight

/-- How long a key counts as held after a press. -/
@[simp] abbrev holdTime : Nat := 150000000

/-- The keys that count as held, each with the time when it is let go. -/
structure KeyHold where
  deadlines : Vector (Option Nat) keyCount := Vector.replicate keyCount none
  deriving DecidableEq, Repr

namespace KeyHold

/-- When a key is let go, if it is held. -/
def deadline? (hold : KeyHold) (key : Key) : Option Nat :=
  hold.deadlines[key]

/-- Change the deadline of a key. -/
def setDeadline (hold : KeyHold) (key : Key) (deadline : Option Nat) : KeyHold :=
  { deadlines := hold.deadlines.set key.val deadline key.isLt }

/-- Press a key. A fresh press goes to the machine; a repeat only moves the deadline. -/
def press (hold : KeyHold) (m : Machine) (key : Key) (now : Nat) : KeyHold × Machine :=
  (hold.setDeadline key (some (now + holdTime)),
    if (hold.deadline? key).isNone then (m.setKey key true).pressKey key.val else m)

/-- Let go a key whose deadline satisfies a condition. -/
def releaseKey (due : Nat → Bool) (state : KeyHold × Machine) (key : Key)
    : KeyHold × Machine :=
  match state.1.deadline? key with
  | none => state
  | some deadline =>
    if due deadline then
      (state.1.setDeadline key none, state.2.setKey key false)
    else
      state

/-- Let go every key whose deadline satisfies a condition. -/
def releaseWhere (due : Nat → Bool) (hold : KeyHold) (m : Machine) : KeyHold × Machine :=
  (List.finRange keyCount).foldl (releaseKey due) (hold, m)

/-- Let go the keys that were not repeated in time. -/
def releaseExpired (hold : KeyHold) (m : Machine) (now : Nat) : KeyHold × Machine :=
  hold.releaseWhere (· ≤ now) m

/-- Let go all held keys. -/
def releaseAll (hold : KeyHold) (m : Machine) : KeyHold × Machine :=
  hold.releaseWhere (fun _ => true) m

end KeyHold

end ChipEight
