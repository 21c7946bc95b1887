import ChipEight.Constants

/-! The sixteen keys and the one prompt that may wait for a key press. -/

namespace ChipEight

/-- A key of the keypad. -/
abbrev Key := Fin keyCount

/-- The answer of a key press to a prompt: the place that asked and the number of the key. -/
structure KeyPress (place : Type) where
  asked : place
  key : Nat
  deriving DecidableEq, Repr

/-- Which keys are held, and which place waits for the next key press. For the machine, places
are registers.
-/
structure Keypad (place : Type) where
  held : Vector Bool keyCount := Vector.replicate keyCount false
  pending : Option place := none
  deriving DecidableEq, Repr

namespace Keypad

variable {place : Type}

/-- Hold a key down or let it go. -/
def setKey (keypad : Keypad place) (key : Key) (down : Bool) : Keypad place :=
  { keypad with held := keypad.held.set key.val down key.isLt }

/-- The key with this number is held; a number outside of the keypad never is. -/
def isHeld (keypad : Keypad place) (key : Nat) : Bool :=
  keypad.held[key]?.getD false

/-- The numbers of the held keys, ascending. -/
def heldKeys (keypad : Keypad place) : List Nat :=
  (List.range keyCount).filter keypad.isHeld

/-- Let the next key press go to a place. -/
def await (keypad : Keypad place) (asked : place) : Keypad place :=
  { keypad with pending := some asked }

/-- A prompt waits for a key press. -/
def isWaiting (keypad : Keypad place) : Bool :=
  keypad.pending.isSome

/-- Deliver a key press: it answers the prompt that waits, which is gone afterwards. -/
def press (keypad : Keypad place) (key : Nat) : Option (KeyPress place) × Keypad place :=
  (keypad.pending.map fun asked => ⟨asked, key⟩, { keypad with pending := none })

/-- Setting one key leaves every other key as it was. -/
theorem isHeld_setKey (keypad : Keypad place) (key : Key) (down : Bool) (other : Nat)
    : (keypad.setKey key down).isHeld other
        = if key.val = other then down else keypad.isHeld other := by
  simp only [isHeld, setKey, Vector.getElem?_set]
  split <;> rfl

/-- A number is held only if it names a key of the keypad, and that key is down. -/
theorem isHeld_eq_true_iff {keypad : Keypad place} {key : Nat}
    : keypad.isHeld key = true ↔ ∃ inside : key < keyCount, keypad.held[key] = true := by
  unfold isHeld
  by_cases inside : key < keyCount
  · simp [inside]
  · simp [inside]

end Keypad

end ChipEight
