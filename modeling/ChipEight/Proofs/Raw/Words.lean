/-! Arithmetic on words of fixed width and access to arrays, with every check made: where a
sum does not fit into its type or an index lies outside of its array, there is no result.
-/

namespace ChipEight.Raw

-----------------------------------------------------------------------------------------
-- Words
-----------------------------------------------------------------------------------------

/-- A result of 64 bits, if it fits. -/
def word? (value : Nat) : Option Nat :=
  if value < 0x10000000000000000 then some value else none

/-- A result of 16 bits, if it fits. -/
def half? (value : Nat) : Option UInt16 :=
  if value < 0x10000 then some (UInt16.ofNat value) else none

/-- A number fits into 32 bits with a sign. -/
def FitsInt32 (value : Int) : Prop :=
  -0x80000000 ≤ value ∧ value < 0x80000000

instance (value : Int) : Decidable (FitsInt32 value) :=
  inferInstanceAs (Decidable (_ ∧ _))

/-- A result of 32 bits with a sign, if it fits. -/
def int32? (value : Int) : Option Int :=
  if FitsInt32 value then some value else none

/-- The lowest 32 bits of a word, taken as a number with a sign. -/
def toInt32 (value : Nat) : Int :=
  (value : Int).bmod 0x100000000

/-- A byte shifted to the right, by less than its width. -/
def shiftRight? (byte : UInt8) (places : Nat) : Option UInt8 :=
  if places < 8 then some (byte >>> UInt8.ofNat places) else none

/-- A number below the size of memory, and more, fits into a word. -/
theorem word?_of_le {value : Nat} (small : value ≤ 0x20000) : word? value = some value :=
  if_pos (by omega)

/-- The cast to 32 bits drops multiples of the height of the screen only. -/
theorem toInt32_emod (row : Nat) : toInt32 row % 32 = row % 32 := by
  have divides : (32 : Int) ∣ ((0x100000000 : Nat) : Int) := ⟨0x8000000, by simp⟩
  have lowest : toInt32 row % ((0x100000000 : Nat) : Int) % 32
      = (row : Int) % ((0x100000000 : Nat) : Int) % 32 :=
    congrArg (· % 32) Int.bmod_emod
  rwa [Int.emod_emod_of_dvd _ divides, Int.emod_emod_of_dvd _ divides] at lowest

theorem toInt32_of_lt {value : Nat} (small : value < 0x80000000) : toInt32 value = value :=
  Int.bmod_eq_of_le_mul_two (by omega) (by omega)

-----------------------------------------------------------------------------------------
-- Arrays
-----------------------------------------------------------------------------------------

variable {α : Type}

/-- Put a value at an index, if there is such a cell. -/
def store? (cells : Array α) (i : Nat) (value : α) : Option (Array α) :=
  if inside : i < cells.size then some (cells.set i value) else none

/-- Put values at successive indices; what lies behind the end is dropped. -/
def overwrite (cells : Array α) (start : Nat) : List α → Array α
  | [] => cells
  | value :: rest => overwrite (cells.setIfInBounds start value) (start + 1) rest

/-- Copy values into a slice from `start` on, if the whole slice lies inside. -/
def copy? (cells : Array α) (start : Nat) (values : List α) : Option (Array α) := do
  let stop ← word? (start + values.length)
  if stop ≤ cells.size then some (overwrite cells start values) else none

/-- Storing into a vector of fixed size succeeds inside of its size. -/
theorem store?_toArray {n : Nat} (cells : Vector α n) {i : Nat} (inside : i < n) (value : α)
    : store? cells.toArray i value = some (cells.set i value inside).toArray := by
  simp [store?, inside]

theorem getElem?_toArray {n : Nat} (cells : Vector α n) {i : Nat} (inside : i < n)
    : cells.toArray[i]? = some cells[i] := by
  simp [inside]

end ChipEight.Raw
