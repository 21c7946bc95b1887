import ChipEight.Fault

/-! The return addresses of the open calls. The innermost call comes first; at most sixteen
calls can be open.
-/

namespace ChipEight

/-- The return addresses of the open calls, innermost first. -/
structure CallStack where
  entries : List Nat := []
  deriving DecidableEq, Repr

namespace CallStack

/-- The number of open calls. -/
def depth (stack : CallStack) : Nat :=
  stack.entries.length

/-- No call is open. -/
def isEmpty (stack : CallStack) : Bool :=
  stack.entries.isEmpty

/-- The return addresses in the order of the calls. -/
def toList (stack : CallStack) : List Nat :=
  stack.entries.reverse

/-- Open a call, unless every nesting level is in use. -/
def push (stack : CallStack) (address : Nat) : Except StackError CallStack :=
  if stack.depth < stackCapacity then
    .ok { entries := address :: stack.entries }
  else
    .error .overflow

/-- Close the innermost call; the result is its return address with the calls that stay
open.
-/
def pop (stack : CallStack) : Except StackError (Nat × CallStack) :=
  match stack.entries with
  | [] => .error .underflow
  | address :: rest => .ok (address, { entries := rest })

/-- A call is refused exactly when every nesting level is in use. -/
theorem push_eq_error_iff {stack : CallStack} {address : Nat} {e : StackError}
    : stack.push address = .error e ↔ e = .overflow ∧ stackCapacity ≤ stack.depth := by
  unfold push
  split
  · simp_all
  · simp_all [eq_comm]

/-- An accepted call found a free nesting level and becomes the innermost one. -/
theorem entries_push {stack pushed : CallStack} {address : Nat}
    (h : stack.push address = .ok pushed)
    : stack.depth < stackCapacity ∧ pushed.entries = address :: stack.entries := by
  unfold push at h
  split at h
  · next room =>
    cases h
    exact ⟨room, rfl⟩
  · cases h

/-- A return takes the innermost call away. -/
theorem entries_pop {stack rest : CallStack} {address : Nat}
    (h : stack.pop = .ok (address, rest))
    : stack.entries = address :: rest.entries := by
  unfold pop at h
  split at h
  · cases h
  · next entries =>
    cases h
    exact entries

/-- A call that is accepted adds its return address behind all others. -/
theorem toList_push {stack pushed : CallStack} {address : Nat}
    (h : stack.push address = .ok pushed)
    : pushed.toList = stack.toList ++ [address] := by
  simp [toList, (entries_push h).2]

/-- Returning from a call that was just opened gives back its address and the old calls. -/
theorem pop_push {stack pushed : CallStack} {address : Nat}
    (h : stack.push address = .ok pushed)
    : pushed.pop = .ok (address, stack) := by
  unfold push at h
  split at h
  · cases h
    rfl
  · cases h

end CallStack

end ChipEight
