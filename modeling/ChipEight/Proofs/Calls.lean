import ChipEight.Proofs.Effects

/-! A return closes the call that it belongs to. Along any run of steps and key events the
frame of a call, its return address on top of the calls that were open before, stays at the
bottom of the call stack until the return that takes it away.
-/

namespace ChipEight.Machine

/-- A move of a run without resets: a step that succeeds, a countdown of the timers or a key
event.
-/
inductive Move : Machine → Machine → Prop
  | step {m : Machine} {request : Request} (succeeds : m.step.2 = .ok request)
    : Move m m.step.1
  | countDown (m : Machine) : Move m m.countDown
  | setKey (m : Machine) (key : Key) (down : Bool) : Move m (m.setKey key down)
  | pressKey (m : Machine) (key : Nat) : Move m (m.pressKey key)

/-- What a move can do to the open calls. -/
inductive StackMove (m next : Machine) : Prop
  | kept (same : next.stack = m.stack)
  | called {address : Nat} (opened : next.stack.entries = address :: m.stack.entries)
  | returned {target : Nat} (closed : m.stack.entries = target :: next.stack.entries)
    (fetched : m.memory.fetch m.pc = .ok 0x00EE)
    (stepped : m.step = (next, .ok .nothing))
    (jumped : next.pc = target % memorySize)

/-- A successful step keeps the open calls, opens one or closes the innermost one by `00EE`.
Witness: the stack effect of the decoded instruction.
-/
theorem stackMove_of_step {m next : Machine} {request : Request}
    (h : m.step = (next, .ok request))
    : StackMove m next := by
  obtain ⟨opcode, done, fetched, executed, rfl, rfl⟩ := step_eq_ok h
  have effect := execute_stackEffect executed
  generalize decoded : Instruction.decode opcode = instruction at effect executed
  cases effect with
  | kept _ _ same => exact .kept same
  | called pushed _ => exact .called (CallStack.entries_push pushed).2
  | @returned target done popped jumped =>
    have ret : opcode = 0x00EE := Instruction.decode_eq_ret_iff.mp decoded
    have silent : done.request = .nothing := by
      simp only [execute, popped, Except.ok.injEq] at executed
      exact executed ▸ rfl
    subst ret
    refine .returned (CallStack.entries_pop popped) fetched (silent ▸ h) ?_
    simp only [advance, jumped, Flow.apply]

theorem Move.stackMove {m next : Machine} (move : Move m next) : StackMove m next := by
  cases move with
  | step succeeds => exact stackMove_of_step (Prod.ext rfl succeeds)
  | countDown =>
    refine .kept ?_
    unfold Machine.countDown
    split <;> rfl
  | setKey => exact .kept rfl
  | pressKey =>
    refine .kept ?_
    unfold Machine.pressKey
    split <;> rfl

/-- A frame at the bottom of the call stack stays there as long as at least its calls are
open.
-/
theorem Move.frame_suffix {m next : Machine} {frame : List Nat} (move : Move m next)
    (below : frame <:+ m.stack.entries) (deep : frame.length ≤ next.stack.depth)
    : frame <:+ next.stack.entries := by
  cases move.stackMove with
  | kept same => exact same ▸ below
  | called opened =>
    rw [opened]
    exact below.trans (List.suffix_cons _ _)
  | @returned target closed =>
    rw [closed] at below
    rcases List.suffix_cons_iff.mp below with whole | inner
    · simp only [whole, CallStack.depth, List.length_cons] at deep
      omega
    · exact inner

/-- A run that starts with a successful call and goes on in moves up to the first state after
it in which no more calls are open than before the call.
-/
structure CallSpan (run : Nat → Machine) (last : Nat) : Prop where
  fetched
    : ∃ opcode, (run 0).memory.fetch (run 0).pc = .ok opcode ∧ opcode.family = 0x2
  called : ∃ request, (run 0).step = (run 1, .ok request)
  moves : ∀ i, 0 < i → i < last → (run i).Move (run (i + 1))
  deeper : ∀ i, 0 < i → i < last → (run 0).stack.depth < (run i).stack.depth
  back : 0 < last ∧ (run last).stack.depth = (run 0).stack.depth

namespace CallSpan

variable {run : Nat → Machine} {last : Nat}

/-- The frame of the call: its return address, not reduced, on top of the calls that were open
before.
-/
def frame (run : Nat → Machine) : List Nat :=
  ((run 0).pc + opcodeSize) :: (run 0).stack.entries

/-- The call puts its frame onto the stack. -/
theorem frame_opened (span : CallSpan run last)
    : (run 1).stack.entries = frame run := by
  obtain ⟨opcode, fetched, family⟩ := span.fetched
  obtain ⟨request, called⟩ := span.called
  obtain ⟨other, done, again, executed, next, _⟩ := step_eq_ok called
  cases fetched.symm.trans again
  have decoded := Instruction.decode_eq_call_iff.mpr ⟨family, rfl⟩
  rw [decoded] at executed
  cases execute_stackEffect executed with
  | called pushed _ =>
    rw [next]
    exact (CallStack.entries_push pushed).2
  | kept _ noCall _ => exact absurd rfl (noCall opcode.nnn)

/-- Until the run comes back, the frame of the call lies at the bottom of the stack.
Witness: induction on the moves; every inner return leaves more calls open than there were
before the call.
-/
theorem frame_suffix (span : CallSpan run last) {i : Nat} (positive : 0 < i)
    (inside : i < last)
    : frame run <:+ (run i).stack.entries := by
  induction i with
  | zero => omega
  | succ i ih =>
    by_cases first : i = 0
    · subst first
      exact span.frame_opened ▸ List.suffix_refl _
    · have below := ih (by omega) (by omega)
      have deep := span.deeper (i + 1) positive inside
      exact (span.moves i (by omega) (by omega)).frame_suffix below deep

end CallSpan

/-- The first move that leaves as many calls open as there were before a call is the return
from it: it executes `00EE`, restores the calls that were open before, and goes on behind the
call. The pushed address is not reduced, so a call at `0xFFE` returns to address zero.
Witness: the frame of the call is all that is left before the last move, whatever was called,
stored or pressed in between, so the last move can only be the return that takes it away.
-/
theorem return_closes_call {run : Nat → Machine} {last : Nat} (span : CallSpan run last)
    : (run 1).stack.entries = ((run 0).pc + opcodeSize) :: (run 0).stack.entries
      ∧ ∃ before,
          last = before + 1
          ∧ (run before).memory.fetch (run before).pc = .ok 0x00EE
          ∧ (run before).step = (run last, .ok .nothing)
          ∧ (run last).stack = (run 0).stack
          ∧ (run last).pc = ((run 0).pc + opcodeSize) % memorySize := by
  have opened := span.frame_opened
  obtain ⟨positive, back⟩ := span.back
  refine ⟨opened, ?_⟩
  have several : last ≠ 1 := by
    rintro rfl
    simp only [CallStack.depth, opened, CallSpan.frame, List.length_cons] at back
    omega
  obtain ⟨before, rfl⟩ : ∃ before, last = before + 1 := ⟨last - 1, by omega⟩
  have deep := span.deeper before (by omega) (by omega)
  have suffix := span.frame_suffix (i := before) (by omega) (by omega)
  -- Before the last move more calls are open than after it, so that move closes one.
  cases (span.moves before (by omega) (by omega)).stackMove with
  | kept same =>
    rw [same] at back
    omega
  | called opened =>
    simp only [CallStack.depth, opened, List.length_cons] at back deep
    omega
  | @returned target closed fetched stepped jumped =>
    have whole : CallSpan.frame run = (run before).stack.entries := by
      apply suffix.eq_of_length
      simp only [CallStack.depth] at back
      simp only [CallSpan.frame, closed, List.length_cons, back]
    rw [closed, CallSpan.frame] at whole
    obtain ⟨rfl, entries⟩ := List.cons.inj whole
    exact ⟨before, rfl, fetched, stepped, congrArg CallStack.mk entries.symm, jumped⟩

-----------------------------------------------------------------------------------------
-- A call from the end of memory, with an inner call and a prompt before it returns
-----------------------------------------------------------------------------------------

/-- A machine about to call from the last two cells of memory. -/
def wrappingCaller : Machine :=
  { powerOn { stream := fun _ => 0 } with
    memory :=
      (Memory.writeBlock {} 0xFFE [0x20, 0x00]).writeBlock 0x000
        [0x20, 0x04, 0x00, 0xEE, 0xF0, 0x0A, 0x00, 0xEE]
    pc := 0xFFE }

/-- The states that follow it: two calls, a prompt with its answer, and two returns. -/
def wrappingCall : Nat → Machine
  | 0 => wrappingCaller
  | 1 => { wrappingCaller with opcode := 0x2000, pc := 0x000, stack := ⟨[0x1000]⟩ }
  | 2 => { wrappingCaller with opcode := 0x2004, pc := 0x004, stack := ⟨[0x002, 0x1000]⟩ }
  | 3 =>
    { wrappingCaller with
      opcode := 0xF00A, pc := 0x006, stack := ⟨[0x002, 0x1000]⟩
      keypad := { pending := some Registers.offset } }
  | 4 =>
    { wrappingCaller with
      opcode := 0xF00A, pc := 0x006, stack := ⟨[0x002, 0x1000]⟩
      registers := wrappingCaller.registers.set Registers.offset 0xB }
  | 5 =>
    { wrappingCaller with
      opcode := 0x00EE, pc := 0x002, stack := ⟨[0x1000]⟩
      registers := wrappingCaller.registers.set Registers.offset 0xB }
  | _ =>
    { wrappingCaller with
      opcode := 0x00EE, pc := 0x000, stack := {}
      registers := wrappingCaller.registers.set Registers.offset 0xB }

/-- The opcodes on the way. -/
def wrappingOpcode : Nat → Opcode
  | 0 => 0x2000
  | 1 => 0x2004
  | 2 => 0xF00A
  | _ => 0x00EE

theorem fetch_wrappingCall {i : Nat} (inside : i < 6)
    : (wrappingCall i).memory.fetch (wrappingCall i).pc = .ok (wrappingOpcode i) := by
  match i, inside with
  | 0, _ | 1, _ | 2, _ | 3, _ | 4, _ | 5, _ =>
    simp [wrappingCall, wrappingCaller, wrappingOpcode, Memory.fetch_of_lt,
      Memory.writeBlock, Memory.read_write]
    decide

/-- The states follow each other by steps, but for the answer to the prompt. -/
theorem step_wrappingCall {i : Nat} (inside : i < 6) (noPrompt : i ≠ 3)
    : (wrappingCall i).step
      = (wrappingCall (i + 1), .ok (if i = 2 then .wait else .nothing)) := by
  rw [step_of_ok (fetch_wrappingCall inside)]
  match i, inside with
  | 0, _ | 1, _ | 2, _ | 4, _ | 5, _ => rfl

/-- The first call is open until the sixth move. -/
theorem callSpan_wrappingCall : CallSpan wrappingCall 6 where
  fetched := ⟨0x2000, fetch_wrappingCall (by decide), by decide⟩
  called := ⟨.nothing, step_wrappingCall (by decide) (by decide)⟩
  moves i _ inside := by
    by_cases prompt : i = 3
    · subst prompt
      exact .pressKey (wrappingCall 3) 0xB
    · have stepped := step_wrappingCall inside prompt
      have moved := Move.step (congrArg Prod.snd stepped)
      rwa [stepped] at moved
  deeper i _ inside := by
    match i, inside with
    | 1, _ | 2, _ | 3, _ | 4, _ | 5, _ => decide
  back := by decide

/-- The call from `0xFFE` pushes `0x1000` and returns to address zero. -/
theorem return_closes_call_at_end
    : (wrappingCall 1).stack.entries = [0x1000]
      ∧ ∃ before,
          6 = before + 1
          ∧ (wrappingCall before).memory.fetch (wrappingCall before).pc = .ok 0x00EE
          ∧ (wrappingCall before).step = (wrappingCall 6, .ok .nothing)
          ∧ (wrappingCall 6).stack = {}
          ∧ (wrappingCall 6).pc = 0x000 :=
  return_closes_call callSpan_wrappingCall

end ChipEight.Machine
