import ChipEight.Proofs.Failures
import ChipEight.Proofs.Footprint

/-! A prompt stops the machine and is answered once. The opcode `FX0A` is the last one of its
batch; until the next key press nothing but the held keys changes, and of the presses that
follow only the first one writes a register.
-/

namespace ChipEight

-----------------------------------------------------------------------------------------
-- What a run asks and what is pressed
-----------------------------------------------------------------------------------------

/-- What matters for prompts in a run. -/
inductive PromptEvent where
  /-- A prompt for a register was executed. -/
  | asked (x : Register)
  /-- A key was pressed. -/
  | pressed (key : Nat)

/-- The event of an executed opcode, if it is a prompt. -/
def Opcode.prompt? (opcode : Opcode) : Option PromptEvent :=
  if opcode.IsMisc 0x0A then some (.asked opcode.x) else none

/-- The register of the last prompt that no key press followed, after some events; `open?` is
the one from before them.
-/
def unanswered (open? : Option Register) : List PromptEvent → Option Register
  | [] => open?
  | .asked x :: rest => unanswered (some x) rest
  | .pressed _ :: rest => unanswered none rest

/-- Prompts are asked one at a time: each one while no other is unanswered. -/
def OneAtATime (open? : Option Register) : List PromptEvent → Prop
  | [] => True
  | .asked x :: rest => open? = none ∧ OneAtATime (some x) rest
  | .pressed _ :: rest => OneAtATime none rest

theorem unanswered_append (open? : Option Register) (first second : List PromptEvent)
    : unanswered open? (first ++ second) = unanswered (unanswered open? first) second := by
  induction first generalizing open? with
  | nil => rfl
  | cons event rest ih => cases event <;> exact ih _

theorem oneAtATime_append {open? : Option Register} {first second : List PromptEvent}
    (before : OneAtATime open? first) (after : OneAtATime (unanswered open? first) second)
    : OneAtATime open? (first ++ second) := by
  induction first generalizing open? with
  | nil => exact after
  | cons event rest ih =>
    cases event with
    | asked x => exact ⟨before.1, ih before.2 after⟩
    | pressed key => exact ih before after

/-- Without a new prompt, no prompt becomes unanswered. -/
theorem unanswered_none {events : List PromptEvent} (noPrompt : ∀ x, .asked x ∉ events)
    : unanswered none events = none := by
  induction events with
  | nil => rfl
  | cons event rest ih =>
    cases event with
    | asked x => exact absurd List.mem_cons_self (noPrompt x)
    | pressed key => exact ih (fun x member => noPrompt x (List.mem_cons_of_mem _ member))

namespace Machine

/-- The events of an operation: the prompts that a tick executes, or a key press. -/
def promptEvents (m : Machine) : Action → List PromptEvent
  | .cycle count => (m.executed count).filterMap Opcode.prompt?
  | .pressKey key => [.pressed key]
  | _ => []

/-- The events of a run, in turn. -/
def promptLog (m : Machine) : List Action → List PromptEvent
  | [] => []
  | action :: rest => m.promptEvents action ++ (m.act action).1.promptLog rest

-----------------------------------------------------------------------------------------
-- Steps
-----------------------------------------------------------------------------------------

/-- The machine after it executed a prompt. -/
def prompted (m : Machine) (opcode : Opcode) : Machine :=
  { m with opcode, pc := (m.pc + 2) % memorySize, keypad := m.keypad.await opcode.x }

theorem isPaused_prompted (m : Machine) (opcode : Opcode)
    : (m.prompted opcode).isPaused = true := rfl

/-- A prompt is noted, waits for its register and lets the machine continue behind it. -/
theorem step_of_prompt {m : Machine} {opcode : Opcode}
    (fetched : m.memory.fetch m.pc = .ok opcode) (prompt : opcode.IsMisc 0x0A)
    : m.step = (m.prompted opcode, .ok .wait) := by
  have decoded : Instruction.decode opcode = .misc .awaitKey opcode.x :=
    Instruction.decode_eq_misc_iff.mpr ⟨prompt, rfl⟩
  rw [step_of_ok fetched, decoded]
  rfl

/-- Every other opcode leaves the keypad alone. -/
theorem keypad_step {m next : Machine} {request : Request}
    (stepped : m.step = (next, .ok request)) (other : ¬next.opcode.IsMisc 0x0A)
    : next.keypad = m.keypad := by
  obtain ⟨_, moved, effect, same⟩ := step_effect stepped
  rw [same]
  apply Decidable.byContradiction
  intro changed
  exact other (effect.keypad_changed changed)

-----------------------------------------------------------------------------------------
-- Batches and ticks
-----------------------------------------------------------------------------------------

theorem isPaused_eq_false_iff {m : Machine}
    : m.isPaused = false ↔ m.keypad.pending = none :=
  Option.isSome_eq_false_iff.trans Option.isNone_iff_eq_none

theorem isPaused_of_executed {m : Machine} {count : Nat} {opcode : Opcode}
    (member : opcode ∈ m.executed count)
    : m.isPaused = false := by
  apply Bool.eq_false_iff.mpr
  intro paused
  rw [executed_of_paused paused] at member
  cases member

/-- A prompt ends its batch in the state that it leaves behind. Witness: induction on the
steps that are left; after a prompt the machine is paused and executes nothing.
-/
theorem batch_of_prompt {m : Machine} {count : Nat} {opcode : Opcode}
    (asks : opcode ∈ m.executed count) (prompt : opcode.IsMisc 0x0A) (drew : Bool)
    : ∃ earlier ran redraw,
        m.executed count = earlier ++ [opcode]
        ∧ (∀ other ∈ earlier, ¬other.IsMisc 0x0A)
        ∧ Steps earlier.length m ran
        ∧ ran.isPaused = false
        ∧ ran.memory.fetch ran.pc = .ok opcode
        ∧ m.batch count drew = (ran.prompted opcode, .ok redraw) := by
  induction count generalizing m drew with
  | zero => cases asks
  | succ count ih =>
    have unpaused := isPaused_of_executed asks
    cases outcome : m.step with
    | mk next result =>
      cases result with
      | error fault =>
        rw [executed_of_failure outcome] at asks
        cases asks
      | ok request =>
        have fetched := (step_effect outcome).1
        rw [executed_of_step unpaused outcome] at asks ⊢
        rw [batch_of_step unpaused outcome]
        by_cases first : next.opcode.IsMisc 0x0A
        · have same : next = m.prompted next.opcode :=
            congrArg Prod.fst (outcome.symm.trans (step_of_prompt fetched first))
          have waits : next.isPaused = true := by
            rw [same]
            exact isPaused_prompted m _
          -- Nothing follows, so the opcode that asks is this one.
          rw [executed_of_paused waits] at asks ⊢
          rw [batch_of_paused waits]
          cases List.mem_singleton.mp asks
          exact ⟨[], m, _, rfl, by simp, .none m, unpaused, fetched, by rw [← same]⟩
        · have later : opcode ∈ next.executed count := by
            rcases List.mem_cons.mp asks with rfl | later
            · exact absurd prompt first
            · exact later
          obtain ⟨earlier, ran, redraw, whole, others, steps, waiting, fetch, ended⟩ :=
            ih later (drew || request == .redraw)
          refine ⟨next.opcode :: earlier, ran, redraw, ?_, ?_, ?_, waiting, fetch, ended⟩
          · rw [whole]
            rfl
          · intro other member
            rcases List.mem_cons.mp member with rfl | member
            · exact first
            · exact others other member
          · exact .more unpaused outcome steps

/-- A batch without a prompt leaves the keypad alone, by induction on the steps that are left.
-/
theorem keypad_batch {m : Machine} {count : Nat}
    (others : ∀ opcode ∈ m.executed count, ¬opcode.IsMisc 0x0A) (drew : Bool)
    : (m.batch count drew).1.keypad = m.keypad := by
  induction count generalizing m drew with
  | zero => rfl
  | succ count ih =>
    cases paused : m.isPaused with
    | true => rw [batch_of_paused paused]
    | false =>
      cases outcome : m.step with
      | mk next result =>
        cases result with
        | error fault =>
          obtain ⟨_, same⟩ := step_error_withOpcode outcome
          rw [batch_of_failure paused outcome, same]
        | ok request =>
          rw [executed_of_step paused outcome] at others
          rw [batch_of_step paused outcome, ih, keypad_step outcome]
          · exact others next.opcode List.mem_cons_self
          · exact fun opcode member => others opcode (List.mem_cons_of_mem _ member)

/-- A prompt ends its tick as well: the machine waits, so the timers are not counted down. -/
theorem cycle_of_prompt {m : Machine} {count : Nat} {opcode : Opcode}
    (asks : opcode ∈ m.executed count) (prompt : opcode.IsMisc 0x0A)
    : ∃ earlier ran redraw,
        m.executed count = earlier ++ [opcode]
        ∧ (∀ other ∈ earlier, ¬other.IsMisc 0x0A)
        ∧ Steps earlier.length m ran
        ∧ ran.memory.fetch ran.pc = .ok opcode
        ∧ m.cycle count
          = (ran.prompted opcode,
              .ok { tone := decide (0 < ran.sound.value), redraw, waiting := true }) := by
  obtain ⟨earlier, ran, redraw, whole, others, steps, _, fetched, ended⟩ :=
    batch_of_prompt asks prompt false
  refine ⟨earlier, ran, redraw, whole, others, steps, fetched, ?_⟩
  have waits : (ran.prompted opcode).countDown = ran.prompted opcode :=
    if_pos (isPaused_prompted ran opcode)
  simp only [cycle, ended, waits, toneActive, Timer.isActive_eq, isPaused_prompted]
  rfl

theorem keypad_cycle {m : Machine} {count : Nat}
    (others : ∀ opcode ∈ m.executed count, ¬opcode.IsMisc 0x0A)
    : (m.cycle count).1.keypad = m.keypad := by
  have kept := keypad_batch others false
  unfold cycle
  split
  · next ran => rwa [ran] at kept
  · next ran =>
    rw [ran] at kept
    obtain ⟨_, _, same⟩ := countDown_eq _
    rw [same]
    exact kept

/-- A tick asks nothing and keeps the prompt that waits, or it asks once and nothing waited. -/
theorem promptEvents_cycle (m : Machine) (count : Nat)
    : (m.promptEvents (.cycle count) = [] ∧ (m.cycle count).1.keypad = m.keypad)
      ∨ ∃ x,
          m.keypad.pending = none
          ∧ m.promptEvents (.cycle count) = [.asked x]
          ∧ (m.cycle count).1.keypad.pending = some x := by
  by_cases asks : ∃ opcode ∈ m.executed count, opcode.IsMisc 0x0A
  · obtain ⟨opcode, member, prompt⟩ := asks
    obtain ⟨earlier, ran, redraw, whole, others, _, _, ended⟩ := cycle_of_prompt member prompt
    refine .inr ⟨opcode.x, isPaused_eq_false_iff.mp (isPaused_of_executed member), ?_, ?_⟩
    · have silent : earlier.filterMap Opcode.prompt? = [] := by
        apply List.filterMap_eq_nil_iff.mpr
        intro other before
        exact if_neg (others other before)
      have asked : opcode.prompt? = some (.asked opcode.x) := if_pos prompt
      rw [promptEvents, whole, List.filterMap_append, silent, List.filterMap_cons_some asked]
      rfl
    · rw [ended]
      rfl
  · have others : ∀ opcode ∈ m.executed count, ¬opcode.IsMisc 0x0A :=
      fun opcode member prompt => asks ⟨opcode, member, prompt⟩
    refine .inl ⟨?_, keypad_cycle others⟩
    apply List.filterMap_eq_nil_iff.mpr
    intro opcode member
    exact if_neg (others opcode member)

-----------------------------------------------------------------------------------------
-- Key presses
-----------------------------------------------------------------------------------------

/-- The machine after its prompt was answered. -/
def answered (m : Machine) (x : Register) (key : Nat) : Machine :=
  { m with
    registers := m.registers.set x (UInt8.ofNat key)
    keypad := { m.keypad with pending := none } }

/-- A press without a prompt changes nothing at all. -/
theorem pressKey_of_none {m : Machine} (free : m.keypad.pending = none) (key : Nat)
    : m.pressKey key = m := by
  obtain ⟨name, opcode, memory, registers, index, pc, stack, delay, sound, display,
    ⟨held, pending⟩, random, program⟩ := m
  cases free
  rfl

theorem pressKey_of_some {m : Machine} {x : Register} (waits : m.keypad.pending = some x)
    (key : Nat)
    : m.pressKey key = m.answered x key := by
  simp only [pressKey, Keypad.press, waits, Option.map_some, answered]

-----------------------------------------------------------------------------------------
-- Runs
-----------------------------------------------------------------------------------------

/-- What waits after an operation is what its events leave unanswered. -/
theorem act_prompts (m : Machine) {action : Action} (play : action.IsPlay)
    : OneAtATime m.keypad.pending (m.promptEvents action)
      ∧ (m.act action).1.keypad.pending
        = unanswered m.keypad.pending (m.promptEvents action) := by
  cases play with
  | pressKey key =>
    refine ⟨trivial, ?_⟩
    cases waits : m.keypad.pending with
    | none =>
      simp only [act, pressKey_of_none waits, waits]
      rfl
    | some x =>
      simp only [act, pressKey_of_some waits]
      rfl
  | quiet quiet =>
    cases quiet with
    | setKey key down => exact ⟨trivial, rfl⟩
    | cycle count =>
      rcases m.promptEvents_cycle count with ⟨silent, kept⟩ | ⟨x, free, asked, waits⟩
      · rw [silent]
        exact ⟨trivial, congrArg Keypad.pending kept⟩
      · rw [asked]
        exact ⟨⟨free, trivial⟩, waits⟩

/-- Along a run prompts are asked one at a time, and the machine waits for the unanswered one.
Witness: induction on the run.
-/
theorem run_prompts {m : Machine} {actions : List Action}
    (play : ∀ action ∈ actions, action.IsPlay)
    : OneAtATime m.keypad.pending (m.promptLog actions)
      ∧ (m.run actions).1.keypad.pending
        = unanswered m.keypad.pending (m.promptLog actions) := by
  induction actions generalizing m with
  | nil => exact ⟨trivial, rfl⟩
  | cons action rest ih =>
    obtain ⟨first, waits⟩ := m.act_prompts (play action List.mem_cons_self)
    obtain ⟨later, ended⟩ := ih (m := (m.act action).1) (List.forall_mem_cons.mp play).2
    rw [waits] at later ended
    rw [promptLog, unanswered_append]
    exact ⟨oneAtATime_append first later, ended⟩

/-- While a prompt waits, ticks and held keys change nothing but the held keys. -/
theorem run_quiet {m : Machine} {x : Register} {quiet : List Action}
    (waits : m.keypad.pending = some x) (all : ∀ action ∈ quiet, action.IsQuiet)
    : ∃ held, (m.run quiet).1 = { m with keypad := { held, pending := some x } } := by
  induction quiet generalizing m with
  | nil => exact ⟨m.keypad.held, by rw [← waits]; rfl⟩
  | cons action rest ih =>
    have others := fun other member => all other (List.mem_cons_of_mem action member)
    cases all action List.mem_cons_self with
    | cycle count =>
      have paused : m.isPaused = true := by simp [isPaused, Keypad.isWaiting, waits]
      have frozen : (m.act (.cycle count)).1 = m := by rw [act, cycle_of_paused paused]
      rw [run, frozen]
      exact ih waits others
    | setKey key down =>
      exact ih (m := m.setKey key down) waits others

/-- In a run from a machine that waits for nothing, a press answers the unanswered prompt of
the run, if there is one, and changes nothing otherwise.
-/
theorem pressKey_run {m : Machine} (free : m.keypad.pending = none) {actions : List Action}
    (play : ∀ action ∈ actions, action.IsPlay) (key : Nat)
    : (m.run actions).1.pressKey key
      = match unanswered none (m.promptLog actions) with
        | none => (m.run actions).1
        | some x => (m.run actions).1.answered x key := by
  have waits := (run_prompts (m := m) play).2
  rw [free] at waits
  split
  · next closed => exact pressKey_of_none (waits.trans closed) key
  · next asked => exact pressKey_of_some (waits.trans asked) key

/-- A prompt is the last opcode of its tick, which counts no timer down. Until the next key
press every tick changes nothing and only reports that the machine waits. The first press
writes the register of the prompt and takes the prompt away; as long as no other prompt is
executed, every further press changes nothing.
In a whole run prompts are asked one at a time, the machine waits as long as one is unanswered,
and a press answers that one or changes nothing.
Witness: a batch makes no step behind a prompt, and induction on the run.
-/
theorem prompt_answered_once {m : Machine} {count : Nat} {opcode : Opcode}
    (asks : opcode ∈ m.executed count) (prompt : opcode.IsMisc 0x0A)
    : (∃ earlier ran redraw,
        m.executed count = earlier ++ [opcode]
        ∧ Steps earlier.length m ran
        ∧ ran.memory.fetch ran.pc = .ok opcode
        ∧ m.cycle count
          = (ran.prompted opcode,
              .ok { tone := decide (0 < ran.sound.value), redraw, waiting := true }))
      ∧ (∀ quiet : List Action,
          (∀ action ∈ quiet, action.IsQuiet)
          → let stopped := (m.cycle count).1
            let waits := (stopped.run quiet).1
            (∃ held, waits = { stopped with keypad := { held, pending := some opcode.x } })
            ∧ (∀ count,
                waits.cycle count
                  = (waits,
                      .ok
                        { tone := decide (0 < waits.sound.value)
                          redraw := false
                          waiting := true }))
            ∧ ∀ key,
                waits.pressKey key = waits.answered opcode.x key
                ∧ ∀ later : List Action,
                    (∀ action ∈ later, action.IsPlay)
                    → (∀ x, .asked x ∉ (waits.pressKey key).promptLog later)
                    → ∀ again,
                        ((waits.pressKey key).run later).1.pressKey again
                          = ((waits.pressKey key).run later).1)
      ∧ ∀ actions : List Action,
          (∀ action ∈ actions, action.IsPlay)
          → let last := (m.run actions).1
            let waiting? := unanswered none (m.promptLog actions)
            OneAtATime none (m.promptLog actions)
            ∧ last.isPaused = waiting?.isSome
            ∧ ∀ key,
                last.pressKey key
                  = match waiting? with
                    | none => last
                    | some x => last.answered x key := by
  have free : m.keypad.pending = none := isPaused_eq_false_iff.mp (isPaused_of_executed asks)
  obtain ⟨earlier, ran, redraw, whole, _, steps, fetched, ended⟩ :=
    cycle_of_prompt asks prompt
  refine ⟨⟨earlier, ran, redraw, whole, steps, fetched, ended⟩, ?_, ?_⟩
  · intro quiet all stopped waits
    have asked : stopped.keypad.pending = some opcode.x := by
      simp only [stopped, ended]
      rfl
    obtain ⟨held, same⟩ := run_quiet asked all
    have pending : waits.keypad.pending = some opcode.x := congrArg (·.keypad.pending) same
    refine ⟨⟨held, same⟩, ?_, ?_⟩
    · intro count
      exact cycle_of_paused (congrArg Option.isSome pending) count
    · intro key
      have pressed : waits.pressKey key = waits.answered opcode.x key :=
        pressKey_of_some pending key
      refine ⟨pressed, ?_⟩
      intro later play noPrompt again
      rw [pressKey_run (by rw [pressed]; rfl) play, unanswered_none noPrompt]
  · intro actions play last waiting?
    obtain ⟨single, waits⟩ := run_prompts (m := m) play
    rw [free] at single waits
    exact ⟨single, congrArg Option.isSome waits, pressKey_run free play⟩

/-- A program that sets VA, prompts for VB and starts over. -/
def prompter : Machine :=
  ((powerOn { stream := fun _ => 0 }).act
    (.loadProgram #[0x6A, 0x05, 0xFB, 0x0A, 0x12, 0x00])).1

/-- A tick of ten steps makes two of them. -/
theorem executed_prompter : prompter.executed 10 = [0x6A05, 0xFB0A] := by
  have first : prompter.memory.fetch 0x200 = .ok 0x6A05 := by
    refine (Memory.fetch_withProgram (i := 0) (by decide) (by decide)).trans ?_
    rfl
  have second : prompter.memory.fetch 0x202 = .ok 0xFB0A := by
    refine (Memory.fetch_withProgram (i := 2) (by decide) (by decide)).trans ?_
    rfl
  let next : Machine :=
    { prompter with
      opcode := 0x6A05
      registers := prompter.registers.set 0xA 0x05
      pc := 0x202 }
  have stepped : prompter.step = (next, .ok .nothing) := step_of_ok (m := prompter) first
  have asked : next.step = (next.prompted 0xFB0A, .ok .wait) :=
    step_of_prompt second ⟨rfl, rfl⟩
  rw [executed_of_step rfl stepped, executed_of_step rfl asked, executed_of_paused rfl]
  rfl

/-- While a key is held, the press of a number outside of the keypad answers the prompt; when
the key is let go, the next press comes too late.
-/
theorem prompt_answered_once_prompter
    : 0xFB0A ∈ prompter.executed 10
      ∧ let waits := ((prompter.cycle 10).1.run [.setKey 3 true, .cycle 10]).1
        let freed := ((waits.pressKey 0x107).run [.setKey 3 false]).1
        waits.pressKey 0x107 = waits.answered 0xB 0x107 ∧ freed.pressKey 9 = freed := by
  have asks : 0xFB0A ∈ prompter.executed 10 := by
    rw [executed_prompter]
    decide
  have quiet : ∀ action ∈ [.setKey 3 true, .cycle 10], Action.IsQuiet action := by
    simp [Action.IsQuiet.cycle, Action.IsQuiet.setKey]
  have play : ∀ action ∈ [.setKey 3 false], Action.IsPlay action := by
    simp [Action.IsPlay.quiet, Action.IsQuiet.setKey]
  have answers := prompt_answered_once asks (by decide)
  obtain ⟨_, _, pressed⟩ := answers.2.1 _ quiet
  refine ⟨asks, (pressed 0x107).1, ?_⟩
  exact (pressed 0x107).2 [.setKey 3 false] play (by simp [promptLog, promptEvents]) 9

end Machine

end ChipEight
