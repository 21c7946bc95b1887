import ChipEight.Proofs.FrameWaiting
import ChipEight.Proofs.Prompts
import Mathlib.Data.List.Chain

/-! Fresh presses and repeats. A press reaches the machine only if its key has no deadline, so
what counts is whether a look at the clock has taken the last deadline away. Presses of a key
in quick succession are one hold: the first of them reaches the machine, and the key stays
down.
-/

namespace ChipEight

-----------------------------------------------------------------------------------------
-- What a press gives to the machine
-----------------------------------------------------------------------------------------

namespace KeyHold

variable {hold : KeyHold} {m : Machine} {key : Key}

theorem press_of_none (free : hold.deadline? key = none) (m : Machine) (now : Nat)
    : (hold.press m key now).2 = (m.setKey key true).pressKey key.val := by
  simp only [press, free, Option.isNone_none, if_true]

/-- A repeat changes nothing in the machine. -/
theorem press_of_some {deadline : Nat} (stored : hold.deadline? key = some deadline)
    (m : Machine) (now : Nat)
    : (hold.press m key now).2 = m := by
  simp only [press, stored, Option.isNone_some, Bool.false_eq_true, if_false]

theorem releaseKey_of_not_due {due : Nat → Bool}
    (ahead : ∀ deadline, hold.deadline? key = some deadline → due deadline = false)
    : releaseKey due (hold, m) key = (hold, m) := by
  rw [releaseKey]
  cases stored : hold.deadline? key with
  | none => rfl
  | some deadline => simp only [ahead deadline stored, Bool.false_eq_true, if_false]

/-- While no deadline is due nothing is let go, by induction on the keys. -/
theorem releaseWhere_of_not_due {due : Nat → Bool}
    (ahead : ∀ key deadline, hold.deadline? key = some deadline → due deadline = false)
    : hold.releaseWhere due m = (hold, m) := by
  rw [releaseWhere]
  induction List.finRange keyCount with
  | nil => rfl
  | cons key rest ih => rw [List.foldl_cons, releaseKey_of_not_due (ahead key), ih]

end KeyHold

namespace Terminal

-----------------------------------------------------------------------------------------
-- How long a deadline is kept
-----------------------------------------------------------------------------------------

/-- The event takes away the deadline that a press of the key at this time has set, or puts
another one in its place.
-/
def LoopEvent.Replaces (key : Key) (time : Nat) : LoopEvent → Prop
  | .press pressed _ => pressed = key
  | .expire now => time + holdTime ≤ now
  | .reset => True
  | .frame _ | .cycle _ => False

/-- The last press of the key was at this time, and neither a reset nor a look at the clock
after the hold time followed.
-/
def HeldSince (key : Key) (time : Nat) (events : List LoopEvent) : Prop :=
  ∃ earlier later,
    events = earlier ++ .press key time :: later
    ∧ ∀ event ∈ later, ¬event.Replaces key time

theorem heldSince_concat {key : Key} {time : Nat} {events : List LoopEvent}
    {event : LoopEvent}
    : HeldSince key time (events ++ [event])
      ↔ event = .press key time ∨ HeldSince key time events ∧ ¬event.Replaces key time := by
  constructor
  · rintro ⟨earlier, later, whole, kept⟩
    rcases List.eq_nil_or_concat later with rfl | ⟨before, last, rfl⟩
    · have same := List.append_inj_right' whole rfl
      exact .inl (List.cons.inj same).1
    · rw [List.concat_eq_append, ← List.cons_append, ← List.append_assoc] at whole
      have same := List.append_inj_right' whole rfl
      have start := List.append_inj_left' whole rfl
      cases (List.cons.inj same).1
      refine .inr ⟨⟨earlier, before, start, ?_⟩, kept event (by simp)⟩
      exact fun other member => kept other (by simp [member])
  · rintro (rfl | ⟨⟨earlier, later, rfl, kept⟩, last⟩)
    · exact ⟨events, [], rfl, by simp⟩
    · refine ⟨earlier, later ++ [event], by simp, ?_⟩
      intro other member
      rcases List.mem_append.mp member with inside | same
      · exact kept other inside
      · rwa [List.mem_singleton.mp same]

/-- Before any event no key is held. -/
theorem not_heldSince_nil (key : Key) (time : Nat) : ¬HeldSince key time [] := by
  rintro ⟨earlier, later, whole, _⟩
  simp at whole

namespace Console

/-- A deadline is there exactly as long as the last press of its key was not replaced, by
induction on the events.
-/
theorem deadline?_run_eq_some_iff {console : Console}
    (fresh : ∀ key, console.hold.deadline? key = none) {events : List LoopEvent} {key : Key}
    {deadline : Nat}
    : (console.run events).hold.deadline? key = some deadline
      ↔ ∃ time, HeldSince key time events ∧ deadline = time + holdTime := by
  induction events using List.reverseRecOn with
  | nil => simp [run, fresh, not_heldSince_nil]
  | append_singleton events event ih =>
    simp only [run_concat, deadline?_after, heldSince_concat]
    cases event with
    | reset => simp [LoopEvent.Replaces]
    | press pressed now =>
      by_cases same : pressed = key
      · simp [LoopEvent.Replaces, same, eq_comm]
      · simp [LoopEvent.Replaces, same, ih]
    | expire now =>
      simp only [Option.filter_eq_some_iff, ih, LoopEvent.Replaces, decide_eq_true_eq]
      constructor
      · rintro ⟨⟨time, held, rfl⟩, ahead⟩
        exact ⟨time, .inr ⟨held, Nat.not_le.mpr ahead⟩, rfl⟩
      · rintro ⟨time, same | ⟨held, ahead⟩, rfl⟩
        · cases same
        · exact ⟨⟨time, held, rfl⟩, Nat.not_le.mp ahead⟩
    | frame now | cycle count => simp [LoopEvent.Replaces, ih]

theorem deadline?_run_eq_none_iff {console : Console}
    (fresh : ∀ key, console.hold.deadline? key = none) {events : List LoopEvent} {key : Key}
    : (console.run events).hold.deadline? key = none
      ↔ ¬∃ time, HeldSince key time events := by
  rw [Option.eq_none_iff_forall_ne_some]
  simp only [ne_eq, deadline?_run_eq_some_iff fresh]
  grind

/-- A look at the clock before every deadline leaves the machine alone. -/
theorem expire_of_ahead {console : Console} {now : Nat}
    (ahead : ∀ key deadline, console.hold.deadline? key = some deadline → now < deadline)
    : (console.after (.expire now)).machine = console.machine
      ∧ (console.after (.expire now)).clock = console.clock := by
  have kept
      : console.hold.releaseExpired console.machine now = (console.hold, console.machine) := by
    apply KeyHold.releaseWhere_of_not_due
    intro key deadline stored
    exact decide_eq_false (Nat.not_le.mpr (ahead key deadline stored))
  simp only [after, refresh, kept, and_self]

/-- The first frame is due at any time, and a program may prompt right away. -/
theorem pending_frame {console : Console} {opcode : Opcode}
    (ready : console.machine.isPaused = false)
    (fetched : console.machine.memory.fetch console.machine.pc = .ok opcode)
    (prompt : opcode.IsMisc 0x0A) (first : console.clock.lastFrame = none)
    (runs : 0 < console.clock.settings.speed) (now : Nat)
    : (console.after (.frame now)).machine.keypad.pending = some opcode.x := by
  obtain ⟨count, speed⟩ := Nat.exists_eq_add_one.mpr runs
  have asks : opcode ∈ console.machine.executed console.clock.settings.speed := by
    rw [speed, Machine.executed_of_step ready (Machine.step_of_prompt fetched prompt)]
    exact List.mem_cons_self
  obtain ⟨_, ran, _, _, _, _, _, cycled⟩ := Machine.cycle_of_prompt asks prompt
  rw [after, (console.frame_eq now).1]
  simp only [FrameClock.tick, FrameClock.dueSlot?, first, cycled]
  rfl

end Console

-----------------------------------------------------------------------------------------
-- Fresh presses
-----------------------------------------------------------------------------------------

/-- While the machine waits, the press of a key that is not held answers the prompt, and the
press of a held one changes nothing in the machine. A key is no longer held once a reset or a
look at the clock after the hold time has followed its last press; that the time has passed is
not enough.
Witness: a deadline is there as long as the last press was not replaced.
-/
theorem press_answers_unless_held {machine : Machine} {settings : Settings}
    {events : List LoopEvent} {x : Register}
    (waits
      : ((Console.start machine settings).run events).machine.keypad.pending = some x)
    (key : Key) (now : Nat)
    : let console := (Console.start machine settings).run events
      let pressed := (console.after (.press key now)).machine
      (pressed.isPaused = false ↔ ¬∃ time, HeldSince key time events)
      ∧ ((¬∃ time, HeldSince key time events)
        → pressed = (console.machine.setKey key true).answered x key.val)
      ∧ ((∃ time, HeldSince key time events) → pressed = console.machine) := by
  intro console pressed
  have fresh : ∀ key, (Console.start machine settings).hold.deadline? key = none :=
    KeyHold.deadline?_blank
  have paused : console.machine.isPaused = true := congrArg Option.isSome waits
  have free (gone : ¬∃ time, HeldSince key time events)
      : pressed = (console.machine.setKey key true).answered x key.val := by
    have none := (Console.deadline?_run_eq_none_iff fresh).mpr gone
    have asked : (console.machine.setKey key true).keypad.pending = some x := waits
    exact (KeyHold.press_of_none none _ now).trans (Machine.pressKey_of_some asked _)
  have repeated (held : ∃ time, HeldSince key time events) : pressed = console.machine := by
    obtain ⟨time, since⟩ := held
    have stored := (Console.deadline?_run_eq_some_iff fresh).mpr ⟨time, since, rfl⟩
    exact KeyHold.press_of_some stored _ now
  refine ⟨?_, free, repeated⟩
  constructor
  · intro resumed held
    rw [repeated held, paused] at resumed
    cases resumed
  · intro gone
    rw [free gone]
    rfl

/-- A program that prompts for V3. -/
def lonePrompt : Rom where
  name := "prompt"
  data := #[0xF3, 0x0A]

theorem starts_lonePrompt
    : ∃ machine, Machine.start lonePrompt { stream := fun _ => 0 } = .ok machine :=
  ⟨_, rfl⟩

/-- One frame a second, so that the loop sleeps for a whole second after a frame. -/
def oncePerSecond : Settings where
  frameRate := 1

/-- A key is pressed on the first way through the loop, before the first frame runs. -/
def pressedEarly : List LoopEvent :=
  [.press 5 0, .expire 0, .frame 0]

theorem heldSince_pressedEarly : HeldSince 5 0 pressedEarly :=
  ⟨[], [.expire 0, .frame 0], rfl, by simp [LoopEvent.Replaces]⟩

/-- The first frame prompts, and the press before it came too early to answer. -/
theorem waits_pressedEarly {random : RandomSource} {machine : Machine}
    (started : Machine.start lonePrompt random = .ok machine) {settings : Settings}
    (runs : 0 < settings.speed)
    : ((Console.start machine settings).run pressedEarly).machine.keypad.pending = some 3 := by
  rw [Machine.start, Machine.loadRom_eq, if_pos (by decide)] at started
  cases started
  generalize loaded : Console.start _ settings = console
  simp only [Console.run, pressedEarly, List.foldl_cons, List.foldl_nil]
  generalize early : console.after (.press 5 0) = pressed
  have ahead : ∀ key deadline, pressed.hold.deadline? key = some deadline → 0 < deadline := by
    intro key deadline stored
    subst early loaded
    simp only [Console.deadline?_after, Console.start, KeyHold.deadline?_blank] at stored
    split at stored
    · cases stored
      decide
    · cases stored
  obtain ⟨machine, clock⟩ := Console.expire_of_ahead ahead
  have digit : Opcode.x 0xF30A = 3 := by decide
  rw [← digit]
  apply Console.pending_frame
  · rw [machine]
    subst early loaded
    rfl
  · rw [machine]
    subst early loaded
    refine (Memory.fetch_withProgram (i := 0) (by decide) (by decide)).trans ?_
    rfl
  · decide
  · rw [clock]
    subst early loaded
    rfl
  · rw [clock]
    subst early loaded
    exact runs

/-- The loop comes to this when the key is typed at its very start, and then sleeps until the second
frame.
-/
theorem looped_pressedEarly (machine : Machine) (settings : Settings)
    : Console.Looped machine settings ((Console.start machine settings).run pressedEarly) 0
      ∧ ((Console.start machine settings).run pressedEarly).clock.untilNext 0
        = settings.interval := by
  have mapped : mapKey 'w' = some 5 := by decide
  have typed := Console.handle_char mapped (Console.start machine settings) 0
  have run_eq := (Console.start machine settings).run_cons (.press 5 0) [.expire 0, .frame 0]
  generalize (Console.start machine settings).after (.press 5 0) = handled at typed run_eq
  rw [pressedEarly, run_eq, ← handled.round_eq_run 0]
  generalize went : handled.round 0 = passed
  obtain ⟨console, shown⟩ := passed
  have passed : (Console.start machine settings).Pass 0 0 console shown :=
    .typed (Nat.le_refl 0) (Nat.le_refl 0) typed went
  refine ⟨.pass (.start 0) (Nat.le_refl 0) passed, ?_⟩
  obtain ⟨m, ticked, -⟩ := passed.ticked
  have stands : console.clock.lastFrame = some 0 := by
    rw [ticked, FrameClock.lastFrame_tick]
    rfl
  rw [FrameClock.untilNext_of_some stands, Nat.sub_self, Nat.sub_zero, ticked,
    FrameClock.interval, FrameClock.settings_tick]
  rfl

/-- The hold time alone makes no press a fresh one. A prompt stays unanswered although the only
other press of the key was half a second ago, because the only look at the clock since came
before its deadline.
-/
theorem hold_time_alone_not_enough
    : ¬∀ (rom : Rom) (random : RandomSource) (machine : Machine) (settings : Settings)
        (events : List LoopEvent) (x : Register) (key : Key) (now : Nat),
        Machine.start rom random = .ok machine
        → InOrder (events ++ [.press key now])
        → ((Console.start machine settings).run events).machine.keypad.pending = some x
        → (∀ time, .press key time ∈ sinceReset events → time + holdTime ≤ now)
        → let console := (Console.start machine settings).run events
          let pressed := (console.after (.press key now)).machine
          pressed.isPaused = false ∧ pressed.registers.get x = UInt8.ofNat key.val := by
  intro fresh
  obtain ⟨machine, started⟩ := starts_lonePrompt
  have runs : 0 < oncePerSecond.speed := by decide
  have waits := waits_pressedEarly started runs
  have inOrder : InOrder (pressedEarly ++ [.press 5 500000000]) := by
    simp [InOrder, pressedEarly, LoopEvent.time?]
  have late
      : ∀ time, .press 5 time ∈ sinceReset pressedEarly → time + holdTime ≤ 500000000 := by
    simp [sinceReset, pressedEarly]
  have blank : ∀ key, (Console.start machine oncePerSecond).hold.deadline? key = none :=
    KeyHold.deadline?_blank
  have stored := (Console.deadline?_run_eq_some_iff blank).mpr ⟨0, heldSince_pressedEarly, rfl⟩
  obtain ⟨resumed, _⟩ := fresh _ _ _ oncePerSecond _ _ _ _ started inOrder waits late
  generalize (Console.start machine oncePerSecond).run pressedEarly = console
    at waits stored resumed
  rw [Console.after, KeyHold.press_of_some stored, Machine.isPaused_eq_false_iff, waits]
    at resumed
  cases resumed

/-- At one frame a second the loop sleeps after the frame that prompts. Half a second after the
press that came before the prompt, the same key does not answer it and another one does.
-/
theorem press_answers_unless_held_pressedEarly
    : ∃ machine,
        Machine.start lonePrompt { stream := fun _ => 0 } = .ok machine
        ∧ let console := (Console.start machine oncePerSecond).run pressedEarly
          console.machine.keypad.pending = some 3
          ∧ Console.Looped machine oncePerSecond console 0
          ∧ console.clock.untilNext 0 = 1_000_000_000
          ∧ (console.after (.press 5 500000000)).machine = console.machine
          ∧ (console.after (.press 6 500000000)).machine.registers.get 3 = 6 := by
  obtain ⟨machine, started⟩ := starts_lonePrompt
  have runs : 0 < oncePerSecond.speed := by decide
  have waits := waits_pressedEarly started runs
  have free : ¬∃ time, HeldSince 6 time pressedEarly := by
    rintro ⟨time, earlier, later, whole, _⟩
    have member : .press 6 time ∈ pressedEarly := by simp [whole]
    simp [pressedEarly] at member
  obtain ⟨looped, sleeps⟩ := looped_pressedEarly machine oncePerSecond
  obtain ⟨_, _, repeated⟩ := press_answers_unless_held waits 5 500000000
  obtain ⟨_, answered, _⟩ := press_answers_unless_held waits 6 500000000
  refine ⟨machine, started, waits, looped, sleeps, repeated ⟨0, heldSince_pressedEarly⟩, ?_⟩
  rw [answered free, Machine.answered, Registers.get_set, if_pos rfl]
  rfl

-----------------------------------------------------------------------------------------
-- A key that is held by repeats
-----------------------------------------------------------------------------------------

/-- A press of a key in a run of events. -/
structure Press where
  position : Nat
  time : Nat

/-- Presses of a key in a run, in turn, each less than the hold time after the one before. -/
structure IsHold (key : Key) (events : List LoopEvent) (presses : List Press) : Prop where
  pressed
    : ∀ press ∈ presses, events[press.position]? = some (.press key press.time)
  close
    : presses.IsChain fun former latter =>
        former.position < latter.position ∧ latter.time < former.time + holdTime

namespace Console

variable {console : Console} {events : List LoopEvent} {key : Key}

theorem run_take_succ {i : Nat} {event : LoopEvent} (here : events[i]? = some event)
    : console.run (events.take (i + 1)) = (console.run (events.take i)).after event := by
  rw [List.take_add_one, here, Option.toList_some, run_concat]

/-- An event that is no reset leaves a deadline at or after a bound, if there is one before.
The event has to come before the bound, but not by more than the hold time.
-/
theorem deadline?_after_of_soon {event : LoopEvent} {bound : Nat}
    (stored : ∃ deadline, console.hold.deadline? key = some deadline ∧ bound ≤ deadline)
    (noReset : event ≠ .reset)
    (soon : ∀ now ∈ event.time?, now < bound ∧ bound ≤ now + holdTime)
    : ∃ deadline,
        (console.after event).hold.deadline? key = some deadline ∧ bound ≤ deadline := by
  obtain ⟨deadline, stored, ahead⟩ := stored
  rw [deadline?_after]
  cases event with
  | reset => exact absurd rfl noReset
  | press pressed now =>
    by_cases same : pressed = key
    · exact ⟨now + holdTime, if_pos same, (soon now rfl).2⟩
    · exact ⟨deadline, (if_neg same).trans stored, ahead⟩
  | expire now =>
    have inTime : now < deadline := Nat.lt_of_lt_of_le (soon now rfl).1 ahead
    exact ⟨deadline, Option.filter_eq_some_iff.mpr ⟨stored, decide_eq_true inTime⟩, ahead⟩
  | frame | cycle => exact ⟨deadline, stored, ahead⟩

theorem deadline?_of_press {i time : Nat} (pressed : events[i]? = some (.press key time))
    : (console.run (events.take (i + 1))).hold.deadline? key = some (time + holdTime) := by
  rw [run_take_succ pressed, deadline?_after]
  exact if_pos rfl

/-- From one press of a key to another one in less than the hold time, its deadline is never
gone, by induction on the events between them.
-/
theorem deadline?_between {i j s t : Nat} (inOrder : InOrder events)
    (noReset : .reset ∉ events) (pressed : events[i]? = some (.press key s))
    (again : events[j]? = some (.press key t)) (close : t < s + holdTime) {k : Nat}
    (behind : i < k) (upTo : k ≤ j)
    : ∃ deadline,
        (console.run (events.take k)).hold.deadline? key = some deadline
        ∧ s + holdTime ≤ deadline := by
  induction k, behind using Nat.le_induction with
  | base => exact ⟨s + holdTime, deadline?_of_press pressed, Nat.le_refl _⟩
  | succ k behind ih =>
    obtain ⟨start, first⟩ := List.getElem?_eq_some_iff.mp pressed
    obtain ⟨stop, last⟩ := List.getElem?_eq_some_iff.mp again
    have here : k < events.length := Nat.lt_trans upTo stop
    rw [run_take_succ (List.getElem?_eq_getElem here)]
    apply deadline?_after_of_soon (ih (Nat.le_of_succ_le upTo))
    · intro reset
      exact noReset (reset ▸ List.getElem_mem here)
    · -- The event comes between the two presses in time as well.
      intro now looks
      have after := List.pairwise_iff_getElem.mp inOrder i k start here behind
      have before := List.pairwise_iff_getElem.mp inOrder k j here stop upTo
      rw [first] at after
      rw [last] at before
      have := after s rfl now looks
      have := before now looks t rfl
      omega

/-- During a hold the deadline of its key is never gone, by induction on the presses. -/
theorem deadline?_during (console : Console) {first : Press} {repeats : List Press}
    (inOrder : InOrder events) (noReset : .reset ∉ events)
    (hold : IsHold key events (first :: repeats)) {press : Press}
    (member : press ∈ first :: repeats) {i : Nat} (behind : first.position < i)
    (upTo : i ≤ press.position + 1)
    : ∃ deadline, (console.run (events.take i)).hold.deadline? key = some deadline := by
  have began : events[first.position]? = some (.press key first.time) :=
    hold.pressed first List.mem_cons_self
  induction repeats generalizing first with
  | nil =>
    cases List.mem_singleton.mp member
    cases Nat.le_antisymm upTo behind
    exact ⟨_, deadline?_of_press began⟩
  | cons second rest ih =>
    obtain ⟨⟨later, close⟩, others⟩ := List.isChain_cons_cons.mp hold.close
    have tail : IsHold key events (second :: rest) :=
      ⟨fun other inside => hold.pressed other (List.mem_cons_of_mem _ inside), others⟩
    have again := tail.pressed second List.mem_cons_self
    by_cases between : i ≤ second.position
    · obtain ⟨deadline, stored, _⟩ :=
        deadline?_between inOrder noReset began again close behind between
      exact ⟨deadline, stored⟩
    · rcases List.mem_cons.mp member with rfl | inside
      · exact absurd upTo (by omega)
      · exact ih tail inside (Nat.lt_of_not_le between) again

/-- The repeats of a hold come after its first press. -/
theorem position_lt_of_hold {first : Press} {repeats : List Press}
    (hold : IsHold key events (first :: repeats)) {press : Press} (member : press ∈ repeats)
    : first.position < press.position := by
  have ordered : (first :: repeats).IsChain fun former latter =>
      former.position < latter.position :=
    hold.close.imp fun _ _ link => link.1
  have : IsTrans Press fun former latter => former.position < latter.position :=
    ⟨fun _ _ _ => Nat.lt_trans⟩
  exact List.rel_of_pairwise_cons ordered.pairwise member

/-- The event at a position of a run answers a prompt: the machine waits before it and not
after it.
-/
def answersAt (console : Console) (events : List LoopEvent) (i : Nat) : Bool :=
  (console.run (events.take i)).machine.isPaused
  && !(console.run (events.take (i + 1))).machine.isPaused

end Console

/-- Of the presses that hold a key only the first one can reach the machine. The repeats change
nothing in it, so whatever the program prompts for meanwhile, the hold answers one prompt at
most; and the key is down from the first press up to the last one.
Witness: no look at the clock between two of the presses is late enough to take the deadline
away.
-/
theorem hold_answers_at_most_one_prompt {rom : Rom} {random : RandomSource} {machine : Machine}
    (started : Machine.start rom random = .ok machine) (settings : Settings)
    {events : List LoopEvent} (inOrder : InOrder events) (noReset : .reset ∉ events)
    {key : Key} {first : Press} {repeats : List Press}
    (hold : IsHold key events (first :: repeats))
    : let console := Console.start machine settings
      (∀ press ∈ repeats,
        (console.run (events.take (press.position + 1))).machine
          = (console.run (events.take press.position)).machine)
      ∧ (first :: repeats).countP (fun press => console.answersAt events press.position) ≤ 1
      ∧ ∀ press ∈ first :: repeats,
          ∀ i,
            first.position < i
            → i ≤ press.position + 1
            → (console.run (events.take i)).machine.keypad.isHeld key.val = true := by
  intro console
  have unchanged
      : ∀ press ∈ repeats,
          (console.run (events.take (press.position + 1))).machine
            = (console.run (events.take press.position)).machine := by
    intro press member
    have whole := List.mem_cons_of_mem first member
    have behind := Console.position_lt_of_hold hold member
    obtain ⟨deadline, stored⟩ :=
      Console.deadline?_during console inOrder noReset hold whole behind (Nat.le_succ _)
    rw [Console.run_take_succ (hold.pressed press whole)]
    exact KeyHold.press_of_some stored _ press.time
  refine ⟨unchanged, ?_, ?_⟩
  · have none : repeats.countP (fun press => console.answersAt events press.position) = 0 := by
      apply List.countP_eq_zero.mpr
      intro press member
      rw [Console.answersAt, unchanged press member, Bool.and_not_self]
      exact Bool.false_ne_true
    rw [List.countP_cons, none]
    split <;> decide
  · intro press member i behind upTo
    have blank : console.hold.Mirrors console.machine := KeyHold.mirrors_start started
    have mirrors := Console.mirrors_run blank (events.take i)
    obtain ⟨deadline, stored⟩ :=
      Console.deadline?_during console inOrder noReset hold member behind upTo
    rw [mirrors key, stored, Option.isSome_some]

/-- The key of the press before the prompt is repeated in the last nanosecond of its hold time,
right after a look at the clock: it was still down, and the prompt gets no answer.
-/
theorem hold_answers_at_most_one_prompt_lastMoment
    : ∃ machine,
        Machine.start lonePrompt { stream := fun _ => 0 } = .ok machine
        ∧ let console := (Console.start machine {}).run (pressedEarly ++ [.expire 149999999])
          console.machine.keypad.isHeld 5 = true
          ∧ (console.after (.press 5 149999999)).machine = console.machine := by
  obtain ⟨machine, started⟩ := starts_lonePrompt
  let events := pressedEarly ++ [.expire 149999999, .press 5 149999999]
  have inOrder : InOrder events := by
    simp [events, InOrder, pressedEarly, LoopEvent.time?]
  have noReset : .reset ∉ events := by simp [events, pressedEarly]
  have hold : IsHold 5 events [⟨0, 0⟩, ⟨4, 149999999⟩] := by
    refine ⟨?_, ?_⟩
    · simp [events, pressedEarly]
    · simp
  obtain ⟨unchanged, _, down⟩ :=
    hold_answers_at_most_one_prompt started {} inOrder noReset hold
  have before : events.take 4 = pressedEarly ++ [.expire 149999999] := rfl
  have after : events.take 5 = events.take 4 ++ [.press 5 149999999] := rfl
  have held := down ⟨4, 149999999⟩ (by simp) 4 (by decide) (by decide)
  have same := unchanged ⟨4, 149999999⟩ (by simp)
  simp only [after, Console.run_concat] at same
  rw [before] at held same
  exact ⟨machine, started, held, same⟩

end Terminal

end ChipEight
