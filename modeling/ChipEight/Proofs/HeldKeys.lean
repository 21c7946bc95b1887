import ChipEight.Proofs.Footprint
import ChipEight.Proofs.FrameGrid
import ChipEight.Proofs.Ticks
import ChipEight.Terminal.Console
import Mathlib.Data.List.Induction
import Mathlib.Order.Fin.Basic

/-! Held keys and their deadlines. The machine knows which keys are down, and the terminal knows
when each of them is let go; whatever happens, both name the same keys. Right after a look at
the clock those are the keys whose last press is recent enough.
-/

namespace ChipEight

-----------------------------------------------------------------------------------------
-- What leaves the held keys alone
-----------------------------------------------------------------------------------------

namespace Machine

theorem held_step (m : Machine) : m.step.1.keypad.held = m.keypad.held := by
  rcases stepped : m.step with ⟨next, fault | request⟩
  · obtain ⟨_, same⟩ := step_error_withOpcode stepped
    rw [same]
  · obtain ⟨_, _, effect, same⟩ := step_effect stepped
    rw [same]
    exact effect.untouched.1

/-- Only key events and resets change which keys are held. -/
theorem held_cycle (m : Machine) (count : Nat)
    : (m.cycle count).1.keypad.held = m.keypad.held := by
  apply @cycle_preserves (fun later => later.keypad.held = m.keypad.held)
  · intro later kept
    rw [held_step, kept]
  · intro later kept
    obtain ⟨_, _, same⟩ := later.countDown_eq
    rw [same, kept]
  · rfl

theorem held_pressKey (m : Machine) (key : Nat)
    : (m.pressKey key).keypad.held = m.keypad.held := by
  unfold pressKey Keypad.press
  cases m.keypad.pending <;> rfl

end Machine

theorem FrameClock.held_tick (clock : FrameClock) (now : Nat) (m : Machine)
    : (clock.tick now m).2.1.keypad.held = m.keypad.held := by
  have kept := m.held_cycle clock.settings.speed
  rcases ticked : clock.tick now m with ⟨after, next, outcome⟩
  cases tick_effect ticked with
  | early => rfl
  | failed _ failed => rwa [failed] at kept
  | ran _ ran => rwa [ran] at kept

-----------------------------------------------------------------------------------------
-- Deadlines mirror the held keys
-----------------------------------------------------------------------------------------

namespace KeyHold

/-- The keys with a deadline are the ones that the machine takes for held. -/
def Mirrors (hold : KeyHold) (m : Machine) : Prop :=
  ∀ key : Key, m.keypad.isHeld key.val = (hold.deadline? key).isSome

@[simp] theorem deadline?_setDeadline (hold : KeyHold) (key other : Key)
    (deadline : Option Nat)
    : (hold.setDeadline key deadline).deadline? other
      = if key = other then deadline else hold.deadline? other := by
  simp [deadline?, setDeadline, Vector.getElem_set, Fin.ext_iff]

variable {hold : KeyHold} {m : Machine} {key : Key}

theorem deadline?_blank (key : Key) : ({} : KeyHold).deadline? key = none := by
  simp [deadline?]

/-- A machine that was just loaded holds no key. -/
theorem mirrors_start {rom : Rom} {random : RandomSource}
    (started : Machine.start rom random = .ok m)
    : ({} : KeyHold).Mirrors m := by
  rw [Machine.start, Machine.loadRom_eq] at started
  split at started
  · cases started
    intro key
    simp [deadline?_blank, Machine.powerOn, Keypad.isHeld]
  · cases started

theorem Mirrors.of_held {next : Machine} (before : hold.Mirrors m)
    (same : next.keypad.held = m.keypad.held)
    : hold.Mirrors next := by
  intro other
  rw [← before other, Keypad.isHeld, Keypad.isHeld, same]

/-- A key that is set together with its deadline keeps the mirror. -/
theorem Mirrors.setKey (before : hold.Mirrors m) (key : Key) (deadline : Option Nat)
    : (hold.setDeadline key deadline).Mirrors (m.setKey key deadline.isSome) := by
  intro other
  rw [deadline?_setDeadline, Machine.setKey, Keypad.isHeld_setKey]
  by_cases same : key = other
  · rw [if_pos same, if_pos (congrArg Fin.val same)]
  · rw [if_neg same, if_neg (mt Fin.ext same), before other]

/-- A fresh press sets the key with its deadline; a repeat finds the key down. -/
theorem Mirrors.press (before : hold.Mirrors m) (key : Key) (now : Nat)
    : (hold.press m key now).1.Mirrors (hold.press m key now).2 := by
  cases stored : hold.deadline? key with
  | none =>
    simp only [KeyHold.press, stored, Option.isNone_none, if_true]
    exact (before.setKey key (some (now + holdTime))).of_held (Machine.held_pressKey _ _)
  | some deadline =>
    simp only [KeyHold.press, stored, Option.isNone_some, Bool.false_eq_true, if_false]
    intro other
    rw [deadline?_setDeadline, before other]
    split
    · next same => rw [← same, stored, Option.isSome_some, Option.isSome_some]
    · rfl

theorem Mirrors.releaseKey {state : KeyHold × Machine} (before : state.1.Mirrors state.2)
    (due : Nat → Bool) (key : Key)
    : (KeyHold.releaseKey due state key).1.Mirrors (KeyHold.releaseKey due state key).2 := by
  unfold KeyHold.releaseKey
  split
  · exact before
  · split
    · exact before.setKey key none
    · exact before

/-- Letting go keys in turn keeps the mirror, by induction on the keys. -/
theorem Mirrors.foldl_releaseKey {state : KeyHold × Machine}
    (before : state.1.Mirrors state.2) (due : Nat → Bool) (keys : List Key)
    : (keys.foldl (KeyHold.releaseKey due) state).1.Mirrors
        (keys.foldl (KeyHold.releaseKey due) state).2 := by
  induction keys generalizing state with
  | nil => exact before
  | cons key rest ih => exact ih (before.releaseKey due key)

theorem Mirrors.releaseWhere (before : hold.Mirrors m) (due : Nat → Bool)
    : (hold.releaseWhere due m).1.Mirrors (hold.releaseWhere due m).2 :=
  @Mirrors.foldl_releaseKey (hold, m) before due _

theorem deadline?_releaseKey (due : Nat → Bool) (state : KeyHold × Machine)
    (key other : Key)
    : (releaseKey due state key).1.deadline? other
      = if key = other then (state.1.deadline? other).filter (!due ·)
        else state.1.deadline? other := by
  unfold releaseKey
  by_cases same : key = other
  · subst same
    cases stored : state.1.deadline? key with
    | none => simp [stored]
    | some deadline => cases late : due deadline <;> simp [stored, late, Option.filter]
  · split
    · rw [if_neg same]
    · split <;> simp [same]

/-- What is due is let go, and nothing else. Witness: induction on the keys; a second look at
the same key changes nothing.
-/
theorem deadline?_foldl_releaseKey (due : Nat → Bool) (keys : List Key)
    (state : KeyHold × Machine) (key : Key)
    : (keys.foldl (releaseKey due) state).1.deadline? key
      = if key ∈ keys then (state.1.deadline? key).filter (!due ·)
        else state.1.deadline? key := by
  induction keys generalizing state with
  | nil => rfl
  | cons first rest ih =>
    rw [List.foldl_cons, ih, deadline?_releaseKey]
    by_cases same : first = key
    · simp [same, Option.filter_filter]
    · simp [same, Ne.symm same]

theorem deadline?_releaseWhere (due : Nat → Bool) (hold : KeyHold) (m : Machine) (key : Key)
    : (hold.releaseWhere due m).1.deadline? key
      = (hold.deadline? key).filter (!due ·) := by
  rw [releaseWhere, deadline?_foldl_releaseKey, if_pos (List.mem_finRange key)]

end KeyHold

-----------------------------------------------------------------------------------------
-- The loop around a machine
-----------------------------------------------------------------------------------------

namespace Terminal

/-- What can happen to a machine on a terminal, in any order. -/
inductive LoopEvent where
  | press (key : Key) (now : Nat)
  /-- Let go the keys whose time has passed. -/
  | expire (now : Nat)
  /-- Let go all keys and start over. -/
  | reset
  /-- Run a frame if one is due. -/
  | frame (now : Nat)
  /-- Run the machine without a frame. -/
  | cycle (count : Nat)
  deriving DecidableEq

/-- The time at which an event presses a key. -/
def LoopEvent.pressTime? (key : Key) : LoopEvent → Option Nat
  | .press pressed now => if pressed = key then some now else none
  | _ => none

/-- The time of an event that looks at the clock. -/
def LoopEvent.time? : LoopEvent → Option Nat
  | .press _ now | .expire now | .frame now => some now
  | .reset | .cycle _ => none

/-- No event comes before an earlier time. -/
def InOrder (events : List LoopEvent) : Prop :=
  events.Pairwise fun former latter =>
    ∀ s ∈ former.time?, ∀ t ∈ latter.time?, s ≤ t

/-- The events since the last reset, the latest one first. -/
def sinceReset (events : List LoopEvent) : List LoopEvent :=
  events.reverse.takeWhile (· != .reset)

/-- The time of the last press of a key since the last reset. -/
def lastPress? (key : Key) (events : List LoopEvent) : Option Nat :=
  (sinceReset events).findSome? (·.pressTime? key)

theorem lastPress?_concat (key : Key) (events : List LoopEvent) (event : LoopEvent)
    : lastPress? key (events ++ [event])
      = match event with
        | .reset => none
        | .press pressed now => if pressed = key then some now else lastPress? key events
        | _ => lastPress? key events := by
  cases event with
  | press pressed now =>
    by_cases same : pressed = key
    all_goals simp [lastPress?, sinceReset, LoopEvent.pressTime?, same]
  | _ => simp [lastPress?, sinceReset, LoopEvent.pressTime?]

namespace Console

/-- The console after an event. -/
def after (console : Console) : LoopEvent → Console
  | .press key now =>
    let pressed := console.hold.press console.machine key now
    { console with hold := pressed.1, machine := pressed.2 }
  | .expire now => console.refresh now
  | .reset =>
    let released := console.hold.releaseAll console.machine
    { console with hold := released.1, machine := released.2.reset }
  | .frame now => (console.frame now).1
  | .cycle count => { console with machine := (console.machine.cycle count).1 }

/-- The console after events in turn. -/
def run (console : Console) (events : List LoopEvent) : Console :=
  events.foldl after console

theorem run_cons (console : Console) (event : LoopEvent) (events : List LoopEvent)
    : console.run (event :: events) = (console.after event).run events :=
  rfl

theorem run_append (console : Console) (events others : List LoopEvent)
    : console.run (events ++ others) = (console.run events).run others :=
  List.foldl_append

theorem run_concat (console : Console) (events : List LoopEvent) (event : LoopEvent)
    : console.run (events ++ [event]) = (console.run events).after event :=
  console.run_append events [event]

@[simp] theorem clock_after_press (console : Console) (key : Key) (now : Nat)
    : (console.after (.press key now)).clock = console.clock := by
  simp only [after]

@[simp] theorem clock_after_reset (console : Console)
    : (console.after .reset).clock = console.clock := by
  simp only [after]

/-- A look at the clock lets go the keys whose time has passed. -/
theorem refresh_eq (console : Console) (now : Nat)
    : (console.refresh now).hold = (console.hold.releaseWhere (· ≤ now) console.machine).1
      ∧ (console.refresh now).machine
        = (console.hold.releaseWhere (· ≤ now) console.machine).2 := by
  unfold refresh KeyHold.releaseExpired
  generalize console.hold.releaseWhere (· ≤ now) console.machine = released
  exact ⟨rfl, rfl⟩

theorem handle_reset (console : Console) (now : Nat)
    : console.handle .reset now = some (console.after .reset) := by
  simp only [handle, after]

theorem handle_char {c : Char} {key : Key} (mapped : mapKey c = some key) (console : Console)
    (now : Nat)
    : console.handle (.char c) now = some (console.after (.press key now)) := by
  simp only [handle, mapped, after]

/-- Whatever a typed key does, it is one of the events or nothing. -/
theorem handle_eq_some {console next : Console} {event : KeyEvent} {now : Nat}
    (handled : console.handle event now = some next)
    : next = console ∨ next = console.after .reset
      ∨ ∃ key, next = console.after (.press key now) := by
  cases event with
  | quit => cases handled
  | ignored => exact .inl (Option.some.inj handled).symm
  | reset =>
    rw [handle_reset] at handled
    exact .inr (.inl (Option.some.inj handled).symm)
  | char c =>
    cases mapped : mapKey c with
    | none =>
      simp only [handle, mapped] at handled
      exact .inl (Option.some.inj handled).symm
    | some key =>
      rw [handle_char mapped] at handled
      exact .inr (.inr ⟨key, (Option.some.inj handled).symm⟩)

/-- Going round looks at the clock and then runs a frame if one is due. -/
theorem round_eq_run (console : Console) (now : Nat)
    : (console.round now).1 = console.run [.expire now, .frame now] :=
  rfl

/-- A frame moves the machine by its clock and keeps the deadlines. -/
theorem frame_eq (console : Console) (now : Nat)
    : (console.frame now).1.machine = (console.clock.tick now console.machine).2.1
      ∧ (console.frame now).1.hold = console.hold := by
  unfold frame
  rcases console.clock.tick now console.machine with ⟨clock, machine, outcome⟩
  cases outcome <;> exact ⟨rfl, rfl⟩

/-- What an event does to a deadline, by cases on the event. -/
theorem deadline?_after (console : Console) (event : LoopEvent) (key : Key)
    : (console.after event).hold.deadline? key
      = match event with
        | .reset => none
        | .press pressed now =>
          if pressed = key then some (now + holdTime) else console.hold.deadline? key
        | .expire now => (console.hold.deadline? key).filter (now < ·)
        | _ => console.hold.deadline? key := by
  cases event with
  | press pressed now => exact KeyHold.deadline?_setDeadline _ _ _ _
  | expire now =>
    rw [after, (console.refresh_eq now).1, KeyHold.deadline?_releaseWhere]
    simp only [← decide_not, Nat.not_le]
  | reset => simp [after, KeyHold.releaseAll, KeyHold.deadline?_releaseWhere]
  | frame now => rw [after, (console.frame_eq now).2]
  | cycle count => rfl

/-- Every event keeps the deadlines and the held keys together, by cases on the event. -/
theorem mirrors_after {console : Console} (before : console.hold.Mirrors console.machine)
    (event : LoopEvent)
    : (console.after event).hold.Mirrors (console.after event).machine := by
  cases event with
  | press key now => exact before.press key now
  | expire now =>
    obtain ⟨hold, machine⟩ := console.refresh_eq now
    rw [after, hold, machine]
    exact before.releaseWhere (· ≤ now)
  | reset =>
    intro key
    rw [deadline?_after]
    simp [after, Machine.reset, Keypad.isHeld]
  | frame now =>
    obtain ⟨machine, hold⟩ := console.frame_eq now
    rw [after, hold, machine]
    exact before.of_held (console.clock.held_tick now console.machine)
  | cycle count => exact before.of_held (console.machine.held_cycle count)

theorem mirrors_run {console : Console} (before : console.hold.Mirrors console.machine)
    (events : List LoopEvent)
    : (console.run events).hold.Mirrors (console.run events).machine := by
  induction events generalizing console with
  | nil => exact before
  | cons event rest ih => exact ih (mirrors_after before event)

/-- A deadline is that of the last press of its key, and a pressed key without a deadline was
let go by a look at the clock after its time.
-/
structure Remembers (console : Console) (events : List LoopEvent) : Prop where
  stored
    : ∀ {key deadline},
        console.hold.deadline? key = some deadline
        → ∃ time, lastPress? key events = some time ∧ deadline = time + holdTime
  passed
    : ∀ {key time},
        console.hold.deadline? key = none
        → lastPress? key events = some time
        → ∃ now, .expire now ∈ events ∧ time + holdTime ≤ now

theorem Remembers.stored_after {console : Console} {events : List LoopEvent}
    (before : console.Remembers events) {event : LoopEvent} {key : Key} {deadline : Nat}
    (stored : (console.after event).hold.deadline? key = some deadline)
    : ∃ time,
        lastPress? key (events ++ [event]) = some time ∧ deadline = time + holdTime := by
  rw [deadline?_after] at stored
  rw [lastPress?_concat]
  cases event with
  | reset => cases stored
  | press pressed now =>
    simp only at stored ⊢
    split at stored
    · next same =>
      cases stored
      exact ⟨now, if_pos same, rfl⟩
    · next other =>
      rw [if_neg other]
      exact before.stored stored
  | expire now => exact before.stored (Option.filter_eq_some_iff.mp stored).1
  | frame | cycle => exact before.stored stored

theorem Remembers.passed_after {console : Console} {events : List LoopEvent}
    (before : console.Remembers events) {event : LoopEvent} {key : Key} {time : Nat}
    (gone : (console.after event).hold.deadline? key = none)
    (pressed : lastPress? key (events ++ [event]) = some time)
    : ∃ now, .expire now ∈ events ++ [event] ∧ time + holdTime ≤ now := by
  have earlier (gone : console.hold.deadline? key = none)
      (pressed : lastPress? key events = some time)
      : ∃ now, .expire now ∈ events ++ [event] ∧ time + holdTime ≤ now := by
    obtain ⟨now, member, late⟩ := before.passed gone pressed
    exact ⟨now, List.mem_append_left _ member, late⟩
  rw [deadline?_after] at gone
  rw [lastPress?_concat] at pressed
  cases event with
  | reset => cases pressed
  | press other now =>
    simp only at gone pressed
    split at gone
    · cases gone
    · next different => exact earlier gone ((if_neg different).symm.trans pressed)
  | expire now =>
    cases stored : console.hold.deadline? key with
    | none => exact earlier stored pressed
    | some deadline =>
      -- The deadline is that of the last press, and this look at the clock came after it.
      obtain ⟨last, same, rfl⟩ := before.stored stored
      cases same.symm.trans pressed
      rw [stored] at gone
      have late := Option.filter_eq_none_iff.mp gone _ rfl
      exact ⟨now, List.mem_append_right _ List.mem_cons_self, by simpa using late⟩
  | frame | cycle => exact earlier gone pressed

/-- Along a run from a console without deadlines they keep in step with the presses, by
induction on the events.
-/
theorem remembers_run {console : Console} (fresh : ∀ key, console.hold.deadline? key = none)
    (events : List LoopEvent)
    : (console.run events).Remembers events := by
  induction events using List.reverseRecOn with
  | nil =>
    refine ⟨?_, nofun⟩
    intro key deadline stored
    rw [run, List.foldl_nil, fresh] at stored
    cases stored
  | append_singleton events event ih =>
    rw [run_concat]
    exact ⟨ih.stored_after, ih.passed_after⟩

end Console

/-- Whatever happens to a machine on a terminal, the keys that are down are those with a
deadline; a reset leaves neither. Right after a look at the clock a key is down exactly if its
last press since the last reset is less than the hold time ago. For this no earlier look may have
seen a later time, so it is enough that times never run backwards.
Witness: every event keeps the mirror, and a deadline that is gone was due at some look.
-/
theorem held_keys_have_deadlines {rom : Rom} {random : RandomSource} {machine : Machine}
    (started : Machine.start rom random = .ok machine) (settings : Settings)
    (events : List LoopEvent)
    : let console := (Console.start machine settings).run events
      (∀ key : Key,
        console.machine.keypad.isHeld key.val = true
          ↔ ∃ deadline, console.hold.deadline? key = some deadline)
      ∧ (∀ key : Key,
          (console.after .reset).machine.keypad.isHeld key.val = false
          ∧ (console.after .reset).hold.deadline? key = none)
      ∧ ∀ now,
          (∀ earlier, .expire earlier ∈ events → earlier ≤ now)
          → ∀ key : Key,
              (console.after (.expire now)).machine.keypad.isHeld key.val = true
                ↔ ∃ time, lastPress? key events = some time ∧ now < time + holdTime := by
  intro console
  have mirrors : console.hold.Mirrors console.machine :=
    Console.mirrors_run (KeyHold.mirrors_start started) events
  have remembers : console.Remembers events :=
    Console.remembers_run KeyHold.deadline?_blank events
  refine ⟨?_, ?_, ?_⟩
  · intro key
    rw [mirrors key, Option.isSome_iff_exists]
  · intro key
    have gone : (console.after .reset).hold.deadline? key = none :=
      console.deadline?_after .reset key
    refine ⟨?_, gone⟩
    rw [Console.mirrors_after mirrors .reset key, gone, Option.isSome_none]
  · intro now latest key
    rw [Console.mirrors_after mirrors (.expire now) key, console.deadline?_after,
      Option.isSome_iff_exists]
    constructor
    · rintro ⟨deadline, kept⟩
      obtain ⟨stored, ahead⟩ := Option.filter_eq_some_iff.mp kept
      obtain ⟨time, pressed, rfl⟩ := remembers.stored stored
      exact ⟨time, pressed, by simpa using ahead⟩
    · rintro ⟨time, pressed, ahead⟩
      cases stored : console.hold.deadline? key with
      | none =>
        obtain ⟨earlier, looked, late⟩ := remembers.passed stored pressed
        have := latest earlier looked
        omega
      | some deadline =>
        obtain ⟨last, same, rfl⟩ := remembers.stored stored
        cases same.symm.trans pressed
        exact ⟨_, Option.filter_eq_some_iff.mpr ⟨rfl, by simpa using ahead⟩⟩

/-- A program that does nothing but go on at its start. -/
def lonePlayer : Rom where
  name := "loop"
  data := #[0x12, 0x00]

/-- A key is pressed and repeated after 75 milliseconds, with a frame in between. The first look
at the clock comes too early to let it go, the second one lets it go.
-/
theorem held_keys_have_deadlines_repeated
    : ∃ machine,
        Machine.start lonePlayer { stream := fun _ => 0 } = .ok machine
        ∧ let console :=
            (Console.start machine {}).run [.press 5 0, .frame 10, .press 5 75000000]
          (console.after (.expire 150000000)).machine.keypad.isHeld 5 = true
          ∧ (console.after (.expire 225000000)).machine.keypad.isHeld 5 = false
          ∧ (console.after .reset).hold.deadline? 5 = none := by
  obtain ⟨machine, started⟩
      : ∃ machine, Machine.start lonePlayer { stream := fun _ => 0 } = .ok machine := ⟨_, rfl⟩
  have last : lastPress? 5 [.press 5 0, .frame 10, .press 5 75000000] = some 75000000 := rfl
  have unseen (now : Nat)
      : ∀ earlier,
          .expire earlier ∈ [LoopEvent.press 5 0, .frame 10, .press 5 75000000]
          → earlier ≤ now := by
    simp
  obtain ⟨_, reset, expired⟩ :=
    held_keys_have_deadlines started {} [.press 5 0, .frame 10, .press 5 75000000]
  refine ⟨machine, started, ?_, ?_, (reset 5).2⟩
  · exact (expired 150000000 (unseen _) 5).mpr ⟨75000000, last, by decide⟩
  · apply Bool.eq_false_iff.mpr
    intro down
    obtain ⟨time, pressed, ahead⟩ := (expired 225000000 (unseen _) 5).mp down
    cases last.symm.trans pressed
    exact absurd ahead (by decide)

end Terminal

end ChipEight
