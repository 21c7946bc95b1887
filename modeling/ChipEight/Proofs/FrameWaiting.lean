import ChipEight.Proofs.FrameGrid
import ChipEight.Proofs.HeldKeys
import Mathlib.Order.Bounds.Basic

/-! Waiting for the next frame. What the clock tells to be left until then is the shortest wait
after which a tick attempts a frame. A loop that sleeps as long as it is told finds a frame due
whenever it wakes up, and leaves none due while it sleeps.
-/

namespace ChipEight

namespace FrameClock

variable {clock : FrameClock} {now : Nat} {m : Machine}

/-- The time is not before the slot of the last frame. -/
def Saw (clock : FrameClock) (now : Nat) : Prop :=
  ∀ last, clock.lastFrame = some last → last ≤ now

-----------------------------------------------------------------------------------------
-- Single waits
-----------------------------------------------------------------------------------------

theorem untilNext_of_some {last : Nat} (stands : clock.lastFrame = some last) (now : Nat)
    : clock.untilNext now = clock.interval - (now - last) := by
  rw [untilNext, stands]

/-- A frame is due as soon as the wait for it is over. -/
theorem dueSlot?_isSome_iff (seen : clock.Saw now) {wait : Nat}
    : (clock.dueSlot? (now + wait)).isSome = true ↔ clock.untilNext now ≤ wait := by
  cases stands : clock.lastFrame with
  | none =>
    rw [dueSlot?_of_none stands, untilNext, stands]
    simp
  | some last =>
    have passed : last ≤ now := seen last stands
    rw [dueSlot?_of_some stands, untilNext_of_some stands]
    by_cases early : now + wait - last < clock.interval
    · rw [if_pos early]
      simp only [Option.isSome_none, Bool.false_eq_true, false_iff]
      omega
    · rw [if_neg early]
      simp only [Option.isSome_some, true_iff]
      omega

/-- A tick attempts a frame exactly if the wait for it is over. -/
theorem attempted_tick_iff (seen : clock.Saw now) {wait : Nat}
    : (clock.tick (now + wait) m).2.2.attempted = true ↔ clock.untilNext now ≤ wait := by
  rw [attempted_tick, dueSlot?_isSome_iff seen]

/-- A tick before the wait is over changes nothing. -/
theorem tick_of_lt_untilNext (seen : clock.Saw now) {wait : Nat}
    (early : wait < clock.untilNext now)
    : clock.tick (now + wait) m = (clock, m, .early) := by
  have notDue : clock.dueSlot? (now + wait) = none := by
    rw [← Option.not_isSome_iff_eq_none, dueSlot?_isSome_iff seen]
    exact Nat.not_le.mpr early
  rw [tick, notDue]

theorem untilNext_le_interval (clock : FrameClock) (now : Nat)
    : clock.untilNext now ≤ clock.interval := by
  unfold untilNext
  split
  · exact Nat.zero_le _
  · exact Nat.sub_le _ _

/-- The slot of a frame is not after the time at which it is due. -/
theorem le_of_dueSlot? {slot : Nat} (due : clock.dueSlot? now = some slot) : slot ≤ now := by
  cases stands : clock.lastFrame with
  | none =>
    rw [dueSlot?_of_none stands] at due
    exact Nat.le_of_eq (Option.some.inj due).symm
  | some last =>
    rw [dueSlot?_of_some stands] at due
    split at due
    · cases due
    · rw [← Option.some.inj due]
      exact Nat.sub_le _ _

/-- As long as time does not run backwards, the clock never gets ahead of it. -/
theorem Saw.tick (seen : clock.Saw now) {later : Nat} (onward : now ≤ later) (m : Machine)
    : (clock.tick later m).1.Saw later := by
  intro last stands
  rw [lastFrame_tick] at stands
  cases due : clock.dueSlot? later with
  | none =>
    rw [due, Option.none_or] at stands
    exact Nat.le_trans (seen last stands) onward
  | some slot =>
    rw [due, Option.some_or] at stands
    exact le_of_dueSlot? (due.trans stands)

end FrameClock

-----------------------------------------------------------------------------------------
-- The loop around a machine
-----------------------------------------------------------------------------------------

namespace Terminal.Console

open FrameClock (Saw)

/-- A look at the held keys does not touch the clock. -/
theorem clock_refresh (console : Console) (now : Nat)
    : (console.refresh now).clock = console.clock := by
  unfold refresh
  generalize console.hold.releaseExpired console.machine now = released
  rfl

/-- A typed key does not touch the clock. -/
theorem clock_handle {console next : Console} {event : KeyEvent} {now : Nat}
    (handled : console.handle event now = some next)
    : next.clock = console.clock := by
  obtain rfl | rfl | ⟨key, rfl⟩ := handle_eq_some handled
  · rfl
  · exact clock_after_reset console
  · exact clock_after_press console key now

/-- A frame ticks the clock once, and shows nothing exactly if that tick comes too early. -/
theorem frame_tick (console : Console) (now : Nat)
    : (console.frame now).1.clock = (console.clock.tick now console.machine).1
      ∧ ((console.frame now).2 ≠ .nothing
        ↔ (console.clock.tick now console.machine).2.2.attempted = true) := by
  rcases ticked : console.clock.tick now console.machine with ⟨clock, machine, outcome⟩
  simp only [frame, ticked]
  cases FrameClock.tick_effect ticked <;>
    simp [FrameOutcome.attempted, Shown.ofScreen, List.findSome?, FrameCall.screen?]

/-- Going round ticks the clock once, with the machine as a look at the held keys leaves it. -/
theorem round_tick (console : Console) (now : Nat)
    : ∃ m,
        (console.round now).1.clock = (console.clock.tick now m).1
        ∧ ((console.round now).2 ≠ .nothing
          ↔ (console.clock.tick now m).2.2.attempted = true) := by
  refine ⟨(console.refresh now).machine, ?_⟩
  rw [round, ← console.clock_refresh now]
  exact frame_tick _ _

/-- A pass of the loop. It looks at the clock and sleeps until a frame is due, or until a key is
typed before. Then it goes round, which leaves a console and shows something.
-/
inductive Pass (console : Console) (looked woke : Nat) (next : Console) (shown : Shown) : Prop
  | slept (passed : looked + console.clock.untilNext looked ≤ woke)
    (went : console.round woke = (next, shown))
  | typed {event : KeyEvent} {pressed : Nat} {handled : Console} (asleep : looked ≤ pressed)
    (onward : pressed ≤ woke) (typed : console.handle event pressed = some handled)
    (went : handled.round woke = (next, shown))

/-- Passes of the loop lead from its start to a console, at a time that the last of them saw; the
times of the passes never run backwards.
-/
inductive Looped (machine : Machine) (settings : Settings) : Console → Nat → Prop
  | start (now : Nat) : Looped machine settings (Console.start machine settings) now
  | pass {console next : Console} {now looked woke : Nat} {shown : Shown}
    (before : Looped machine settings console now) (onward : now ≤ looked)
    (passed : console.Pass looked woke next shown)
    : Looped machine settings next woke

variable {console next : Console} {now looked woke : Nat} {shown : Shown}

theorem Pass.looked_le (passed : console.Pass looked woke next shown) : looked ≤ woke := by
  cases passed with
  | slept passed => exact Nat.le_of_add_right_le passed
  | typed asleep onward => exact Nat.le_trans asleep onward

/-- Every pass goes round with the clock that it looked at. -/
theorem Pass.round_eq (passed : console.Pass looked woke next shown)
    : ∃ handled : Console,
        handled.clock = console.clock ∧ handled.round woke = (next, shown) := by
  cases passed with
  | slept _ went => exact ⟨console, rfl, went⟩
  | typed _ _ typed went => exact ⟨_, clock_handle typed, went⟩

/-- A pass ticks the clock that it looked at once. -/
theorem Pass.ticked (passed : console.Pass looked woke next shown)
    : ∃ m,
        next.clock = (console.clock.tick woke m).1
        ∧ (shown ≠ .nothing ↔ (console.clock.tick woke m).2.2.attempted = true) := by
  obtain ⟨handled, same, went⟩ := passed.round_eq
  have ticked := handled.round_tick woke
  rwa [went, same] at ticked

/-- A pass shows a picture or a failure exactly if the wait for a frame was over. -/
theorem Pass.shows_iff (passed : console.Pass looked woke next shown)
    (seen : console.clock.Saw looked)
    : shown ≠ .nothing ↔ looked + console.clock.untilNext looked ≤ woke := by
  obtain ⟨wait, rfl⟩ := Nat.exists_eq_add_of_le passed.looked_le
  obtain ⟨m, _, shows⟩ := passed.ticked
  rw [shows, FrameClock.attempted_tick_iff seen]
  omega

/-- A pass is a run of events in order: perhaps a typed key while the loop sleeps, then a look at
the clock and a frame.
-/
theorem Pass.run_events (passed : console.Pass looked woke next shown)
    : ∃ events,
        next = console.run events
        ∧ InOrder events
        ∧ ∀ event ∈ events, ∀ time ∈ event.time?, looked ≤ time ∧ time ≤ woke := by
  have awake := passed.looked_le
  cases passed with
  | slept _ went =>
    refine ⟨[.expire woke, .frame woke], by rw [← round_eq_run, went], ?_, ?_⟩
    · simp [InOrder, LoopEvent.time?]
    · simpa [LoopEvent.time?] using awake
  | @typed event pressed handled asleep onward typed went =>
    have round : next = handled.run [.expire woke, .frame woke] := by rw [← round_eq_run, went]
    obtain rfl | rfl | ⟨key, rfl⟩ := handle_eq_some typed
    · refine ⟨[.expire woke, .frame woke], round, ?_, ?_⟩
      · simp [InOrder, LoopEvent.time?]
      · simpa [LoopEvent.time?] using awake
    · refine ⟨[.reset, .expire woke, .frame woke], by rw [run_cons, round], ?_, ?_⟩
      · simp [InOrder, LoopEvent.time?]
      · simpa [LoopEvent.time?] using awake
    · refine ⟨[.press key pressed, .expire woke, .frame woke], by rw [run_cons, round], ?_, ?_⟩
      · simpa [InOrder, LoopEvent.time?] using onward
      · simp [LoopEvent.time?, asleep, onward, awake]

/-- Every console that a loop reaches is reached by events in order, none of them later than the
last pass, by induction on the passes. So what holds after all events in order holds of the loop.
-/
theorem Looped.run_events {machine : Machine} {settings : Settings}
    (looped : Looped machine settings console now)
    : ∃ events,
        console = (Console.start machine settings).run events
        ∧ InOrder events
        ∧ ∀ event ∈ events, ∀ time ∈ event.time?, time ≤ now := by
  induction looped with
  | start now => exact ⟨[], rfl, .nil, nofun⟩
  | pass before onward passed ih =>
    obtain ⟨earlier, rfl, earlierInOrder, earlierTimes⟩ := ih
    obtain ⟨later, rfl, laterInOrder, laterTimes⟩ := passed.run_events
    refine ⟨earlier ++ later, (run_append _ _ _).symm, ?_, ?_⟩
    · refine List.pairwise_append.mpr ⟨earlierInOrder, laterInOrder, ?_⟩
      intro former formerMember latter latterMember s formerTime t latterTime
      have first := earlierTimes former formerMember s formerTime
      have second := (laterTimes latter latterMember t latterTime).1
      omega
    · intro event member time looks
      rcases List.mem_append.mp member with inside | inside
      · have first := earlierTimes event inside time looks
        have asleep := passed.looked_le
        omega
      · exact (laterTimes event inside time looks).2

/-- In a loop around a loaded machine, the keys that are down are always those with a deadline. -/
theorem Looped.mirrors {rom : Rom} {random : RandomSource} {machine : Machine}
    {settings : Settings} (started : Machine.start rom random = .ok machine)
    (looped : Looped machine settings console now)
    : console.hold.Mirrors console.machine := by
  obtain ⟨events, rfl, -, -⟩ := looped.run_events
  exact mirrors_run (KeyHold.mirrors_start started) events

/-- The clock of a loop is never ahead of its time, by induction on the passes. -/
theorem Looped.saw {machine : Machine} {settings : Settings}
    (looped : Looped machine settings console now)
    : console.clock.Saw now := by
  induction looped with
  | start now => exact nofun
  | pass before onward passed ih =>
    obtain ⟨m, ticked, _⟩ := passed.ticked
    rw [ticked]
    exact ih.tick (Nat.le_trans onward passed.looked_le) _

end Terminal.Console

namespace FrameClock

open Terminal Console

/-- What is left until the next frame is the shortest wait after which a tick attempts one.
A tick before changes nothing, a tick at any later time attempts a frame too, and the wait is
never longer than an interval; it is none exactly if a tick now attempts a frame.
Therefore no frame is due while the loop around a machine sleeps, and it goes round in vain only
if a typed key woke it up before its time.
Witness: the wait ends exactly when less than an interval has not passed since the last frame;
the clock of a loop is never ahead of its time.
-/
theorem untilNext_is_shortest_wait
    : (∀ (clock : FrameClock) now,
        clock.Saw now
        → ∀ m,
            IsLeast {wait | (clock.tick (now + wait) m).2.2.attempted = true}
              (clock.untilNext now)
            ∧ (∀ wait < clock.untilNext now, clock.tick (now + wait) m = (clock, m, .early))
            ∧ (∀ later ≥ now + clock.untilNext now,
                (clock.tick later m).2.2.attempted = true)
            ∧ clock.untilNext now ≤ clock.interval
            ∧ (clock.untilNext now = 0 ↔ (clock.tick now m).2.2.attempted = true))
      ∧ ∀ machine settings (console : Console) now,
          Looped machine settings console now
          → ∀ looked ≥ now,
              (∀ wait < console.clock.untilNext looked,
                (console.round (looked + wait)).2 = .nothing)
              ∧ ∀ woke next shown,
                  console.Pass looked woke next shown
                  → (shown ≠ .nothing ↔ looked + console.clock.untilNext looked ≤ woke) := by
  constructor
  · intro clock now seen m
    refine ⟨⟨?_, ?_⟩, ?_, ?_, clock.untilNext_le_interval now, ?_⟩
    · exact (attempted_tick_iff seen).mpr (Nat.le_refl _)
    · intro wait attempted
      exact (attempted_tick_iff seen).mp attempted
    · intro wait early
      exact tick_of_lt_untilNext seen early
    · intro later passed
      obtain ⟨more, rfl⟩ := Nat.exists_eq_add_of_le passed
      rw [Nat.add_assoc]
      exact (attempted_tick_iff seen).mpr (Nat.le_add_right _ _)
    · rw [← Nat.le_zero, ← attempted_tick_iff (m := m) seen, Nat.add_zero]
  · intro machine settings console now looped looked onward
    have seen : console.clock.Saw looked :=
      fun last stands => Nat.le_trans (looped.saw last stands) onward
    refine ⟨?_, fun woke next shown passed => passed.shows_iff seen⟩
    intro wait early
    obtain ⟨m, _, shows⟩ := console.round_tick (looked + wait)
    rw [attempted_tick_iff seen] at shows
    exact Classical.not_not.mp (mt shows.mp (Nat.not_le.mpr early))

/-- The console after its first frame, five milliseconds after the start. -/
def secondPass : Console :=
  ((Console.start (.powerOn { stream := fun _ => 0 }) {}).round 5_000_000).1

/-- At sixty frames a second, the wait one millisecond after the first frame lasts until exactly
one interval after that frame. A pass of the loop that is woken up one nanosecond before shows
nothing.
-/
theorem untilNext_is_shortest_wait_firstFrame
    : secondPass.clock.Saw 6_000_000
      ∧ secondPass.clock.untilNext 6_000_000 = 15_666_666
      ∧ IsLeast
          {wait | (secondPass.clock.tick (6_000_000 + wait) secondPass.machine).2.2.attempted
            = true}
          15_666_666
      ∧ (secondPass.round (6_000_000 + 15_666_665)).2 = .nothing := by
  let machine := Machine.powerOn { stream := fun _ => 0 }
  have first : (Console.start machine {}).Pass 5_000_000 5_000_000 secondPass
      ((Console.start machine {}).round 5_000_000).2 :=
    .slept (by decide) (Prod.mk.eta).symm
  have looped : Looped machine {} secondPass 5_000_000 :=
    .pass (.start 5_000_000) (Nat.le_refl _) first
  obtain ⟨m, ticked, _⟩ := first.ticked
  have stands : secondPass.clock.lastFrame = some 5_000_000 := by
    rw [ticked, lastFrame_tick]
    rfl
  have interval : secondPass.clock.interval = 16_666_666 := by
    rw [ticked, FrameClock.interval, settings_tick]
    exact (by decide : Settings.interval {} = 16_666_666)
  have wait : secondPass.clock.untilNext 6_000_000 = 15_666_666 := by
    rw [untilNext_of_some stands, interval]
  have seen : secondPass.clock.Saw 6_000_000 :=
    fun last same => Nat.le_trans (looped.saw last same) (by decide)
  obtain ⟨waits, loops⟩ := untilNext_is_shortest_wait
  refine ⟨seen, wait, ?_, ?_⟩
  · have least := (waits secondPass.clock 6_000_000 seen secondPass.machine).1
    rwa [wait] at least
  · apply (loops machine {} secondPass 5_000_000 looped 6_000_000 (by decide)).1
    rw [wait]
    decide

end FrameClock

end ChipEight
