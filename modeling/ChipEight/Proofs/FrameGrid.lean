import ChipEight.FrameClock

/-! Frames keep to a grid. Its slots lie at whole numbers of intervals after the first tick,
and a tick attempts a frame exactly if it is in a later slot than every tick before it. Neither
late ticks nor times that run backwards move the grid.
-/

namespace ChipEight

/-- Frames have no interval exactly if a second has more frames than nanoseconds. -/
theorem Settings.interval_eq_zero_iff {settings : Settings}
    : settings.interval = 0 ↔ nanosPerSecond < settings.frameRate := by
  rw [interval, Nat.div_eq_zero_iff, nanosPerSecond]
  omega

/-- An interval is never longer than a second. -/
theorem Settings.interval_le (settings : Settings) : settings.interval ≤ nanosPerSecond :=
  Nat.div_le_self _ _

/-- A frame was due: the machine ran, or failed to. -/
def FrameOutcome.attempted : FrameOutcome → Bool
  | .early => false
  | .ran .. => true
  | .failed _ => true

/-- The number of the slot that a time belongs to. Slots are numbered from the origin of the
grid on; the ones before it have numbers below zero.
-/
def slotNumber (interval origin time : Nat) : Int :=
  ((time : Int) - origin) / interval

/-- What a late frame is set back by, to stay whole intervals after the last one. -/
def behindSlot (interval last now : Nat) : Nat :=
  (now - last) % max interval 1

namespace FrameClock

-----------------------------------------------------------------------------------------
-- Single ticks
-----------------------------------------------------------------------------------------

variable {clock : FrameClock} {origin now : Nat} {number : Int}

/-- The last frame stands at the slot with a number, on the grid with an origin. -/
def StandsAt (clock : FrameClock) (origin : Nat) (number : Int) : Prop :=
  ∃ last : Nat, clock.lastFrame = some last ∧ (last : Int) = origin + clock.interval * number

theorem dueSlot?_of_none (fresh : clock.lastFrame = none) (now : Nat)
    : clock.dueSlot? now = some now := by
  rw [dueSlot?, fresh]

theorem dueSlot?_of_some {last : Nat} (stands : clock.lastFrame = some last) (now : Nat)
    : clock.dueSlot? now
      = if now - last < clock.interval then
          none
        else
          some (now - behindSlot clock.interval last now) := by
  rw [dueSlot?, stands]
  rfl

/-- Less than an interval has passed since a slot exactly in that slot and before. -/
theorem elapsed_lt_iff {interval last : Nat} (positive : 0 < interval)
    (place : (last : Int) = origin + interval * number)
    : now - last < interval ↔ slotNumber interval origin now ≤ number := by
  rw [slotNumber, ← Int.lt_add_one_iff, Int.ediv_lt_iff_lt_mul (by omega), Int.add_mul,
    Int.mul_comm number, Int.one_mul]
  omega

/-- A time that is set back lies on the grid, at its own slot. -/
theorem sub_behindSlot {interval last : Nat} (positive : 0 < interval)
    (place : (last : Int) = origin + interval * number) (later : last ≤ now)
    : ((now - behindSlot interval last now : Nat) : Int)
      = origin + interval * slotNumber interval origin now := by
  rw [behindSlot, Nat.max_eq_left positive]
  have short : (now - last) % interval ≤ now :=
    Nat.le_trans (Nat.mod_le _ _) (Nat.sub_le _ _)
  -- Whole intervals between the last frame and the origin do not count for the remainder.
  have moved : (now : Int) - last = (now - origin) - interval * number := by omega
  have split := Int.mul_ediv_add_emod (now - origin) interval
  rw [Int.ofNat_sub short, Int.natCast_emod, Int.ofNat_sub later, moved,
    Int.sub_mul_emod_self_left, slotNumber]
  omega

/-- From a slot of the grid, a frame is due exactly in the later slots; it then stands at the
slot of its time, at least one interval later.
-/
theorem dueSlot?_of_standsAt (positive : 0 < clock.interval)
    (stands : clock.StandsAt origin number) (now : Nat)
    : (slotNumber clock.interval origin now ≤ number ∧ clock.dueSlot? now = none)
      ∨ (number < slotNumber clock.interval origin now
        ∧ ∃ slot : Nat,
            clock.dueSlot? now = some slot
            ∧ (slot : Int)
              = origin + clock.interval * slotNumber clock.interval origin now) := by
  obtain ⟨last, kept, place⟩ := stands
  rw [dueSlot?_of_some kept now]
  by_cases early : now - last < clock.interval
  · exact .inl ⟨(elapsed_lt_iff positive place).mp early, if_pos early⟩
  · refine .inr ⟨?_, _, if_neg early, ?_⟩
    · exact Int.not_le.mp (mt (elapsed_lt_iff positive place).mpr early)
    · exact sub_behindSlot positive place (by omega)

section Tick

/-- What a tick can do, with the clock, the machine and the outcome that it leaves. -/
inductive TickEffect (clock : FrameClock) (now : Nat) (m : Machine)
    : FrameClock → Machine → FrameOutcome → Prop
  | early (notDue : clock.dueSlot? now = none) : TickEffect clock now m clock m .early
  | failed {slot : Nat} {stopped : Machine} {fault : Fault}
    (due : clock.dueSlot? now = some slot)
    (cycle : m.cycle clock.settings.speed = (stopped, .error fault))
    : TickEffect clock now m { clock with lastFrame := some slot } stopped (.failed fault)
  | ran {slot : Nat} {last : Machine} {tick : Tick} (due : clock.dueSlot? now = some slot)
    (cycle : m.cycle clock.settings.speed = (last, .ok tick))
    : TickEffect clock now m
        { clock with lastFrame := some slot, frames := clock.frames + 1 }
        { last with display := last.display.presented }
        (.ran tick [.setTone tick.tone, .display last.display])

variable (clock : FrameClock) (now : Nat) (m : Machine)

variable {clock now m} in
theorem tick_effect {after : FrameClock} {next : Machine} {outcome : FrameOutcome}
    (ticked : clock.tick now m = (after, next, outcome))
    : TickEffect clock now m after next outcome := by
  unfold tick at ticked
  split at ticked
  · next notDue =>
    cases ticked
    exact .early notDue
  · next due =>
    split at ticked
    · next failed =>
      cases ticked
      exact .failed due failed
    · next ran =>
      cases ticked
      exact .ran due ran

/-- A tick attempts a frame exactly if one is due. -/
theorem attempted_tick
    : (clock.tick now m).2.2.attempted = (clock.dueSlot? now).isSome := by
  rcases ticked : clock.tick now m with ⟨after, next, outcome⟩
  cases tick_effect ticked with
  | early notDue => rw [notDue]; rfl
  | failed due | ran due => rw [due]; rfl

theorem settings_tick : (clock.tick now m).1.settings = clock.settings := by
  rcases ticked : clock.tick now m with ⟨after, next, outcome⟩
  cases tick_effect ticked <;> rfl

/-- A due slot replaces the one before, also if the machine then fails. -/
theorem lastFrame_tick
    : (clock.tick now m).1.lastFrame = (clock.dueSlot? now).or clock.lastFrame := by
  rcases ticked : clock.tick now m with ⟨after, next, outcome⟩
  cases tick_effect ticked with
  | early notDue => rw [notDue]; rfl
  | failed due | ran due => rw [due]; rfl

/-- A tick counts a frame that it attempts and that does not fail. -/
theorem frames_tick
    : (clock.tick now m).1.frames
      = clock.frames
        + ((clock.tick now m).2.2.attempted
            && (m.cycle clock.settings.speed).2.isOk).toNat := by
  rcases ticked : clock.tick now m with ⟨after, next, outcome⟩
  cases tick_effect ticked with
  | early => rfl
  | failed _ failed => rw [failed]; rfl
  | ran _ ran => rw [ran]; rfl

end Tick

-----------------------------------------------------------------------------------------
-- Ticks in a row
-----------------------------------------------------------------------------------------

section Ticks

variable (settings : Settings) (times : Nat → Nat) (machines : Nat → Machine)

/-- The clock after the first `count` ticks of a sequence; each has a time and the machine that
it is given.
-/
def afterTicks : Nat → FrameClock
  | 0 => { settings }
  | count + 1 => ((afterTicks count).tick (times count) (machines count)).1

/-- A tick of the sequence attempts a frame. -/
def attempts (i : Nat) : Bool :=
  ((afterTicks settings times machines i).tick (times i) (machines i)).2.2.attempted

/-- The number of the slot of a tick, on the grid that the first tick begins. -/
def slotOf (i : Nat) : Int :=
  slotNumber settings.interval (times 0) (times i)

theorem settings_afterTicks (count : Nat)
    : (afterTicks settings times machines count).settings = settings := by
  induction count with
  | zero => rfl
  | succ count ih => exact (settings_tick _ _ _).trans ih

theorem interval_afterTicks (count : Nat)
    : (afterTicks settings times machines count).interval = settings.interval :=
  congrArg Settings.interval (settings_afterTicks settings times machines count)

variable {settings}

/-- The slot of the first tick has the number zero. -/
theorem slotOf_zero : slotOf settings times 0 = 0 := by
  rw [slotOf, slotNumber, Int.sub_self, Int.zero_ediv]

/-- Whether a frame is due at a later tick, from the slot that the last frame stands at. -/
theorem dueSlot?_afterTicks (positive : 0 < settings.interval) {i : Nat} {number : Int}
    (stands : (afterTicks settings times machines i).StandsAt (times 0) number)
    : (slotOf settings times i ≤ number
        ∧ (afterTicks settings times machines i).dueSlot? (times i) = none)
      ∨ (number < slotOf settings times i
        ∧ ∃ slot : Nat,
            (afterTicks settings times machines i).dueSlot? (times i) = some slot
            ∧ (slot : Int) = times 0 + settings.interval * slotOf settings times i) := by
  have interval := interval_afterTicks settings times machines i
  have due := dueSlot?_of_standsAt (by rw [interval]; exact positive) stands (times i)
  rwa [interval] at due

/-- After each tick the last frame stands at the latest slot of the ticks so far. Witness:
induction on the ticks; a tick in a later slot moves on to it, and every other one is early.
-/
theorem afterTicks_standsAt (positive : 0 < settings.interval) (i : Nat)
    : ∃ top ≤ i,
        (∀ j ≤ i, slotOf settings times j ≤ slotOf settings times top)
        ∧ (afterTicks settings times machines (i + 1)).StandsAt (times 0)
          (slotOf settings times top) := by
  induction i with
  | zero =>
    refine ⟨0, Nat.le_refl 0, ?_, times 0, ?_, ?_⟩
    · intro j first
      exact Int.le_of_eq (congrArg _ (Nat.le_zero.mp first))
    · rw [afterTicks, lastFrame_tick, dueSlot?_of_none rfl]
      rfl
    · rw [slotOf_zero, Int.mul_zero, Int.add_zero]
  | succ i ih =>
    obtain ⟨top, before, latest, stands⟩ := ih
    have moved := lastFrame_tick (afterTicks settings times machines (i + 1)) (times (i + 1))
      (machines (i + 1))
    rcases dueSlot?_afterTicks times machines positive stands with
      ⟨early, none⟩ | ⟨later, slot, due, place⟩
    · refine ⟨top, by omega, ?_, ?_⟩
      · intro j inside
        rcases Nat.lt_or_eq_of_le inside with earlier | rfl
        · exact latest j (by omega)
        · exact early
      · obtain ⟨last, same, place⟩ := stands
        rw [none, same] at moved
        rw [interval_afterTicks] at place
        exact ⟨last, moved, by rw [interval_afterTicks]; exact place⟩
    · refine ⟨i + 1, Nat.le_refl _, ?_, slot, ?_, ?_⟩
      · intro j inside
        rcases Nat.lt_or_eq_of_le inside with earlier | rfl
        · exact Int.le_trans (latest j (by omega)) (Int.le_of_lt later)
        · exact Int.le_refl _
      · rw [due] at moved
        exact moved
      · rw [interval_afterTicks]
        exact place

/-- A tick attempts a frame exactly if it is in a later slot than every tick before it. -/
theorem attempts_iff (positive : 0 < settings.interval) (i : Nat)
    : attempts settings times machines i = true
      ↔ ∀ j < i, slotOf settings times j < slotOf settings times i := by
  rw [attempts, attempted_tick]
  cases i with
  | zero =>
    rw [dueSlot?_of_none rfl]
    simp
  | succ i =>
    obtain ⟨top, before, latest, stands⟩ := afterTicks_standsAt times machines positive i
    rcases dueSlot?_afterTicks times machines positive stands with
      ⟨early, none⟩ | ⟨later, slot, due, _⟩
    · rw [none]
      refine ⟨nofun, ?_⟩
      intro all
      exact absurd (all top (by omega)) (Int.not_lt.mpr early)
    · rw [due]
      refine ⟨?_, fun _ => rfl⟩
      intro _ j inside
      exact Int.lt_of_le_of_lt (latest j (by omega)) later

/-- Without an interval a frame is always due. -/
theorem attempts_of_interval_eq_zero (zero : settings.interval = 0) (i : Nat)
    : attempts settings times machines i = true := by
  rw [attempts, attempted_tick]
  cases stands : (afterTicks settings times machines i).lastFrame with
  | none => rw [dueSlot?_of_none stands]; rfl
  | some last =>
    rw [dueSlot?_of_some stands, interval_afterTicks, zero, if_neg (Nat.not_lt_zero _)]
    rfl

/-- A tick that attempts a frame sets the last frame back from its time by less than 64 bits
hold, and to no time before the next slot.
-/
theorem lastFrame_of_attempts (positive : 0 < settings.interval) {i last : Nat}
    (stands : (afterTicks settings times machines i).lastFrame = some last)
    (attempted : attempts settings times machines i = true)
    : (afterTicks settings times machines (i + 1)).lastFrame
        = some (times i - behindSlot settings.interval last (times i))
      ∧ behindSlot settings.interval last (times i) ≤ times i
      ∧ last + settings.interval ≤ times i - behindSlot settings.interval last (times i)
      ∧ (UInt64.ofNat (behindSlot settings.interval last (times i))).toNat
        = behindSlot settings.interval last (times i) := by
  have due := dueSlot?_of_some stands (times i)
  rw [attempts, attempted_tick, due] at attempted
  rw [interval_afterTicks] at due attempted
  have passed : ¬times i - last < settings.interval := by
    intro early
    rw [if_pos early] at attempted
    cases attempted
  have below : behindSlot settings.interval last (times i) < settings.interval := by
    rw [behindSlot, Nat.max_eq_left positive]
    exact Nat.mod_lt _ positive
  have kept : last + settings.interval
      ≤ times i - behindSlot settings.interval last (times i) := by
    have whole := Nat.div_add_mod (times i - last) settings.interval
    have once := Nat.le_mul_of_pos_right settings.interval
      (Nat.div_pos (Nat.not_lt.mp passed) positive)
    rw [behindSlot, Nat.max_eq_left positive]
    omega
  refine ⟨?_, by omega, kept, ?_⟩
  · rw [afterTicks, lastFrame_tick, due, if_neg passed]
    rfl
  · have small := settings.interval_le
    simp only [nanosPerSecond] at small
    rw [UInt64.toNat_ofNat', Nat.mod_eq_of_lt (by omega)]

variable (settings)

/-- The clock counts the attempted frames whose cycle succeeded. -/
theorem frames_afterTicks (count : Nat)
    : (afterTicks settings times machines count).frames
      = (List.range count).countP fun i =>
          attempts settings times machines i
            && ((machines i).cycle settings.speed).2.isOk := by
  induction count with
  | zero => rfl
  | succ count ih =>
    rw [afterTicks, frames_tick, ih, settings_afterTicks, List.range_succ, List.countP_append,
      List.countP_singleton, attempts]
    cases _ && _ <;> rfl

/-- Ticks at any times keep to the grid of their first one.
Where frames have an interval, a tick attempts a frame exactly if it is in a later slot than
every tick before it, and afterwards the last frame stands exactly at the latest slot so far.
What it is set back by fits into 64 bits, and it moves on by an interval at least.
Without an interval, which is beyond a frame rate of a billion, every tick attempts a frame.
In both cases the clock counts the attempted frames whose cycle succeeded.
Witness: the slot of the last frame, by induction on the ticks.
-/
theorem ticks_keep_to_grid
    : (0 < settings.interval
        → ∀ i,
            (attempts settings times machines i = true
              ↔ ∀ j < i, slotOf settings times j < slotOf settings times i)
            ∧ (∃ top ≤ i,
                (∀ j ≤ i, slotOf settings times j ≤ slotOf settings times top)
                ∧ ∃ last : Nat,
                    (afterTicks settings times machines (i + 1)).lastFrame = some last
                    ∧ (last : Int) = times 0 + settings.interval * slotOf settings times top)
            ∧ ∀ last,
                (afterTicks settings times machines i).lastFrame = some last
                → attempts settings times machines i = true
                → (afterTicks settings times machines (i + 1)).lastFrame
                    = some (times i - behindSlot settings.interval last (times i))
                  ∧ behindSlot settings.interval last (times i) ≤ times i
                  ∧ last + settings.interval
                    ≤ times i - behindSlot settings.interval last (times i)
                  ∧ (UInt64.ofNat (behindSlot settings.interval last (times i))).toNat
                    = behindSlot settings.interval last (times i))
      ∧ (settings.interval = 0 ↔ nanosPerSecond < settings.frameRate)
      ∧ (settings.interval = 0 → ∀ i, attempts settings times machines i = true)
      ∧ ∀ count,
          (afterTicks settings times machines count).frames
            = (List.range count).countP fun i =>
                attempts settings times machines i
                  && ((machines i).cycle settings.speed).2.isOk := by
  refine ⟨?_, Settings.interval_eq_zero_iff, attempts_of_interval_eq_zero times machines,
    frames_afterTicks settings times machines⟩
  intro positive i
  refine ⟨attempts_iff times machines positive i, ?_,
    fun _ => lastFrame_of_attempts times machines positive⟩
  obtain ⟨top, before, latest, last, kept, place⟩ :=
    afterTicks_standsAt times machines positive i
  rw [interval_afterTicks] at place
  exact ⟨top, before, latest, last, kept, place⟩

end Ticks

/-- Times that are early, late, run backwards and then pause for a second. -/
def unevenTimes (i : Nat) : Nat :=
  [5_000_000, 6_000_000, 25_000_000, 4_000_000, 1_000_000_000].getD i 1_000_000_000

/-- At sixty frames a second, the late tick and the one after the pause attempt a frame, and
the pause ends at the slot with the number 59.
-/
theorem ticks_keep_to_grid_uneven
    : let machines := fun _ => Machine.powerOn { stream := fun _ => 0 }
      0 < Settings.interval {}
      ∧ (List.range 5).map (attempts {} unevenTimes machines)
        = [true, false, true, false, true]
      ∧ (afterTicks {} unevenTimes machines 5).lastFrame
        = some (5_000_000 + 59 * 16_666_666) := by
  intro machines
  have positive : 0 < Settings.interval {} := by decide
  have ticks := (ticks_keep_to_grid {} unevenTimes machines).1 positive
  refine ⟨positive, ?_, ?_⟩
  · have decided : ∀ i, attempts {} unevenTimes machines i
        = decide (∀ j < i, slotOf {} unevenTimes j < slotOf {} unevenTimes i) :=
      fun i => Bool.eq_iff_iff.mpr ((ticks i).1.trans decide_eq_true_iff.symm)
    rw [funext decided]
    decide
  · obtain ⟨top, inside, latest, last, kept, place⟩ := (ticks 4).2.1
    have number : ∀ top ≤ 4,
        (∀ j ≤ 4, slotOf {} unevenTimes j ≤ slotOf {} unevenTimes top)
        → slotOf {} unevenTimes top = 59 := by
      decide
    rw [number top inside latest] at place
    rw [kept]
    exact congrArg some (Int.ofNat_inj.mp place)

end FrameClock

end ChipEight
