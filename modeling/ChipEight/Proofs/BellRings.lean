import ChipEight.Proofs.HeldKeys
import ChipEight.Proofs.Presentation
import Mathlib.Data.List.Basic
import Mathlib.Data.List.GetD

/-! The bell rings whenever the tone starts. A frame that ran is told by what its tick left of the
sound timer; the bell rings once for every frame with a running timer that follows a frame with a
timer at zero, and hears nothing of what happens between frames.
-/

namespace ChipEight

-----------------------------------------------------------------------------------------
-- Where the tone starts
-----------------------------------------------------------------------------------------

/-- The tone starts at a frame: the timer is above zero after it, and was at zero after the frame
before, if there is one.
-/
def ToneStartsAt (sounds : List UInt8) (i : Nat) : Prop :=
  0 < sounds.getD i 0 ∧ (i = 0 ∨ sounds.getD (i - 1) 0 = 0)

instance (sounds : List UInt8) (i : Nat) : Decidable (ToneStartsAt sounds i) :=
  inferInstanceAs (Decidable (_ ∧ _))

/-- The number of frames at which the tone starts. -/
def toneStarts (sounds : List UInt8) : Nat :=
  (List.range sounds.length).countP (ToneStartsAt sounds ·)

/-- The tone sounds after the last frame; before the first one it is off. -/
def toneSounds (sounds : List UInt8) : Bool :=
  match sounds.getLast? with
  | none => false
  | some left => 0 < left

theorem toneSounds_concat (sounds : List UInt8) (left : UInt8)
    : toneSounds (sounds ++ [left]) = decide (0 < left) := by
  rw [toneSounds, List.getLast?_concat]

/-- A later frame does not change where the tone started before. -/
theorem toneStartsAt_append {sounds : List UInt8} {i : Nat} (inside : i < sounds.length)
    (later : List UInt8)
    : ToneStartsAt (sounds ++ later) i ↔ ToneStartsAt sounds i := by
  rw [ToneStartsAt, ToneStartsAt, List.getD_append _ _ _ _ inside,
    List.getD_append _ _ _ _ (Nat.lt_of_le_of_lt (Nat.sub_le i 1) inside)]

/-- The tone starts at the next frame exactly if that leaves time and the tone is off. -/
theorem toneStartsAt_concat (sounds : List UInt8) (left : UInt8)
    : ToneStartsAt (sounds ++ [left]) sounds.length
      ↔ 0 < left ∧ toneSounds sounds = false := by
  rcases List.eq_nil_or_concat' sounds with rfl | ⟨earlier, last, rfl⟩
  · simp [ToneStartsAt, toneSounds]
  · have before : ((earlier ++ [last]) ++ [left]).getD ((earlier ++ [last]).length - 1) 0
        = last := by
      simp
    rw [ToneStartsAt, before, toneSounds_concat, decide_eq_false_iff_not]
    simp

theorem toneStarts_concat (sounds : List UInt8) (left : UInt8)
    : toneStarts (sounds ++ [left])
      = toneStarts sounds + (decide (0 < left) && !toneSounds sounds).toNat := by
  have earlier : (List.range sounds.length).countP (ToneStartsAt (sounds ++ [left]) ·)
      = toneStarts sounds := by
    apply List.countP_congr
    intro i member
    simp only [decide_eq_true_iff]
    exact toneStartsAt_append (List.mem_range.mp member) [left]
  rw [toneStarts, List.length_append, List.length_singleton, List.range_succ,
    List.countP_append, earlier, List.countP_singleton]
  simp only [decide_eq_true_iff, toneStartsAt_concat]
  cases toneSounds sounds <;> by_cases runs : 0 < left <;> simp [runs]

example : toneStarts [0, 3, 2, 0, 0, 1] = 2 := by decide

-----------------------------------------------------------------------------------------
-- The bell
-----------------------------------------------------------------------------------------

/-- What a tick leaves of the sound timer, if it runs a frame. -/
def FrameClock.sound? (clock : FrameClock) (now : Nat) (m : Machine) : Option UInt8 :=
  match clock.tick now m with
  | (_, next, .ran ..) => some next.sound.value
  | _ => none

namespace Terminal.Bell

/-- The bell after frames, each of which sets the tone by what it left of the sound timer. -/
def afterFrames (bell : Bell) (sounds : List UInt8) : Bell :=
  sounds.foldl (fun bell left => bell.setTone (0 < left)) bell

theorem afterFrames_append (bell : Bell) (first later : List UInt8)
    : bell.afterFrames (first ++ later) = (bell.afterFrames first).afterFrames later :=
  List.foldl_append

/-- A bell that was silent rings whenever the tone starts. By induction on the frames, the last
one at the end.
-/
theorem afterFrames_eq (sounds : List UInt8)
    : ({} : Bell).afterFrames sounds
      = { audible := toneSounds sounds, output := List.replicate (toneStarts sounds) 0x07 } := by
  induction sounds using List.reverseRecOn with
  | nil => rfl
  | append_singleton sounds left ih =>
    rw [afterFrames_append, ih, toneSounds_concat, toneStarts_concat]
    simp only [afterFrames, List.foldl_cons, List.foldl_nil, setTone]
    cases toneSounds sounds <;> by_cases runs : 0 < left <;>
      simp [runs, List.replicate_succ']

/-- The tone that a frame sets is the one that its tick leaves. -/
theorem afterFrames_sound? (bell : Bell) (clock : FrameClock) (now : Nat) (m : Machine)
    : bell.afterFrames (clock.sound? now m).toList
      = (clock.tick now m).2.2.calls.foldl hear bell := by
  rcases ticked : clock.tick now m with ⟨after, next, outcome⟩
  simp only [FrameClock.sound?, ticked]
  cases FrameClock.tick_effect ticked with
  | early | failed => rfl
  | ran _ cycle =>
    have tone := Machine.tone_cycle cycle
    rw [tone]
    rfl

end Terminal.Bell

-----------------------------------------------------------------------------------------
-- Driven machines
-----------------------------------------------------------------------------------------

namespace Driver

open Terminal (Bell)

/-- What an event leaves of the sound timer, if it runs a frame. -/
def sound? (driver : Driver) : DriverEvent → Option UInt8
  | .tick now => driver.clock.sound? now driver.machine
  | .act _ => none

/-- What the frames of a run left of the sound timer, in turn. -/
def sounds (driver : Driver) : List DriverEvent → List UInt8
  | [] => []
  | event :: rest => (driver.sound? event).toList ++ (driver.handle event).sounds rest

/-- The bell that heard every call so far. -/
def bell (driver : Driver) : Bell :=
  driver.calls.foldl Bell.hear {}

/-- The bell hears of an event nothing but the tone of a frame that ran. -/
theorem bell_handle (driver : Driver) (event : DriverEvent)
    : (driver.handle event).bell = driver.bell.afterFrames (driver.sound? event).toList := by
  cases event with
  | act action => rfl
  | tick now =>
    rw [sound?, Bell.afterFrames_sound?]
    simp only [handle, bell, List.foldl_append]

/-- The bell hears of a run nothing but the tones of its frames, by induction on the events. -/
theorem bell_run (driver : Driver) (events : List DriverEvent)
    : (driver.run events).bell = driver.bell.afterFrames (driver.sounds events) := by
  induction events generalizing driver with
  | nil => rfl
  | cons event rest ih => rw [run, ih, bell_handle, sounds, Bell.afterFrames_append]

end Driver

-----------------------------------------------------------------------------------------
-- Machines on a terminal
-----------------------------------------------------------------------------------------

namespace Terminal.Console

/-- What an event leaves of the sound timer, if it runs a frame. -/
def sound? (console : Console) : LoopEvent → Option UInt8
  | .frame now => console.clock.sound? now console.machine
  | _ => none

/-- What the frames of a run left of the sound timer, in turn. -/
def sounds (console : Console) : List LoopEvent → List UInt8
  | [] => []
  | event :: rest => (console.sound? event).toList ++ (console.after event).sounds rest

/-- Only a frame that ran sets the tone of the bell, by cases on the event. -/
theorem bell_after (console : Console) (event : LoopEvent)
    : (console.after event).bell = console.bell.afterFrames (console.sound? event).toList := by
  cases event with
  | press key now =>
    unfold after
    generalize console.hold.press console.machine key now = pressed
    rfl
  | expire now =>
    unfold after refresh
    generalize console.hold.releaseExpired console.machine now = released
    rfl
  | reset =>
    unfold after
    generalize console.hold.releaseAll console.machine = released
    rfl
  | cycle count => rfl
  | frame now =>
    rw [sound?, Bell.afterFrames_sound?, after, frame]
    rcases console.clock.tick now console.machine with ⟨clock, machine, outcome⟩
    cases outcome <;> rfl

/-- The bell of a run is told by its frames, by induction on the events. -/
theorem bell_run (console : Console) (events : List LoopEvent)
    : (console.run events).bell = console.bell.afterFrames (console.sounds events) := by
  induction events generalizing console with
  | nil => rfl
  | cons event rest ih =>
    rw [run, List.foldl_cons, ← run, ih, bell_after, sounds, Bell.afterFrames_append]

end Terminal.Console

/-- The bell rings once for every stretch of frames with a tone. Whatever happens to a driven
machine, which may start in any state: the bell that hears all calls of its frames wrote as many
bytes `07` as there are frames that ran and at which the tone starts, and it takes the tone for on
exactly if the last frame that ran left time on the sound timer. The same holds of the bell of a
machine on a terminal.
Witness: only a frame that ran sets the tone, and it sets the one that its tick left.
-/
theorem bell_rings_when_tone_starts
    : (∀ (clock : FrameClock) (machine : Machine) events,
        let driver : Driver := { clock, machine }
        let bell := (driver.run events).bell
        bell.output = List.replicate (toneStarts (driver.sounds events)) 0x07
        ∧ bell.audible = toneSounds (driver.sounds events))
      ∧ ∀ (machine : Machine) settings events,
          let console := Terminal.Console.start machine settings
          let bell := (console.run events).bell
          bell.output = List.replicate (toneStarts (console.sounds events)) 0x07
          ∧ bell.audible = toneSounds (console.sounds events) := by
  constructor
  · intro clock machine events driver bell
    have heard : bell = _ := (driver.bell_run events).trans (Terminal.Bell.afterFrames_eq _)
    rw [heard]
    exact ⟨rfl, rfl⟩
  · intro machine settings events console bell
    have heard : bell = _ := (console.bell_run events).trans (Terminal.Bell.afterFrames_eq _)
    rw [heard]
    exact ⟨rfl, rfl⟩

end ChipEight
