import ChipEight.Proofs.Lockstep
import ChipEight.Proofs.Prompts
import Mathlib.Algebra.GroupWithZero.Nat

/-! How the steps of a run are divided into ticks does not matter for what it computes: only the
timers depend on it, and only the instruction that reads a timer can tell.
-/

namespace ChipEight.Machine

-----------------------------------------------------------------------------------------
-- Ticks in turn
-----------------------------------------------------------------------------------------

/-- Ticks in turn with their reports, up to the first one that fails. -/
def cycleAll (m : Machine) : List Nat → Machine × Except Fault (List Tick)
  | [] => (m, .ok [])
  | count :: rest =>
    match m.cycle count with
    | (stopped, .error fault) => (stopped, .error fault)
    | (next, .ok report) => ((next.cycleAll rest).1, (next.cycleAll rest).2.map (report :: ·))

/-- The opcodes that ticks in turn execute. -/
def executedAll (m : Machine) : List Nat → List Opcode
  | [] => []
  | count :: rest =>
    m.executed count
      ++ match m.cycle count with
        | (_, .error _) => []
        | (next, .ok _) => next.executedAll rest

/-- If ticks in turn succeed, the last one tells whether a prompt waits in the end. -/
theorem waiting_of_cycleAll {m last : Machine} {sizes : List Nat} {reports : List Tick}
    (ran : m.cycleAll sizes = (last, .ok reports)) (nonempty : sizes ≠ [])
    : ∃ report, reports.getLast? = some report ∧ report.waiting = last.isPaused := by
  induction sizes generalizing m reports with
  | nil => exact absurd rfl nonempty
  | cons count rest ih =>
    rw [cycleAll] at ran
    rcases ticked : m.cycle count with ⟨next, fault | report⟩
    · simp only [ticked] at ran
      cases ran
    · simp only [ticked] at ran
      rcases after : next.cycleAll rest with ⟨final, fault | later⟩
      · simp only [after, Except.map] at ran
        cases ran
      · simp only [after, Except.map] at ran
        cases ran
        cases rest with
        | nil =>
          cases after
          exact ⟨report, rfl, waiting_of_cycle ticked⟩
        | cons count rest =>
          obtain ⟨latest, found, waits⟩ := ih after (List.cons_ne_nil _ _)
          refine ⟨latest, ?_, waits⟩
          rw [List.getLast?_cons, found]
          rfl

-----------------------------------------------------------------------------------------
-- Batches that continue each other
-----------------------------------------------------------------------------------------

/-- A batch is any part of it and what is left after that. -/
theorem batch_add (m : Machine) (first second : Nat) (drew : Bool)
    : m.batch (first + second) drew
      = match m.batch first drew with
        | (stopped, .error fault) => (stopped, .error fault)
        | (next, .ok redraw) => next.batch second redraw := by
  induction first generalizing m drew with
  | zero => rw [Nat.zero_add, batch]
  | succ first ih =>
    rw [Nat.succ_add]
    cases paused : m.isPaused with
    | true => simp only [batch_of_paused paused]
    | false =>
      rcases stepped : m.step with ⟨next, fault | request⟩
      · simp only [batch_of_failure paused stepped]
      · simp only [batch_of_step paused stepped, ih]

theorem executed_add (m : Machine) (first second : Nat) (drew : Bool)
    : m.executed (first + second)
      = m.executed first
        ++ match m.batch first drew with
          | (_, .error _) => []
          | (next, .ok _) => next.executed second := by
  induction first generalizing m drew with
  | zero => rw [Nat.zero_add, batch, executed, List.nil_append]
  | succ first ih =>
    rw [Nat.succ_add]
    cases paused : m.isPaused with
    | true => simp only [executed_of_paused paused, batch_of_paused paused, List.append_nil]
    | false =>
      rcases stepped : m.step with ⟨next, fault | request⟩
      · simp only [executed_of_failure stepped, batch_of_failure paused stepped,
          List.append_nil]
      · simp only [executed_of_step paused stepped, batch_of_step paused stepped,
          List.cons_append, ← ih]

/-- What was drawn before a batch is only added to its result. -/
theorem batch_drew (m : Machine) (count : Nat) (drew : Bool)
    : m.batch count drew
      = ((m.batch count false).1, (m.batch count false).2.map (drew || ·)) := by
  induction count generalizing m drew with
  | zero => simp [batch, Except.map]
  | succ count ih =>
    cases paused : m.isPaused with
    | true => simp [batch_of_paused paused, Except.map]
    | false =>
      rcases stepped : m.step with ⟨next, fault | request⟩
      · simp only [batch_of_failure paused stepped, Except.map]
      · simp only [batch_of_step paused stepped]
        rw [ih next (drew || request == .redraw), ih next (false || request == .redraw)]
        cases (next.batch count false).2 <;> simp [Except.map, Bool.or_assoc]

-----------------------------------------------------------------------------------------
-- Machines with different timers
-----------------------------------------------------------------------------------------

/-- Two machines are equal but for their timers. -/
def SameButTimers (left right : Machine) : Prop :=
  right = { left with delay := right.delay, sound := right.sound }

namespace SameButTimers

variable {left right : Machine}

theorem symm (h : SameButTimers left right) : SameButTimers right left := by
  rw [SameButTimers] at h ⊢
  rw [h]

theorem trans {middle : Machine} (first : SameButTimers left middle)
    (second : SameButTimers middle right)
    : SameButTimers left right := by
  rw [SameButTimers] at first second ⊢
  rw [second, first]

theorem control (h : SameButTimers left right) : SameControl left right := by
  rw [h]
  exact ⟨rfl, rfl, rfl, rfl⟩

theorem lift (h : SameButTimers left right) (change : Machine → Machine)
    (apart
      : ∀ delay sound, change { left with delay, sound } = { change left with delay, sound })
    : SameButTimers (change left) (change right) := by
  rw [SameButTimers] at h ⊢
  rw [h, apart]

/-- The countdown is told by the timers alone. -/
theorem countDown (m : Machine) : SameButTimers m m.countDown := by
  obtain ⟨delay, sound, counted⟩ := m.countDown_eq
  rw [counted]
  rfl

/-- All instructions but the one that reads the delay timer are executed by both machines in the
same way, by cases on the instruction.
-/
theorem execute (h : SameButTimers left right) {instruction : Instruction} {done : Executed}
    (other : ∀ x, instruction ≠ .misc .getDelay x)
    (executed : left.execute instruction = .ok done)
    : ∃ also,
        right.execute instruction = .ok also
        ∧ SameButTimers done.machine also.machine
        ∧ also.flow = done.flow
        ∧ also.request = done.request := by
  unfold SameButTimers at h
  generalize right.delay = delay, right.sound = sound at h
  subst h
  cases instruction with
  | ret | call nnn =>
    simp only [Machine.execute] at executed ⊢
    split at executed <;> cases executed
    exact ⟨_, rfl, rfl, rfl, rfl⟩
  | misc op x =>
    cases executed
    refine ⟨_, rfl, ?_, ?_, ?_⟩
    all_goals cases op <;> simp only [SameButTimers, executeMisc, storeAtIndex, loadFromIndex]
    exact absurd rfl (other x)
  | _ =>
    cases executed
    exact ⟨_, rfl, rfl, rfl, rfl⟩

end SameButTimers

/-- No opcode reads the delay timer. -/
def Untimed (ops : List Opcode) : Prop :=
  ∀ opcode ∈ ops, ¬opcode.IsMisc 0x07

theorem untimed_append {first second : List Opcode}
    : Untimed (first ++ second) ↔ Untimed first ∧ Untimed second :=
  List.forall_mem_append

/-- Two machines are equal but for their timers, which nothing that is still to be executed
reads.
-/
structure TimersApart (ops : List Opcode) (left right : Machine) : Prop where
  untimed : Untimed ops
  others : SameButTimers left right

/-- Machines whose timers nothing reads are in lockstep. -/
theorem TimersApart.lockstep : Lockstep TimersApart where
  control h := h.others.control
  noted opcode h := ⟨h.untimed, h.others.lift (fun m => { m with opcode }) fun _ _ => rfl⟩
  advanced flow h := ⟨h.untimed, h.others.lift (·.advance flow) fun _ _ => rfl⟩
  executed := by
    rintro ops left right opcode done ⟨untimed, others⟩ executed
    obtain ⟨first, later⟩ := List.forall_mem_cons.mp untimed
    have other : ∀ x, Instruction.decode opcode ≠ .misc .getDelay x :=
      fun _ decoded => first (Instruction.decode_eq_misc_iff.mp decoded).1
    obtain ⟨also, executes, others, answers⟩ := others.execute other executed
    exact ⟨also, executes, ⟨later, others⟩, answers⟩

/-- A batch is the same for both machines if one of them reads no timer in it. -/
theorem SameButTimers.batch {left right : Machine} (h : SameButTimers left right) {count : Nat}
    (untimed : Untimed (left.executed count) ∨ Untimed (right.executed count)) (drew : Bool)
    : Alike SameButTimers (left.batch count drew) (right.batch count drew)
      ∧ left.executed count = right.executed count := by
  have tandem {left right : Machine} (h : SameButTimers left right)
      (untimed : Untimed (left.executed count))
      : Tandem TimersApart [] (left.batch count drew) (right.batch count drew)
          (left.batchLog count) (right.batchLog count) := by
    apply TimersApart.lockstep.batch
    rw [List.append_nil, opcodes_batchLog]
    exact ⟨untimed, h⟩
  simp only [← opcodes_batchLog]
  rcases untimed with untimed | untimed
  · have both := tandem h untimed
    exact ⟨⟨both.alike.related.others, both.alike.answer⟩, both.same_opcodes.symm⟩
  · have both := tandem h.symm untimed
    exact ⟨⟨both.alike.related.others.symm, both.alike.answer.symm⟩, both.same_opcodes⟩

-----------------------------------------------------------------------------------------
-- Ticks in turn are one batch
-----------------------------------------------------------------------------------------

/-- Ticks in turn are a single batch of all their steps, up to the timers, if one of both reads
no timer. By induction on the ticks; between two of them only the timers come apart.
-/
theorem SameButTimers.cycleAll {left right : Machine} {sizes : List Nat}
    (h : SameButTimers left right)
    (untimed : Untimed (left.executedAll sizes) ∨ Untimed (right.executed sizes.sum))
    : SameButTimers (left.cycleAll sizes).1 (right.batch sizes.sum false).1
      ∧ (left.cycleAll sizes).2.map (·.any Tick.redraw) = (right.batch sizes.sum false).2
      ∧ left.executedAll sizes = right.executed sizes.sum := by
  induction sizes generalizing left right with
  | nil => exact ⟨h, rfl, rfl⟩
  | cons count rest ih =>
    rw [executedAll, List.sum_cons, executed_add right count rest.sum false, untimed_append,
      untimed_append] at untimed
    obtain ⟨⟨related, answer⟩, same⟩ := h.batch (untimed.imp And.left And.left) false
    rw [Machine.cycleAll, executedAll, List.sum_cons, batch_add, executed_add _ _ _ false, same]
    -- Both batches end alike: they fail together, or go on with the same flag.
    generalize ran : left.batch count false = first at related answer
    generalize right.batch count false = second at related answer untimed ⊢
    obtain ⟨next, result⟩ := first
    obtain ⟨other, _⟩ := second
    cases answer
    cases result with
    | error fault =>
      rw [cycle_of_failure ran]
      exact ⟨related, rfl, rfl⟩
    | ok redraw =>
      rw [cycle_of_batch ran] at untimed ⊢
      have counted : SameButTimers next.countDown other := (countDown next).symm.trans related
      obtain ⟨ended, answers, executed⟩ := ih counted (untimed.imp And.right And.right)
      simp only [batch_drew other rest.sum redraw, ← answers]
      refine ⟨ended, ?_, congrArg (_ ++ ·) executed⟩
      cases (next.countDown.cycleAll rest).2 <;> rfl

/-- Ticks that make the same number of steps compute the same, however the steps are divided
among them, unless the delay timer is read: they leave behind machines that are equal but for
the timers, execute the same opcodes and fail with the same fault, or tell the same about the
picture and about a prompt in the end.
-/
theorem division_into_ticks_irrelevant {m : Machine} {sizes others : List Nat}
    (same : sizes.sum = others.sum)
    (untimed : ∀ opcode ∈ m.executedAll sizes, ¬opcode.IsMisc 0x07)
    : SameButTimers (m.cycleAll sizes).1 (m.cycleAll others).1
      ∧ m.executedAll others = m.executedAll sizes
      ∧ match (m.cycleAll sizes).2, (m.cycleAll others).2 with
        | .error fault, .error other => other = fault
        | .ok reports, .ok otherReports =>
          otherReports.any Tick.redraw = reports.any Tick.redraw
          ∧ (sizes ≠ []
            → others ≠ []
            → ∃ last otherLast,
                reports.getLast? = some last
                ∧ otherReports.getLast? = some otherLast
                ∧ otherLast.waiting = last.waiting)
        | _, _ => False := by
  have itself : SameButTimers m m := rfl
  obtain ⟨ended, answers, executed⟩ := itself.cycleAll (.inl untimed)
  rw [executed, same] at untimed
  obtain ⟨otherEnded, otherAnswers, otherExecuted⟩ := itself.cycleAll (.inr untimed)
  rw [same] at ended answers executed
  have related := ended.trans otherEnded.symm
  refine ⟨related, otherExecuted.trans executed.symm, ?_⟩
  have agree := otherAnswers.trans answers.symm
  rcases ran : m.cycleAll sizes with ⟨last, fault | reports⟩
    <;> rcases also : m.cycleAll others with ⟨otherLast, otherFault | otherReports⟩
    <;> rw [ran, also] at agree related
  · exact Except.error.inj agree
  · cases agree
  · cases agree
  · refine ⟨Except.ok.inj agree, ?_⟩
    intro nonempty otherNonempty
    obtain ⟨report, latest, waits⟩ := waiting_of_cycleAll ran nonempty
    obtain ⟨otherReport, otherLatest, otherWaits⟩ := waiting_of_cycleAll also otherNonempty
    refine ⟨report, otherReport, latest, otherLatest, ?_⟩
    calc
      otherReport.waiting = otherLast.isPaused := otherWaits
      _ = last.isPaused := related.control.paused
      _ = report.waiting := waits.symm

/-- A tick of ten steps, and the same steps as three ticks, of which the second makes none and the
third one finds the prompt.
-/
theorem division_into_ticks_irrelevant_prompter
    : (∀ opcode ∈ prompter.executedAll [10], ¬opcode.IsMisc 0x07)
      ∧ SameButTimers (prompter.cycleAll [10]).1 (prompter.cycleAll [1, 0, 9]).1
      ∧ prompter.executedAll [1, 0, 9] = [0x6A05, 0xFB0A] := by
  have ran : prompter.executedAll [10] = [0x6A05, 0xFB0A] := by
    rw [executedAll, executed_prompter]
    rcases prompter.cycle 10 with ⟨_, _ | _⟩ <;> rfl
  have untimed : ∀ opcode ∈ prompter.executedAll [10], ¬opcode.IsMisc 0x07 := by
    have first : ¬Opcode.IsMisc 0x6A05 0x07 := by decide
    have second : ¬Opcode.IsMisc 0xFB0A 0x07 := by decide
    rw [ran]
    exact List.forall_mem_cons.mpr ⟨first, List.forall_mem_singleton.mpr second⟩
  have whole : [10].sum = [1, 0, 9].sum := rfl
  obtain ⟨related, executed, _⟩ := division_into_ticks_irrelevant whole untimed
  exact ⟨untimed, related, executed.trans ran⟩

end ChipEight.Machine
