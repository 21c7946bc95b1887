import ChipEight.Proofs.Effects
import ChipEight.Proofs.Ticks
import Mathlib.Data.List.Forall2

/-! Machines in lockstep: two machines that differ only in parts that decide nothing execute the
same opcodes. It is enough to look at single instructions; steps, ticks and whole histories
follow.
-/

namespace ChipEight

-----------------------------------------------------------------------------------------
-- The opcodes of a history
-----------------------------------------------------------------------------------------

/-- An opcode that was executed, with the machines before and after it. -/
structure Execution where
  before : Machine
  opcode : Opcode
  after : Machine

namespace Machine

/-- What a step executes: an opcode, unless it fails. -/
def stepLog (m : Machine) : List Execution :=
  match m.step with
  | (_, .error _) => []
  | (next, .ok _) => [{ before := m, opcode := next.opcode, after := next }]

/-- What performing an opcode executes: that opcode, unless it is refused. -/
def performLog (m : Machine) (opcode : Opcode) : List Execution :=
  match m.perform (.decode opcode) with
  | (_, .error _) => []
  | (next, .ok _) => [{ before := m, opcode, after := next }]

/-- What a batch executes, step by step. -/
def batchLog (m : Machine) (count : Nat) : List Execution :=
  match count with
  | 0 => []
  | count + 1 =>
    if m.isPaused then
      []
    else
      match m.step with
      | (_, .error _) => []
      | (next, .ok _) =>
        { before := m, opcode := next.opcode, after := next } :: next.batchLog count

/-- What an operation executes. -/
def log (m : Machine) : Action → List Execution
  | .step => m.stepLog
  | .cycle count => m.batchLog count
  | .perform opcode => m.performLog opcode
  | _ => []

/-- What a history executes, in turn. -/
def historyLog (m : Machine) : List Action → List Execution
  | [] => []
  | action :: rest => m.log action ++ (m.act action).1.historyLog rest

theorem historyLog_append (m : Machine) (first later : List Action)
    : m.historyLog (first ++ later)
      = m.historyLog first ++ (m.run first).1.historyLog later := by
  induction first generalizing m with
  | nil => rfl
  | cons action rest ih =>
    rw [List.cons_append, historyLog, historyLog, ih, List.append_assoc]
    rfl

/-- The opcodes of a log. -/
def opcodes (log : List Execution) : List Opcode :=
  log.map (·.opcode)

theorem opcodes_append (first second : List Execution)
    : opcodes (first ++ second) = opcodes first ++ opcodes second :=
  List.map_append

/-- The log of a batch tells the opcodes that it executes. -/
theorem opcodes_batchLog (m : Machine) (count : Nat)
    : opcodes (m.batchLog count) = m.executed count := by
  induction count generalizing m with
  | zero => rfl
  | succ count ih =>
    rw [batchLog, executed]
    split
    · rfl
    · rcases m.step with ⟨next, fault | request⟩
      · rfl
      · exact congrArg (next.opcode :: ·) (ih next)

theorem stepLog_of_step {m next : Machine} {request : Request}
    (stepped : m.step = (next, .ok request))
    : m.stepLog = [{ before := m, opcode := next.opcode, after := next }] := by
  rw [stepLog, stepped]

theorem stepLog_of_failure {m stopped : Machine} {fault : Fault}
    (failed : m.step = (stopped, .error fault))
    : m.stepLog = [] := by
  rw [stepLog, failed]

theorem performLog_of_ok {m next : Machine} {opcode : Opcode} {request : Request}
    (performed : m.perform (.decode opcode) = (next, .ok request))
    : m.performLog opcode = [{ before := m, opcode, after := next }] := by
  rw [performLog, performed]

theorem performLog_of_error {m stopped : Machine} {opcode : Opcode} {fault : Fault}
    (refused : m.perform (.decode opcode) = (stopped, .error fault))
    : m.performLog opcode = [] := by
  rw [performLog, refused]

theorem batchLog_of_paused {m : Machine} (paused : m.isPaused = true) (count : Nat)
    : m.batchLog count = [] := by
  cases count with
  | zero => rfl
  | succ count => rw [batchLog, if_pos paused]

theorem batchLog_of_step {m next : Machine} {request : Request}
    (unpaused : m.isPaused = false) (stepped : m.step = (next, .ok request)) (count : Nat)
    : m.batchLog (count + 1)
      = { before := m, opcode := next.opcode, after := next } :: next.batchLog count := by
  rw [batchLog, unpaused, stepped]
  rfl

theorem batchLog_of_failure {m stopped : Machine} {fault : Fault}
    (failed : m.step = (stopped, .error fault)) (count : Nat)
    : m.batchLog count = [] := by
  cases count with
  | zero => rfl
  | succ count =>
    rw [batchLog, failed]
    exact ite_self _

-----------------------------------------------------------------------------------------
-- Single instructions
-----------------------------------------------------------------------------------------

/-- What decides which opcode is executed next, and whether it is refused. -/
structure SameControl (left right : Machine) : Prop where
  memory : right.memory = left.memory
  pc : right.pc = left.pc
  stack : right.stack = left.stack
  paused : right.isPaused = left.isPaused

/-- What one machine refuses is refused by the other, because it depends on the open calls. -/
theorem SameControl.perform_of_error {left right stopped : Machine}
    (control : SameControl left right) {instruction : Instruction} {fault : Fault}
    (refused : left.perform instruction = (stopped, .error fault))
    : stopped = left ∧ right.perform instruction = (right, .error fault) := by
  cases executed : left.execute instruction with
  | ok done =>
    rw [perform_of_ok executed] at refused
    cases refused
  | error e =>
    rw [Machine.perform_of_error executed] at refused
    cases refused
    have also : right.execute instruction = .error e := by
      rw [execute_eq_error_iff, control.stack]
      exact execute_eq_error_iff.mp executed
    exact ⟨rfl, Machine.perform_of_error also⟩

/-- A relation between machines that execute the same instructions with the same requests. It
may depend on the opcodes that are still to be executed, and take the next one for granted.
-/
structure Lockstep (R : List Opcode → Machine → Machine → Prop) : Prop where
  control : ∀ {ops left right}, R ops left right → SameControl left right
  noted
    : ∀ {ops left right} (opcode : Opcode),
        R ops left right → R ops { left with opcode } { right with opcode }
  advanced
    : ∀ {ops left right} (flow : Flow),
        R ops left right → R ops (left.advance flow) (right.advance flow)
  executed
    : ∀ {ops left right opcode done},
        R (opcode :: ops) left right
        → left.execute (.decode opcode) = .ok done
        → ∃ other,
            right.execute (.decode opcode) = .ok other
            ∧ R ops done.machine other.machine
            ∧ other.flow = done.flow
            ∧ other.request = done.request

/-- Two executions of one opcode between related machines. -/
structure AlikeExecution (S : Machine → Machine → Prop) (left right : Execution) : Prop where
  opcode : right.opcode = left.opcode
  before : S left.before right.before
  after : S left.after right.after

/-- Two operations that leave related machines behind, answer the same and execute the same
opcodes between related machines. Some opcodes are still to be executed later.
-/
structure Tandem (R : List Opcode → Machine → Machine → Prop) (later : List Opcode) {α : Type}
    (left right : Machine × α) (leftLog rightLog : List Execution) : Prop where
  alike : Alike (R later) left right
  logs : List.Forall₂ (AlikeExecution fun left right => ∃ ops, R ops left right) leftLog rightLog

/-- Both sides of a tandem execute the same opcodes. -/
theorem Tandem.same_opcodes {R : List Opcode → Machine → Machine → Prop} {later : List Opcode}
    {α : Type} {left right : Machine × α} {leftLog rightLog : List Execution}
    (tandem : Tandem R later left right leftLog rightLog)
    : opcodes rightLog = opcodes leftLog := by
  obtain ⟨_, logs⟩ := tandem
  induction logs with
  | nil => rfl
  | cons first _ ih => exact congrArg₂ List.cons first.opcode ih

/-- Both sides of a tandem may put their result into an answer. -/
theorem Tandem.answering {R : List Opcode → Machine → Machine → Prop} {later : List Opcode}
    {α β : Type} {left right : Machine × α} {leftLog rightLog : List Execution}
    (tandem : Tandem R later left right leftLog rightLog) (answer : α → β)
    : Tandem R later (left.1, answer left.2) (right.1, answer right.2) leftLog rightLog :=
  ⟨⟨tandem.alike.related, congrArg answer tandem.alike.answer⟩, tandem.logs⟩

namespace Lockstep

variable {R : List Opcode → Machine → Machine → Prop} {left right : Machine}
  {later : List Opcode}

theorem perform_of_ok (lock : Lockstep R) {opcode : Opcode} {next : Machine}
    {request : Request} (h : R (opcode :: later) left right)
    (performed : left.perform (.decode opcode) = (next, .ok request))
    : ∃ other, right.perform (.decode opcode) = (other, .ok request) ∧ R later next other := by
  obtain ⟨done, executed, rfl, rfl⟩ := perform_eq_ok performed
  obtain ⟨other, also, related, flow, same⟩ := lock.executed h executed
  refine ⟨other.machine.advance other.flow, ?_, ?_⟩
  · rw [Machine.perform_of_ok also, same]
  · rw [flow]
    exact lock.advanced done.flow related

theorem perform (lock : Lockstep R) {opcode : Opcode}
    (h : R (opcodes (left.performLog opcode) ++ later) left right)
    : Tandem R later (left.perform (.decode opcode)) (right.perform (.decode opcode))
        (left.performLog opcode) (right.performLog opcode) := by
  rcases performed : left.perform (.decode opcode) with ⟨next, fault | request⟩
  · rw [performLog_of_error performed] at h ⊢
    obtain ⟨rfl, also⟩ := (lock.control h).perform_of_error performed
    rw [performLog_of_error also, also]
    exact ⟨⟨h, rfl⟩, .nil⟩
  · rw [performLog_of_ok performed] at h ⊢
    obtain ⟨other, also, related⟩ := lock.perform_of_ok h performed
    rw [performLog_of_ok also, also]
    exact ⟨⟨related, rfl⟩, .cons ⟨rfl, ⟨_, h⟩, ⟨_, related⟩⟩ .nil⟩

-----------------------------------------------------------------------------------------
-- Steps and batches
-----------------------------------------------------------------------------------------

theorem step_of_error (lock : Lockstep R) (h : R later left right) {stopped : Machine}
    {fault : Fault} (failed : left.step = (stopped, .error fault))
    : ∃ other, right.step = (other, .error fault) ∧ R later stopped other := by
  have control := lock.control h
  cases fetched : left.memory.fetch left.pc with
  | error e =>
    rw [Machine.step_of_error fetched] at failed
    cases failed
    rw [← control.memory, ← control.pc] at fetched
    exact ⟨right, Machine.step_of_error fetched, h⟩
  | ok opcode =>
    rw [step_of_ok fetched] at failed
    rw [← control.memory, ← control.pc] at fetched
    have noted := lock.noted opcode h
    obtain ⟨rfl, also⟩ := (lock.control noted).perform_of_error failed
    exact ⟨_, (Machine.step_of_ok fetched).trans also, noted⟩

theorem step_of_ok (lock : Lockstep R) {next : Machine} {request : Request}
    (h : R (next.opcode :: later) left right) (stepped : left.step = (next, .ok request))
    : ∃ other,
        right.step = (other, .ok request)
        ∧ other.opcode = next.opcode
        ∧ R later next other := by
  have control := lock.control h
  have fetched := (step_effect stepped).1
  rw [Machine.step_of_ok fetched] at stepped
  obtain ⟨other, also, related⟩ := lock.perform_of_ok (lock.noted next.opcode h) stepped
  rw [← control.memory, ← control.pc] at fetched
  rw [← Machine.step_of_ok fetched] at also
  have same : other.opcode = next.opcode :=
    Except.ok.inj ((step_effect also).1.symm.trans fetched)
  exact ⟨other, also, same, related⟩

theorem step (lock : Lockstep R) (h : R (opcodes left.stepLog ++ later) left right)
    : Tandem R later left.step right.step left.stepLog right.stepLog := by
  rcases stepped : left.step with ⟨next, fault | request⟩
  · rw [stepLog_of_failure stepped] at h ⊢
    obtain ⟨other, also, related⟩ := lock.step_of_error h stepped
    rw [stepLog_of_failure also, also]
    exact ⟨⟨related, rfl⟩, .nil⟩
  · rw [stepLog_of_step stepped] at h ⊢
    obtain ⟨other, also, same, related⟩ := lock.step_of_ok h stepped
    rw [stepLog_of_step also, also]
    exact ⟨⟨related, rfl⟩, .cons ⟨same, ⟨_, h⟩, ⟨_, related⟩⟩ .nil⟩

/-- Batches stay in lockstep, by induction on the steps that are left. -/
theorem batch (lock : Lockstep R) {count : Nat}
    (h : R (opcodes (left.batchLog count) ++ later) left right) (drew : Bool)
    : Tandem R later (left.batch count drew) (right.batch count drew)
        (left.batchLog count) (right.batchLog count) := by
  induction count generalizing left right drew with
  | zero => exact ⟨⟨h, rfl⟩, .nil⟩
  | succ count ih =>
    have control := lock.control h
    cases paused : left.isPaused with
    | true =>
      have also : right.isPaused = true := control.paused.trans paused
      rw [batchLog_of_paused paused] at h ⊢
      rw [batchLog_of_paused also, batch_of_paused paused, batch_of_paused also]
      exact ⟨⟨h, rfl⟩, .nil⟩
    | false =>
      have unpaused : right.isPaused = false := control.paused.trans paused
      rcases stepped : left.step with ⟨next, fault | request⟩
      · rw [batchLog_of_failure stepped] at h ⊢
        obtain ⟨other, also, related⟩ := lock.step_of_error h stepped
        rw [batchLog_of_failure also, batch_of_failure paused stepped,
          batch_of_failure unpaused also]
        exact ⟨⟨related, rfl⟩, .nil⟩
      · rw [batchLog_of_step paused stepped] at h ⊢
        obtain ⟨other, also, same, related⟩ := lock.step_of_ok h stepped
        have rest := ih related (drew || request == .redraw)
        rw [batchLog_of_step unpaused also, batch_of_step paused stepped,
          batch_of_step unpaused also]
        exact ⟨rest.alike, .cons ⟨same, ⟨_, h⟩, ⟨_, related⟩⟩ rest.logs⟩

/-- Ticks stay in lockstep if the countdown and the tone do. -/
theorem cycle (lock : Lockstep R)
    (countDown
      : ∀ {ops left right}, R ops left right → R ops left.countDown right.countDown)
    (tone : ∀ {ops left right}, R ops left right → right.toneActive = left.toneActive)
    {count : Nat} (h : R (opcodes (left.batchLog count) ++ later) left right)
    : Tandem R later (left.cycle count) (right.cycle count)
        (left.batchLog count) (right.batchLog count) := by
  obtain ⟨⟨related, answer⟩, logs⟩ := lock.batch h false
  refine ⟨?_, logs⟩
  unfold Machine.cycle
  generalize left.batch count false = ran at related answer ⊢
  generalize right.batch count false = other at related answer ⊢
  obtain ⟨last, result⟩ := ran
  obtain ⟨otherLast, otherResult⟩ := other
  cases answer
  cases result with
  | error fault => exact ⟨related, rfl⟩
  | ok redraw =>
    have counted := countDown related
    exact ⟨counted, by simp only [tone counted, (lock.control counted).paused]⟩

end Lockstep

-----------------------------------------------------------------------------------------
-- Histories
-----------------------------------------------------------------------------------------

/-- Histories stay in tandem if each of their operations does, by induction on the operations.
-/
theorem Tandem.history {R : List Opcode → Machine → Machine → Prop} {left right : Machine}
    {later : List Opcode} {actions : List Action}
    (act
      : ∀ action ∈ actions, ∀ {later left right},
          R (opcodes (left.log action) ++ later) left right
          → Tandem R later (left.act action) (right.act action) (left.log action)
              (right.log action))
    (h : R (opcodes (left.historyLog actions) ++ later) left right)
    : Tandem R later (left.run actions) (right.run actions) (left.historyLog actions)
        (right.historyLog actions) := by
  induction actions generalizing left right with
  | nil => exact ⟨⟨h, rfl⟩, .nil⟩
  | cons action rest ih =>
    rw [historyLog, opcodes_append, List.append_assoc] at h
    obtain ⟨⟨related, answer⟩, first⟩ := act action List.mem_cons_self h
    obtain ⟨⟨ended, answers⟩, others⟩ :=
      ih (fun other member => act other (List.mem_cons_of_mem _ member)) related
    refine ⟨⟨ended, ?_⟩, List.rel_append first others⟩
    rw [run, run, answer, answers]

end Machine

end ChipEight
