import ChipEight.FrameClock
import ChipEight.Instruction.Text
import ChipEight.KeyHold

/-! What the machine tells about its work. The records are read off the state before each
action, so keeping a journal cannot influence a run.
-/

namespace ChipEight

/-- How important a record is, from faults down to single steps. -/
inductive Level where
  | error
  | warn
  | info
  | debug
  | trace
  deriving DecidableEq, Repr

namespace Level

/-- The place of a level, the most important first. -/
def rank : Level → Nat
  | .error => 1
  | .warn => 2
  | .info => 3
  | .debug => 4
  | .trace => 5

/-- A record of a level is kept by a journal that goes down to `limit`. -/
def isWithin (level limit : Level) : Bool :=
  level.rank ≤ limit.rank

/-- The name of a level in front of its records. -/
def text : Level → String
  | .error => "ERROR"
  | .warn => "WARN"
  | .info => "INFO"
  | .debug => "DEBUG"
  | .trace => "TRACE"

end Level

/-- A single record of a journal. -/
structure Record where
  level : Level
  text : String
  deriving DecidableEq, Repr

namespace Record

/-- A record as a line. -/
def line (record : Record) : String :=
  record.level.text ++ " " ++ record.text

/-- The records that a journal down to `limit` keeps. -/
def upTo (limit : Level) (records : List Record) : List Record :=
  records.filter fun record => record.level.isWithin limit

end Record

/-- A truth value as a word. -/
def boolText : Bool → String
  | true => "true"
  | false => "false"

/-- The report of a tick with its parts by name. -/
def Tick.text (tick : Tick) : String :=
  recordText "Tick"
    [("tone", boolText tick.tone), ("redraw", boolText tick.redraw),
      ("waiting", boolText tick.waiting)]

namespace Machine

/-- The records of running an instruction. -/
def performJournal (m : Machine) : Instruction → List Record
  | .ret =>
    match m.stack.pop with
    | .error _ => []
    | .ok (target, stack) =>
      [⟨.debug, "popped " ++ Hex.word target ++ ", depth " ++ toString stack.depth⟩]
  | .call _ =>
    let target := m.pc + opcodeSize
    match m.stack.push target with
    | .error _ => []
    | .ok stack =>
      [⟨.debug, "pushed " ++ Hex.word target ++ ", depth " ++ toString stack.depth⟩]
  | .routine nnn =>
    [⟨.debug, "ignoring the machine code routine at " ++ Hex.padded 3 nnn.val⟩]
  | .misc .awaitKey x => [⟨.debug, "waiting for a key press into V" ++ Hex.plain x.val⟩]
  | .unassigned opcode =>
    [⟨.warn, "Ignoring the unassigned opcode " ++ Hex.word opcode.toNat⟩]
  | _ => []

/-- The record that tells which instruction a step runs. -/
def traceRecord (m : Machine) (opcode : Opcode) (instruction : Instruction) : Record :=
  ⟨.trace, Hex.word m.pc ++ ": " ++ Hex.word opcode.toNat ++ " " ++ instruction.text⟩

/-- The records of a step in a journal down to `limit`. -/
def stepJournal (m : Machine) (limit : Level) : List Record :=
  match m.memory.fetch m.pc with
  | .error _ => []
  | .ok opcode =>
    let instruction := Instruction.decode opcode
    let records := Record.upTo limit (m.performJournal instruction)
    if Level.trace.isWithin limit then
      m.traceRecord opcode instruction :: records
    else
      records

/-- The records of a batch of steps in front of which `earlier` was written; here the last
record comes first.
-/
def batchJournalFrom (m : Machine) (limit : Level) (count : Nat) (earlier : List Record)
    : List Record :=
  match count with
  | 0 => earlier
  | count + 1 =>
    if m.isPaused then
      earlier
    else
      let written := (m.stepJournal limit).reverse ++ earlier
      match m.step with
      | (_, .error _) => written
      | (next, .ok _) => next.batchJournalFrom limit count written

/-- The records of a batch of steps in a journal down to `limit`. -/
def batchJournal (m : Machine) (limit : Level) (count : Nat) : List Record :=
  (m.batchJournalFrom limit count []).reverse

/-- The records of delivering a key press. -/
def pressJournal (m : Machine) (key : Nat) : List Record :=
  match (m.keypad.press key).1 with
  | none => []
  | some press =>
    [⟨.debug,
      "key 0x" ++ Hex.plain press.key ++ " resumed execution into V"
        ++ Hex.plain press.asked.val⟩]

/-- The records of loading a program. -/
def loadJournal (m : Machine) (data : Array UInt8) : List Record :=
  match m.loadProgram data with
  | .error _ => []
  | .ok _ => [⟨.debug, "loaded a program of " ++ toString data.size ++ " bytes"⟩]

end Machine

/-- The records of pressing a key that may be held already. -/
def KeyHold.pressJournal (hold : KeyHold) (m : Machine) (key : Key) : List Record :=
  if (hold.deadline? key).isNone then m.pressJournal key.val else []

/-- The records of an attempt to run a frame, in a journal down to `limit`. -/
def FrameClock.tickJournal (clock : FrameClock) (now : Nat) (m : Machine) (limit : Level)
    : List Record :=
  match clock.tick now m with
  | (_, _, .early) => []
  | (_, _, .failed _) => m.batchJournal limit clock.settings.speed
  | (after, _, .ran tick _) =>
    m.batchJournal limit clock.settings.speed
      ++ Record.upTo limit
        [⟨.trace, "frame " ++ toString after.frames ++ " " ++ tick.text⟩]

end ChipEight
