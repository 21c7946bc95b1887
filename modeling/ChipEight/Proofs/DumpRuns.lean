import ChipEight.Machine.Dump
import Mathlib.Data.List.Basic
import Mathlib.Data.Nat.Find

/-! What the lines of a memory dump stand for. Every row with a byte that is not zero has a line of
its own, every maximal run of zero rows has one line together, and the lines follow each other
like the bytes in memory.
-/

namespace ChipEight.MemoryDump

-----------------------------------------------------------------------------------------
-- Rows and runs of zero rows
-----------------------------------------------------------------------------------------

/-- How many rows a block of bytes has; the last one may be shorter. -/
def rowCount (bytes : List UInt8) : Nat :=
  (bytes.length + 15) / 16

/-- There are only zeros in a row. -/
def ZeroRow (bytes : List UInt8) (i : Nat) : Prop :=
  ∀ offset < 16, bytes.getD (16 * i + offset) 0 = 0

instance (bytes : List UInt8) (i : Nat) : Decidable (ZeroRow bytes i) :=
  inferInstanceAs (Decidable (∀ offset < 16, _))

/-- The rows from `first` to the one before `next` are zero, and the rows around them are not: no
longer run of zero rows contains them.
-/
structure IsZeroRun (bytes : List UInt8) (first next : Nat) : Prop where
  nonempty : first < next
  inside : next ≤ rowCount bytes
  zero : ∀ i, first ≤ i → i < next → ZeroRow bytes i
  before : ∀ i, i + 1 = first → ¬ ZeroRow bytes i
  after : next < rowCount bytes → ¬ ZeroRow bytes next

/-- Two runs with the same first row are the same. -/
theorem IsZeroRun.next_unique {bytes : List UInt8} {first next other : Nat}
    (run : IsZeroRun bytes first next) (again : IsZeroRun bytes first other)
    : next = other := by
  rcases Nat.lt_trichotomy next other with shorter | same | longer
  · exact absurd (again.zero next (Nat.le_of_lt run.nonempty) shorter)
      (run.after (Nat.lt_of_lt_of_le shorter again.inside))
  · exact same
  · exact absurd (run.zero other (Nat.le_of_lt again.nonempty) longer)
      (again.after (Nat.lt_of_lt_of_le longer run.inside))

/-- The row in front of a row is zero; the first row has none in front of it. -/
def followsZero (bytes : List UInt8) : Nat → Bool
  | 0 => false
  | i + 1 => decide (ZeroRow bytes i)

theorem followsZero_eq_false_iff (bytes : List UInt8) (first : Nat)
    : followsZero bytes first = false ↔ ∀ i, i + 1 = first → ¬ ZeroRow bytes i := by
  cases first with
  | zero => simp [followsZero]
  | succ i => simp [followsZero]

theorem exists_runEnd (bytes : List UInt8) (i : Nat)
    : ∃ next, i ≤ next ∧ (next < rowCount bytes → ¬ ZeroRow bytes next) :=
  ⟨max i (rowCount bytes), Nat.le_max_left _ _, by omega⟩

/-- The first row from a row on that is not zero, or the end of the bytes. -/
def runEnd (bytes : List UInt8) (i : Nat) : Nat :=
  Nat.find (exists_runEnd bytes i)

theorem zeroRow_of_lt_runEnd {bytes : List UInt8} {first i : Nat} (reached : first ≤ i)
    (below : i < runEnd bytes first)
    : ZeroRow bytes i := by
  by_contra nonzero
  exact Nat.find_min (exists_runEnd bytes first) below ⟨reached, fun _ => nonzero⟩

/-- The zero rows from a row on form a run, unless the row in front of it is zero, too. -/
theorem isZeroRun_runEnd {bytes : List UInt8} {first : Nat} (inside : first < rowCount bytes)
    (zero : ZeroRow bytes first) (start : followsZero bytes first = false)
    : IsZeroRun bytes first (runEnd bytes first) := by
  have reached : first ≤ runEnd bytes first := (Nat.find_spec (exists_runEnd bytes first)).1
  have after : runEnd bytes first < rowCount bytes → ¬ ZeroRow bytes (runEnd bytes first) :=
    (Nat.find_spec (exists_runEnd bytes first)).2
  refine {
    nonempty := Nat.lt_of_le_of_ne reached ?_
    inside := ?_
    zero := fun i => zeroRow_of_lt_runEnd
    before := (followsZero_eq_false_iff bytes first).mp start
    after := after
  }
  · intro same
    rw [← same] at after
    exact after inside zero
  · exact Nat.find_min' _ ⟨Nat.le_of_lt inside, fun beyond => absurd beyond (Nat.lt_irrefl _)⟩

-----------------------------------------------------------------------------------------
-- Entries and their lines
-----------------------------------------------------------------------------------------

/-- What a line of the dump stands for: a single row, or the run of zero rows from `first` to the
one before `next`.
-/
inductive Entry where
  | row (i : Nat)
  | zeros (first next : Nat)
  deriving DecidableEq, Repr

/-- The number of bytes in a row. -/
def rowLength (bytes : List UInt8) (i : Nat) : Nat :=
  min 16 (bytes.length - 16 * i)

/-- The range of addresses of a row. -/
def rangeFields (bytes : List UInt8) (i : Nat) : List String :=
  ["\t" ++ Hex.word (16 * i), "-", Hex.word (16 * i + rowLength bytes i - 1), ":"]

theorem length_rangeFields (bytes : List UInt8) (i : Nat) : (rangeFields bytes i).length = 4 :=
  rfl

/-- The words of a row, high byte first. A last byte without a partner is a high byte. -/
def wordFields (bytes : List UInt8) (i : Nat) : List String :=
  (List.range ((rowLength bytes i + 1) / 2)).map fun j =>
    Hex.word ((bytes.getD (16 * i + 2 * j) 0).toNat * 256
      + (bytes.getD (16 * i + 2 * j + 1) 0).toNat)

namespace Entry

/-- The first row of an entry. -/
def first : Entry → Nat
  | row i => i
  | zeros first _ => first

/-- The row after the last one of an entry. -/
def next : Entry → Nat
  | row i => i + 1
  | zeros _ next => next

/-- The parts of the line of an entry: a row in full, or the range of the first row of a run. -/
def fields (bytes : List UInt8) : Entry → List String
  | row i => rangeFields bytes i ++ wordFields bytes i
  | zeros first _ => rangeFields bytes first ++ ["..."]

/-- The line of an entry. -/
def line (bytes : List UInt8) (entry : Entry) : String :=
  " ".intercalate (entry.fields bytes)

end Entry

/-- The entries list each row that is not zero and each maximal run of zero rows once, in
ascending order, and nothing else.
-/
structure Summarizes (bytes : List UInt8) (entries : List Entry) : Prop where
  ascending : entries.Pairwise fun above below => above.next ≤ below.first
  row_mem_iff : ∀ i, .row i ∈ entries ↔ i < rowCount bytes ∧ ¬ ZeroRow bytes i
  zeros_mem_iff : ∀ first next, .zeros first next ∈ entries ↔ IsZeroRun bytes first next

/-- The entry that a row begins, if it is not inside of a run. -/
def entryAt (bytes : List UInt8) (i : Nat) : Entry :=
  if ZeroRow bytes i then .zeros i (runEnd bytes i) else .row i

/-- A row is not inside of a run that began before it. -/
def beginsEntry (bytes : List UInt8) (i : Nat) : Bool :=
  !(decide (ZeroRow bytes i) && followsZero bytes i)

/-- The entries of a block of bytes. -/
def entries (bytes : List UInt8) : List Entry :=
  ((List.range (rowCount bytes)).filter (beginsEntry bytes)).map (entryAt bytes)

theorem first_entryAt (bytes : List UInt8) (i : Nat) : (entryAt bytes i).first = i := by
  rw [entryAt]
  split <;> rfl

/-- A row that begins an entry lies behind the entries that begin before it. -/
theorem next_entryAt_le {bytes : List UInt8} {i later : Nat} (behind : i < later)
    (begins : beginsEntry bytes later = true)
    : (entryAt bytes i).next ≤ later := by
  rw [entryAt]
  split
  next zero =>
    by_contra short
    have below : later < runEnd bytes i := Nat.lt_of_not_le short
    obtain ⟨before, rfl⟩ : ∃ before, later = before + 1 := ⟨later - 1, by omega⟩
    -- Inside of the run, the row and the one in front of it are both zero.
    have here := zeroRow_of_lt_runEnd (Nat.le_of_lt behind) below
    have there := zeroRow_of_lt_runEnd (Nat.le_of_lt_succ behind) (Nat.lt_of_succ_lt below)
    simp [beginsEntry, followsZero, here, there] at begins
  next => exact behind

theorem mem_entries_iff (bytes : List UInt8) (entry : Entry)
    : entry ∈ entries bytes
      ↔ entry.first < rowCount bytes ∧ beginsEntry bytes entry.first = true
        ∧ entryAt bytes entry.first = entry := by
  rw [entries, List.mem_map]
  constructor
  · rintro ⟨i, member, rfl⟩
    rw [first_entryAt]
    obtain ⟨inside, begins⟩ := List.mem_filter.mp member
    exact ⟨List.mem_range.mp inside, begins, rfl⟩
  · rintro ⟨inside, begins, same⟩
    exact ⟨entry.first, List.mem_filter.mpr ⟨List.mem_range.mpr inside, begins⟩, same⟩

theorem summarizes_entries (bytes : List UInt8) : Summarizes bytes (entries bytes) := by
  refine ⟨?_, fun i => ?_, fun first next => ?_⟩
  · have ordered : ((List.range (rowCount bytes)).filter (beginsEntry bytes)).Pairwise (· < ·) :=
      List.pairwise_lt_range.sublist List.filter_sublist
    rw [entries, List.pairwise_map]
    refine ordered.imp_of_mem fun _ member behind => ?_
    rw [first_entryAt]
    exact next_entryAt_le behind (List.mem_filter.mp member).2
  · rw [mem_entries_iff]
    by_cases zero : ZeroRow bytes i
    · simp [entryAt, Entry.first, zero]
    · simp [entryAt, Entry.first, beginsEntry, zero]
  · rw [mem_entries_iff]
    constructor
    · rintro ⟨inside, begins, same⟩
      by_cases zero : ZeroRow bytes first
      · simp only [entryAt, Entry.first, zero, if_true, Entry.zeros.injEq, true_and] at same
        have start : followsZero bytes first = false := by
          simpa [beginsEntry, Entry.first, zero] using begins
        exact same ▸ isZeroRun_runEnd inside zero start
      · simp [entryAt, Entry.first, zero] at same
    · intro run
      have inside : first < rowCount bytes := Nat.lt_of_lt_of_le run.nonempty run.inside
      have zero := run.zero first (Nat.le_refl first) run.nonempty
      have start := (followsZero_eq_false_iff bytes first).mpr run.before
      have same := (isZeroRun_runEnd inside zero start).next_unique run
      refine ⟨inside, ?_, ?_⟩
      · simp [beginsEntry, Entry.first, start]
      · simp [entryAt, Entry.first, zero, same]

-----------------------------------------------------------------------------------------
-- The lines of the dump are the lines of the entries
-----------------------------------------------------------------------------------------

/-- Row `i` as it is split off. -/
def rowAt (bytes : List UInt8) (i : Nat) : DumpRow :=
  ⟨16 * i, (bytes.drop (16 * i)).take 16⟩

theorem getElem?_rowAt (bytes : List UInt8) (i offset : Nat)
    : (rowAt bytes i).bytes[offset]?
      = if offset < 16 then bytes[16 * i + offset]? else none := by
  rw [rowAt, List.getElem?_take, List.getElem?_drop]

theorem getD_rowAt {bytes : List UInt8} {i offset : Nat} (inside : offset < 16)
    : (rowAt bytes i).bytes.getD offset 0 = bytes.getD (16 * i + offset) 0 := by
  rw [List.getD_eq_getElem?_getD, getElem?_rowAt, if_pos inside, List.getD_eq_getElem?_getD]

theorem length_rowAt (bytes : List UInt8) (i : Nat)
    : (rowAt bytes i).bytes.length = rowLength bytes i := by
  rw [rowAt, List.length_take, List.length_drop, rowLength]

theorem isZero_rowAt (bytes : List UInt8) (i : Nat)
    : (rowAt bytes i).isZero = decide (ZeroRow bytes i) := by
  rw [DumpRow.isZero, Bool.eq_iff_iff, List.all_eq_true, decide_eq_true_iff]
  simp only [beq_iff_eq]
  constructor
  · intro zero offset inside
    rw [List.getD_eq_getElem?_getD]
    cases found : bytes[16 * i + offset]? with
    | none => rfl
    | some byte =>
      refine zero byte (List.mem_of_getElem? (i := offset) ?_)
      rw [getElem?_rowAt, if_pos inside, found]
  · intro zero byte member
    obtain ⟨offset, found⟩ := List.getElem?_of_mem member
    rw [getElem?_rowAt] at found
    split at found
    next inside =>
      have := zero offset inside
      rwa [List.getD_eq_getElem?_getD, found] at this
    next => cases found

/-- The rows of a block of bytes, by induction on the rows that are split off. -/
theorem split_eq (start : Nat) (bytes : List UInt8)
    : DumpRow.split start bytes
      = (List.range (rowCount bytes)).map fun i =>
          ⟨start + 16 * i, (bytes.drop (16 * i)).take 16⟩ := by
  induction start, bytes using DumpRow.split.induct with
  | case1 start => simp [DumpRow.split, rowCount]
  | case2 start byte rest ih =>
    have count : rowCount (byte :: rest) = rowCount ((byte :: rest).drop 16) + 1 := by
      simp only [rowCount, List.length_drop, List.length_cons]
      omega
    rw [DumpRow.split, ih, count, List.range_succ_eq_map, List.map_cons, List.map_map]
    refine congrArg₂ List.cons rfl (List.map_congr_left fun i _ => ?_)
    have shifted : 16 * (i + 1) = dumpRowSize + 16 * i := Nat.add_comm (16 * i) 16
    simp only [Function.comp_apply, List.drop_drop, Nat.succ_eq_add_one, shifted, Nat.add_assoc]

/-- The words of a row by their place in it. By induction on the pairs of bytes. -/
theorem words_eq (bytes : List UInt8)
    : DumpRow.words bytes
      = (List.range ((bytes.length + 1) / 2)).map fun j =>
          Opcode.ofBytes (bytes.getD (2 * j) 0) (bytes.getD (2 * j + 1) 0) := by
  induction bytes using DumpRow.words.induct with
  | case1 => rfl
  | case2 high => simp [DumpRow.words]
  | case3 high low rest ih =>
    have count : ((high :: low :: rest).length + 1) / 2 = (rest.length + 1) / 2 + 1 := by
      simp only [List.length_cons]
      omega
    rw [DumpRow.words, ih, count, List.range_succ_eq_map, List.map_cons, List.map_map]
    rfl

/-- Fields after the first one each stand behind a blank. -/
theorem intercalate_cons (field : String) (fields : List String)
    : " ".intercalate (field :: fields)
      = field ++ String.join (fields.map fun field => " " ++ field) := by
  induction fields generalizing field with
  | nil => rw [String.intercalate_singleton, List.map_nil, String.join_nil, String.append_empty]
  | cons next fields ih =>
    rw [String.intercalate_cons_cons, ih, List.map_cons, String.join_cons]
    simp only [String.append_assoc]

theorem rangeText_rowAt (bytes : List UInt8) (i : Nat)
    : (rowAt bytes i).rangeText = " ".intercalate (rangeFields bytes i) := by
  have dash : " - " = " " ++ ("-" ++ " ") := rfl
  have colon : " :" = " " ++ ":" := rfl
  rw [DumpRow.rangeText, length_rowAt, dash, colon]
  simp only [rangeFields, String.intercalate_cons_cons, String.intercalate_singleton, rowAt,
    String.append_assoc]

/-- A line starts with its range. -/
theorem intercalate_rangeFields (bytes : List UInt8) (i : Nat) (fields : List String)
    : " ".intercalate (rangeFields bytes i ++ fields)
      = (rowAt bytes i).rangeText ++ String.join (fields.map fun field => " " ++ field) := by
  rw [rangeText_rowAt, rangeFields, List.cons_append, intercalate_cons, intercalate_cons,
    List.map_append, String.join_append]
  simp only [String.append_assoc]

theorem fullLine_rowAt (bytes : List UInt8) (i : Nat)
    : (rowAt bytes i).fullLine = (Entry.row i).line bytes := by
  have words : (DumpRow.words (rowAt bytes i).bytes).map (fun word => Hex.word word.toNat)
      = wordFields bytes i := by
    rw [words_eq, length_rowAt, wordFields, List.map_map]
    refine List.map_congr_left fun j member => ?_
    have inside : 2 * j + 1 < 16 := by
      have := List.mem_range.mp member
      simp only [rowLength] at this
      omega
    rw [Function.comp_apply, Opcode.toNat_ofBytes, getD_rowAt (Nat.lt_of_succ_lt inside),
      getD_rowAt inside, Nat.add_assoc]
  rw [DumpRow.fullLine, Entry.line, Entry.fields, intercalate_rangeFields, ← words, List.map_map]
  rfl

theorem fillerLine_rowAt (bytes : List UInt8) (first next : Nat)
    : (rowAt bytes first).fillerLine = (Entry.zeros first next).line bytes := by
  rw [DumpRow.fillerLine, Entry.line, Entry.fields, intercalate_rangeFields]
  rfl

/-- The lines from a row on are those of the entries that begin from there on; the flag tells of
the row in front. By induction on the number of rows.
-/
theorem lines_range' (bytes : List UInt8) (count k : Nat)
    : DumpRow.lines (followsZero bytes k) ((List.range' k count).map (rowAt bytes))
      = ((List.range' k count).filter (beginsEntry bytes)).map fun i =>
          (entryAt bytes i).line bytes := by
  induction count generalizing k with
  | zero => rfl
  | succ count ih =>
    have later : DumpRow.lines (decide (ZeroRow bytes k))
        ((List.range' (k + 1) count).map (rowAt bytes)) = _ := ih (k + 1)
    rw [List.range'_succ, List.map_cons, DumpRow.lines, isZero_rowAt]
    by_cases zero : ZeroRow bytes k
    · rw [decide_eq_true zero] at later
      rw [decide_eq_true zero, if_pos rfl, later]
      cases follows : followsZero bytes k with
      | true =>
        have inside : ¬ beginsEntry bytes k = true := by simp [beginsEntry, zero, follows]
        rw [if_pos rfl, List.filter_cons_of_neg inside]
      | false =>
        have begins : beginsEntry bytes k = true := by simp [beginsEntry, follows]
        rw [if_neg Bool.false_ne_true, List.filter_cons_of_pos begins, List.map_cons, entryAt,
          if_pos zero, fillerLine_rowAt]
    · have begins : beginsEntry bytes k = true := by simp [beginsEntry, zero]
      rw [decide_eq_false zero] at later
      rw [decide_eq_false zero, if_neg Bool.false_ne_true, later, List.filter_cons_of_pos begins,
        List.map_cons, entryAt, if_neg zero, fullLine_rowAt]

/-- The dump has a line for each entry. -/
theorem dumpLines_eq (bytes : List UInt8)
    : dumpLines bytes = (entries bytes).map (Entry.line bytes) := by
  have rows : DumpRow.split 0 bytes = (List.range' 0 (rowCount bytes)).map (rowAt bytes) := by
    simp only [split_eq, Nat.zero_add, List.range_eq_range']
    rfl
  rw [dumpLines, rows, entries, List.map_map, List.range_eq_range']
  exact lines_range' bytes (rowCount bytes) 0

example : dumpLines (0xA2 :: 0x2A :: List.replicate 62 0)
    = ["\t0x0000 - 0x000F : 0xA22A 0x0000 0x0000 0x0000 0x0000 0x0000 0x0000 0x0000",
      "\t0x0010 - 0x001F : ..."] := by
  cbv

end ChipEight.MemoryDump
