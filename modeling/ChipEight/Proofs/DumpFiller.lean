import ChipEight.Proofs.DumpText

/-! Which rows of a memory dump are replaced by a filler. Each maximal run of zero rows has one in
place of its first row, and a run may consist of one row only: then the filler stands for that
row alone, and nothing was left out behind it.
-/

namespace ChipEight.MemoryDump

/-- The dump shows a row with all of its words. -/
def ShownInFull (bytes : List UInt8) (i : Nat) : Prop :=
  (rowAt bytes i).fullLine ∈ dumpLines bytes

/-- The dump has a filler in place of a row. -/
def HasFiller (bytes : List UInt8) (i : Nat) : Prop :=
  (rowAt bytes i).fillerLine ∈ dumpLines bytes

/-- A filler is like no other line than a filler with the same first row. -/
theorem Entry.eq_zeros_of_line_eq {left right : List UInt8} {first next : Nat} {entry : Entry}
    (same : (Entry.zeros first next).line left = entry.line right)
    : ∃ other, entry = .zeros first other := by
  cases entry with
  | row i => cases (Entry.eq_row_of_line_eq same.symm).1
  | zeros start other =>
    have fields := Entry.fields_eq_of_line_eq same
    rw [Entry.fields, Entry.fields] at fields
    have lengths : (rangeFields left first).length = (rangeFields right start).length := by
      rw [length_rangeFields, length_rangeFields]
    have range := (List.append_inj fields lengths).1
    exact ⟨other, by rw [row_eq_of_rangeFields_eq range]⟩

/-- The rows that begin a run of zero rows have fillers, and no other rows. -/
theorem hasFiller_iff {bytes : List UInt8} {i : Nat}
    : HasFiller bytes i ↔ ∃ next, IsZeroRun bytes i next := by
  have listed (next : Nat) := (summarizes_entries bytes).zeros_mem_iff i next
  rw [HasFiller, dumpLines_eq, List.mem_map]
  constructor
  · rintro ⟨entry, member, line⟩
    rw [fillerLine_rowAt bytes i (i + 1)] at line
    obtain ⟨next, rfl⟩ := Entry.eq_zeros_of_line_eq line.symm
    exact ⟨next, (listed next).mp member⟩
  · rintro ⟨next, run⟩
    exact ⟨.zeros i next, (listed next).mpr run, (fillerLine_rowAt bytes i next).symm⟩

/-- The rows that are not zero are shown in full, and no other rows. -/
theorem shownInFull_iff {bytes : List UInt8} {i : Nat}
    : ShownInFull bytes i ↔ i < rowCount bytes ∧ ¬ ZeroRow bytes i := by
  have listed := (summarizes_entries bytes).row_mem_iff i
  rw [ShownInFull, dumpLines_eq, List.mem_map]
  constructor
  · rintro ⟨entry, member, line⟩
    rw [fullLine_rowAt] at line
    obtain ⟨rfl, _⟩ := Entry.eq_row_of_line_eq line.symm
    exact listed.mp member
  · intro nonzero
    exact ⟨.row i, listed.mpr nonzero, (fullLine_rowAt bytes i).symm⟩

/-- A row has a filler exactly if it begins a run of zero rows, and is shown in full exactly if it
is not zero. So a filler stands for repeated rows, except where a zero row is alone: of such a
row, and of no other one, it is wrong that a filler means at least two zero rows.
Witness: the entries of the dump, whose lines tell them apart.
-/
theorem filler_for_each_zero_run (bytes : List UInt8) (i : Nat)
    : (HasFiller bytes i ↔ ∃ next, IsZeroRun bytes i next)
      ∧ (ShownInFull bytes i ↔ i < rowCount bytes ∧ ¬ ZeroRow bytes i)
      ∧ ((HasFiller bytes i ↔ ∃ next, i + 2 ≤ next ∧ IsZeroRun bytes i next)
          ↔ ¬ IsZeroRun bytes i (i + 1)) := by
  refine ⟨hasFiller_iff, shownInFull_iff, ?_⟩
  rw [hasFiller_iff]
  constructor
  · intro repeated alone
    obtain ⟨next, further, run⟩ := repeated.mp ⟨i + 1, alone⟩
    have := run.next_unique alone
    omega
  · intro notAlone
    constructor
    · rintro ⟨next, run⟩
      have further : next ≠ i + 1 := fun same => notAlone (same ▸ run)
      have := run.nonempty
      exact ⟨next, by omega, run⟩
    · rintro ⟨next, _, run⟩
      exact ⟨next, run⟩

/-- A row of zeros between two rows that are not zero. -/
def loneZeroRow : List UInt8 :=
  0x01 :: List.replicate 31 0x00 ++ [0x01]

/-- The middle row is the only zero row, but has a filler and is not shown in full. -/
theorem filler_for_lone_zero_row
    : IsZeroRun loneZeroRow 1 2
      ∧ HasFiller loneZeroRow 1
      ∧ (¬ ∃ next, 1 + 2 ≤ next ∧ IsZeroRun loneZeroRow 1 next)
      ∧ ¬ ShownInFull loneZeroRow 1 := by
  have zero : ZeroRow loneZeroRow 1 := by decide
  have alone : IsZeroRun loneZeroRow 1 2 := {
    nonempty := by decide
    inside := by decide
    zero := fun i first last => by rwa [show i = 1 by omega]
    before := fun i before => by
      rw [show i = 0 by omega]
      decide
    after := fun _ => by decide
  }
  refine ⟨alone, hasFiller_iff.mpr ⟨2, alone⟩, ?_, ?_⟩
  · rintro ⟨next, further, run⟩
    have := run.next_unique alone
    omega
  · rw [shownInFull_iff]
    exact fun shown => shown.2 zero

end ChipEight.MemoryDump
