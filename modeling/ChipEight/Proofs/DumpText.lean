import ChipEight.Proofs.DumpRuns
import Mathlib.Data.List.GetD

/-! The bytes can be told from the text of their dump. The fields of a line are what stands between
its blanks, and no field contains a blank or the end of a line; a full line gives its row away by
its range and its bytes by its words, and what no full line shows is zero.
-/

namespace ChipEight.MemoryDump

-----------------------------------------------------------------------------------------
-- Joined texts
-----------------------------------------------------------------------------------------

/-- What stands between the separators can be read back from a text. -/
theorem intercalate_inj {separator : String} {c : Char} {left right : List String}
    (single : separator.toList = [c]) (leftFields : left ≠ []) (rightFields : right ≠ [])
    (leftFree : ∀ field ∈ left, c ∉ field.toList)
    (rightFree : ∀ field ∈ right, c ∉ field.toList)
    (same : separator.intercalate left = separator.intercalate right)
    : left = right := by
  have read {fields : List String} (some : fields ≠ [])
      (free : ∀ field ∈ fields, c ∉ field.toList)
      : (separator.intercalate fields).toList.splitOn c = fields.map String.toList := by
    rw [String.toList_intercalate, single]
    refine List.splitOn_intercalate c ?_ (List.map_eq_nil_iff.not.mpr some)
    intro chars member
    obtain ⟨field, listed, rfl⟩ := List.mem_map.mp member
    exact free field listed
  refine List.map_injective_iff.mpr (fun _ _ => String.toList_inj.mp) ?_
  rw [← read leftFields leftFree, same, read rightFields rightFree]

/-- Lines that all have an end, and a text behind them. -/
theorem join_ended (lines : List String) (last : String)
    : String.join (lines.map fun line => line ++ "\n") ++ last
      = "\n".intercalate (lines ++ [last]) := by
  induction lines with
  | nil => simp
  | cons line lines ih =>
    have more : lines ++ [last] ≠ [] := by simp
    rw [List.cons_append, String.intercalate_cons_of_ne_nil more, ← ih, List.map_cons,
      String.join_cons]
    simp only [String.append_assoc]

/-- Two texts that are equal are equal behind their last `c`. -/
theorem eq_of_append_cons_eq {c : Char} {front before tail later : List Char} (free : c ∉ tail)
    (laterFree : c ∉ later) (same : front ++ c :: tail = before ++ c :: later)
    : tail = later := by
  -- If one front were longer, it would end behind a `c` of the other rest.
  rcases List.append_eq_append_iff.mp same with ⟨between, _, rest⟩ | ⟨between, _, rest⟩
  · cases between with
    | nil => exact (List.cons.inj rest).2
    | cons head between =>
      have : tail = between ++ c :: later := (List.cons.inj rest).2
      exact absurd (this ▸ List.mem_append_right _ List.mem_cons_self) free
  · cases between with
    | nil => exact (List.cons.inj rest).2.symm
    | cons head between =>
      have : later = between ++ c :: tail := (List.cons.inj rest).2
      exact absurd (this ▸ List.mem_append_right _ List.mem_cons_self) laterFree

-----------------------------------------------------------------------------------------
-- Lines
-----------------------------------------------------------------------------------------

/-- The characters of the fields of a line. -/
def fieldChars : List Char :=
  "\t-:.x0123456789ABCDEF".toList

theorem mem_fieldChars_word {n : Nat} {c : Char} (member : c ∈ (Hex.word n).toList)
    : c ∈ fieldChars :=
  List.mem_of_mem_drop (i := 4) (Hex.mem_word member)

theorem mem_fieldChars_wordFields {bytes : List UInt8} {i : Nat} {field : String} {c : Char}
    (listed : field ∈ wordFields bytes i) (member : c ∈ field.toList)
    : c ∈ fieldChars := by
  obtain ⟨j, _, rfl⟩ := List.mem_map.mp listed
  exact mem_fieldChars_word member

theorem mem_fieldChars_rangeFields {bytes : List UInt8} {i : Nat} {field : String} {c : Char}
    (listed : field ∈ rangeFields bytes i) (member : c ∈ field.toList)
    : c ∈ fieldChars := by
  simp only [rangeFields, List.mem_cons, List.not_mem_nil, or_false] at listed
  rcases listed with rfl | rfl | rfl | rfl
  · rw [String.toList_append, List.mem_append] at member
    rcases member with indent | word
    · rw [List.mem_singleton.mp indent]
      decide
    · exact mem_fieldChars_word word
  · rw [List.mem_singleton.mp member]
    decide
  · exact mem_fieldChars_word member
  · rw [List.mem_singleton.mp member]
    decide

theorem Entry.mem_fieldChars {bytes : List UInt8} {entry : Entry} {field : String} {c : Char}
    (listed : field ∈ entry.fields bytes) (member : c ∈ field.toList)
    : c ∈ fieldChars := by
  cases entry with
  | row i =>
    rcases List.mem_append.mp listed with range | word
    · exact mem_fieldChars_rangeFields range member
    · exact mem_fieldChars_wordFields word member
  | zeros first next =>
    rcases List.mem_append.mp listed with range | filler
    · exact mem_fieldChars_rangeFields range member
    · rw [List.mem_singleton.mp filler] at member
      rw [List.eq_of_mem_replicate (n := 3) (a := '.') member]
      decide

theorem Entry.fields_ne_nil (bytes : List UInt8) (entry : Entry) : entry.fields bytes ≠ [] := by
  cases entry <;> exact List.cons_ne_nil _ _

/-- A line consists of the characters of its fields and of blanks. -/
theorem Entry.mem_line {bytes : List UInt8} {entry : Entry} {c : Char}
    (member : c ∈ (entry.line bytes).toList)
    : c ∈ ' ' :: fieldChars := by
  obtain ⟨field, fields, listed⟩ := List.exists_cons_of_ne_nil (entry.fields_ne_nil bytes)
  have char {other : String} (inside : other ∈ field :: fields) (within : c ∈ other.toList)
      : c ∈ ' ' :: fieldChars :=
    List.mem_cons_of_mem _ (Entry.mem_fieldChars (listed ▸ inside) within)
  rw [Entry.line, listed, intercalate_cons, String.toList_append, String.toList_join,
    List.mem_append, List.mem_flatMap] at member
  rcases member with head | ⟨_, behind, within⟩
  · exact char List.mem_cons_self head
  · obtain ⟨other, inside, rfl⟩ := List.mem_map.mp behind
    rw [String.toList_append, List.mem_append] at within
    rcases within with blank | within
    · rw [List.mem_singleton.mp blank]
      exact List.mem_cons_self
    · exact char (List.mem_cons_of_mem _ inside) within

theorem mem_dumpLines {bytes : List UInt8} {line : String} {c : Char}
    (shown : line ∈ dumpLines bytes) (member : c ∈ line.toList)
    : c ∈ ' ' :: fieldChars := by
  rw [dumpLines_eq] at shown
  obtain ⟨entry, _, rfl⟩ := List.mem_map.mp shown
  exact Entry.mem_line member

/-- Equal lines have equal fields. -/
theorem Entry.fields_eq_of_line_eq {left right : List UInt8} {entry other : Entry}
    (same : entry.line left = other.line right)
    : entry.fields left = other.fields right := by
  have free (bytes : List UInt8) (entry : Entry)
      : ∀ field ∈ entry.fields bytes, ' ' ∉ field.toList := by
    intro field listed blank
    have : ' ' ∉ fieldChars := by decide
    exact this (Entry.mem_fieldChars listed blank)
  exact intercalate_inj rfl (entry.fields_ne_nil left) (other.fields_ne_nil right)
    (free left entry) (free right other) same

/-- A range names its row. -/
theorem row_eq_of_rangeFields_eq {left right : List UInt8} {i j : Nat}
    (same : rangeFields left i = rangeFields right j)
    : i = j := by
  have start := (List.cons.inj same).1
  have := Hex.word_injective (String.append_right_inj "\t" |>.mp start)
  omega

/-- A full line is like no other line than a full one of the same row with the same words. -/
theorem Entry.eq_row_of_line_eq {left right : List UInt8} {i : Nat} {entry : Entry}
    (same : (Entry.row i).line left = entry.line right)
    : entry = .row i ∧ wordFields left i = wordFields right i := by
  have fields := Entry.fields_eq_of_line_eq same
  have lengths (j : Nat) : (rangeFields left i).length = (rangeFields right j).length := by
    rw [length_rangeFields, length_rangeFields]
  cases entry with
  | row j =>
    rw [Entry.fields, Entry.fields] at fields
    obtain ⟨range, words⟩ := List.append_inj fields (lengths j)
    obtain rfl := row_eq_of_rangeFields_eq range
    exact ⟨rfl, words⟩
  | zeros first next =>
    rw [Entry.fields, Entry.fields] at fields
    obtain ⟨_, words⟩ := List.append_inj fields (lengths first)
    have filler : "..." ∈ wordFields left i := words ▸ List.mem_singleton_self _
    obtain ⟨j, _, word⟩ := List.mem_map.mp filler
    have dot : '.' ∈ "...".toList := by decide
    rw [← word] at dot
    exact absurd (Hex.mem_word dot) (by decide)

-----------------------------------------------------------------------------------------
-- From lines to bytes
-----------------------------------------------------------------------------------------

/-- The words of a row tell its bytes; behind the end there are only zeros to tell. -/
theorem getD_eq_of_wordFields_eq {left right : List UInt8} {i offset : Nat}
    (lengths : left.length = right.length) (inside : offset < 16)
    (same : wordFields left i = wordFields right i)
    : left.getD (16 * i + offset) 0 = right.getD (16 * i + offset) 0 := by
  by_cases below : 16 * i + offset < left.length
  · have count : rowLength right i = rowLength left i := by rw [rowLength, rowLength, lengths]
    have place : offset / 2 ∈ List.range ((rowLength left i + 1) / 2) := by
      simp only [List.mem_range, rowLength]
      omega
    rw [wordFields, wordFields, count, List.map_inj_left] at same
    have word := Hex.word_injective (same (offset / 2) place)
    -- The byte is the high or the low one of its word.
    have pair : 2 * (offset / 2) = offset ∨ 2 * (offset / 2) + 1 = offset := by omega
    have := (left.getD (16 * i + 2 * (offset / 2)) 0).toNat_lt
    have := (left.getD (16 * i + 2 * (offset / 2) + 1) 0).toNat_lt
    have := (right.getD (16 * i + 2 * (offset / 2)) 0).toNat_lt
    have := (right.getD (16 * i + 2 * (offset / 2) + 1) 0).toNat_lt
    apply UInt8.toNat_inj.mp
    rcases pair with even | odd
    · rw [← even]
      omega
    · rw [← odd, ← Nat.add_assoc]
      omega
  · rw [List.getD_eq_default _ _ (Nat.le_of_not_lt below),
      List.getD_eq_default _ _ (lengths ▸ Nat.le_of_not_lt below)]

/-- A row that is not zero is shown in full, so that equal dumps have equal bytes in it. -/
theorem getD_eq_of_dumpLines_eq {left right : List UInt8} {i offset : Nat}
    (lengths : left.length = right.length) (inside : offset < 16)
    (same : dumpLines left = dumpLines right) (row : i < rowCount left)
    (nonzero : ¬ ZeroRow left i)
    : left.getD (16 * i + offset) 0 = right.getD (16 * i + offset) 0 := by
  have listed : Entry.row i ∈ entries left :=
    ((summarizes_entries left).row_mem_iff i).mpr ⟨row, nonzero⟩
  have shown : (Entry.row i).line left ∈ (entries right).map (Entry.line right) := by
    rw [← dumpLines_eq right, ← same, dumpLines_eq left]
    exact List.mem_map_of_mem listed
  obtain ⟨entry, _, line⟩ := List.mem_map.mp shown
  exact getD_eq_of_wordFields_eq lengths inside (Entry.eq_row_of_line_eq line.symm).2

/-- Blocks of one length with the same lines are equal. -/
theorem eq_of_dumpLines_eq {left right : List UInt8} (lengths : left.length = right.length)
    (same : dumpLines left = dumpLines right)
    : left = right := by
  have bytes (address : Nat) (below : address < left.length)
      : left.getD address 0 = right.getD address 0 := by
    have row : address / 16 < rowCount left := by
      rw [rowCount]
      omega
    have inside : address % 16 < 16 := Nat.mod_lt _ (by decide)
    rw [← Nat.div_add_mod address 16]
    by_cases zeroLeft : ZeroRow left (address / 16)
    · by_cases zeroRight : ZeroRow right (address / 16)
      · rw [zeroLeft _ inside, zeroRight _ inside]
      · have row : address / 16 < rowCount right := by rwa [rowCount, ← lengths]
        exact (getD_eq_of_dumpLines_eq lengths.symm inside same.symm row zeroRight).symm
    · exact getD_eq_of_dumpLines_eq lengths inside same row zeroLeft
  refine List.ext_getElem lengths fun address below below' => ?_
  have := bytes address below
  rwa [List.getD_eq_getElem _ _ below, List.getD_eq_getElem _ _ below'] at this

-----------------------------------------------------------------------------------------
-- From text to lines
-----------------------------------------------------------------------------------------

/-- The memory dump as text, in which every line has an end. -/
def memoryText (bytes : List UInt8) : String :=
  String.join ((dumpLines bytes).map fun line => line ++ "\n")

theorem dumpLines_eq_of_memoryText_eq {left right : List UInt8}
    (same : memoryText left = memoryText right)
    : dumpLines left = dumpLines right := by
  have text (bytes : List UInt8)
      : memoryText bytes = "\n".intercalate (dumpLines bytes ++ [""]) := by
    rw [← join_ended, memoryText, String.append_empty]
  have free (bytes : List UInt8) : ∀ line ∈ dumpLines bytes ++ [""], '\n' ∉ line.toList := by
    intro line listed ended
    rcases List.mem_append.mp listed with shown | empty
    · have : '\n' ∉ ' ' :: fieldChars := by decide
      exact this (mem_dumpLines shown ended)
    · rw [List.mem_singleton.mp empty] at ended
      simp at ended
  have some (bytes : List UInt8) : dumpLines bytes ++ [""] ≠ [] := by simp
  have single : "\n".toList = ['\n'] := rfl
  rw [text, text] at same
  exact List.append_cancel_right
    (intercalate_inj single (some left) (some right) (free left) (free right) same)

theorem mem_memoryText {bytes : List UInt8} {c : Char} (member : c ∈ (memoryText bytes).toList)
    : c ∈ '\n' :: ' ' :: fieldChars := by
  rw [memoryText, String.toList_join, List.mem_flatMap] at member
  obtain ⟨_, ended, member⟩ := member
  obtain ⟨line, shown, rfl⟩ := List.mem_map.mp ended
  rw [String.toList_append, List.mem_append] at member
  rcases member with within | newline
  · exact List.mem_cons_of_mem _ (mem_dumpLines shown within)
  · rw [List.mem_singleton.mp newline]
    exact List.mem_cons_self

end ChipEight.MemoryDump

namespace ChipEight.Machine

open MemoryDump

/-- What stands behind the `y` of the title of the memory in the text of a machine. -/
def memoryPart (m : Machine) : List Char :=
  " :\n".toList ++ (memoryText m.memory.cells.toList).toList ++ ['\x7d']

/-- The memory part ends the text, whatever the name of the program is. In the name there may be
any line, but no `y` comes after that of the title, by `y_notMem_memoryPart`.
-/
theorem exists_dumpText_eq (m : Machine)
    : ∃ front, m.dumpText.toList = front ++ 'y' :: m.memoryPart := by
  obtain ⟨header, lines⟩ : ∃ header, m.dump
      = (header ++ "\tmemory :" :: dumpLines m.memory.cells.toList) ++ ["\x7d"] :=
    ⟨m.dump.take 6, rfl⟩
  have title : ("\tmemory :" ++ "\n").toList = "\tmemor".toList ++ 'y' :: " :\n".toList := rfl
  refine ⟨(String.join (header.map fun line => line ++ "\n")).toList ++ "\tmemor".toList, ?_⟩
  rw [dumpText, lines, ← join_ended, List.map_append, String.join_append, List.map_cons,
    String.join_cons, ← memoryText, String.toList_append, String.toList_append,
    String.toList_append, title, memoryPart]
  simp only [List.append_assoc, List.cons_append]
  rfl

theorem y_notMem_memoryPart (m : Machine) : 'y' ∉ m.memoryPart := by
  intro member
  rw [memoryPart, List.mem_append, List.mem_append] at member
  rcases member with (title | shown) | closing
  · revert title
    decide
  · have : 'y' ∉ '\n' :: ' ' :: fieldChars := by decide
    exact this (mem_memoryText shown)
  · revert closing
    decide

/-- The text of a machine tells its memory. -/
theorem memory_eq_of_dumpText_eq {m n : Machine} (same : m.dumpText = n.dumpText)
    : m.memory = n.memory := by
  obtain ⟨front, left⟩ := m.exists_dumpText_eq
  obtain ⟨before, right⟩ := n.exists_dumpText_eq
  rw [same, right] at left
  have parts : n.memoryPart = m.memoryPart :=
    eq_of_append_cons_eq n.y_notMem_memoryPart m.y_notMem_memoryPart left
  rw [memoryPart, memoryPart, List.append_assoc, List.append_assoc] at parts
  have texts := List.append_cancel_right (List.append_cancel_left parts)
  have lines := dumpLines_eq_of_memoryText_eq (String.toList_inj.mp texts)
  have cells := eq_of_dumpLines_eq (by rw [Vector.length_toList, Vector.length_toList]) lines
  exact congrArg Memory.mk (Vector.toList_inj.mp cells).symm

end ChipEight.Machine

namespace ChipEight

open MemoryDump

/-- The memory dump is lossless. Its lines are those of the rows that are not zero and of the
maximal runs of zero rows, in ascending order; blocks of one length have the same dump only if
they are the same, and machines with a different byte in memory never print the same text.
Witness: a row is found again by the range of its line, its bytes by the words behind.
-/
theorem memory_dump_is_lossless
    : (∀ bytes : List UInt8,
        ∃ entries, Summarizes bytes entries ∧ dumpLines bytes = entries.map (Entry.line bytes))
      ∧ (∀ left right : List UInt8,
          left.length = right.length → (memoryText left = memoryText right ↔ left = right))
      ∧ ∀ (m n : Machine) (address : Nat),
          m.memory.read address ≠ n.memory.read address → m.dumpText ≠ n.dumpText := by
  refine ⟨fun bytes => ?_, fun left right lengths => ?_, fun m n address different same => ?_⟩
  · exact ⟨entries bytes, summarizes_entries bytes, dumpLines_eq bytes⟩
  · constructor
    · intro same
      exact eq_of_dumpLines_eq lengths (dumpLines_eq_of_memoryText_eq same)
    · exact congrArg memoryText
  · exact different (congrArg (·.read address) (Machine.memory_eq_of_dumpText_eq same))

/-- A machine with nothing in memory. -/
def Machine.emptied : Machine :=
  { Machine.powerOn { stream := fun _ => 0 } with memory := {} }

/-- The same machine with a byte at the end of a row of zeros. -/
def Machine.marked : Machine :=
  { Machine.emptied with memory := Memory.write {} 0x30F 0x01 }

/-- A byte at the end of a row is seen, also if the row is the last one and stops there. -/
theorem memory_dump_is_lossless_rowEnd
    : let blank : List UInt8 := List.replicate 17 0
      let used : List UInt8 := List.replicate 16 0 ++ [0x01]
      blank.length = used.length
      ∧ memoryText blank ≠ memoryText used
      ∧ Machine.emptied.memory.read 0x30F ≠ Machine.marked.memory.read 0x30F
      ∧ Machine.emptied.dumpText ≠ Machine.marked.dumpText := by
  intro blank used
  obtain ⟨_, blocks, machines⟩ := memory_dump_is_lossless
  have lengths : blank.length = used.length := by decide
  have different : Machine.emptied.memory.read 0x30F ≠ Machine.marked.memory.read 0x30F := by
    simp [Machine.emptied, Machine.marked, Memory.read_write]
  refine ⟨lengths, fun same => ?_, different, machines _ _ 0x30F different⟩
  have unlike : blank ≠ used := by decide
  exact unlike ((blocks blank used lengths).mp same)

end ChipEight
