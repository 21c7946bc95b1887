/-! Tables with one number for each of their names. -/

namespace ChipEight.Archive

/-- A table with a number for each of its names. -/
structure NameTable where
  rows : List (String × Nat)
  nodup : (rows.map Prod.fst).Nodup

namespace NameTable

/-- The names in the table, in no particular order. -/
def names (table : NameTable) : List String :=
  table.rows.map Prod.fst

/-- The number of a name. -/
def number? (table : NameTable) (name : String) : Option Nat :=
  table.rows.lookup name

/-- The table without names. -/
def empty : NameTable :=
  ⟨[], List.nodup_nil⟩

/-- The rows of other names. -/
def rowsWithout (table : NameTable) (name : String) : List (String × Nat) :=
  table.rows.filter fun row => row.1 != name

theorem nodup_cons_rowsWithout (table : NameTable) (name : String) (number : Nat)
    : (((name, number) :: table.rowsWithout name).map Prod.fst).Nodup := by
  rw [List.map_cons, List.nodup_cons]
  refine ⟨?_, table.nodup.sublist (List.filter_sublist.map Prod.fst)⟩
  simp [rowsWithout]

/-- Put a name into the table; a number that it had is replaced. -/
def insert (table : NameTable) (name : String) (number : Nat) : NameTable :=
  ⟨(name, number) :: table.rowsWithout name, table.nodup_cons_rowsWithout name number⟩

/-- Put names into a table, numbered in turn. -/
def insertAll (table : NameTable) (number : Nat) : List String → NameTable
  | [] => table
  | name :: rest => (table.insert name number).insertAll (number + 1) rest

/-- The table of a list of names, each with the number of its last place in the list. -/
def ofNames (names : List String) : NameTable :=
  empty.insertAll 0 names

@[simp] theorem number?_empty (name : String) : empty.number? name = none :=
  rfl

/-- The names of a table are those with a number. -/
theorem mem_names_iff {table : NameTable} {name : String}
    : name ∈ table.names ↔ (table.number? name).isSome = true := by
  rw [number?, List.lookup_isSome_iff, names, List.mem_map]
  refine exists_congr fun row => and_congr_right fun _ => ?_
  rw [beq_iff_eq, eq_comm]

theorem lookup_rowsWithout (table : NameTable) {name other : String} (different : other ≠ name)
    : (table.rowsWithout name).lookup other = table.rows.lookup other := by
  unfold rowsWithout
  induction table.rows with
  | nil => rfl
  | cons row rest ih =>
    by_cases same : row.1 = name
    · have unlike : (other == row.1) = false := by simp [same, different]
      rw [List.filter_cons_of_neg (by simp [same]), ih, List.lookup_cons, unlike]
    · rw [List.filter_cons_of_pos (by simp [same]), List.lookup_cons, List.lookup_cons, ih]

@[simp] theorem number?_insert (table : NameTable) (name other : String) (number : Nat)
    : (table.insert name number).number? other
      = if other = name then some number else table.number? other := by
  by_cases same : other = name
  · simp [number?, insert, same]
  · have unlike : (other == name) = false := by simp [same]
    simp only [number?, insert, List.lookup_cons, unlike, if_neg same]
    exact table.lookup_rowsWithout same

/-- A number in a table that names were put into is that of a place in their list, or stood in the
table before.
-/
theorem number?_insertAll {table : NameTable} {start : Nat} {names : List String} {name : String}
    {number : Nat} (found : (table.insertAll start names).number? name = some number)
    : (∃ place, number = start + place ∧ names[place]? = some name)
      ∨ (name ∉ names ∧ table.number? name = some number) := by
  induction names generalizing table start with
  | nil => exact .inr ⟨List.not_mem_nil, found⟩
  | cons first rest ih =>
    rcases ih found with ⟨place, rfl, later⟩ | ⟨notLater, before⟩
    · exact .inl ⟨place + 1, by omega, later⟩
    · rw [number?_insert] at before
      by_cases same : name = first
      · rw [if_pos same, Option.some.injEq] at before
        exact .inl ⟨0, before.symm, by simp [same]⟩
      · rw [if_neg same] at before
        exact .inr ⟨by simp [same, notLater], before⟩

/-- No name is lost when others are put into the table after it. -/
theorem isSome_number?_insertAll {table : NameTable} {start : Nat} {names : List String}
    {name : String} (known : name ∈ names ∨ (table.number? name).isSome = true)
    : ((table.insertAll start names).number? name).isSome = true := by
  induction names generalizing table start with
  | nil => simpa [insertAll] using known
  | cons first rest ih =>
    refine ih ?_
    rw [number?_insert, List.mem_cons] at *
    grind

/-- The number of a name is that of a place where the name stands. -/
theorem getElem?_of_number?_ofNames {names : List String} {name : String} {number : Nat}
    (found : (ofNames names).number? name = some number) : names[number]? = some name := by
  rcases number?_insertAll found with ⟨place, rfl, standing⟩ | ⟨-, before⟩
  · rwa [Nat.zero_add]
  · simp at before

/-- Every name of a list has a number in the table of the list. -/
theorem mem_names_ofNames {names : List String} {name : String} (listed : name ∈ names)
    : name ∈ (ofNames names).names :=
  mem_names_iff.mpr (isSome_number?_insertAll (.inl listed))

end NameTable

end ChipEight.Archive
