/-! Hexadecimal numbers as they stand in messages and dumps: upper case digits behind `0x`,
filled up with zeros to a least number of digits.
-/

namespace ChipEight.Hex

/-- The upper case digits of a number, without leading zeros. -/
def digits (n : Nat) : List Char :=
  (Nat.toDigits 16 n).map Char.toUpper

/-- A number with at least `width` digits behind `0x`. -/
def padded (width n : Nat) : String :=
  let ds := digits n
  "0x" ++ String.ofList (List.replicate (width - ds.length) '0' ++ ds)

/-- An address or an opcode: at least four digits. -/
def word (n : Nat) : String :=
  padded 4 n

/-- A number without leading zeros and without `0x`. -/
def plain (n : Nat) : String :=
  String.ofList (digits n)

-----------------------------------------------------------------------------------------
-- Reading digits back
-----------------------------------------------------------------------------------------

/-- The value of an upper case digit. -/
def digitValue (c : Char) : Nat :=
  if c.isDigit then c.toNat - 48 else c.toNat - 55

/-- The number that upper case digits stand for. -/
def value (ds : List Char) : Nat :=
  ds.foldl (fun sofar c => 16 * sofar + digitValue c) 0

theorem value_concat (ds : List Char) (c : Char)
    : value (ds ++ [c]) = 16 * value ds + digitValue c := by
  simp [value, List.foldl_append]

/-- Leading zeros do not count. -/
theorem value_zeros (count : Nat) (ds : List Char)
    : value (List.replicate count '0' ++ ds) = value ds := by
  induction count with
  | zero => rfl
  | succ count ih => exact ih

theorem digits_of_lt {n : Nat} (small : n < 16) : digits n = [n.digitChar.toUpper] := by
  rw [digits, Nat.toDigits_of_lt_base small, List.map_singleton]

theorem digits_of_le {n : Nat} (large : 16 ≤ n)
    : digits n = digits (n / 16) ++ [(n % 16).digitChar.toUpper] := by
  rw [digits, Nat.toDigits_of_base_le (by decide) large, List.map_append]
  rfl

theorem digitValue_digitChar : ∀ d < 16, digitValue d.digitChar.toUpper = d := by
  decide

/-- The digits of a number read back as that number. By strong induction, one digit at a time. -/
theorem value_digits (n : Nat) : value (digits n) = n := by
  induction n using Nat.strongRecOn with
  | ind n ih =>
    by_cases small : n < 16
    · rw [digits_of_lt small]
      exact (Nat.zero_add _).trans (digitValue_digitChar n small)
    · rw [digits_of_le (by omega), value_concat, ih (n / 16) (by omega),
        digitValue_digitChar (n % 16) (by omega)]
      omega

/-- Different numbers are never written alike. -/
theorem word_injective {a b : Nat} (same : word a = word b) : a = b := by
  have read (n : Nat) : value ((word n).toList.drop 2) = n := by
    simp [word, padded, value_zeros, value_digits]
  rw [← read a, same, read b]

theorem mem_digits {n : Nat} {c : Char} (member : c ∈ digits n)
    : c ∈ "0123456789ABCDEF".toList := by
  have every : ∀ d < 16, d.digitChar.toUpper ∈ "0123456789ABCDEF".toList := by decide
  induction n using Nat.strongRecOn with
  | ind n ih =>
    by_cases small : n < 16
    · rw [digits_of_lt small, List.mem_singleton] at member
      exact member ▸ every n small
    · rw [digits_of_le (by omega), List.mem_append, List.mem_singleton] at member
      rcases member with earlier | rfl
      · exact ih (n / 16) (by omega) earlier
      · exact every (n % 16) (by omega)

theorem mem_word {n : Nat} {c : Char} (member : c ∈ (word n).toList)
    : c ∈ 'x' :: "0123456789ABCDEF".toList := by
  simp only [word, padded, String.toList_append, String.toList_ofList, List.mem_append] at member
  rcases member with sign | zero | digit
  · have : c = '0' ∨ c = 'x' := by simpa using sign
    rcases this with rfl | rfl <;> decide
  · rw [List.eq_of_mem_replicate zero]
    decide
  · exact List.mem_cons_of_mem _ (mem_digits digit)

end ChipEight.Hex
