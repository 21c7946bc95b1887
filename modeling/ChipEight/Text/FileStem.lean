/-! The stem of a file name: what stands in front of its extension. -/

namespace ChipEight

/-- The components of a path, without empty ones. -/
def pathNames (path : String) : List String :=
  (path.splitOn "/").filter fun name => !name.isEmpty && name != "."

/-- A name up to its last dot; a dot at its start begins no extension. -/
def nameStem (name : String) : String :=
  let cs := name.toList
  let behind := cs.reverse.takeWhile (· != '.')
  let stem := cs.take (cs.length - behind.length - 1)
  if behind.length = cs.length ∨ stem.isEmpty then name else String.ofList stem

/-- The stem of the last name of a path; two dots name no file. -/
def fileStem (path : String) : String :=
  match (pathNames path).getLast? with
  | none => ""
  | some name => if name = ".." then "" else nameStem name

end ChipEight
