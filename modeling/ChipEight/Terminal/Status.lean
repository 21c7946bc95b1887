/-! The status line: the name of the program and what the machine is doing. -/

namespace ChipEight.Terminal

/-- What the status line tells. -/
structure Status where
  name : String := ""
  tone : Bool := false
  waiting : Bool := false
  deriving DecidableEq, Repr

/-- The text of the status line. -/
def Status.line (status : Status) : String :=
  " " ++ status.name ++ " "
    ++ (if status.tone then "| ♪ " else "")
    ++ (if status.waiting then "| waiting for a key " else "")
    ++ "| esc quits "

end ChipEight.Terminal
