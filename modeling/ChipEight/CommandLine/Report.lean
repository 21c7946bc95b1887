/-! Failures as they are reported: what was tried, and the causes one below the other. -/

namespace ChipEight.CommandLine

/-- What was tried and failed, with the causes from the nearest to the deepest. -/
structure Report where
  context : String
  causes : List String := []
  deriving DecidableEq, Repr

namespace Report

/-- A text whose further lines are moved in. -/
def indentLines (indent text : String) : String :=
  ("\n" ++ indent).intercalate (text.splitOn "\n")

/-- A cause with its number, for one of several causes. -/
def numberedCause (cause : String × Nat) : String :=
  let number := toString cause.2
  String.ofList (List.replicate (5 - number.length) ' ') ++ number ++ ": "
    ++ indentLines "       " cause.1 ++ "\n"

/-- The causes of a failure; a single one has no number. -/
def causesText : List String → String
  | [] => ""
  | [cause] => "\nCaused by:\n    " ++ indentLines "    " cause ++ "\n"
  | causes => "\nCaused by:\n" ++ String.join (causes.zipIdx.map numberedCause)

/-- The whole report. -/
def text (report : Report) : String :=
  "Error: " ++ report.context ++ "\n" ++ causesText report.causes

end Report

end ChipEight.CommandLine
