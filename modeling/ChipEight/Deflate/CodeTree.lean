import ChipEight.Deflate.Bits

/-! Prefix codes as trees. A code is given by the lengths of its words alone: shorter words
come first, and words of one length are in the order of their symbols.
-/

namespace ChipEight.Deflate

/-- The words of a code: a path of bits leads to each symbol. -/
inductive CodeTree where
  /-- No word continues here. -/
  | gap
  | symbol (value : Nat)
  | fork (zero one : CodeTree)
  deriving DecidableEq, Repr

namespace CodeTree

/-- Read one word; the result is its symbol with the bits behind it. -/
def decode : CodeTree → Bits → Except StreamDefect (Nat × Bits)
  | .gap, _ => .error .corrupt
  | .symbol value, bits => .ok (value, bits)
  | .fork _ _, [] => .error .cutOff
  | .fork zero one, bit :: bits => if bit then one.decode bits else zero.decode bits

/-- Every path leads to a symbol. -/
def isComplete : CodeTree → Bool
  | .gap => false
  | .symbol _ => true
  | .fork zero one => zero.isComplete && one.isComplete

/-- The longest word of a code. -/
def maxLength : Nat := 15

/-- Build the subtree at a depth from words in order, each given by its length and symbol;
the result has the words for which no path was left. `height` is the room below.
-/
def grow (height depth : Nat) (words : List (Nat × Nat)) : CodeTree × List (Nat × Nat) :=
  match words with
  | [] => (.gap, [])
  | (length, value) :: rest =>
    if length = depth then
      (.symbol value, rest)
    else
      match height with
      | 0 => (.gap, words)
      | height + 1 =>
        let zero := grow height (depth + 1) words
        let one := grow height (depth + 1) zero.2
        (.fork zero.1 one.1, one.2)

/-- The used symbols with the lengths of their words, in the order of the words. -/
def wordsOf (lengths : List Nat) : List (Nat × Nat) :=
  (List.range' 1 maxLength).flatMap fun length =>
    lengths.zipIdx.filter fun word => word.1 == length

/-- The tree of a code without words: a bit has to be read to see that it leads nowhere. -/
def empty : CodeTree := .fork .gap .gap

/-- The code whose words have these lengths; zero marks a symbol without a word. Every path
has to be used, except that a code may have no word at all, or a single one of one bit, if
`sparse` allows it.
-/
def ofLengths? (sparse : Bool) (lengths : List Nat) : Option CodeTree :=
  match wordsOf lengths with
  | [] => if sparse then some empty else none
  | first :: more =>
    match grow maxLength 0 (first :: more) with
    | (tree, []) =>
      if tree.isComplete || (sparse && more.isEmpty && first.1 == 1) then some tree else none
    | (_, _ :: _) => none

end CodeTree

end ChipEight.Deflate
