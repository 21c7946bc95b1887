import ChipEight.Text.Marks
import ChipEight.Text.Pictographs

/-! Text as clusters: the smallest parts that a reader sees as one character. A letter with
its marks, a syllable, a flag or a joined picture is a single cluster. The main statement says
that the clusters of a text are the text.
-/

namespace ChipEight

/-- Characters that are written together, in their order. -/
abbrev Cluster := List Char

namespace Cluster

/-- The character that joins pictures. -/
def joiner : Char := '\u200D'

/-- The character that keeps letters apart. -/
def nonJoiner : Char := '\u200C'

/-- The parts that a syllable block is made of. -/
inductive SyllablePart where
  | lead
  | vowel
  | tail
  | leadVowel
  | leadVowelTail
  deriving DecidableEq, Repr

/-- Vowels that are written inside of a syllable block. -/
def innerVowels : CharRanges :=
  [(0x1160, 0x11A7), (0xD7B0, 0xD7C6), (0x16D63, 0x16D63), (0x16D67, 0x16D6A)]

/-- The part of a syllable block that a character stands for. Whole syllables are in an order
in which every 28th one has no tail.
-/
def syllablePart? (c : Char) : Option SyllablePart :=
  let n := c.toNat
  if 0x1100 ≤ n ∧ n ≤ 0x115F ∨ 0xA960 ≤ n ∧ n ≤ 0xA97C then some .lead
  else if innerVowels.contains c then some .vowel
  else if 0x11A8 ≤ n ∧ n ≤ 0x11FF ∨ 0xD7CB ≤ n ∧ n ≤ 0xD7FB then some .tail
  else if 0xAC00 ≤ n ∧ n ≤ 0xD7A3 then
    if (n - 0xAC00) % 28 = 0 then some .leadVowel else some .leadVowelTail
  else none

/-- The parts of a syllable block that go on with each other. -/
def SyllablePart.goesOn : SyllablePart → SyllablePart → Bool
  | .lead, next => next != .tail
  | .vowel, next | .leadVowel, next => next == .vowel || next == .tail
  | .tail, next | .leadVowelTail, next => next == .tail

/-- Two characters are parts of one syllable block. -/
def inSyllable (last next : Char) : Bool :=
  match syllablePart? last, syllablePart? next with
  | some part, some follower => part.goesOn follower
  | _, _ => false

/-- The character stays with the one before. -/
def isAttached (c : Char) : Bool :=
  c == joiner || Marks.extending.contains c || Marks.spacing.contains c

/-- A cluster, its last character first, ends in a consonant with a linking mark. -/
def endsLinked (reversed : List Char) : Bool :=
  let isMark := fun c => c == joiner || Marks.extending.contains c && c != nonJoiner
  let marks := reversed.takeWhile isMark
  marks.any Marks.linking.contains
    && ((reversed.drop marks.length).head?.map Marks.consonants.contains).getD false

/-- A cluster, its last character first, ends in a picture with a joiner. -/
def endsJoined (reversed : List Char) : Bool :=
  match reversed with
  | [] => false
  | last :: before =>
    last == joiner
      && (((before.dropWhile Marks.extending.contains).head?).map
        Pictographs.joinable.contains).getD false

/-- A cluster, its last character first, goes on with a character. -/
def goesOn (reversed : List Char) (next : Char) : Bool :=
  match reversed with
  | [] => true
  | last :: _ =>
    if last = '\r' ∧ next = '\n' then
      true
    else if Marks.control.contains last || Marks.control.contains next then
      false
    else
      inSyllable last next || isAttached next || Marks.leading.contains last
        || Marks.consonants.contains next && endsLinked reversed
        || Pictographs.joinable.contains next && endsJoined reversed
        || Pictographs.flagLetters.contains next
          && (reversed.takeWhile Pictographs.flagLetters.contains).length % 2 == 1

/-- The clusters of a text of which some characters were read, the last one first. -/
def splitFrom (reversed : List Char) : List Char → List Cluster
  | [] => if reversed.isEmpty then [] else [reversed.reverse]
  | c :: rest =>
    if goesOn reversed c then splitFrom (c :: reversed) rest
    else reversed.reverse :: splitFrom [c] rest

/-- The clusters of a text. -/
def split (text : List Char) : List Cluster :=
  splitFrom [] text

/-- The clusters of a text are what was read and the rest. -/
theorem flatten_splitFrom (reversed text : List Char)
    : (splitFrom reversed text).flatten = reversed.reverse ++ text := by
  fun_induction splitFrom reversed text <;> simp_all

/-- The clusters of a text are the text. -/
theorem flatten_split (text : List Char) : (split text).flatten = text := by
  simp [split, flatten_splitFrom]

end Cluster

end ChipEight
