import ChipEight.Text.Cluster
import ChipEight.Text.FlatLetters
import ChipEight.Text.WideLetters

/-! How many columns of a terminal a text takes: none for marks, two for wide letters and
coloured pictures, and one for all others. Clusters are kept whole; the main statement says
that what was fitted into some columns takes no more than these.
-/

namespace ChipEight.ColumnWidth

/-- The columns that a character takes by itself. One sign stands for three letters. -/
def ofChar (c : Char) : Nat :=
  if c = '\u17D8' then 3
  else if c = '\n' ∨ flatLetters.contains c then 0
  else if wideLetters.contains c then 2
  else 1

/-- Letters that are written below another one if the mark for it stands between them. -/
def subscribable : CharRanges :=
  [(0x1780, 0x1782), (0x1784, 0x1787), (0x1789, 0x178C), (0x178E, 0x1793), (0x1795, 0x1798),
   (0x179B, 0x179D), (0x17A0, 0x17A0), (0x17A2, 0x17A2), (0x17A7, 0x17A7), (0x17AB, 0x17AC),
   (0x17AF, 0x17AF)]

/-- The mark that puts the letter behind it below the one before. -/
def subscribe : Char := '\u17D2'

/-- Characters that change how a letter looks, but not where it is written. -/
def transparent : CharRanges :=
  [(0x034F, 0x034F), (0x17B4, 0x17B5), (0x180B, 0x180D), (0x180F, 0x180F), (0x200D, 0x200D),
   (0xFE00, 0xFE0F), (0xE0100, 0xE01EF)]

/-- What the characters behind one tell about it. -/
inductive Behind where
  | plain
  /-- A coloured picture. -/
  | picture
  /-- A skin tone. -/
  | tone
  /-- A letter of a flag. -/
  | flagLetter
  /-- A letter that can be written below another one. -/
  | subscribable
  /-- The wish for a plain character. -/
  | noColour
  /-- The wish for a coloured picture, in front of a joined one or not. -/
  | colour (joined : Bool)
  /-- A joiner and a picture. -/
  | joined
  /-- The frame of a key, in front of a joined picture. -/
  | joinedKey
  /-- A letter of a flag, in front of a joined picture. -/
  | joinedFlagLetter
  /-- The tags of a flag in front of a joined picture: some digits, then some letters. -/
  | joinedTags (digits letters : Nat)
  deriving DecidableEq, Repr

/-- The wish for a coloured picture, which follows a character. -/
def colourMark : Char := '\uFE0F'

/-- The wish for a plain character, which follows a picture. -/
def noColourMark : Char := '\uFE0E'

/-- The frame that makes a key out of a digit. -/
def keyFrame : Char := '\u20E3'

/-- The flag that tags may follow, and the end of its tags. -/
def taggedFlag : Char := Char.ofNat 0x1F3F4

/-- The tag behind the tags of a flag. -/
def lastTag : Char := Char.ofNat 0xE007F

/-- A tag for a digit. -/
def isDigitTag (c : Char) : Bool :=
  0xE0030 ≤ c.toNat && c.toNat ≤ 0xE0039

/-- A tag for a letter. -/
def isLetterTag (c : Char) : Bool :=
  0xE0061 ≤ c.toNat && c.toNat ≤ 0xE007A

/-- What a character tells the one before if nothing else behind it matters. -/
def kind (c : Char) : Behind :=
  if c = colourMark then .colour false
  else if c = noColourMark then .noColour
  else if Pictographs.tones.contains c then .tone
  else if Pictographs.flagLetters.contains c then .flagLetter
  else if Pictographs.coloured.contains c then .picture
  else if subscribable.contains c then .subscribable
  else .plain

/-- The columns that a character takes by itself, and what it tells the one before. -/
def alone (c : Char) : Int × Behind :=
  (ofChar c, kind c)

/-- The columns that a character takes in front of a joined picture, which takes columns of its
own, and what it tells the one before.
-/
def inFrontOfJoined (c : Char) : Int × Behind :=
  if c = colourMark then (0, .colour true)
  else if c = keyFrame then (0, .joinedKey)
  else if c = lastTag then (0, .joinedTags 0 0)
  else
    match kind c with
    | .flagLetter => (1, .joinedFlagLetter)
    | .tone => (0, .tone)
    | .picture => (0, .picture)
    | _ => alone c

/-- The columns that a character takes in front of tags, and what it tells the one before. A
flag has tags for three letters or more, or for three digits, which letters may follow.
-/
def inFrontOfTags (c : Char) (digits letters : Nat) : Int × Behind :=
  if isLetterTag c ∧ digits = 0 ∧ letters < 6 then (0, .joinedTags 0 (letters + 1))
  else if isDigitTag c ∧ digits < 3 ∧ letters ≤ 4 then (0, .joinedTags (digits + 1) letters)
  else if c = taggedFlag ∧ (digits = 3 ∨ digits = 0 ∧ 3 ≤ letters) then (0, .picture)
  else alone c

/-- The columns that a character takes by what follows it, and what it tells the one before.
Of joined pictures, and of a picture with a tone, only the last one takes columns; a column is
given back where two characters share one.
-/
def inCluster (c : Char) (behind : Behind) : Int × Behind :=
  match behind with
  | .plain => alone c
  | .picture => if c = Cluster.joiner then (0, .joined) else alone c
  | .tone =>
    if Pictographs.tonable.contains c then (0, .picture)
    else if c = Cluster.joiner then (0, .joined)
    else alone c
  | .flagLetter => alone c
  | .subscribable =>
    if transparent.contains c then (0, .subscribable)
    else if c = subscribe then (-1, .plain)
    else alone c
  | .noColour => if Pictographs.plainable.contains c then (1, .plain) else alone c
  | .colour joined =>
    if Pictographs.colourable.contains c then (if joined then 0 else 2, .picture) else alone c
  | .joined => inFrontOfJoined c
  | .joinedKey => if c = colourMark then (0, .colour true) else alone c
  | .joinedFlagLetter =>
    if Pictographs.flagLetters.contains c then (-1, .plain) else alone c
  | .joinedTags digits letters => inFrontOfTags c digits letters

/-- The columns that a cluster takes. The end of a line takes none. -/
def ofCluster (cluster : Cluster) : Nat :=
  if cluster = ['\r', '\n'] then
    0
  else
    (cluster.foldr
      (fun c seen =>
        let here := inCluster c seen.2
        (here.1 + seen.1, here.2))
      ((0 : Int), Behind.plain)).1.toNat

/-- The columns that clusters take. -/
def ofClusters (clusters : List Cluster) : Nat :=
  clusters.foldr (fun cluster columns => ofCluster cluster + columns) 0

/-- The first clusters that fit into some columns, up to the first one that does not fit;
clusters without a column are left out.
-/
def fit : Nat → List Cluster → List Cluster
  | _, [] => []
  | columns, cluster :: rest =>
    if ofCluster cluster = 0 then fit columns rest
    else if ofCluster cluster ≤ columns then
      cluster :: fit (columns - ofCluster cluster) rest
    else []

/-- What fits into some columns takes no more than these. -/
theorem ofClusters_fit_le (columns : Nat) (clusters : List Cluster)
    : ofClusters (fit columns clusters) ≤ columns := by
  fun_induction fit columns clusters <;> simp_all [ofClusters]
  omega

end ChipEight.ColumnWidth
