import ModuleDepot.Text.Number

/-! # Maps from characters to texts

A map is written as entries with blanks between them, all numbers hexadecimal. The entry
`B2>32,33` gives B2 and the code points behind it one image each, `C0-D6>E0` moves all
from C0 to D6 along with the first of them, and `100:12E>101` every second one. An image
of several code points has dots in it, as in `132>69.6A`; where the characters move along,
its last code point does. An image of none is empty.
-/

namespace ModuleDepot.Text

/-- Code points from `first` to `last`, a step apart, and what they become. -/
structure CharMap.Run where
  first : Nat
  last : Nat
  step : Nat
  images : List (List Nat)
  deriving DecidableEq, Repr

/-- A map from characters to texts. -/
abbrev CharMap := List CharMap.Run

namespace CharMap

/-- The number that hexadecimal digits spell. -/
def codeOf (digits : List Char) : Nat :=
  digits.foldl (fun n c => n * 16 + (digitValue? 16 c).getD 0) 0

/-- The image that a text spells. -/
def imageOf (cs : List Char) : List Nat :=
  if cs.isEmpty then [] else (cs.splitOn '.').map codeOf

/-- The run that an entry spells. -/
def Run.ofEntry (entry : List Char) : Run :=
  let source := entry.takeWhile (· != '>')
  let images := ((entry.dropWhile (· != '>')).tail.splitOn ',').map imageOf
  let first := codeOf (source.takeWhile Char.isAlphanum)
  match source.dropWhile Char.isAlphanum with
  | '-' :: last => ⟨first, codeOf last, 1, images⟩
  | ':' :: last => ⟨first, codeOf last, 2, images⟩
  | _ => ⟨first, first + images.length - 1, 1, images⟩

/-- The map that a text spells. -/
def ofText (s : String) : CharMap :=
  ((s.toList.splitOnP Char.isWhitespace).filter (!·.isEmpty)).map Run.ofEntry

/-- An image whose last code point is moved along. -/
def shifted (distance : Nat) : List Nat → List Nat
  | [] => []
  | [code] => [code + distance]
  | code :: codes => code :: shifted distance codes

/-- Whether a code point belongs to a run. -/
def Run.contains (r : Run) (n : Nat) : Bool :=
  r.first ≤ n && n ≤ r.last && (n - r.first) % r.step == 0

/-- What a code point of the run becomes: one of several images, or the only one, moved
along. -/
def Run.image (r : Run) (n : Nat) : List Nat :=
  match r.images with
  | [image] => shifted (n - r.first) image
  | images => (images[n - r.first]?).getD []

/-- What a character becomes, if the map says so. -/
def image? (m : CharMap) (c : Char) : Option (List Char) :=
  (m.find? (·.contains c.toNat)).map fun r => (r.image c.toNat).map Char.ofNat

end CharMap
end ModuleDepot.Text
