import ModuleDepot.Text.Number

/-! # Punycode

The spelling of a label with characters outside ASCII: its ASCII characters, then the
others as a list of differences, each a number in base 36 whose digits carry on above a
threshold that adapts to the numbers before.
-/

namespace ModuleDepot.Url.Punycode

/-- A digit in base 36: letters first, then figures. -/
def digit (n : Nat) : Char :=
  if n < 26 then Char.ofNat ('a'.toNat + n) else Char.ofNat ('0'.toNat + (n - 26))

/-- The value of a digit, whose letter may be of either case. -/
def digitValue? (c : Char) : Option Nat :=
  if 'a' ≤ c ∧ c ≤ 'z' then some (c.toNat - 'a'.toNat)
  else if 'A' ≤ c ∧ c ≤ 'Z' then some (c.toNat - 'A'.toNat)
  else if '0' ≤ c ∧ c ≤ '9' then some (c.toNat - '0'.toNat + 26)
  else none

/-- The threshold at a digit, which is at least one and at most twenty-six. -/
def threshold (bias k : Nat) : Nat :=
  if k ≤ bias + 1 then 1 else if bias + 26 ≤ k then 26 else k - bias

/-- Divides until the number is small, and counts the divisions in steps of a base. -/
def shrink : (fuel : Nat) → (delta k : Nat) → Nat
  | 0, delta, k => k + 36 * delta / (delta + 38)
  | fuel + 1, delta, k =>
    if 455 < delta then shrink fuel (delta / 35) (k + 36) else k + 36 * delta / (delta + 38)

/-- The bias after a difference, when so many characters are placed. -/
def adapt (delta count : Nat) (isFirst : Bool) : Nat :=
  let delta := if isFirst then delta / 700 else delta / 2
  shrink (delta + 1) (delta + delta / count) 0

/-- A difference in digits. -/
def encodeNumber (bias : Nat) : (fuel : Nat) → (k q : Nat) → List Char
  | 0, _, q => [digit q]
  | fuel + 1, k, q =>
    let t := threshold bias k
    if q < t then [digit q]
    else digit (t + (q - t) % (36 - t)) :: encodeNumber bias fuel (k + 36) ((q - t) / (36 - t))

/-- What has been written, and what the next difference depends on. -/
structure Encoding where
  output : List Char
  delta : Nat
  bias : Nat
  placed : Nat

/-- Goes past one character while those of the code `current` are placed. -/
def passChar (basic current : Nat) (e : Encoding) (c : Char) : Encoding :=
  if c.toNat < current then { e with delta := e.delta + 1 }
  else if c.toNat = current then
    { output := e.output ++ encodeNumber e.bias (e.delta + 1) 36 e.delta
      delta := 0
      bias := adapt e.delta (e.placed + 1) (e.placed == basic)
      placed := e.placed + 1 }
  else e

/-- Places the characters of each code in turn; `next` is the least code not placed yet. -/
def encodeCodes (label : List Char) (basic : Nat) : (next : Nat) → List Nat → Encoding → Encoding
  | _, [], e => e
  | next, code :: codes, e =>
    let e := { e with delta := e.delta + (code - next) * (e.placed + 1) }
    let e := label.foldl (passChar basic code) e
    encodeCodes label basic (code + 1) codes { e with delta := e.delta + 1 }

/-- The spelling of a label, without the sign that marks such spellings. -/
def encode (label : List Char) : List Char :=
  let basic := label.filter (·.toNat < 0x80)
  let codes := ((label.map Char.toNat).filter (0x80 ≤ ·)).mergeSort.eraseReps
  let start : Encoding := ⟨[], 0, 72, basic.length⟩
  basic ++ (if basic.isEmpty then [] else ['-']) ++
    (encodeCodes label basic.length 0x80 codes start).output

/-- Reads a difference, added to `i`; gives it with the rest of the spelling. Neither the
difference nor the weight of a digit may leave 32 bits. -/
def decodeNumber (bias : Nat) : (k weight i : Nat) → List Char → Option (Nat × List Char)
  | _, _, _, [] => none
  | k, weight, i, c :: rest =>
    match digitValue? c with
    | none => none
    | some d =>
      let i := i + d * weight
      let t := threshold bias k
      if i > Text.max32 then none
      else if d < t then some (i, rest)
      else if weight * (36 - t) > Text.max32 then none
      else decodeNumber bias (k + 36) (weight * (36 - t)) i rest

/-- Reads differences until the spelling is used up. -/
def decodeCodes :
    (fuel : Nat) → (n i bias : Nat) → (label spelling : List Char) → Option (List Char)
  | 0, _, _, _, _, _ => none
  | _ + 1, _, _, _, label, [] => some label
  | fuel + 1, n, i, bias, label, spelling =>
    match decodeNumber bias 36 1 i spelling with
    | none => none
    | some (j, rest) =>
      let count := label.length + 1
      let n := n + j / count
      let place := j % count
      if n.isValidChar then
        decodeCodes fuel n (place + 1) (adapt (j - i) count (i == 0))
          (label.take place ++ Char.ofNat n :: label.drop place) rest
      else none

/-- The label of a spelling. The last hyphen ends the ASCII characters, if there are any. -/
def decode? (spelling : List Char) : Option (List Char) :=
  let behind := (spelling.reverse.takeWhile (· != '-')).reverse
  let basic := spelling.take (spelling.length - behind.length - 1)
  let digits := if basic.isEmpty then spelling else behind
  decodeCodes (digits.length + 1) 0x80 0 72 basic digits

end ModuleDepot.Url.Punycode
