/-! # UTF-8

Bytes are read as text in one go or not at all. Where they cannot be read, the fault is
the first position at which no character can be completed: either the bytes end inside
a character, or the bytes there begin none, and then the fault spans the longest start
of a character found.
-/

namespace ModuleDepot.Text

/-- The bytes of a text. -/
def utf8 (s : String) : List UInt8 :=
  s.toUTF8.data.toList

/-- Where bytes stop being UTF-8; the length is missing when they end too early. -/
structure Utf8Fault where
  index : Nat
  length : Option Nat
  deriving DecidableEq, Repr

/-- The text a reader sees, after the name of the encoding. -/
def Utf8Fault.message (f : Utf8Fault) : String :=
  match f.length with
  | some n => s!"invalid utf-8 sequence of {n} bytes from index {f.index}"
  | none => s!"incomplete utf-8 byte sequence from index {f.index}"

/-- The ranges that the bytes after a first byte have to fall into; `none` for a byte
that begins no character. -/
def continuation (first : UInt8) : Option (List (UInt8 × UInt8)) :=
  if first ≤ 0x7F then some []
  else if 0xC2 ≤ first ∧ first ≤ 0xDF then some [(0x80, 0xBF)]
  else if first = 0xE0 then some [(0xA0, 0xBF), (0x80, 0xBF)]
  else if first = 0xED then some [(0x80, 0x9F), (0x80, 0xBF)]
  else if 0xE1 ≤ first ∧ first ≤ 0xEF then some [(0x80, 0xBF), (0x80, 0xBF)]
  else if first = 0xF0 then some [(0x90, 0xBF), (0x80, 0xBF), (0x80, 0xBF)]
  else if 0xF1 ≤ first ∧ first ≤ 0xF3 then some [(0x80, 0xBF), (0x80, 0xBF), (0x80, 0xBF)]
  else if first = 0xF4 then some [(0x80, 0x8F), (0x80, 0xBF), (0x80, 0xBF)]
  else none

/-- How the bytes after a first byte answer the ranges. -/
inductive Follow where
  | complete (rest : List UInt8)
  | broken (good : Nat)
  | short

/-- Matches the ranges against the bytes; `good` counts the bytes that fell into theirs. -/
def follow (good : Nat) : List (UInt8 × UInt8) → List UInt8 → Follow
  | [], bytes => .complete bytes
  | _ :: _, [] => .short
  | r :: ranges, b :: bytes =>
    if r.1 ≤ b ∧ b ≤ r.2 then follow (good + 1) ranges bytes else .broken good

theorem length_follow {good : Nat} {ranges : List (UInt8 × UInt8)} {bytes rest : List UInt8}
    (h : follow good ranges bytes = .complete rest) : rest.length ≤ bytes.length := by
  induction ranges generalizing good bytes with
  | nil => simp only [follow, Follow.complete.injEq] at h; simp [h]
  | cons r ranges ih =>
    cases bytes with
    | nil => simp [follow] at h
    | cons b bytes =>
      simp only [follow] at h
      split at h
      · have := ih h; simp only [List.length_cons]; omega
      · exact absurd h (by simp)

/-- The first fault at or after `index`, if there is one. -/
def findFault (index : Nat) : List UInt8 → Option Utf8Fault
  | [] => none
  | b :: bytes =>
    match continuation b with
    | none => some ⟨index, some 1⟩
    | some ranges =>
      match _h : follow 1 ranges bytes with
      | .short => some ⟨index, none⟩
      | .broken good => some ⟨index, some good⟩
      | .complete rest => findFault (index + 1 + ranges.length) rest
termination_by bytes => bytes.length
decreasing_by
  have := length_follow _h
  simp only [List.length_cons]
  omega

/-- The text that the bytes spell. -/
def readUtf8 (bytes : List UInt8) : Except Utf8Fault String :=
  match String.fromUTF8? ⟨bytes.toArray⟩ with
  | some s => .ok s
  | none => .error ((findFault 0 bytes).getD ⟨0, none⟩)

/-- The text that the bytes spell, or the empty text. -/
def utf8OrEmpty (bytes : List UInt8) : String :=
  (readUtf8 bytes).toOption.getD ""

end ModuleDepot.Text
