import ModuleDepot.Text.Number
import ModuleDepot.Text.Utf8

/-! # Percent-encoding

A character that must not stand for itself is written as its bytes, each as `%` and two
hexadecimal digits. Which characters these are depends on the part of the URL.
-/

namespace ModuleDepot.Url

/-- A hexadecimal digit in upper case. -/
def hexDigit (n : Nat) : Char :=
  if n < 10 then Char.ofNat ('0'.toNat + n) else Char.ofNat ('A'.toNat + (n - 10))

/-- A byte as `%` and two digits. -/
def encodeByte (b : UInt8) : List Char :=
  ['%', hexDigit (b.toNat / 16), hexDigit (b.toNat % 16)]

/-- The characters with those in the class `reserved` encoded. -/
def encodeChars (reserved : Char → Bool) (cs : List Char) : List Char :=
  cs.flatMap fun c =>
    if reserved c then (Text.utf8 (String.singleton c)).flatMap encodeByte else [c]

/-- A text with the characters in the class `reserved` encoded. -/
def encode (reserved : Char → Bool) (cs : List Char) : String :=
  String.ofList (encodeChars reserved cs)

/-- The value of a digit after a percent sign. -/
def hexValue? (b : UInt8) : Option UInt8 :=
  (Text.digitValue? 16 (Char.ofNat b.toNat)).map UInt8.ofNat

/-- The bytes with every percent sign and its two digits replaced by the byte they spell;
a percent sign without two digits stands for itself. -/
def decodeBytes : List UInt8 → List UInt8
  | b :: h :: l :: rest =>
    if b == 0x25 then
      match hexValue? h, hexValue? l with
      | some high, some low => (high * 16 + low) :: decodeBytes rest
      | _, _ => b :: decodeBytes (h :: l :: rest)
    else b :: decodeBytes (h :: l :: rest)
  | bytes => bytes

/-! ## The classes of characters -/

/-- Controls, and everything that is not ASCII. -/
def inControls (c : Char) : Bool :=
  c.toNat < 0x20 || 0x7F ≤ c.toNat

/-- What is encoded in a fragment. -/
def inFragment (c : Char) : Bool :=
  inControls c || c == ' ' || c == '"' || c == '<' || c == '>' || c.toNat == 0x60

/-- What is encoded in a query. -/
def inQuery (c : Char) : Bool :=
  inControls c || c == ' ' || c == '"' || c == '#' || c == '<' || c == '>'

/-- What is encoded in a query of one of the special schemes. -/
def inSpecialQuery (c : Char) : Bool :=
  inQuery c || c == '\''

/-- What is encoded in a path. -/
def inPath (c : Char) : Bool :=
  inFragment c || c == '#' || c == '?' || c == '\x7b' || c == '\x7d'

/-- What is encoded in a user name or password. -/
def inUserInfo (c : Char) : Bool :=
  inPath c || c == '/' || c == ':' || c == ';' || c == '=' || c == '@' || c == '[' || c == '\\'
    || c == ']' || c == '^' || c == '|'

end ModuleDepot.Url
