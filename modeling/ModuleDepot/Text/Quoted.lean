import ModuleDepot.Text.Hidden

/-! # Quoted texts and characters

A text for a reader of logs and error messages: between quotes, with the quote, the
backslash and the common controls escaped, and every hidden character spelled by its
number. A single character is quoted the same way between single quotes.
-/

namespace ModuleDepot.Text

/-- Lower-case hexadecimal digits of a number, without leading zeros. -/
def hexDigits (n : Nat) : List Char :=
  (Nat.toDigits 16 n)

/-- One character as it stands between quotes of the kind `quote`. -/
def escape (quote : Char) (c : Char) : List Char :=
  if c = '\x00' then ['\\', '0']
  else if c = '\t' then ['\\', 't']
  else if c = '\n' then ['\\', 'n']
  else if c = '\r' then ['\\', 'r']
  else if c = '\\' then ['\\', '\\']
  else if c = quote then ['\\', quote]
  else if isHidden c then ['\\', 'u', '\x7b'] ++ hexDigits c.toNat ++ ['\x7d']
  else [c]

/-- A text between double quotes. -/
def quoted (s : String) : String :=
  String.ofList ('"' :: s.toList.flatMap (escape '"') ++ ['"'])

/-- A character between single quotes. -/
def quotedChar (c : Char) : String :=
  String.ofList ('\'' :: escape '\'' c ++ ['\''])

/-- A file name between double quotes, where an apostrophe is escaped as well. -/
def quotedName (s : String) : String :=
  let escaped := s.toList.flatMap fun c => if c = '\'' then ['\\', '\''] else escape '"' c
  String.ofList ('"' :: escaped ++ ['"'])

end ModuleDepot.Text
