import ModuleDepot.Text.Number
import ModuleDepot.Text.Utf8

/-! # Character references

In a value, `&` starts a reference that ends in `;`: one of five names, or the number of
a character. Positions in errors count bytes of the value. `escape` writes a text so that
reading it gives the text back.
-/

namespace ModuleDepot.Markup

/-- What is wrong with a reference. -/
inductive ReferenceError where
  | unterminated (start stop : Nat)
  | unrecognized (start stop : Nat) (name : String)
  | unexpectedSign
  | emptyNumber
  | invalidDigit
  | numberTooLarge
  | invalidCodepoint (number : Nat)
  | nulCharacter
  deriving DecidableEq, Repr

/-- The wording of a reference error. -/
def ReferenceError.message : ReferenceError → String
  | .unterminated start stop =>
    s!"Error while escaping character at range {start}..{stop}: Cannot find ';' after '&'"
  | .unrecognized start stop name => s!"at {start}..{stop}: unrecognized entity `{name}`"
  | .unexpectedSign => "invalid character reference: unexpected number sign"
  | .emptyNumber => "invalid character reference: cannot parse integer from empty string"
  | .invalidDigit => "invalid character reference: invalid digit found in string"
  | .numberTooLarge => "invalid character reference: number too large to fit in target type"
  | .invalidCodepoint number =>
    s!"invalid character reference: `{number}` is not a valid codepoint"
  | .nulCharacter => "invalid character reference: 0x0 character is not permitted in XML"

/-- The characters that have a name. -/
def namedCharacter? (name : List Char) : Option Char :=
  if name = ['l', 't'] then some '<'
  else if name = ['g', 't'] then some '>'
  else if name = ['a', 'm', 'p'] then some '&'
  else if name = ['a', 'p', 'o', 's'] then some '\''
  else if name = ['q', 'u', 'o', 't'] then some '"'
  else none

/-- The character of a number, written in decimal or, behind an `x`, in hexadecimal. -/
def numberedCharacter (number : List Char) : Except ReferenceError Char := do
  let (base, digits) := match number with
    | 'x' :: digits => (16, digits)
    | digits => (10, digits)
  if digits.head? = some '+' ∨ digits.head? = some '-' then throw .unexpectedSign
  match Text.readDigits base Text.max32 digits with
  | .error .empty => throw .emptyNumber
  | .error .invalid => throw .invalidDigit
  | .error .overflow => throw .numberTooLarge
  | .ok n =>
    if n = 0 then throw .nulCharacter
    else if n.isValidChar then return Char.ofNat n
    else throw (.invalidCodepoint n)

/-- The character a reference stands for; `position` is where its `&` is. -/
def referenced (position : Nat) (name : List Char) : Except ReferenceError Char :=
  match name with
  | '#' :: number => numberedCharacter number
  | _ =>
    match namedCharacter? name with
    | some c => .ok c
    | none =>
      let start := position + 1
      let name := String.ofList name
      .error (.unrecognized start (start + name.utf8ByteSize) name)

/-- A reference goes on until its semicolon; another `&` must not come first. -/
def inReference (c : Char) : Bool :=
  c != '&' && c != ';'

/-- Replaces the references from `position` on; `read` holds the characters before, last
first, and `stop` is the length of the whole value. -/
def unescapeFrom (stop position : Nat) (read : List Char) (cs : List Char) :
    Except ReferenceError (List Char) :=
  match cs with
  | [] => .ok read.reverse
  | c :: rest =>
    if c = '&' then
      match _h : rest.dropWhile inReference with
      | ';' :: behind =>
        match referenced position (rest.takeWhile inReference) with
        | .ok found =>
          let length := (String.ofList (rest.takeWhile inReference)).utf8ByteSize
          unescapeFrom stop (position + length + 2) (found :: read) behind
        | .error e => .error e
      | _ => .error (.unterminated position stop)
    else unescapeFrom stop (position + c.utf8Size) (c :: read) rest
termination_by cs.length
decreasing_by
  · have := (List.dropWhile_suffix inReference (l := rest)).length_le
    rw [_h] at this
    simp only [List.length_cons] at *
    omega
  · simp

/-- The value with its references replaced. -/
def unescape (value : String) : Except ReferenceError String :=
  (unescapeFrom value.utf8ByteSize 0 [] value.toList).map String.ofList

/-! ## Writing -/

/-- A character as it is written in a value. -/
def escapeChar (c : Char) : List Char :=
  if c = '<' then ['&', 'l', 't', ';']
  else if c = '>' then ['&', 'g', 't', ';']
  else if c = '&' then ['&', 'a', 'm', 'p', ';']
  else if c = '\'' then ['&', 'a', 'p', 'o', 's', ';']
  else if c = '"' then ['&', 'q', 'u', 'o', 't', ';']
  else [c]

/-- A text as it is written in a value. -/
def escape (s : String) : String :=
  String.ofList (s.toList.flatMap escapeChar)

end ModuleDepot.Markup
