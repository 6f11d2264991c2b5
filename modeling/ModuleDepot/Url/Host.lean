import ModuleDepot.Url.Domain.Ascii
import ModuleDepot.Url.Percent

/-! # Hosts

The host of a URL is a domain name, an address of four bytes, or an address of eight
groups. A domain is brought into its ASCII form first; if it then ends in a number, it has
to be an address.
-/

namespace ModuleDepot

/-- Why a text is no URL. -/
inductive UrlError where
  | emptyHost
  | invalidDomain
  | invalidDomainCharacter
  | invalidPort
  | invalidIpv4
  | invalidIpv6
  | relativeWithoutBase
  deriving DecidableEq, Repr

/-- The wording of a URL error. -/
def UrlError.message : UrlError → String
  | .emptyHost => "empty host"
  | .invalidDomain => "invalid international domain name"
  | .invalidDomainCharacter => "invalid domain character"
  | .invalidPort => "invalid port number"
  | .invalidIpv4 => "invalid IPv4 address"
  | .invalidIpv6 => "invalid IPv6 address"
  | .relativeWithoutBase => "relative URL without a base"

namespace Url

/-- The host of a URL. -/
inductive Host where
  | domain (name : String)
  | ipv4 (address : Nat)
  | ipv6 (groups : List Nat)
  deriving DecidableEq, Repr

/-! ## Addresses of four bytes -/

/-- A number in an address: decimal, octal behind a zero, or hexadecimal behind `0x`. The
outer answer is missing if it is no number, the inner one if it is too large. -/
def ipv4Number? (part : List Char) : Option (Option Nat) :=
  let (base, digits) := match part with
    | '0' :: 'x' :: digits | '0' :: 'X' :: digits => (16, digits)
    | '0' :: c :: digits => (8, c :: digits)
    | digits => (10, digits)
  if part.isEmpty then none
  else if digits.isEmpty then some (some 0)
  else if digits.all fun c => (Text.digitValue? base c).isSome then
    some (Text.readDigits base Text.max32 digits).toOption
  else none

/-- The parts of a domain, without the empty one behind a dot at its end. -/
def domainParts (name : List Char) : List (List Char) :=
  let parts := name.splitOn '.'
  if parts.getLast? = some [] ∧ 1 < parts.length then parts.dropLast else parts

/-- Whether the last part of a domain is a number, or looks like one. -/
def endsInNumber (name : List Char) : Bool :=
  match (domainParts name).getLast? with
  | none => false
  | some last =>
    (!last.isEmpty && last.all fun c => (Text.digitValue? 10 c).isSome) ||
      (ipv4Number? last).isSome

/-- Puts the numbers of an address together; the last one fills all bytes that are left. -/
def ipv4OfNumbers (numbers : List Nat) : Option Nat :=
  match numbers.getLast? with
  | none => none
  | some last =>
    let front := numbers.dropLast
    if front.length > 3 ∨ last ≥ Nat.pow 256 (4 - front.length) ∨ front.any (255 < ·) then none
    else some (front.foldl (fun n b => n * 256 + b) 0 * Nat.pow 256 (4 - front.length) + last)

/-- The address that a domain spells. -/
def readIpv4 (name : List Char) : Except UrlError Nat :=
  match (domainParts name).mapM fun part => (ipv4Number? part).join with
  | none => .error .invalidIpv4
  | some numbers =>
    match ipv4OfNumbers numbers with
    | none => .error .invalidIpv4
    | some address => .ok address

/-- The written form of an address of four bytes. -/
def ipv4Text (address : Nat) : String :=
  let byte (n : Nat) := toString (address / Nat.pow 256 n % 256)
  ".".intercalate [byte 3, byte 2, byte 1, byte 0]

/-! ## Addresses of eight groups -/

/-- A group of one to four hexadecimal digits. -/
def ipv6Group? (part : List Char) : Option Nat :=
  if part.length ≤ 4 then (Text.readDigits 16 0xFFFF part).toOption else none

/-- A byte in the dotted end of an address, without superfluous zeros. -/
def ipv6Byte? (part : List Char) : Option Nat :=
  if part.head? = some '0' ∧ part.length ≠ 1 then none
  else (Text.readDigits 10 255 part).toOption

/-- The two groups that a dotted end stands for. -/
def ipv6Dotted? (part : List Char) : Option (List Nat) :=
  match (part.splitOn '.').mapM ipv6Byte? with
  | some [a, b, c, d] => some [a * 256 + b, c * 256 + d]
  | _ => none

/-- The groups of parts between colons; the last may be dotted if `atEnd` says so. -/
def ipv6Groups? (atEnd : Bool) : List (List Char) → Option (List Nat)
  | [] => some []
  | [part] =>
    if atEnd && part.contains '.' then ipv6Dotted? part else (ipv6Group? part).map ([·])
  | part :: parts =>
    match ipv6Group? part, ipv6Groups? atEnd parts with
    | some group, some groups => some (group :: groups)
    | _, _ => none

/-- The parts between colons, where two colons at either end count as one empty part. -/
def ipv6Parts? (text : List Char) : Option (List (List Char)) :=
  let parts := text.splitOn ':'
  let parts? := match parts with
    | [] :: [] :: rest => some ([] :: rest)
    | [] :: _ => none
    | parts => some parts
  parts?.bind fun parts =>
    match parts.reverse with
    | [] :: [] :: rest => some ([] :: rest).reverse
    | [[]] => some [[]]
    | [] :: _ => none
    | _ => some parts

/-- The groups that the text between brackets spells; an empty part stands for as many
zero groups as are missing, and for at least one. -/
def ipv6? (text : List Char) : Option (List Nat) :=
  (ipv6Parts? text).bind fun parts =>
    if text.length < 2 then none
    else
      let left := parts.takeWhile (!·.isEmpty)
      match parts.dropWhile (!·.isEmpty) with
      | [] =>
        (ipv6Groups? true left).bind fun groups => if groups.length = 8 then some groups else none
      | _ :: right =>
        match ipv6Groups? false left, ipv6Groups? true right with
        | some l, some r =>
          if l.length + r.length ≤ 7 then
            some (l ++ List.replicate (8 - (l.length + r.length)) 0 ++ r)
          else none
        | _, _ => none

/-- The longest run of zeros, the first of several: where it starts and how long it is. -/
def longestZeros (groups : List Nat) : Nat × Nat :=
  (List.range groups.length).foldl (fun best start =>
    let length := ((groups.drop start).takeWhile (· == 0)).length
    if best.2 < length then (start, length) else best) (0, 0)

/-- The written form of an address of eight groups: the longest run of at least two zeros
is left out. -/
def ipv6Text (groups : List Nat) : String :=
  let text (gs : List Nat) := ":".intercalate (gs.map fun g => String.ofList (Nat.toDigits 16 g))
  let (start, length) := longestZeros groups
  if length < 2 then text groups
  else text (groups.take start) ++ "::" ++ text (groups.drop (start + length))

/-! ## Reading and writing hosts -/

/-- Characters that a host of a scheme that is not special must not have. -/
def isForeignForbidden (c : Char) : Bool :=
  ['\x00', ' ', '#', '/', ':', '<', '>', '?', '@', '[', '\\', ']', '^', '|'].contains c

/-- Reads what stands between brackets. -/
def readIpv6 (text : List Char) : Except UrlError Host :=
  if text.getLast? != some ']' then .error .invalidIpv6
  else
    match ipv6? text.tail.dropLast with
    | none => .error .invalidIpv6
    | some groups => .ok (.ipv6 groups)

/-- Reads the host of a URL with a special scheme. -/
def readHost (text : List Char) : Except UrlError Host :=
  if text.head? == some '[' then readIpv6 text
  else
    match Domain.ascii? (decodeBytes (Text.utf8 (String.ofList text))) with
    | none => .error .invalidDomain
    | some name =>
      if name.isEmpty then .error .emptyHost
      else if endsInNumber name then (readIpv4 name).map .ipv4
      else .ok (.domain (String.ofList name))

/-- Reads the host of a URL with any other scheme, which means nothing to this library. -/
def readForeignHost (text : List Char) : Except UrlError Host :=
  if text.head? == some '[' then readIpv6 text
  else if text.any isForeignForbidden then .error .invalidDomainCharacter
  else .ok (.domain (encode inControls text))

/-- The written form of a host. -/
def Host.text : Host → String
  | .domain name => name
  | .ipv4 address => ipv4Text address
  | .ipv6 groups => "[" ++ ipv6Text groups ++ "]"

end Url
end ModuleDepot
