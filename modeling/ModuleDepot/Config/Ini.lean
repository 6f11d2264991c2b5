import ModuleDepot.Text.Blank
import ModuleDepot.Text.Number
import ModuleDepot.Text.Quoted

/-! # Settings files

A settings file has sections of keys and values. A section opens with its name between
brackets; a key runs to an equals sign or a colon, and its value to the end of the line,
where quotes keep blanks and backslashes spell other characters. Comments fill lines of
their own behind `;` or `#`.

Reading goes character by character over what is left of the file. A fault is reported
with its line and column, which are counted afterwards from what was read.
-/

namespace ModuleDepot.Ini

/-! ## Documents -/

/-- The keys and values of a section in the order of the file. -/
abbrev Properties := List (String × String)

/-- The sections of a file in its order; the keys before the first one have no name. -/
abbrev Document := List (Option String × Properties)

/-- The value of a key in a section: the first value in the first section of the name. -/
def Document.get? (d : Document) (heading key : String) : Option String :=
  (d.lookup (some heading)).bind (·.lookup key)

/-- A new list of keys and values for a section, behind all others. -/
def Document.openSection (d : Document) (heading : String) : Document :=
  d ++ [(some heading, [])]

/-- The last section of the name gets a key and value at its end; it is made if it is not
there. -/
def Document.put (d : Document) (heading : Option String) (property : String × String) : Document :=
  match d.reverse.findIdx? (·.1 == heading) with
  | none => d ++ [(heading, [property])]
  | some i => d.modify (d.length - 1 - i) fun s => (s.1, s.2 ++ [property])

/-! ## Faults -/

/-- What was expected where a file ended: one of some characters, or the end of the line. -/
inductive Expected where
  | oneOf (chars : List Char)
  | lineEnd
  deriving DecidableEq, Repr

/-- The wording of what was expected. -/
def Expected.text : Expected → String
  | .oneOf chars =>
    "[" ++ ", ".intercalate (chars.map fun c => s!"Some({Text.quotedChar c})") ++ "]"
  | .lineEnd => "[Some('\\n'), Some('\\r'), None]"

/-- What is wrong with a file. -/
inductive Problem where
  | unexpectedEnd (expected : Expected)
  | inlineComment
  | missingKey
  | badEscape
  | expectedLineFeed (found : Option Char)
  deriving DecidableEq, Repr

/-- The wording of a problem. -/
def Problem.message : Problem → String
  | .unexpectedEnd expected => s!"expecting \"{expected.text}\" but found EOF."
  | .inlineComment => "doesn't support inline comment"
  | .missingKey => "missing key"
  | .badEscape => "unknown character in \\xHH form"
  | .expectedLineFeed found =>
    let found := match found with
      | some c => s!"Some({Text.quotedChar c})"
      | none => "None"
    s!"expecting \"\\\\n\" but found \"{found}\"."

/-- A problem, and what was left of the file where it was found. -/
structure Fault where
  problem : Problem
  left : List Char
  deriving DecidableEq, Repr

/-- A problem with its place in the file. -/
structure PlacedProblem where
  line : Nat
  column : Nat
  problem : Problem
  deriving DecidableEq, Repr

/-- The wording of a problem with its place. -/
def PlacedProblem.message (p : PlacedProblem) : String :=
  s!"{p.line}:{p.column} {p.problem.message}"

/-- The characters read when `left` remains: those before it and the one under the cursor. -/
def readSoFar (file left : List Char) : List Char :=
  file.take (file.length - left.length + 1)

/-- How many characters of the current line were read. -/
def columnCount (read : List Char) : Nat :=
  (read.reverse.takeWhile (· != '\n')).length

/-- A fault with its line and column, both counted from one. -/
def Fault.place (file : List Char) (f : Fault) : PlacedProblem :=
  let read := readSoFar file f.left
  ⟨read.count '\n' + 1, columnCount read + 1, f.problem⟩

/-! ## Reading texts -/

/-- What follows a backslash and stands for one character. -/
def plainEscape (c : Char) : Char :=
  if c = '0' then '\x00'
  else if c = 'a' then '\x07'
  else if c = 'b' then '\x08'
  else if c = 't' then '\t'
  else if c = 'r' then '\r'
  else if c = 'n' then '\n'
  else c

/-- The digits behind `\x`: four characters, of which a backslash takes the line break
behind it along and may stand before nothing else. -/
def escapeDigits (expected : Expected) :
    (count : Nat) → List Char → Except Fault (List Char × List Char)
  | 0, cs => .ok ([], cs)
  | count + 1, cs =>
    match cs with
    | [] => .error ⟨.unexpectedEnd expected, []⟩
    | '\\' :: '\n' :: rest => (escapeDigits expected count rest).map fun r => ('\\' :: r.1, r.2)
    | '\\' :: rest => .error ⟨.expectedLineFeed rest.head?, rest⟩
    | c :: rest => (escapeDigits expected count rest).map fun r => (c :: r.1, r.2)

/-- The character whose number the digits spell. -/
def escapedChar? (digits : List Char) : Option Char :=
  let digits := match digits with
    | '+' :: rest => rest
    | cs => cs
  match Text.readDigits 16 Text.max32 digits with
  | .ok n => if n.isValidChar then some (Char.ofNat n) else none
  | .error _ => none

/-- Reads up to one of the characters that `ends` accepts, which stays; `read` holds the
characters before, last first. The end of the file ends the text if `endsAtEof` says so. -/
def readUntil (expected : Expected) (ends : Char → Bool) (endsAtEof : Bool) :
    (fuel : Nat) → (read : List Char) → List Char → Except Fault (List Char × List Char)
  | 0, read, cs => .ok (read.reverse, cs)
  | fuel + 1, read, cs =>
    match cs with
    | [] => if endsAtEof then .ok (read.reverse, []) else .error ⟨.unexpectedEnd expected, []⟩
    | c :: rest =>
      if ends c then .ok (read.reverse, cs)
      else if c != '\\' then readUntil expected ends endsAtEof fuel (c :: read) rest
      else
        match rest with
        | [] => readUntil expected ends endsAtEof fuel ('\\' :: read) []
        | '\n' :: rest => readUntil expected ends endsAtEof fuel read rest
        | 'x' :: rest =>
          match escapeDigits expected 4 rest with
          | .error fault => .error fault
          | .ok (digits, behind) =>
            match escapedChar? digits with
            | some c => readUntil expected ends endsAtEof fuel (c :: read) behind
            | none => .error ⟨.badEscape, rest.drop (rest.length - behind.length - 1)⟩
        | e :: rest => readUntil expected ends endsAtEof fuel (plainEscape e :: read) rest

/-- Reads up to one of the characters, which has to come. -/
def untilOneOf (chars : List Char) (cs : List Char) : Except Fault (List Char × List Char) :=
  readUntil (.oneOf chars) chars.contains false (cs.length + 1) [] cs

/-- Reads to the end of the line. -/
def untilLineEnd (cs : List Char) : Except Fault (List Char × List Char) :=
  readUntil .lineEnd (fun c => c == '\n' || c == '\r') true (cs.length + 1) [] cs

/-! ## Reading parts of a file -/

/-- Reads a name between brackets; `cs` starts with the opening one. -/
def readHeading (cs : List Char) : Except Fault (String × List Char) :=
  match untilOneOf [']'] cs.tail with
  | .error fault => .error fault
  | .ok (name, rest) => .ok (String.ofList (Text.trimChars name), rest.tail)

/-- Reads a key, which ends before the sign behind it. -/
def readKey (cs : List Char) : Except Fault (String × List Char) :=
  match untilOneOf ['=', ':'] cs with
  | .error fault => .error fault
  | .ok (key, rest) => .ok (String.ofList (Text.trimChars key), rest)

/-- Reads the parts of a value: texts in quotes, and then the rest of the line without
the blanks at its end. -/
def readValueParts : (fuel : Nat) → (read : List Char) → (quoted : Bool) → List Char →
    Except Fault (List Char × List Char)
  | 0, read, _, cs => .ok (read, cs)
  | fuel + 1, read, quoted, cs =>
    match cs with
    | [] => .ok (read, [])
    | c :: rest =>
      if c == '"' || c == '\'' then
        match untilOneOf [c] rest with
        | .error fault => .error fault
        | .ok (text, behind) => readValueParts fuel (read ++ text) true behind.tail
      else
        match untilLineEnd cs with
        | .error fault => .error fault
        | .ok (text, behind) =>
          .ok (read ++ (if quoted then Text.trimEnd text else Text.trimChars text), behind)

/-- Reads a value; `cs` starts with the sign before it. -/
def readValue (cs : List Char) : Except Fault (String × List Char) :=
  let cs := cs.tail.dropWhile fun c => isBlank c && c != '\n' && c != '\r'
  match readValueParts (cs.length + 1) [] false cs with
  | .error fault => .error fault
  | .ok (value, rest) => .ok (String.ofList value, rest)

/-- Skips blanks between parts, but stops behind a line break that a space or a tab
follows. -/
def skipBlanks : List Char → List Char
  | [] => []
  | c :: rest =>
    if !isBlank c then c :: rest
    else if c == '\n' || c == '\r' then
      match rest with
      | ' ' :: _ | '\t' :: _ => rest
      | _ => skipBlanks rest
    else skipBlanks rest

/-! ## Reading files -/

/-- What has been read of a file: its sections, the current one, the key that waits for a
value, and what is left. -/
structure Progress where
  document : Document := []
  heading : Option String := none
  key : String := ""
  left : List Char

/-- Opens the section whose name comes next. -/
def Progress.enterSection (p : Progress) (cs : List Char) : Except Fault Progress :=
  match readHeading cs with
  | .error fault => .error fault
  | .ok (heading, rest) =>
    .ok { p with
      document := p.document.openSection heading
      heading := some heading
      left := skipBlanks rest }

/-- Gives the waiting key the value that comes next. -/
def Progress.assign (p : Progress) (cs : List Char) : Except Fault Progress :=
  if p.key.isEmpty then .error ⟨.missingKey, cs⟩
  else
    match readValue cs with
    | .error fault => .error fault
    | .ok (value, rest) =>
      .ok { p with
        document := p.document.put p.heading (p.key, value)
        key := ""
        left := skipBlanks rest }

/-- Reads on behind blanks at the start of a line. A key that is not finished there is let
go, with what was read of it. -/
def Progress.indented (p : Progress) (cs : List Char) : Except Fault Progress :=
  match cs.dropWhile fun c => c == ' ' || c == '\t' with
  | '[' :: rest => p.enterSection ('[' :: rest)
  | '\n' :: rest | '\r' :: rest => .ok { p with left := rest }
  | cs =>
    match readKey cs with
    | .error fault => .ok { p with left := skipBlanks fault.left }
    | .ok (key, rest) => .ok { p with key := key, left := skipBlanks rest }

/-- Reads the part of the file that comes next. -/
def Progress.step (file : List Char) (p : Progress) : Except Fault Progress :=
  match p.left with
  | [] => .ok p
  | c :: rest =>
    if c == ';' || c == '#' then
      if 1 < columnCount (readSoFar file p.left) then .error ⟨.inlineComment, p.left⟩
      else .ok { p with left := skipBlanks (rest.dropWhile (· != '\n')).tail }
    else if c == '[' then p.enterSection p.left
    else if c == '=' || c == ':' then p.assign p.left
    else if c == ' ' || c == '\t' then p.indented p.left
    else if c == '\n' || c == '\r' then .ok { p with left := skipBlanks rest }
    else
      match readKey p.left with
      | .error fault => .error fault
      | .ok (key, rest) => .ok { p with key := key, left := skipBlanks rest }

/-- Reads part after part until nothing is left. -/
def Progress.run (file : List Char) : (fuel : Nat) → Progress → Except Fault Progress
  | 0, p => .ok p
  | fuel + 1, p =>
    if p.left.isEmpty then .ok p
    else
      match p.step file with
      | .error fault => .error fault
      | .ok p => run file fuel p

/-- Reads a settings file, without the mark that may stand before its first character. -/
def parse (text : String) : Except PlacedProblem Document :=
  let file := match text.toList with
    | '\uFEFF' :: rest => rest
    | cs => cs
  match Progress.run file (file.length + 1) { left := file } with
  | .error fault => .error (fault.place file)
  | .ok p => .ok p.document

end ModuleDepot.Ini
