import ModuleDepot.Url.Basic

/-! # Reading URLs

A text is read as a URL by the rules that browsers follow: blanks and controls at the
ends are dropped, tabs and line breaks everywhere, a scheme decides how the rest is read,
and segments of dots are resolved. Without a scheme a text is read relative to another
URL, if there is one.
-/

namespace ModuleDepot.Url

/-- The text without what does not count: controls and spaces at its ends, tabs and line
breaks anywhere. -/
def cleaned (s : String) : List Char :=
  let isEdge (c : Char) : Bool := c.toNat ≤ 0x20
  let trimmed := ((s.toList.dropWhile isEdge).reverse.dropWhile isEdge).reverse
  trimmed.filter fun c => !(c == '\t' || c == '\n' || c == '\r')

/-- Whether a character may stand in a scheme behind its first letter. -/
def inScheme (c : Char) : Bool :=
  c.isAlphanum || c == '+' || c == '-' || c == '.'

/-- The scheme in lower case, and what stands behind its colon. -/
def splitScheme (cs : List Char) : Option (String × List Char) :=
  match cs with
  | [] => none
  | c :: _ =>
    if !c.isAlpha then none
    else
      match cs.dropWhile inScheme with
      | ':' :: rest => some (String.ofList ((cs.takeWhile inScheme).map Char.toLower), rest)
      | _ => none

/-- Whether a character separates segments of a path. -/
def isSlash (special : Bool) (c : Char) : Bool :=
  c == '/' || (special && c == '\\')

/-- Whether a character ends the authority. -/
def endsAuthority (special : Bool) (c : Char) : Bool :=
  isSlash special c || c == '?' || c == '#'

/-! ## Authority -/

/-- The credentials before the last `@`, if there is one, and what follows. -/
def splitUserInfo (cs : List Char) : Option (List Char) × List Char :=
  if cs.contains '@' then
    let behind := (cs.reverse.takeWhile (· != '@')).reverse
    (some (cs.take (cs.length - behind.length - 1)), behind)
  else (none, cs)

/-- The user name and password in credentials. -/
def readUserInfo (cs : List Char) : String × Option String :=
  let username := encode inUserInfo (cs.takeWhile (· != ':'))
  match cs.dropWhile (· != ':') with
  | [] | [_] => (username, none)
  | _ :: password => (username, some (encode inUserInfo password))

/-- The host, up to a colon outside brackets, and what follows. -/
def splitHost (inBrackets : Bool) : List Char → List Char × List Char
  | [] => ([], [])
  | c :: rest =>
    if c == ':' && !inBrackets then ([], c :: rest)
    else
      let inBrackets := if c == '[' then true else if c == ']' then false else inBrackets
      let (host, behind) := splitHost inBrackets rest
      (c :: host, behind)

/-- The port that the digits behind a colon name; the usual one is left out. -/
def readPort (scheme : String) (digits : List Char) : Except UrlError (Option Nat) :=
  if digits.isEmpty then .ok none
  else
    match Text.readDigits 10 65535 digits with
    | .error _ => .error .invalidPort
    | .ok n => .ok (if usualPort scheme = some n then none else some n)

/-- Reads an authority into a URL that has its scheme. A backslash ends a port even where it
does not end an authority; what it ends is given back as the start of the path. -/
def readAuthority (u : Url) (cs : List Char) : Except UrlError (Url × List Char) := do
  let (info, rest) := splitUserInfo cs
  let (username, password) := readUserInfo (info.getD [])
  let (hostText, portText) := splitHost false rest
  if isSpecial u.scheme && hostText.isEmpty then .error .emptyHost
  let host ← if isSpecial u.scheme then readHost hostText else readForeignHost hostText
  let hasCredentials := !username.isEmpty || password.isSome
  if host == .domain "" && (!portText.isEmpty || hasCredentials) then .error .emptyHost
  let port ← readPort u.scheme (portText.tail.takeWhile (· != '\\'))
  .ok ({ u with username := username, password := password, host := some host, port := port },
    portText.tail.dropWhile (· != '\\'))

/-! ## Path -/

/-- Whether a segment means the directory itself. -/
def isDot (segment : List Char) : Bool :=
  let lower := segment.map Char.toLower
  lower == ['.'] || lower == ['%', '2', 'e']

/-- Whether a segment means the directory above. -/
def isDoubleDot (segment : List Char) : Bool :=
  let lower := segment.map Char.toLower
  lower == ['.', '.'] || lower == ['.', '%', '2', 'e'] || lower == ['%', '2', 'e', '.']
    || lower == ['%', '2', 'e', '%', '2', 'e']

/-- The parts of a path between separators. -/
def splitSegments (special : Bool) (cs : List Char) : List (List Char) :=
  cs.splitOnP (isSlash special)

/-- Whether two characters are a drive: a letter with a colon, or with a bar for it. -/
def isDriveMark (letter sign : Char) : Bool :=
  letter.isAlpha && (sign == ':' || sign == '|')

/-- Whether a name is a drive, or starts with a drive before a backslash. -/
def opensWithDrive (name : String) : Bool :=
  match name.toList with
  | [letter, sign] => isDriveMark letter sign
  | letter :: sign :: c :: _ => isDriveMark letter sign && c == '\\'
  | _ => false

/-- The directory above a path, last name first. Nothing is above a drive. -/
def above : List String → List String
  | [] => []
  | name :: names => if opensWithDrive name then name :: names else names

/-- The name that a segment adds to a path. A file's path may start with a drive, which is
written with a colon. -/
def nameOf (scheme : String) (names : List String) (segment : List Char) : String :=
  match segment with
  | [letter, sign] =>
    if scheme == "file" && names.isEmpty && isDriveMark letter sign then
      String.ofList [letter, ':']
    else encode inPath segment
  | _ => encode inPath segment

/-- Follows segments from a path, last name first. A path that ends in dots ends in an
empty name. -/
def followSegments (scheme : String) (names : List String) : List (List Char) → List String
  | [] => names
  | [last] =>
    if isDoubleDot last then "" :: above names
    else if isDot last then "" :: names
    else nameOf scheme names last :: names
  | segment :: rest =>
    if isDoubleDot segment then followSegments scheme (above names) rest
    else if isDot segment then followSegments scheme names rest
    else followSegments scheme (nameOf scheme names segment :: names) rest

/-- Follows a text from a path whose names are given in order. -/
def followPath (scheme : String) (names : List String) (cs : List Char) : List String :=
  (followSegments scheme names.reverse (splitSegments (isSpecial scheme) cs)).reverse

/-- The names of a file's path, which does not start with empty ones. -/
def fileNames (names : List String) : List String :=
  match names.dropWhile String.isEmpty with
  | [] => [""]
  | named => named

/-- A text split into path, query and fragment. -/
def splitQuery (cs : List Char) : List Char × Option (List Char) × Option (List Char) :=
  let untilMark (c : Char) : Bool := c != '?' && c != '#'
  let fragment? (cs : List Char) : Option (List Char) := match cs with
    | '#' :: fragment => some fragment
    | _ => none
  match cs.dropWhile untilMark with
  | '?' :: rest =>
    (cs.takeWhile untilMark, some (rest.takeWhile (· != '#')),
      fragment? (rest.dropWhile (· != '#')))
  | rest => (cs.takeWhile untilMark, none, fragment? rest)

/-- Puts query and fragment into a URL. -/
def withQuery (u : Url) (query fragment : Option (List Char)) : Url :=
  let reserved := if isSpecial u.scheme then inSpecialQuery else inQuery
  { u with query := query.map (encode reserved), fragment := fragment.map (encode inFragment) }

/-- Reads what stands behind the authority. -/
def readPath (u : Url) (cs : List Char) : Url :=
  let (path, query, fragment) := splitQuery cs
  let special := isSpecial u.scheme
  let names :=
    if path.isEmpty then if special then [""] else []
    else
      let behind := if (path.head?.map (isSlash special)).getD false then path.tail else path
      followPath u.scheme [] behind
  withQuery { u with path := .segments names } query fragment

/-- Reads authority, path and the rest of a URL that has its scheme. -/
def readHierarchy (u : Url) (cs : List Char) : Except UrlError Url := do
  let special := isSpecial u.scheme
  let authority := cs.takeWhile (!endsAuthority special ·)
  let rest := cs.dropWhile (!endsAuthority special ·)
  if authority == ['@'] && !rest.isEmpty then .error .emptyHost
  let (u, behindPort) ← readAuthority u authority
  .ok (readPath u (behindPort ++ rest))

/-- Whether a text starts with a drive that makes up its first segment. -/
def startsWithDrive (cs : List Char) : Bool :=
  match cs.takeWhile (!endsAuthority true ·) with
  | [letter, sign] => isDriveMark letter sign
  | _ => false

/-- Reads the path and the rest of a URL of the scheme `file`. A drive is on no host. -/
def readFilePath (host : Host) (cs : List Char) : Url :=
  let u := readPath { scheme := "file", host := some host } cs
  match u.path with
  | .plain _ => u
  | .segments names =>
    let onDrive := names.head?.any opensWithDrive
    { u with
      host := some (if onDrive then .domain "" else host)
      path := .segments (fileNames names) }

/-- Reads a URL of the scheme `file`, whose host may be missing. -/
def readFile (cs : List Char) : Except UrlError Url :=
  match cs with
  | a :: b :: rest =>
    if !(isSlash true a && isSlash true b) then .ok (readFilePath (.domain "") cs)
    else if startsWithDrive rest then .ok (readFilePath (.domain "") rest)
    else do
      let hostText := rest.takeWhile (!endsAuthority true ·)
      let host ← if hostText.isEmpty then .ok (.domain "") else readHost hostText
      let host := if host == .domain "localhost" then .domain "" else host
      .ok (readFilePath host (rest.dropWhile (!endsAuthority true ·)))
  | _ => .ok (readFilePath (.domain "") cs)

/-- Reads what stands behind a scheme, without another URL to start from. -/
def readBehindScheme (scheme : String) (rest : List Char) : Except UrlError Url :=
  if scheme == "file" then readFile rest
  else if isSpecial scheme then readHierarchy { scheme } (rest.dropWhile (isSlash true))
  else
    match rest with
    | '/' :: '/' :: behind => readHierarchy { scheme } behind
    | '/' :: _ => .ok (readPath { scheme } rest)
    | _ =>
      let (path, query, fragment) := splitQuery rest
      .ok (withQuery { scheme, path := .plain (encode inControls path) } query fragment)

/-- Reads an absolute URL. -/
def parse (s : String) : Except UrlError Url :=
  match splitScheme (cleaned s) with
  | none => .error .relativeWithoutBase
  | some (scheme, rest) => readBehindScheme scheme rest

/-! ## Relative URLs -/

/-- The names of a path of segments. -/
def UrlPath.names : UrlPath → List String
  | .plain _ => []
  | .segments names => names

/-- What stands behind the slashes before an authority: two slashes are all of them, but if
there is a backslash among the first two, any number is. -/
def behindSlashes (cs : List Char) : List Char :=
  match cs with
  | '/' :: '/' :: rest => rest
  | cs => cs.dropWhile (isSlash true)

/-- Reads a text that starts at a URL with a special scheme. -/
def readRelative (base : Url) (cs : List Char) : Except UrlError Url :=
  let (path, query, fragment) := splitQuery cs
  match path with
  | [] =>
    if query.isSome then .ok (withQuery base query fragment)
    else .ok { base with fragment := fragment.map (encode inFragment) }
  | c :: rest =>
    if isSlash true c then
      if (rest.head?.map (isSlash true)).getD false then
        readHierarchy { scheme := base.scheme } (behindSlashes cs)
      else
        .ok (withQuery { base with path := .segments (followPath base.scheme [] rest) }
          query fragment)
    else
      let names := followPath base.scheme base.path.names.dropLast path
      .ok (withQuery { base with path := .segments names } query fragment)

/-- Reads a text as a URL, relative to another one with a special scheme unless it has a
scheme of its own. -/
def resolve (base : Url) (s : String) : Except UrlError Url :=
  let cs := cleaned s
  match splitScheme cs with
  | none => readRelative base cs
  | some (scheme, rest) =>
    let slashes := (rest.takeWhile (isSlash true)).length
    if scheme == base.scheme && isSpecial scheme && scheme != "file" && slashes < 2 then
      readRelative base rest
    else readBehindScheme scheme rest

end ModuleDepot.Url
