import ModuleDepot.Text.Utf8

/-! # Markup tokens

A document is bytes in which `<` opens markup: tags, comments, character data sections,
document type declarations and processing instructions. Text between them means nothing
here and is skipped.

`scan` reads the next token. It tells a document that ends inside a token apart from a
token that is complete but wrong, since more bytes could have completed the first.
-/

namespace ModuleDepot.Markup

/-- The bytes that may stand between the parts of a tag. -/
def isSpace (b : UInt8) : Bool :=
  b == 0x20 || b == 0x0D || b == 0x0A || b == 0x09

/-- What is wrong with a piece of markup. -/
inductive SyntaxError where
  | unknownMarkup
  | instructionNotClosed
  | commentNotClosed
  | doctypeNotClosed
  | sectionNotClosed
  | tagNotClosed
  deriving DecidableEq, Repr

/-- The wording of a syntax error. -/
def SyntaxError.message : SyntaxError → String
  | .unknownMarkup => "unknown or missed symbol in markup"
  | .instructionNotClosed =>
    "processing instruction or xml declaration not closed: `?>` not found before end of input"
  | .commentNotClosed => "comment not closed: `-->` not found before end of input"
  | .doctypeNotClosed => "DOCTYPE not closed: `>` not found before end of input"
  | .sectionNotClosed => "CDATA not closed: `]]>` not found before end of input"
  | .tagNotClosed => "tag not closed: `>` not found before end of input"

/-- Markup that means something to a reader of elements. The content of a tag is what
stands between its angle brackets, without the slash of an empty element. -/
inductive Token where
  | opening (content : List UInt8)
  | empty (content : List UInt8)
  | closing (name : List UInt8)
  | doctype (content : List UInt8)
  | other
  deriving DecidableEq, Repr

/-- What the next piece of a document is. -/
inductive Scan where
  | finished
  | unfinished (error : SyntaxError)
  | malformed (error : SyntaxError)
  | token (token : Token) (rest : List UInt8)
  deriving DecidableEq, Repr

/-! ## Where a token ends -/

/-- The bytes before the `>` that ends a token, last first in `read`, and the bytes behind
it. `ends` tells whether a `>` ends the token in this state, and `next` how a byte
changes the state. -/
def upToEnd {σ : Type} (ends : σ → Bool) (next : σ → UInt8 → σ) (state : σ)
    (read : List UInt8) : List UInt8 → Option (List UInt8 × List UInt8)
  | [] => none
  | b :: rest =>
    if b == 0x3E && ends state then some (read.reverse, rest)
    else upToEnd ends next (next state b) (b :: read) rest

/-- Whatever ends a token is behind it. -/
theorem length_upToEnd {σ : Type} {ends : σ → Bool} {next : σ → UInt8 → σ} {state : σ}
    {read bytes content rest : List UInt8}
    (h : upToEnd ends next state read bytes = some (content, rest)) :
    rest.length < bytes.length := by
  induction bytes generalizing state read with
  | nil => simp [upToEnd] at h
  | cons b bytes ih =>
    simp only [upToEnd] at h
    split at h
    · simp only [Option.some.injEq, Prod.mk.injEq] at h
      simp [h.2]
    · have := ih h
      simp only [List.length_cons]
      omega

/-- The last two bytes read, and how many were read in all. -/
structure Trail where
  count : Nat := 0
  last : UInt8 := 0
  beforeLast : UInt8 := 0

/-- The trail after one more byte. -/
def Trail.push (t : Trail) (b : UInt8) : Trail :=
  ⟨t.count + 1, b, t.last⟩

/-- A comment ends behind two hyphens, which are not those that opened it. -/
def commentEnd : List UInt8 → Option (List UInt8 × List UInt8) :=
  upToEnd (fun t => 4 < t.count && t.last == 0x2D && t.beforeLast == 0x2D) Trail.push {} []

/-- A character data section ends behind two brackets. -/
def sectionEnd : List UInt8 → Option (List UInt8 × List UInt8) :=
  upToEnd (fun t => t.last == 0x5D && t.beforeLast == 0x5D) Trail.push {} []

/-- A processing instruction ends behind a question mark. -/
def instructionEnd : List UInt8 → Option (List UInt8 × List UInt8) :=
  upToEnd (fun t => t.last == 0x3F) Trail.push {} []

/-- A document type declaration ends where every angle bracket in it is closed. -/
def doctypeEnd : List UInt8 → Option (List UInt8 × List UInt8) :=
  upToEnd (· == 0)
    (fun depth b => if b == 0x3C then depth + 1 else if b == 0x3E then depth - 1 else depth) 0 []

/-- A tag ends outside its quotes. -/
def tagEnd : List UInt8 → Option (List UInt8 × List UInt8) :=
  upToEnd (fun quote : Option UInt8 => quote.isNone)
    (fun quote b =>
      match quote with
      | none => if b == 0x22 || b == 0x27 then some b else none
      | some q => if b == q then none else quote)
    none []

/-! ## Reading a token -/

/-- An ASCII letter in lower case; every other byte as it is. -/
def lowerAscii (b : UInt8) : UInt8 :=
  if 0x41 ≤ b && b ≤ 0x5A then b + 0x20 else b

/-- A token that runs to its end: `accept` makes the token of what stands before the end, or
finds that it did not start as such a token has to. -/
def closedAt (fault : SyntaxError) (accept : List UInt8 → Option Token)
    (found : Option (List UInt8 × List UInt8)) : Scan :=
  match found with
  | none => .unfinished fault
  | some (content, rest) =>
    match accept content with
    | some token => .token token rest
    | none => .malformed fault

/-- A token that means nothing here, if it starts with the given text. -/
def skipped (opening : String) (content : List UInt8) : Option Token :=
  if (Text.utf8 opening).isPrefixOf content then some .other else none

/-- A document type declaration, whose keyword may be in any case. -/
def doctype? (content : List UInt8) : Option Token :=
  if (content.take 8).map lowerAscii == Text.utf8 "!doctype" then
    some (.doctype (content.drop 8))
  else none

/-- Reads what follows `<!`; `bytes` starts with the `!`. -/
def scanBang (bytes : List UInt8) : Scan :=
  match bytes.tail.head? with
  | none => .unfinished .unknownMarkup
  | some b =>
    if b == 0x5B then closedAt .sectionNotClosed (skipped "![CDATA[") (sectionEnd bytes)
    else if b == 0x2D then closedAt .commentNotClosed (skipped "!--") (commentEnd bytes)
    else if lowerAscii b == 0x64 then closedAt .doctypeNotClosed doctype? (doctypeEnd bytes)
    else .malformed .unknownMarkup

/-- Reads what follows `<?`; `bytes` starts with the `?`. -/
def scanInstruction (bytes : List UInt8) : Scan :=
  closedAt .instructionNotClosed
    (fun content => if content.length < 2 then none else some .other) (instructionEnd bytes)

/-- The name that a closing tag closes; `content` is what follows its slash. Blanks behind
the name do not belong to it. -/
def closingName (content : List UInt8) : List UInt8 :=
  if content.all isSpace then content else (content.reverse.dropWhile isSpace).reverse

/-- The token of a tag with this content between the angle brackets. -/
def tagToken (content : List UInt8) : Token :=
  match content with
  | 0x2F :: name => .closing (closingName name)
  | _ => if content.getLast? == some 0x2F then .empty content.dropLast else .opening content

/-- Reads a tag; `bytes` starts behind the angle bracket. -/
def scanTag (bytes : List UInt8) : Scan :=
  closedAt .tagNotClosed (fun content => some (tagToken content)) (tagEnd bytes)

/-- The next token of a document, text before it skipped. -/
def scan (bytes : List UInt8) : Scan :=
  match bytes.dropWhile (· != 0x3C) with
  | [] => .finished
  | _ :: [] => .unfinished .tagNotClosed
  | _ :: b :: rest =>
    if b == 0x21 then scanBang (b :: rest)
    else if b == 0x3F then scanInstruction (b :: rest)
    else scanTag (b :: rest)

/-! ## Progress -/

/-- A token that runs to its end leaves what is behind the end. -/
theorem eq_some_of_closedAt {fault : SyntaxError} {accept : List UInt8 → Option Token}
    {found : Option (List UInt8 × List UInt8)} {token : Token} {rest : List UInt8}
    (h : closedAt fault accept found = .token token rest) :
    ∃ content, found = some (content, rest) ∧ accept content = some token := by
  unfold closedAt at h
  split at h
  · simp at h
  · split at h <;> simp_all

theorem length_closedAt {σ : Type} {ends : σ → Bool} {next : σ → UInt8 → σ} {state : σ}
    {fault : SyntaxError} {accept : List UInt8 → Option Token} {token : Token}
    {bytes rest : List UInt8}
    (h : closedAt fault accept (upToEnd ends next state [] bytes) = .token token rest) :
    rest.length < bytes.length := by
  obtain ⟨_, h, _⟩ := eq_some_of_closedAt h
  exact length_upToEnd h

theorem length_scanBang {bytes rest : List UInt8} {token : Token}
    (h : scanBang bytes = .token token rest) : rest.length < bytes.length := by
  unfold scanBang at h
  split at h
  · simp at h
  · split at h
    · exact length_closedAt h
    · split at h
      · exact length_closedAt h
      · split at h
        · exact length_closedAt h
        · simp at h

/-- A token takes at least one byte of the document. -/
theorem length_scan {bytes rest : List UInt8} {t : Token}
    (h : scan bytes = .token t rest) : rest.length < bytes.length := by
  have hd : (bytes.dropWhile (· != 0x3C)).length ≤ bytes.length :=
    (List.dropWhile_suffix _).length_le
  unfold scan at h
  split at h
  · simp at h
  · simp at h
  · rename_i heq
    rw [heq] at hd
    simp only [List.length_cons] at hd
    split at h
    · have := length_scanBang h
      simp only [List.length_cons] at this
      omega
    · split at h
      · have := length_closedAt h
        simp only [List.length_cons] at this
        omega
      · have := length_closedAt h
        simp only [List.length_cons] at this
        omega

end ModuleDepot.Markup
