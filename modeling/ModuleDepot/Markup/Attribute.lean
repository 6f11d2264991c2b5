import ModuleDepot.Markup.Token

/-! # Tags and their attributes

The content of a tag starts with its name, which runs to the first blank; behind a colon
stands the local name. Attributes follow, each a key, an equals sign and a value in
quotes. They are read from the left, and only as far as the wanted key; positions in
errors count bytes from the start of the content.
-/

namespace ModuleDepot.Markup

/-- The full name of the element whose tag has this content. -/
def tagName (content : List UInt8) : List UInt8 :=
  content.takeWhile (!isSpace ·)

/-- A name without what stands before its first colon. -/
def localName (name : List UInt8) : List UInt8 :=
  match name.dropWhile (· != 0x3A) with
  | [] => name
  | _ :: localPart => localPart

/-- What is wrong with the attributes of a tag, and where. -/
inductive AttributeError where
  | expectedEquals (position : Nat)
  | expectedValue (position : Nat)
  | unquotedValue (position : Nat)
  | unclosedValue (position : Nat) (quote : UInt8)
  deriving DecidableEq, Repr

/-- The wording of an attribute error. -/
def AttributeError.message : AttributeError → String
  | .expectedEquals position =>
    s!"position {position}: attribute key must be directly followed by `=` or space"
  | .expectedValue position => s!"position {position}: `=` must be followed by an attribute value"
  | .unquotedValue position =>
    s!"position {position}: attribute value must be enclosed in `\"` or `'`"
  | .unclosedValue position quote =>
    let quote := String.ofList [Char.ofNat quote.toNat]
    s!"position {position}: missing closing quote `{quote}` in attribute value"

/-- The next attribute of a tag. -/
inductive NextAttribute where
  | finished
  | malformed (error : AttributeError)
  | found (key value : List UInt8) (rest : List UInt8)
  deriving DecidableEq, Repr

/-- Reads the value of an attribute; `bytes` follows the equals sign, and `length` is the
length of the content of the tag. -/
def readValue (length : Nat) (key bytes : List UInt8) : NextAttribute :=
  match bytes.dropWhile isSpace with
  | [] => .malformed (.expectedValue length)
  | q :: rest =>
    if q == 0x22 || q == 0x27 then
      match rest.dropWhile (· != q) with
      | [] => .malformed (.unclosedValue length q)
      | _ :: behind => .found key (rest.takeWhile (· != q)) behind
    else .malformed (.unquotedValue (length - (rest.length + 1)))

/-- A key goes on until a blank or an equals sign. -/
def inKey (b : UInt8) : Bool :=
  b != 0x3D && !isSpace b

/-- Reads the next attribute. The first byte of a key is never taken for the sign that
ends it. -/
def nextAttribute (length : Nat) (bytes : List UInt8) : NextAttribute :=
  match bytes.dropWhile isSpace with
  | [] => .finished
  | b :: rest =>
    match (rest.dropWhile inKey).dropWhile isSpace with
    | [] => .malformed (.expectedEquals length)
    | sign :: behind =>
      if sign == 0x3D then readValue length (b :: rest.takeWhile inKey) behind
      else .malformed (.expectedEquals (length - (behind.length + 1)))

/-! ## Progress -/

private theorem length_dropWhile (p : UInt8 → Bool) (bytes : List UInt8) :
    (bytes.dropWhile p).length ≤ bytes.length :=
  (List.dropWhile_suffix p).length_le

theorem length_readValue {length : Nat} {key bytes k v rest : List UInt8}
    (h : readValue length key bytes = .found k v rest) : rest.length < bytes.length := by
  unfold readValue at h
  have h₁ := length_dropWhile isSpace bytes
  split at h
  · simp at h
  · rename_i q tail heq
    rw [heq] at h₁
    simp only [List.length_cons] at h₁
    have h₂ := length_dropWhile (· != q) tail
    split at h
    · split at h
      · simp at h
      · rename_i heq₂
        rw [heq₂] at h₂
        simp only [List.length_cons, NextAttribute.found.injEq] at h₂ h
        rw [← h.2.2]
        omega
    · simp at h

/-- An attribute takes at least one byte of the tag. -/
theorem length_nextAttribute {length : Nat} {bytes k v rest : List UInt8}
    (h : nextAttribute length bytes = .found k v rest) : rest.length < bytes.length := by
  unfold nextAttribute at h
  have h₁ := length_dropWhile isSpace bytes
  split at h
  · simp at h
  · rename_i b tail heq
    rw [heq] at h₁
    have h₂ := length_dropWhile inKey tail
    have h₃ := length_dropWhile isSpace (tail.dropWhile inKey)
    split at h
    · simp at h
    · rename_i sign behind heq₂
      rw [heq₂] at h₃
      simp only [List.length_cons] at h₁ h₃
      split at h
      · have := length_readValue h
        omega
      · simp at h

/-! ## Looking up a key -/

/-- The raw value of the first attribute with the key, among those from `bytes` on. -/
def findAttribute (length : Nat) (key : List UInt8) (bytes : List UInt8) :
    Except AttributeError (Option (List UInt8)) :=
  match _h : nextAttribute length bytes with
  | .finished => .ok none
  | .malformed e => .error e
  | .found k value rest => if k == key then .ok (some value) else findAttribute length key rest
termination_by bytes.length
decreasing_by exact length_nextAttribute _h

/-- The raw value of the first attribute of a tag with the key. Attributes behind it are
not looked at. -/
def attribute? (key : List UInt8) (content : List UInt8) :
    Except AttributeError (Option (List UInt8)) :=
  findAttribute content.length key (content.drop (tagName content).length)

end ModuleDepot.Markup
