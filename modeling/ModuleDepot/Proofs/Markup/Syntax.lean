import ModuleDepot.Markup.Element

/-! # Documents and their parts

A document is put together from its parts, and every part carries what makes it one: text has no
angle bracket that opens markup, a name has no blank, a value not the quote around it, and an
element is closed with the name it was opened with. In an encoding that extends ASCII every
well-formed document is one of these, as long as the angle brackets in its document type
declaration balance. They are more than the well-formed ones, since for the reader it makes no
difference what else is in text, names and values.

`Document.bytes` writes a document down. In between stands the list of its items, which are the
pieces that the reader scans.
-/

namespace ModuleDepot.Markup

/-! ## Tags -/

/-- A byte that can stand in a name: no blank, no bracket, quote, slash, equals sign, exclamation
or question mark. -/
def isNameByte (b : UInt8) : Bool :=
  !isSpace b && !List.contains [0x21, 0x22, 0x27, 0x2F, 0x3C, 0x3D, 0x3E, 0x3F] b

/-- The name of an element or of an attribute, with its prefix. -/
structure Name where
  bytes : List UInt8
  nonempty : bytes ≠ []
  plain : ∀ b ∈ bytes, isNameByte b = true

/-- Blanks, or nothing. -/
structure Blanks where
  bytes : List UInt8
  blank : ∀ b ∈ bytes, isSpace b = true

def Blanks.none : Blanks :=
  ⟨[], nofun⟩

/-- An attribute, with the blanks before it and around its equals sign. -/
structure Attribute where
  before : Blanks
  separate : before.bytes ≠ []
  key : Name
  beforeSign : Blanks
  behindSign : Blanks
  quote : UInt8
  isQuote : quote = 0x22 ∨ quote = 0x27
  value : List UInt8
  unquoted : quote ∉ value

/-- The text of an attribute from its value on. -/
def Attribute.quotedValue (a : Attribute) : List UInt8 :=
  a.quote :: (a.value ++ [a.quote])

def Attribute.bytes (a : Attribute) : List UInt8 :=
  a.before.bytes ++ (a.key.bytes ++
    (a.beforeSign.bytes ++ 0x3D :: (a.behindSign.bytes ++ a.quotedValue)))

/-- The tag of an element, with the blanks at its end. -/
structure Tag where
  name : Name
  attributes : List Attribute
  behind : Blanks

namespace Tag

/-- What stands between the angle brackets, without the slash of an empty element. -/
def content (t : Tag) : List UInt8 :=
  t.name.bytes ++ (t.attributes.flatMap Attribute.bytes ++ t.behind.bytes)

def localName (t : Tag) : List UInt8 :=
  Markup.localName t.name.bytes

/-- The raw value of the first attribute with the key. -/
def value? (t : Tag) (key : List UInt8) : Option (List UInt8) :=
  (t.attributes.find? (·.key.bytes == key)).map (·.value)

end Tag

/-! ## Items -/

/-- How many angle brackets are open behind the bytes. -/
def bracketDepth (bytes : List UInt8) : Nat :=
  bytes.foldl
    (fun depth b => if b == 0x3C then depth + 1 else if b == 0x3E then depth - 1 else depth) 0

/-- Every angle bracket closes one that is open, and none is left open. -/
structure BracketsBalance (bytes : List UInt8) : Prop where
  opened : ∀ before behind, bytes = before ++ 0x3E :: behind → bracketDepth before ≠ 0
  closed : bracketDepth bytes = 0

/-- What may stand between tags: text, a comment, character data, a processing instruction or XML
declaration, and a document type declaration. -/
inductive Misc where
  | text (bytes : List UInt8) (h : 0x3C ∉ bytes)
  | comment (body : List UInt8) (h : ¬ Text.utf8 "-->" <:+: body)
  | characters (body : List UInt8) (h : ¬ Text.utf8 "]]>" <:+: body)
  | instruction (body : List UInt8) (hne : body ≠ []) (h : ¬ Text.utf8 "?>" <:+: 0x3F :: body)
  | doctype (body : List UInt8) (hname : body.all isSpace = false) (h : BracketsBalance body)

/-- Text is no markup. -/
def Misc.isMarkup : Misc → Bool
  | .text .. => false
  | _ => true

/-- What stands between the angle brackets of markup. -/
def Misc.inside : Misc → List UInt8
  | .text bytes _ => bytes
  | .comment body _ => Text.utf8 "!--" ++ (body ++ Text.utf8 "--")
  | .characters body _ => Text.utf8 "![CDATA[" ++ (body ++ Text.utf8 "]]")
  | .instruction body _ _ => Text.utf8 "?" ++ (body ++ Text.utf8 "?")
  | .doctype body _ _ => Text.utf8 "!DOCTYPE" ++ body

/-- A piece of a document. -/
inductive Item where
  | misc (m : Misc)
  | opening (tag : Tag)
  | single (tag : Tag)
  | closing (name : Name) (behind : Blanks)

namespace Item

/-- Markup in angle brackets. -/
def bracketed (inside : List UInt8) : List UInt8 :=
  0x3C :: (inside ++ [0x3E])

/-- All items but text are markup. -/
def isMarkup : Item → Bool
  | .misc m => m.isMarkup
  | _ => true

/-- What stands between the angle brackets of markup. -/
def inside : Item → List UInt8
  | .misc m => m.inside
  | .opening tag => tag.content
  | .single tag => tag.content ++ [0x2F]
  | .closing name behind => 0x2F :: (name.bytes ++ behind.bytes)

def bytes (item : Item) : List UInt8 :=
  if item.isMarkup then bracketed item.inside else item.inside

/-- The tag of an element. -/
def tag? : Item → Option Tag
  | .opening tag | .single tag => some tag
  | _ => none

/-- What the scanner sees. -/
def token : Item → Token
  | .misc (.doctype body _ _) => .doctype body
  | .misc _ => .other
  | .opening tag => .opening tag.content
  | .single tag => .empty tag.content
  | .closing name _ => .closing name.bytes

/-- What a reader of elements sees. -/
def event? : Item → Option ElementEvent
  | .misc _ => none
  | .opening tag => some (.opened tag.content)
  | .single tag => some (.single tag.content)
  | .closing name _ => some (.closed name.bytes)

end Item

/-- The text of items in a row. -/
def render (items : List Item) : List UInt8 :=
  items.flatMap Item.bytes

/-! ## Documents -/

/-- What stands inside an element: nothing more, or something with the rest behind it. -/
inductive Content where
  | done
  | misc (m : Misc) (rest : Content)
  | element (tag : Tag) (inner : Content) (behind : Blanks) (rest : Content)
  | single (tag : Tag) (rest : Content)

def Content.items : Content → List Item
  | .done => []
  | .misc m rest => .misc m :: rest.items
  | .element tag inner behind rest =>
    .opening tag :: (inner.items ++ .closing tag.name behind :: rest.items)
  | .single tag rest => .single tag :: rest.items

/-- The outermost element. -/
inductive Root where
  | element (tag : Tag) (inner : Content) (behind : Blanks)
  | single (tag : Tag)

/-- The element alone. -/
def Root.content : Root → Content
  | .element tag inner behind => .element tag inner behind .done
  | .single tag => .single tag .done

/-- One element, and what is not an element before and behind it. -/
structure Document where
  before : List Misc
  root : Root
  behind : List Misc

namespace Document

/-- The items up to the end of the root element. -/
def itemsToRoot (d : Document) : List Item :=
  d.before.map .misc ++ d.root.content.items

def items (d : Document) : List Item :=
  d.itemsToRoot ++ d.behind.map .misc

/-- The document as it is written. -/
def bytes (d : Document) : List UInt8 :=
  render d.items

end Document
end ModuleDepot.Markup
