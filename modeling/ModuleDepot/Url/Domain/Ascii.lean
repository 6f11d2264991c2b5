import ModuleDepot.Text.Composition
import ModuleDepot.Text.Utf8
import ModuleDepot.Url.Domain.Direction
import ModuleDepot.Url.Domain.Joiner
import ModuleDepot.Url.Domain.Mapping
import ModuleDepot.Url.Domain.Repertoire
import ModuleDepot.Url.Punycode

/-! # Domains in ASCII

A domain is brought into one form, whatever way it is written: its characters are mapped
and composed, labels that spell other characters are read, every label is checked, and
those that are not in ASCII are spelled again.
-/

namespace ModuleDepot.Url.Domain

/-- Whether a character lies outside ASCII. -/
def isForeign (c : Char) : Bool :=
  0x80 ≤ c.toNat

/-- The sign in front of a label that spells characters outside ASCII. -/
def spelledSign : List Char := ['x', 'n', '-', '-']

/-- The most characters that a spelling may have behind its sign. -/
def longestSpelling : Nat := 2000

/-- The most characters that a label to be spelled may have. -/
def longestLabel : Nat := 1000

/-- Characters that no domain may hold, once it is in ASCII. -/
def isForbidden (c : Char) : Bool :=
  c.toNat ≤ 0x20 || c.toNat == 0x7F ||
    ['#', '/', ':', '<', '>', '?', '@', '[', '\\', ']', '^', '|', '%'].contains c

/-- The text in mapped and composed form, unless it has a character that is not allowed. -/
def normalized (cs : List Char) : Option (List Char) :=
  if cs.any fun c => isForeign c && isDisallowed c && (mapping.image? c).isNone then none
  else some (Text.composed (cs.flatMap mapped))

/-- The label that a spelling stands for: one that needs to be spelled, in the form that
normalization leaves. -/
def ofSpelling (spelling : List Char) : Option (List Char) :=
  if spelling.any isForeign || longestSpelling < spelling.length then none
  else
    match Punycode.decode? spelling with
    | none => none
    | some label =>
      if label.any isForeign && normalized label == some label then some label else none

/-- The label that a label stands for in a domain that is normalized already. -/
def readLabel (label : List Char) : Option (List Char) :=
  if spelledSign.isPrefixOf label then ofSpelling (label.drop spelledSign.length) else some label

/-- Whether a label that is read may stand in a domain. -/
def isLabel (label : List Char) : Bool :=
  !label.any isForbidden &&
    (!label.any isForeign ||
      (label.length ≤ longestLabel && !label.head?.any Text.isMark && joinersFit [] label))

/-- Whether labels can stand beside each other: if any is written from right to left, each
one has to keep its direction. -/
def keepOrder (labels : List (List Char)) : Bool :=
  labels.all (!·.any isForeign) || labels.all (!hasRightToLeft ·) || labels.all keepsDirection

/-- A label in ASCII. -/
def spelled (label : List Char) : List Char :=
  if label.any isForeign then spelledSign ++ Punycode.encode label else label

/-- The labels of a domain, if it is one. -/
def labels? (cs : List Char) : Option (List (List Char)) := do
  let labels ← ((← normalized cs).splitOn '.').mapM readLabel
  if labels.all isLabel && keepOrder labels then some labels else none

/-- The ASCII form of a domain given as bytes. -/
def ascii? (bytes : List UInt8) : Option (List Char) :=
  match Text.readUtf8 bytes with
  | .error _ => none
  | .ok text => (labels? text.toList).map fun labels => ['.'].intercalate (labels.map spelled)

end ModuleDepot.Url.Domain
