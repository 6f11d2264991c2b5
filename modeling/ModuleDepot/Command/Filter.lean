import ModuleDepot.Log
import ModuleDepot.Path
import ModuleDepot.Text.Number

/-! # Which events reach the log

A filter is a list of rules. A rule admits the events whose target starts with a text, up
to a level. Of the rules for an event the one with the longest text decides, and of equal
texts the last; where there is none the event is left out.

The written form has its rules behind commas: a level for all events, a text with a level
behind an equals sign, or a text alone, which admits all levels.
-/

namespace ModuleDepot

/-- A rule about the events whose target starts with a text; without a level it admits none. -/
structure FilterRule where
  target : String := ""
  level : Option Level
  deriving DecidableEq, Repr

/-- The rules of a log. -/
abbrev Filter := List FilterRule

namespace Filter

/-- Whether a rule is about a target. -/
def concerns (rule : FilterRule) (target : String) : Bool :=
  rule.target.toList.isPrefixOf target.toList

/-- The rule that decides, given the one that does so far. -/
def decisive (best : Option FilterRule) (rule : FilterRule) : Option FilterRule :=
  match best with
  | none => some rule
  | some b => if b.target.length ≤ rule.target.length then some rule else some b

/-- The level up to which events of a target are admitted. -/
def levelFor (f : Filter) (target : String) : Option Level :=
  ((f.filter (concerns · target)).foldl decisive none).bind (·.level)

/-- Whether an event is admitted. -/
def admits (f : Filter) (e : Event) : Bool :=
  match levelFor f e.origin.target with
  | none => false
  | some level => e.level.rank ≤ level.rank

/-! ## The written form -/

/-- The level that a name or a number stands for; none of them is a level of its own. -/
def level? (s : String) : Option (Option Level) :=
  match Text.readUnsigned? Text.max64 s with
  | some n => [none, some .error, some .warn, some .info, some .debug, some .trace][n]?
  | none =>
    let name := String.ofList (s.toList.map Char.toLower)
    [("off", none), ("error", some .error), ("warn", some .warn), ("info", some .info),
     ("debug", some .debug), ("trace", some .trace)].lookup name

/-- Whether a character may stand in a target. -/
def inTarget (c : Char) : Bool :=
  c.isAlphanum || c == '_' || c == '-' || c == ':' || c.toNat ≥ 128

/-- A single rule. -/
def readRule (s : String) : Option FilterRule :=
  let target := s.toList.takeWhile (· != '=')
  if target.isEmpty || !target.all inTarget then none
  else
    match s.toList.dropWhile (· != '=') with
    | [] =>
      match level? s with
      | some level => some { level := level }
      | none => some ⟨s, some .trace⟩
    | [_] => some ⟨String.ofList target, some .trace⟩
    | _ :: level => (level? (String.ofList level)).map fun level => ⟨String.ofList target, level⟩

/-- Rules behind commas. If there are none, errors are admitted. -/
def parse? (s : String) : Option Filter :=
  match ((separated ',' s).filter (!·.isEmpty)).mapM readRule with
  | some [] => some [{ level := some .error }]
  | rules => rules

/-- What is admitted when nothing else is said: warnings, and when asked to be talkative
also what helps to find faults of this program. -/
def standard (verbose : Bool) : Filter :=
  if verbose then [{ level := some .warn }, ⟨"modfetch", some .debug⟩]
  else [{ level := some .warn }]

end Filter
end ModuleDepot
