import FeedExplorer.Log.Event

/-!
# Log filters

Which events are written down: for every part of the program the finest level that is let
through, given as `part=level` with commas between.
-/

namespace FeedExplorer.Log

/-- The finest level let through, if any is. -/
abbrev Threshold := Option Level

/-- A rule for the parts whose names begin in a certain way. -/
structure Directive where
  part : String
  threshold : Threshold
  deriving Repr

/-- A level by its name, in letters of either size, or by its number. -/
def threshold? (s : String) : Option Threshold :=
  match s.toLower with
  | "trace" | "5" => some (some .trace)
  | "debug" | "4" => some (some .debug)
  | "info" | "3" => some (some .info)
  | "warn" | "2" => some (some .warn)
  | "error" | "1" => some (some .error)
  | "off" | "0" => some none
  | _ => none

def isPartChar (c : Char) : Bool :=
  c.isAlphanum || c == '_' || c == ':' || c == '-'

/-- A level for every part, a part with a level, or a part for which everything is let through. -/
def directive? (s : String) : Option Directive :=
  match threshold? s with
  | some t => some ⟨"", t⟩
  | none =>
    let (part, rest) := s.toList.span isPartChar
    if part.isEmpty then none
    else
      match rest with
      | [] => some ⟨String.ofList part, some .trace⟩
      | ['='] => some ⟨String.ofList part, some .trace⟩
      | '=' :: level => (threshold? (String.ofList level)).map fun t => ⟨String.ofList part, t⟩
      | _ => none

/-- The directives of a text, as far as they are understood, and those that are not. -/
def directives (s : String) : List Directive × List String :=
  let parts := (s.splitOn ",").filter fun p => !p.isEmpty
  (parts.filterMap directive?, parts.filter fun p => (directive? p).isNone)

/-- The directive whose part is the longest that the event's part begins with. -/
def governing? (ds : List Directive) (part : String) : Option Directive :=
  (ds.filter fun d => part.startsWith d.part).foldl
    (fun best d =>
      match best with
      | none => some d
      | some b => if b.part.length ≤ d.part.length then some d else some b) none

/-- Without any directive only errors are let through. -/
def allows (ds : List Directive) (e : Event) : Bool :=
  let threshold := if ds.isEmpty then some .error
    else (governing? ds e.part).bind (·.threshold)
  match threshold with
  | some t => decide (t.rank ≤ e.level.rank)
  | none => false

end FeedExplorer.Log
