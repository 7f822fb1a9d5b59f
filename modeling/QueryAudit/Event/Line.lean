import QueryAudit.Event
import QueryAudit.Json.Writer

/-! Log lines: words for people, or JSON. -/
namespace QueryAudit

inductive LogFormat where
  | console
  | json
deriving DecidableEq, Repr, Inhabited

def LogFormat.ofName (name : String) : LogFormat := if name = "json" then .json else .console

namespace Event

/-- Characters for which a text is quoted in a console line. -/
def needsQuotes (c : Char) : Bool := c ∈ [' ', '\t', '=', '\r', '\n', '"', '\x27']

def consoleValue : Json → String
  | .str s => if s.any needsQuotes then Text.quoted s else s
  | value => value.quoted

/-- The time, the level, the name, then all fields sorted by their keys. -/
def consoleLine (time : String) (event : Event) : String :=
  let fields := event.fields.mergeSort fun a b => decide (a.1 ≤ b.1)
  let shown := fields.map fun (key, value) => " " ++ key ++ "=" ++ consoleValue value
  s!"{time} [{event.level.word}] {event.name}" ++ String.join shown

def jsonLine (time : String) (event : Event) : String :=
  (Json.obj (event.fields ++ [("event", .str event.name), ("level", .str event.level.word),
    ("timestamp", .str time)])).write .oneLine

def line (format : LogFormat) (time : String) (event : Event) : String :=
  match format with
  | .console => event.consoleLine time
  | .json => event.jsonLine time

end Event

end QueryAudit
