/-!
# Signals

What an operation shows of itself while it runs: the spans it opens and closes, the events in
between, and the notes that layers and subscribers take. Spans and events make up the trace.
-/

namespace Accounts

inductive Level
  | error
  | info
  | debug
  deriving DecidableEq, Repr

def Level.name : Level → String
  | .error => "ERROR"
  | .info => "INFO"
  | .debug => "DEBUG"

/-- Named values, in the order in which they are shown. -/
abbrev Fields := List (String × String)

inductive Signal
  | opened (span : String) (fields : Fields)
  | closed (span : String)
  | event (level : Level) (message : Option String) (fields : Fields)
  | note (text : String)
  deriving DecidableEq, Repr

namespace Signal

def info (message : String) (fields : Fields) : Signal :=
  .event .info (some message) fields

def debug (message : String) (fields : Fields) : Signal :=
  .event .debug (some message) fields

/-- The event that reports the failure of a span. -/
def failure (message : String) : Signal :=
  .event .error none [("error", message)]

/-- The words of a line, with one blank between them. -/
def line (words : List String) (fields : Fields) : String :=
  " ".intercalate (words ++ fields.map fun (name, value) => name ++ "=" ++ value)

/-- The line of a span or an event in the trace. -/
def traceLine? : Signal → Option String
  | .opened span fields => some (line ["open", span] fields)
  | .closed span => some (line ["close", span] [])
  | .event level message fields => some (line (level.name :: message.toList) fields)
  | .note _ => none

def noteText? : Signal → Option String
  | .note text => some text
  | _ => none

end Signal

end Accounts
