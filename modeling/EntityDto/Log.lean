import EntityDto.Text.Basic

/-! What the converter reports while it works, and how reports are written as log lines. -/

namespace EntityDto

/-- How serious a report is. -/
inductive Severity where
  | debug
  | info
  | warning
  | error
  | critical
  deriving DecidableEq

namespace Severity

/-- The severity's rank: a higher one is more serious, and all ranks are above zero. -/
def rank : Severity → Nat
  | .debug => 10
  | .info => 20
  | .warning => 30
  | .error => 40
  | .critical => 50

/-- The severity's name in a log line. -/
def name : Severity → Text
  | .debug => "DEBUG".toList
  | .info => "INFO".toList
  | .warning => "WARNING".toList
  | .error => "ERROR".toList
  | .critical => "CRITICAL".toList

end Severity

/-- The stages a conversion passes through. -/
inductive Stage where
  | parse
  | renderRequest
  | renderResponse
  | done
  | failed
  deriving DecidableEq

/-- The stage's name in a log line. -/
def Stage.name : Stage → Text
  | .parse => "PARSE".toList
  | .renderRequest => "RENDER_REQUEST".toList
  | .renderResponse => "RENDER_RESPONSE".toList
  | .done => "DONE".toList
  | .failed => "FAILED".toList

/-- Something that is reported. -/
inductive Event where
  /-- A stage of a conversion begins; the entity is known once the parse is over. -/
  | stageStarted (entity : Option Text) (stage : Stage)
  /-- The source declares no entity class. -/
  | classMissing
  /-- The column decorator on this line never closes. -/
  | unterminatedBlock (lineNumber : Int)
  /-- The source was parsed. -/
  | parsed (entity : Text) (fieldCount : Nat)
  /-- Both texts were rendered. -/
  | converted (entity : Text) (fieldCount : Nat)
  /-- Files were written under a directory. -/
  | filesWritten (entity : Text) (fileCount : Nat) (directory : Text)
  /-- The server is up. -/
  | serverStarted (environment host : Text) (port : Int)
  /-- The server goes down. -/
  | serverStopped
  /-- The command found no entity file. -/
  | entityFileMissing (path : Text)
  /-- The command gave up, with this reason. -/
  | commandFailed (reason : Text)
  deriving DecidableEq

namespace Event

/-- How serious the event is. -/
def severity : Event → Severity
  | .parsed .. => .debug
  | .classMissing | .unterminatedBlock _ => .warning
  | .entityFileMissing _ | .commandFailed _ => .error
  | .stageStarted .. | .converted .. | .filesWritten .. => .info
  | .serverStarted .. | .serverStopped => .info

/-- The name of the part that reports the event. -/
def logger : Event → Text
  | .stageStarted .. | .classMissing | .converted .. => "dtogen.core.engine".toList
  | .unterminatedBlock _ => "dtogen.converter.metadata".toList
  | .parsed .. => "dtogen.converter.parser".toList
  | .filesWritten .. => "dtogen.converter.generator".toList
  | .serverStarted .. | .serverStopped => "dtogen.main".toList
  | .entityFileMissing _ | .commandFailed _ => "__main__".toList

/-- The entity class the event names. -/
def entity? : Event → Option Text
  | .stageStarted entity _ => entity
  | .parsed entity _ | .converted entity _ | .filesWritten entity _ _ => some entity
  | _ => none

/-- The stage the event belongs to. -/
def stage? : Event → Option Stage
  | .stageStarted _ stage => some stage
  | .classMissing => some .failed
  | .unterminatedBlock _ | .parsed .. => some .parse
  | .converted .. => some .done
  | _ => none

/-- What the event says. -/
def message : Event → Text
  | .stageStarted .. => "Running stage".toList
  | .classMissing => "No entity class declaration found".toList
  | .unterminatedBlock lineNumber =>
    "Unterminated column decorator starting at line ".toList ++ Text.ofInt lineNumber
      ++ "; captured to end of source".toList
  | .parsed _ fieldCount => "Parsed ".toList ++ Text.ofNat fieldCount ++ " fields".toList
  | .converted _ fieldCount => "Converted ".toList ++ Text.ofNat fieldCount ++ " fields".toList
  | .filesWritten _ fileCount directory =>
    "Wrote ".toList ++ Text.ofNat fileCount ++ " files to ".toList ++ directory
  | .serverStarted environment host port =>
    "API server running (".toList ++ environment ++ ") on ".toList ++ host ++ ":".toList
      ++ Text.ofInt port
  | .serverStopped => "Shutting down API server...".toList
  | .entityFileMissing path => "Entity file not found: ".toList ++ path
  | .commandFailed reason => reason

/-- The event as one log line; what the event does not name is written as a dash. -/
def line (event : Event) : Text :=
  event.severity.name ++ " ".toList ++ event.logger
    ++ " [entity=".toList ++ event.entity?.getD "-".toList
    ++ " stage=".toList ++ (event.stage?.map Stage.name).getD "-".toList
    ++ "] - ".toList ++ event.message ++ "\n".toList

end Event

/-- A value together with what was reported on the way to it. -/
structure Logged (α : Type u) where
  value : α
  events : List Event
  deriving DecidableEq

/-- The events at or above a rank. -/
def eventsFrom (rank : Nat) (events : List Event) : List Event :=
  events.filter fun event => rank ≤ event.severity.rank

/-- The log of the events at or above a rank. -/
def logText (rank : Nat) (events : List Event) : Text :=
  (eventsFrom rank events).flatMap Event.line

/--
The rank below which a level name hides events, if it is a known name.

Names are exact: capitals only, with two names each for warnings and for critical errors. The name
for no threshold has rank zero.
-/
def levelRank? (name : Text) : Option Nat :=
  if name = "CRITICAL".toList ∨ name = "FATAL".toList then some Severity.critical.rank
  else if name = "ERROR".toList then some Severity.error.rank
  else if name = "WARNING".toList ∨ name = "WARN".toList then some Severity.warning.rank
  else if name = "INFO".toList then some Severity.info.rank
  else if name = "DEBUG".toList then some Severity.debug.rank
  else if name = "NOTSET".toList then some 0
  else none

end EntityDto
