import ChainWire.Logging.Filter
import ChainWire.Settings.Basic

/-!
# The log

Logging is switched on once for a whole process: the first settings that log to
the console win, and whatever is asked later has no effect.  Switching it on is
reported as an event, if the filter lets that through.
-/

namespace ChainWire

structure LogStarted where
  app : String
  level : LogLevel
  json : Bool
deriving DecidableEq, Repr

namespace LogStarted

def text : String := "Logging initialized"

def severity : LogLevel := .info

def target : String := "eth_wire::utils::logging"

def fields : List String := ["message", "app", "level", "format"]

def shape : EventShape := ⟨target, severity, fields⟩

def format (e : LogStarted) : String := if e.json then "json" else "text"

def line (e : LogStarted) : String :=
  s!"{severity.upperName} {text} app={e.app} level={e.level.name} format=\"{e.format}\""

end LogStarted

structure Log.State where
  installed : Bool
  printed : List LogStarted
deriving DecidableEq, Repr

namespace Log

def ownTarget : String := "eth_wire"

def State.initial : State := ⟨false, []⟩

/--
The filter in force: that of the environment, or what the settings say if there
is none or a malformed one.  A part that would begin inside a character stops
the process, so then there is no filter.
-/
def filter (environment : Option String) (s : LoggingSettings) :
    Except DirectiveFault LogFilter :=
  match environment.map LogFilter.parse with
  | none | some (.error .malformed) => .ok (.ofLevel ownTarget s.logLevel)
  | some found => found

/-- Switch logging on, telling whether these settings took effect. -/
def start (environment : Option String) (s : LoggingSettings) (st : State) :
    Except DirectiveFault (Bool × State) := do
  if !s.logToConsole then return (false, st)
  let f <- filter environment s
  if st.installed then return (false, st)
  let event : LogStarted := ⟨s.appName, s.logLevel, s.jsonFormat⟩
  return (true, ⟨true, if f.allows LogStarted.shape then st.printed ++ [event] else st.printed⟩)

end Log
end ChainWire
