import ChainWire.Logging.Level
import ChainWire.Text.Duration
import ChainWire.Version

/-!
# Settings

What a node can be told: which versions it speaks, how large messages may be,
how sessions wait, and what it logs.  Settings can hold values that make no
sense; `Settings.problems` lists what is wrong with them.
-/

namespace ChainWire

structure WireSettings where
  versions : List Version := Version.all
  /-- The longest payload, in bytes, that is sent or accepted. -/
  maxMessageSize : Nat := 10 * 1024 * 1024
deriving DecidableEq, Repr, Inhabited

structure SessionSettings where
  /-- How long an exchange waits for its response, in milliseconds. -/
  responseTimeout : Nat := 30000
  pipeCapacity : Nat := 64
deriving DecidableEq, Repr, Inhabited

structure LoggingSettings where
  appName : String := "eth-wire"
  logLevel : LogLevel := .info
  logToConsole : Bool := true
  jsonFormat : Bool := false
deriving DecidableEq, Repr, Inhabited

structure Settings where
  wire : WireSettings := {}
  session : SessionSettings := {}
  logging : LoggingSettings := {}
deriving DecidableEq, Repr, Inhabited

inductive SettingsFault where
  | unreadable (path reason : String)
  | unwritable (path reason : String)
  /-- A number does not fit into the file format. -/
  | outOfRange
  /-- A text is not a settings document; the detail is ours to give or not. -/
  | invalidDocument (detail : Option String)
  | badVariable (name reason : String)
  | badVersion (entry reason : String)
  | rejected (problems : List String)
deriving DecidableEq, Repr

namespace SettingsFault

def cause : SettingsFault -> String
  | unreadable path reason => s!"cannot read {path}: {reason}"
  | unwritable path reason => s!"cannot write {path}: {reason}"
  | outOfRange => "cannot serialize: out-of-range value for u64 type"
  | invalidDocument _ => "invalid TOML"
  | badVariable name reason => s!"{name}: {reason}"
  | badVersion entry reason => s!"version '{entry}': {reason}"
  | rejected problems => s!"{problems.length} problem(s): " ++ "; ".intercalate problems

def message (f : SettingsFault) : String :=
  s!"Configuration error: {f.cause}"

end SettingsFault

def WireSettings.leastMessageSize : Nat := 1024

def WireSettings.mostMessageSize : Nat := 100 * 1024 * 1024

namespace WireSettings

def problems (s : WireSettings) : List String :=
  (if s.versions.isEmpty then ["At least one protocol version must be enabled"] else [])
  ++ (if s.versions.eraseDups.length < s.versions.length then
      ["Protocol version list contains duplicates"] else [])
  ++ (if s.maxMessageSize = 0 then ["Max message size cannot be 0"]
    else if s.maxMessageSize < leastMessageSize then
      [s!"Max message size {s.maxMessageSize} is too small (minimum {leastMessageSize})"]
    else if mostMessageSize < s.maxMessageSize then
      [s!"Max message size {s.maxMessageSize} is too large (maximum {mostMessageSize})"]
    else [])

end WireSettings

namespace SessionSettings

def problems (s : SessionSettings) : List String :=
  let shown := Duration.ofMillis s.responseTimeout
  (if s.responseTimeout < 100 then
      [s!"Response timeout {shown} is too short (minimum 100ms)"]
    else if 300000 < s.responseTimeout then
      [s!"Response timeout {shown} is too long (maximum 300s)"]
    else [])
  ++ (if s.pipeCapacity = 0 then ["Pipe capacity must be greater than 0"] else [])

end SessionSettings

namespace LoggingSettings

def problems (s : LoggingSettings) : List String :=
  let size := s.appName.utf8ByteSize
  if size = 0 then ["Application name cannot be empty"]
  else if 64 < size then [s!"Application name is too long ({size} > 64 characters)"]
  else []

end LoggingSettings

namespace Settings

def problems (s : Settings) : List String :=
  s.wire.problems ++ s.session.problems ++ s.logging.problems

def accept (s : Settings) : Except SettingsFault Unit :=
  if s.problems.isEmpty then .ok () else .error (.rejected s.problems)

end Settings
end ChainWire
