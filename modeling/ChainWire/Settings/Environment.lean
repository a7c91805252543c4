import ChainWire.Settings.Basic
import ChainWire.Text.Blank

/-!
# Settings from the environment

Three variables can override the defaults.  A variable that is blank counts as
not set.
-/

namespace ChainWire

structure Environment where
  maxMessageSize : Option String
  versions : Option String
  logLevel : Option String

namespace Environment

def maxMessageSizeName : String := "ETH_WIRE_MAX_MESSAGE_SIZE"

def versionsName : String := "ETH_WIRE_VERSIONS"

def logLevelName : String := "ETH_WIRE_LOG_LEVEL"

def badLevel : String :=
  "error parsing level: expected one of \"error\", \"warn\", \"info\", \"debug\", "
    ++ "\"trace\", or a number 1-5"

/-- The value of a variable, unless it is blank. -/
def present (value : Option String) : Option (List Char) :=
  match value with
  | none => none
  | some s => if s.toList.all Blank.isBlank then none else some s.toList

def splitAtCommas : List Char -> List (List Char)
  | [] => [[]]
  | c :: rest =>
      match splitAtCommas rest with
      | [] => [[c]]
      | entry :: entries =>
          if c == ',' then [] :: entry :: entries else (c :: entry) :: entries

def readVersion (entry : List Char) : Except SettingsFault Version :=
  let shown := String.ofList entry
  match Unsigned.parse Unsigned.bound32 entry with
  | .error p => .error (.badVersion shown p.message)
  | .ok n =>
      match Version.ofNumber? n with
      | some v => .ok v
      | none => .error (.badVersion shown s!"Unsupported protocol version: {n}")

/-- A list of versions between commas; blank entries do not count. -/
def readVersions (text : List Char) : Except SettingsFault (List Version) :=
  (((splitAtCommas text).map Blank.trim).filter fun e => !e.isEmpty).mapM readVersion

end Environment

namespace Settings

def withMaxMessageSize (text : List Char) (s : Settings) : Except SettingsFault Settings :=
  match Unsigned.parse Unsigned.bound64 text with
  | .ok n => .ok { s with wire := { s.wire with maxMessageSize := n } }
  | .error p => .error (.badVariable Environment.maxMessageSizeName p.message)

def withVersions (text : List Char) (s : Settings) : Except SettingsFault Settings := do
  let versions <- Environment.readVersions text
  return { s with wire := { s.wire with versions } }

def withLogLevel (text : List Char) (s : Settings) : Except SettingsFault Settings :=
  match LogLevel.ofText? text with
  | some l => .ok { s with logging := { s.logging with logLevel := l } }
  | none => .error (.badVariable Environment.logLevelName Environment.badLevel)

def override (value : Option String)
    (change : List Char -> Settings -> Except SettingsFault Settings) (s : Settings) :
    Except SettingsFault Settings :=
  match Environment.present value with
  | none => .ok s
  | some text => change text s

def ofEnvironment (e : Environment) : Except SettingsFault Settings := do
  let s <- override e.maxMessageSize withMaxMessageSize {}
  let s <- override e.versions withVersions s
  override e.logLevel withLogLevel s

end Settings
end ChainWire
