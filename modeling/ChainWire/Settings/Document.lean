import ChainWire.Settings.Basic
import ChainWire.Toml.Document
import ChainWire.Toml.Quoted

/-!
# Settings in documents

Reading settings from a document and writing them into one.  Everything in a
document is optional, and what it holds beside settings is ignored.  The first
value that does not fit decides how reading fails.
-/

namespace ChainWire

namespace Settings

/-- What a document is read into, or the detail of the fault if there is one. -/
abbrev Reading (α : Type) := Except (Option String) α

def readNat (bound : Nat) : Toml.Node -> Reading Nat
  | .integer n => if 0 <= n && n < bound then .ok n.toNat else .error none
  | _ => .error none

def readSize : Toml.Node -> Reading Nat := readNat Unsigned.bound64

def readString : Toml.Node -> Reading String
  | .string s => .ok s
  | _ => .error none

def readBool : Toml.Node -> Reading Bool
  | .boolean b => .ok b
  | _ => .error none

def readVersion (n : Toml.Node) : Reading Version := do
  let number <- readNat Unsigned.bound32 n
  match Version.ofNumber? number with
  | some v => return v
  | none => throw (some s!"Unsupported protocol version: {number}")

def readVersions : Toml.Node -> Reading (List Version)
  | .array items | .tables items => items.mapM readVersion
  | _ => .error none

def readLevel (n : Toml.Node) : Reading LogLevel := do
  let text <- readString n
  match LogLevel.ofText? text.toList with
  | some l => return l
  | none => throw (some s!"unknown log level '{text}'")

/-- The fields of a section: their keys, and what a value changes. -/
abbrev Section (α : Type) := List (String × (Toml.Node -> α -> Reading α))

def readEntries {α : Type} (fields : Section α) (start : α) (es : Toml.Entries) : Reading α :=
  es.foldlM (fun acc e =>
    match fields.lookup e.1 with
    | some change => change e.2 acc
    | none => .ok acc) start

/--
Read a section.  A table gives its fields by their keys, an array in their
order.  A date holds no fields.
-/
def readSection {α : Type} (fields : Section α) (start : α) : Toml.Node -> Reading α
  | .table _ es => readEntries fields start es
  | .array items | .tables items =>
      (fields.zip items).foldlM (fun acc p => p.1.2 p.2 acc) start
  | .date => .ok start
  | _ => .error none

def wireSection : Section WireSettings :=
  [("versions", fun n s => do return { s with versions := <- readVersions n }),
    ("max_message_size", fun n s => do return { s with maxMessageSize := <- readSize n })]

def sessionSection : Section SessionSettings :=
  [("response_timeout_ms", fun n s => do return { s with responseTimeout := <- readSize n }),
    ("pipe_capacity", fun n s => do return { s with pipeCapacity := <- readSize n })]

def loggingSection : Section LoggingSettings :=
  [("app_name", fun n s => do return { s with appName := <- readString n }),
    ("log_level", fun n s => do return { s with logLevel := <- readLevel n }),
    ("log_to_console", fun n s => do return { s with logToConsole := <- readBool n }),
    ("json_format", fun n s => do return { s with jsonFormat := <- readBool n })]

def documentSection : Section Settings :=
  [("wire", fun n s => do return { s with wire := <- readSection wireSection {} n }),
    ("session", fun n s => do return { s with session := <- readSection sessionSection {} n }),
    ("logging", fun n s => do return { s with logging := <- readSection loggingSection {} n })]

def ofDocument (text : String) : Except SettingsFault Settings :=
  match Toml.parse text with
  | none => .error (.invalidDocument none)
  | some es =>
      match readEntries documentSection {} es with
      | .ok s => .ok s
      | .error detail => .error (.invalidDocument detail)

/-- A number as it is written; documents hold numbers of 64 bits with a sign. -/
def writeNat (n : Nat) : Except SettingsFault String :=
  if n < Toml.integerBound then .ok (toString n) else .error .outOfRange

/-- A list of numbers: on one line up to one item, else one line for each. -/
def writeNumbers : List Nat -> String
  | [] => "[]"
  | [n] => s!"[{n}]"
  | ns => "[\n" ++ String.join (ns.map fun n => s!"    {n},\n") ++ "]"

def toDocument (s : Settings) : Except SettingsFault String := do
  let maxMessageSize <- writeNat s.wire.maxMessageSize
  let responseTimeout <- writeNat s.session.responseTimeout
  let pipeCapacity <- writeNat s.session.pipeCapacity
  let lines :=
    ["[wire]",
      "versions = " ++ writeNumbers (s.wire.versions.map Version.number),
      "max_message_size = " ++ maxMessageSize,
      "",
      "[session]",
      "response_timeout_ms = " ++ responseTimeout,
      "pipe_capacity = " ++ pipeCapacity,
      "",
      "[logging]",
      "app_name = " ++ Toml.Quoted.write s.logging.appName,
      "log_level = " ++ Toml.Quoted.write s.logging.logLevel.name,
      s!"log_to_console = {s.logging.logToConsole}",
      s!"json_format = {s.logging.jsonFormat}"]
  return String.join (lines.map fun l => l ++ "\n")

def exampleDocument : String :=
  match toDocument {} with
  | .ok body => "# eth-wire configuration\n\n" ++ body
  | .error f => s!"# example unavailable: {f.cause}\n"

/-! ## Files -/

def noSuchFile : String := "No such file or directory (os error 2)"

def notText : String := "stream did not contain valid UTF-8"

def ofFile (path : String) (content : Option ByteArray) : Except SettingsFault Settings :=
  match content with
  | none => .error (.unreadable path noSuchFile)
  | some bytes =>
      match String.fromUTF8? bytes with
      | none => .error (.unreadable path notText)
      | some text => ofDocument text

def toFile (path : String) (directoryExists : Bool) (s : Settings) :
    Except SettingsFault String := do
  let text <- s.toDocument
  if directoryExists then return text else throw (.unwritable path noSuchFile)

end Settings
end ChainWire
