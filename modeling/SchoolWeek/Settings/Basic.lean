import SchoolWeek.Calendar.Event
import SchoolWeek.Settings.Address
import SchoolWeek.Settings.Storage
import SchoolWeek.Text.Blank
import SchoolWeek.Text.Utf8
import SchoolWeek.Toml.Reader

/-! The settings of the program: where the database is, where to listen, what to log
and how marker titles begin. They come from a file, and every one has a default. -/
namespace SchoolWeek

structure Settings where
  databasePath : String := "timetable.db"
  httpAddress : String := "127.0.0.1:3000"
  logFilter : String := "info"
  markerLead : String := Marker.defaultLead
  deriving DecidableEq, Repr

/-- Why there are no settings. -/
inductive SettingsError
  | unreadable
  | malformed
  | address (text : String)
  deriving DecidableEq, Repr

/-- What a path leads to. -/
inductive FileContent
  | missing
  | unreadable
  | content (text : Text.Gapped)

namespace Settings

/-- The settings in a document; a setting that is no text is a fault. -/
def read (text : List Char) : Except SettingsError Settings :=
  let settings? : Option Settings := do
    let members ← Toml.read text
    let text (key default : String) : Option String := (members.text? key).map (·.getD default)
    let defaults : Settings := {}
    return {
      databasePath := ← text "database_path" defaults.databasePath
      httpAddress := ← text "http_addr" defaults.httpAddress
      logFilter := ← text "log_filter" defaults.logFilter
      markerLead := ← text "marker_prefix" defaults.markerLead }
  match settings? with
  | some settings => .ok settings
  | none => .error .malformed

/-- The settings of a file, which need not exist but must be text if it does. -/
def ofFile : FileContent → Except SettingsError Settings
  | .missing => .ok {}
  | .unreadable => .error .unreadable
  | .content text =>
    match text.whole? with
    | some text => read text
    | none => .error .unreadable

/-- Loads the file given, or else the one the environment names, or else the defaults.
An address in the environment goes before the one of the file, unless it is blank. -/
def load (file? environmentFile? : Option FileContent) (environmentAddress? : Option String) :
    Except SettingsError Settings := do
  let settings ← ofFile ((file?.or environmentFile?).getD .missing)
  match environmentAddress? with
  | none => return settings
  | some address =>
    let address := Text.trim address.toList
    if address.isEmpty then return settings
    else return { settings with httpAddress := String.ofList address }

def address (settings : Settings) : Except SettingsError Address :=
  match Address.read? settings.httpAddress.toList with
  | some address => .ok address
  | none => .error (.address settings.httpAddress)

def isInMemory (settings : Settings) : Bool := settings.databasePath == Storage.memoryPath

end Settings

def SettingsError.message : SettingsError → String
  | .unreadable => "failed to read config"
  | .malformed => "invalid config"
  | .address text => "invalid http address '" ++ text ++ "'"

end SchoolWeek
