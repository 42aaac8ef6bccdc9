import SchoolWeek.Console.Files
import SchoolWeek.Exchange.TableFile
import SchoolWeek.Settings.Basic
import SchoolWeek.Settings.LogFilter

/-! What happens before the console or the service can work: the settings are loaded,
the log filter is checked and the database is opened. -/
namespace SchoolWeek

/-- The variables of the environment. -/
abbrev Environment := String → Option String

namespace Environment

def settingsFile : String := "TIMETABLE_REMAP_CONFIG"

def address : String := "TIMETABLE_REMAP_HTTP_ADDR"

def logFilter : String := "TIMETABLE_REMAP_LOG"

def commonLogFilter : String := "RUST_LOG"

end Environment

/-- Why the program cannot start. -/
inductive StartError
  | settings (error : SettingsError)
  | logFilter (fault : LogFilter.Fault)
  | database (path : String)
  deriving DecidableEq, Repr

def StartError.message : StartError → String
  | .settings error => error.message
  | .logFilter _ => "invalid logging filter"
  | .database path => "unable to open database file: " ++ path

/-- An opened database; one without a path is kept nowhere. -/
structure Database where
  path? : Option String
  store : TableStore

namespace Startup

/-- The filter that the program asks for is replaced by one in the environment, if that
one is not blank; such a filter must be valid. The common variable of all programs
counts only if it is well-formed. -/
def checkLogging (environment : Environment) (own : String) : Except LogFilter.Fault Unit :=
  match environment Environment.logFilter with
  | some filter => if Text.allBlank filter.toList then common else LogFilter.check filter
  | none => common
where
  common : Except LogFilter.Fault Unit :=
    match (environment Environment.commonLogFilter).map LogFilter.check with
    | some (.ok ()) => .ok ()
    | some (.error .brokenCharacter) => .error .brokenCharacter
    | _ => LogFilter.check own

variable {m : Type → Type} [Monad m] [Files m]

/-- What a settings path leads to. A path to nothing counts as no settings. -/
def settingsContent (path : String) : m FileContent := do
  match ← Files.read path with
  | .ok bytes => return .content (Text.decodeUtf8 bytes)
  | .error (.opening _) => return .missing
  | .error (.reading _) => return .unreadable

/-- The settings as the environment has them. -/
def loadSettings (environment : Environment) : m (Except SettingsError Settings) := do
  let file? ← (environment Environment.settingsFile).mapM settingsContent
  return Settings.load none file? (environment Environment.address)

/-- Writes a database to its file, if it has one. -/
def keep (database : Database) : m (Except FileFault Unit) :=
  match database.path? with
  | none => return .ok ()
  | some path => Files.write path (Text.encodeUtf8 (TableFile.write database.store.tables))

/-- A path that leads back to the directory where it began or, if it is absolute, to the root. -/
def joined (isAbsolute : Bool) (parts : List String) : String :=
  let path := "/".intercalate parts
  if isAbsolute then "/" ++ path else if parts.isEmpty then "." else path

/-- A path with another part. Going up takes away a part, if there is one to take away. -/
def extended (isAbsolute : Bool) (place : List String) (part : String) : List String :=
  if part.isEmpty || part = "." then place
  else if part = ".." then
    if place.getLast?.any (· != "..") then place.dropLast
    else if isAbsolute then place else place ++ [".."]
  else place ++ [part]

/-- The path that a path leads to when the parts that go up take away the parts before them.
On the way there may be names that lead nowhere, but none that could lead nowhere at all. -/
def simplified (isAbsolute : Bool) (place : List String) : List String → m (Option String)
  | [] => return some (joined isAbsolute place)
  | part :: parts => do
    let next := extended isAbsolute place part
    match ← Files.read (joined isAbsolute next) with
    | .error (.opening .missing) => simplified isAbsolute next parts
    | .error (.opening _) => return none
    | _ => simplified isAbsolute next parts

/-- The longest name of a database file. A journal beside it has a longer name. -/
def longestDatabaseName : Nat := Path.longestName - "-journal".utf8ByteSize

/-- The name at the end of the path leaves room for the name of the journal. -/
def leavesRoom (path : String) : Bool :=
  ((Path.parts path).getLast?.map String.utf8ByteSize).getD 0 ≤ longestDatabaseName

/-- Makes empty tables in the file of a database. That needs the right to write and room for
a journal. -/
def makeTables (database : Database) (path : String) : m (Option Database) := do
  if database.store.isReadOnly || !leavesRoom path then return none
  else
    match ← keep database with
    | .ok () => return some database
    | .error _ => return none

/-- Opens the file of a database. A missing file is made first, even if nothing can be made
in it then. -/
def openFile (path lead : String) (access : Access) (isFrozen : Bool) : m (Option Database) := do
  let database (tables : Tables) : Database :=
    ⟨some path, { tables, lead, isReadOnly := access = .read || isFrozen }⟩
  match ← Files.read path with
  | .ok bytes =>
    if TableFile.isBlank bytes then makeTables (database .empty) path
    else return (TableFile.read? bytes).map database
  | .error (.opening .missing) =>
    if access != .create then return none
    else
      match ← Files.write path [] with
      | .ok () => makeTables (database .empty) path
      | .error _ => return none
  | .error _ => return none

/-- Opens a database where its name says. -/
def openStorage (lead : String) : Option Storage → m (Option Database)
  | none => return none
  | some .nowhere => return some ⟨none, .empty lead⟩
  | some (.file path access isFrozen) => do
    match ← simplified (Path.isAbsolute path) [] (Path.parts path) with
    | none => return none
    | some path => openFile path lead access isFrozen

/-- Opens the database of the settings, or makes a new one where there is none. -/
def openDatabase (settings : Settings) : m (Except StartError Database) := do
  match ← openStorage settings.markerLead (Storage.ofName? settings.databasePath) with
  | some database => return .ok database
  | none => return .error (.database settings.databasePath)

/-- Opens the database for the console. A path among the arguments goes before the one in
the settings. -/
def openConsole (environment : Environment) (path? : Option String) :
    m (Except StartError Database) := do
  match ← loadSettings environment with
  | .error error => return .error (.settings error)
  | .ok settings =>
    openDatabase { settings with databasePath := path?.getD settings.databasePath }

/-- Opens the database for the service and finds the address to listen at. -/
def openService (environment : Environment) : m (Except StartError (Database × Address)) := do
  match ← loadSettings environment with
  | .error error => return .error (.settings error)
  | .ok settings =>
    match checkLogging environment settings.logFilter with
    | .error fault => return .error (.logFilter fault)
    | .ok () =>
      match ← openDatabase settings with
      | .error error => return .error error
      | .ok database =>
        match settings.address with
        | .error error => return .error (.settings error)
        | .ok address => return .ok (database, address)

/-- What the service says once it knows where to listen. -/
def listening (address : Address) : String :=
  "timetable-remap HTTP API listening on http://" ++ address.text

end Startup
end SchoolWeek
