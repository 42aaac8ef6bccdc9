import SchoolWeek.Console.Commands
import SchoolWeek.Console.Startup

/-! A whole run of the console over a given input: the lines are read one by one until
the input ends, a line is not UTF-8, or a command ends the run. -/
namespace SchoolWeek.Console

/-- What a run may report besides its output. -/
inductive Notice
  | loggingDisabled
  | openFailed
  | failed
  deriving DecidableEq, Repr

structure Run where
  exitCode : Nat
  output : String
  notices : List Notice
  deriving DecidableEq, Repr

/-- The lines of an input without their line feeds; after the last one nothing follows. -/
def inputLines (bytes : List UInt8) : List (List UInt8) :=
  match bytes with
  | [] => []
  | byte :: bytes =>
    if byte = 10 then [] :: inputLines bytes
    else match inputLines bytes with
      | [] => [[byte]]
      | line :: lines => (byte :: line) :: lines

variable {m : Type → Type} [Monad m] [Files m]

/-- Answers one line. Changes are kept before the answer is given. -/
def respond (line : List Char) (database : Database) : m (Reply × Database) :=
  match Text.words line with
  | [] => return (.silent, database)
  | command :: words => do
    let (reply, store) ←
      execute (String.ofList command) (words.map String.ofList) database.store
    let changed := { database with store }
    if store.tables = database.store.tables then return (reply, changed)
    else
      let _ ← Startup.keep changed
      return (reply, changed)

/-- Answers the lines in turn. Gives the exit code and all that is printed, prompts included. -/
def converse : List (List UInt8) → Database → m (Nat × String)
  | [], _ => return (0, prompt)
  | line :: lines, database =>
    match (Text.decodeUtf8 line).whole? with
    | none => return (0, prompt)
    | some text => do
      match ← respond text database with
      | (.quit, _) => return (0, prompt)
      | (.crash, _) => return (101, prompt)
      | (.silent, database) =>
        let (code, output) ← converse lines database
        return (code, prompt ++ output)
      | (.say said, database) =>
        let (code, output) ← converse lines database
        return (code, prompt ++ said ++ "\n" ++ output)

/-- Runs the console once logging is settled. -/
def runOpened (notices : List Notice) (environment : Environment) (arguments : List String)
    (input : List UInt8) : m Run := do
  match ← Startup.openConsole environment arguments.head? with
  | .error _ => return ⟨1, "", notices ++ [.openFailed]⟩
  | .ok database =>
    let (code, output) ← converse (inputLines input) database
    return ⟨code, greeting ++ "\n" ++ output, notices⟩

/-- How a run ends that breaks off without a word. -/
def crashed : Run := ⟨101, "", []⟩

/-- Runs the console from start to end. It works without logging, but a log filter that breaks
a character breaks off the run. -/
def run (environment : Environment) (arguments : List String) (input : List UInt8) : m Run :=
  match Startup.checkLogging environment "warn" with
  | .error .brokenCharacter => return crashed
  | .error .malformed => runOpened [.loggingDisabled] environment arguments input
  | .ok () => runOpened [] environment arguments input

/-- Runs the service where its address cannot be bound: it fails, at the latest when it
starts to listen. -/
def runUnbindableService (environment : Environment) : m Run := do
  match ← Startup.openService environment with
  | .error (.logFilter .brokenCharacter) => return crashed
  | .error _ => return ⟨1, "", [.failed]⟩
  | .ok (_, address) => return ⟨1, Startup.listening address ++ "\n", [.failed]⟩

end SchoolWeek.Console
