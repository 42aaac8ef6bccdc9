import SchoolWeek.Console.Program

/-! The console as a program of the machine: it reads lines from the standard input and
answers on the standard output. What it answers is decided elsewhere. -/
namespace SchoolWeek.Console

/-- The reason that the machine gives for a failed access to a file. -/
def faultOf : IO.Error → FileFault
  | .noFileOrDirectory .. => .missing
  | .inappropriateType _ 20 _ => .notDirectory
  | .inappropriateType _ 21 _ => .isDirectory
  | .invalidArgument _ 36 _ => .nameTooLong
  | .permissionDenied _ code details => .other (details ++ errorNumber code)
  | .resourceExhausted _ code details => .other (details ++ errorNumber code)
  | error => .other error.toString
where
  errorNumber (code : UInt32) : String := " (os error " ++ toString code.toNat ++ ")"

def readFile (path : String) : IO (Except ReadFailure (List UInt8)) := do
  if let some fault := Path.fault? path then return .error (.opening fault)
  match ← EIO.toBaseIO (IO.FS.Handle.mk path .read) with
  | .error error => return .error (.opening (faultOf error))
  | .ok file =>
    match ← EIO.toBaseIO file.readBinToEnd with
    | .error error => return .error (.reading (faultOf error))
    | .ok content => return .ok content.toList

def writeFile (path : String) (content : List UInt8) : IO (Except FileFault Unit) := do
  if let some fault := Path.fault? path then return .error fault
  match ← EIO.toBaseIO (IO.FS.writeBinFile path ⟨content.toArray⟩) with
  | .error error => return .error (faultOf error)
  | .ok () => return .ok ()

instance : Files IO where
  read := readFile
  write := writeFile

/-- The variables that the program looks at, as they are when it starts. -/
def currentEnvironment : IO Environment := do
  let names := [Environment.settingsFile, Environment.address, Environment.logFilter,
    Environment.commonLogFilter]
  let values ← names.mapM fun name => return (name, ← IO.getEnv name)
  return fun name => (values.lookup name).bind id

/-- The bytes of the next line, without its line feed; nothing once the input has ended. -/
partial def readLine? (input : IO.FS.Stream) : IO (Option (List UInt8)) := do
  let rec more (line : Array UInt8) : IO (Option (List UInt8)) := do
    let next ← input.read 1
    match next.toList with
    | [] => return if line.isEmpty then none else some line.toList
    | byte :: _ => if byte = 10 then return some line.toList else more (line.push byte)
  more #[]

/-- Answers line after line, and gives the exit code in the end. -/
partial def serveLines (input output : IO.FS.Stream) (database : Database) : IO UInt32 := do
  output.putStr prompt
  output.flush
  match ((← readLine? input).map Text.decodeUtf8).bind Text.Gapped.whole? with
  | none => return 0
  | some line =>
    match ← respond line database with
    | (.quit, _) => return 0
    | (.crash, _) => return 101
    | (.silent, database) => serveLines input output database
    | (.say said, database) =>
      output.putStr (said ++ "\n")
      serveLines input output database

/-- Opens the database that the first argument or else the settings name, and answers. -/
def openAndServe (environment : Environment) (arguments : List String) : IO UInt32 := do
  match ← Startup.openConsole environment arguments.head? with
  | .error error =>
    (← IO.getStderr).putStr ("Failed to open timetable store: " ++ error.message ++ "\n")
    return 1
  | .ok database =>
    let output ← IO.getStdout
    output.putStr (greeting ++ "\n")
    serveLines (← IO.getStdin) output database

/-- Looks at the log filter first. A bad one leaves the console without logging. -/
def start (arguments : List String) : IO UInt32 := do
  let environment ← currentEnvironment
  match Startup.checkLogging environment "warn" with
  | .error .brokenCharacter => return 101
  | .error .malformed =>
    (← IO.getStderr).putStr "Logging disabled: invalid filter\n"
    openAndServe environment arguments
  | .ok () => openAndServe environment arguments

end SchoolWeek.Console

def main (arguments : List String) : IO UInt32 := SchoolWeek.Console.start arguments
