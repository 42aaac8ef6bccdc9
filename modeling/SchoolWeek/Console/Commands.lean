import SchoolWeek.Console.Files
import SchoolWeek.Console.Layout
import SchoolWeek.Engine
import SchoolWeek.Exchange.Sheet
import SchoolWeek.Exchange.Snapshot

/-! The commands of the console. A command is a line of words; what it does to the
backend and what it says are plain values, and only loading and saving touch files. -/
namespace SchoolWeek.Console

/-- What a command says, if anything. A command may also end the program, or break off
without a word. -/
inductive Reply
  | say (text : String)
  | silent
  | quit
  | crash
  deriving DecidableEq, Repr

def greeting : String := "Timetable Remap (CLI) - type 'help' for commands\n"

def prompt : String := "> "

def help : String :=
  "\n".intercalate [
    "Commands:",
    "  help                                   Show this help",
    "  patterns                               List built-in schedule patterns",
    "  classify <name...>                     Show the schedule kind for a pattern name",
    "  parse <notation>                       Parse arrow notation (use '|' between lines)",
    "  preview <YYYY-MM-DD> <pattern...>      Show the remapping a pattern would produce",
    "  timetable show                         Show the base weekly timetable",
    "  timetable set <day> <period> <subject> [room] [color]",
    "                                         Upsert a base entry (day is 月..日)",
    "  timetable remove <day> <period>        Remove a base entry",
    "  timetable load <json|csv> <path>       Replace the base timetable from disk",
    "  timetable save <json|csv> <path>       Write the base timetable to disk",
    "  apply <YYYY-MM-DD> <pattern...>        Apply a named special schedule",
    "  custom <YYYY-MM-DD> <notation>         Apply custom notation (use '|' between lines)",
    "  remove <YYYY-MM-DD>                    Remove the special schedule for a date",
    "  show <YYYY-MM-DD>                      Show the effective schedule for a date",
    "  specials <start> <end>                 List dates with special schedules",
    "  quit|exit                              Exit"]

def sentence (words : List String) : String := " ".intercalate words

/-- Words as a notation, with bars in the place of line feeds. -/
def notationOf (words : List String) : List Char :=
  Text.substitute '|' ['\n'] (sentence words).toList

/-- The first word as a date. -/
def readDate? (words : List String) : Option Date := words.head?.bind Date.read?

/-- A word that is one weekday glyph. -/
def readDay? (word : String) : Option Weekday :=
  match word.toList with
  | [character] => Weekday.ofGlyph? character
  | _ => none

def readPeriod? (word : String) : Option Nat := Text.byte? 10 word.toList

def cellText (day : Weekday) (period : Nat) : String := DataError.cellText day period

def patterns : String :=
  "\n".intercalate ("Built-in patterns:" ::
    Kind.builtIn.map fun (kind, name) => "  " ++ padEnd 10 kind.code ++ " " ++ name)

def classify (words : List String) : String :=
  if words.isEmpty then "Usage: classify <name...>"
  else "Kind: " ++ (Kind.ofPatternName (sentence words).toList).code

def renderText (remaps : List Remap) : String := String.ofList (Mapping.render remaps)

def parse (words : List String) : String :=
  if words.isEmpty then "Usage: parse <notation>"
  else
    match Mapping.read (notationOf words) with
    | [] => "No mappings parsed."
    | remaps => "Parsed " ++ number remaps.length ++ " mapping(s):\n" ++ renderText remaps

def preview (words : List String) : String :=
  match readDate? words with
  | none => "Usage: preview <YYYY-MM-DD> <pattern...>"
  | some date =>
    match Plan.ofPatternName (sentence (words.drop 1)).toList date.weekday with
    | [] => "No remapping (normal schedule)."
    | remaps => renderText remaps

section
variable {σ : Type} [Backend σ]

def showWeek (state : σ) : String × σ :=
  match Backend.entries state with
  | (.ok entries, state) => (weekTable entries, state)
  | (.error error, state) => ("Error reading timetable: " ++ error.message, state)

/-- The entries without those of a cell. -/
def withoutCell (cell : Weekday × Nat) (entries : List Entry) : List Entry :=
  entries.filter (·.cell != cell)

/-- Fills a cell by reading all entries and writing them back. -/
def setEntry (entry : Entry) (state : σ) : Except StoreError Unit × σ :=
  match Backend.entries state with
  | (.error error, state) => (.error error, state)
  | (.ok entries, state) => Backend.replaceEntries (withoutCell entry.cell entries ++ [entry]) state

/-- Empties a cell the same way, and says whether there was an entry in it. -/
def removeEntry (cell : Weekday × Nat) (state : σ) : Except StoreError Bool × σ :=
  match Backend.entries state with
  | (.error error, state) => (.error error, state)
  | (.ok entries, state) =>
    let kept := withoutCell cell entries
    let (result, state) := Backend.replaceEntries kept state
    (result.map fun _ => kept.length != entries.length, state)

def setCommand (words : List String) (state : σ) : String × σ :=
  let usage := "Usage: timetable set <day> <period> <subject> [room] [color]"
  match words with
  | day :: period :: subject :: rest =>
    match readDay? day, readPeriod? period with
    | some day, some period =>
      match setEntry ⟨day, period, subject, rest[0]?, rest[1]?⟩ state with
      | (.ok (), state) => ("Entry " ++ cellText day period ++ " set.", state)
      | (.error error, state) => ("Error: " ++ error.message, state)
    | _, _ => (usage, state)
  | _ => (usage, state)

def removeCommand (words : List String) (state : σ) : String × σ :=
  match words[0]?.bind readDay?, words[1]?.bind readPeriod? with
  | some day, some period =>
    match removeEntry (day, period) state with
    | (.ok true, state) => ("Entry " ++ cellText day period ++ " removed.", state)
    | (.ok false, state) => ("Entry " ++ cellText day period ++ " not found.", state)
    | (.error error, state) => ("Error: " ++ error.message, state)
  | _, _ => ("Usage: timetable remove <day> <period>", state)

/-- Stores loaded entries, or says why there are none. -/
def storeLoaded (path : String) (loaded : Except FileError (List Entry)) (state : σ) :
    String × σ :=
  match loaded with
  | .error error => ("Error loading timetable: " ++ error.message, state)
  | .ok entries =>
    match Backend.replaceEntries entries state with
    | (.ok (), state) => ("Timetable loaded from " ++ path ++ ".", state)
    | (.error error, state) => ("Error storing timetable: " ++ error.message, state)

/-- Applies a special schedule. A day without a next one breaks the command off. -/
def applyWith (date : Date) (patternName : String) (custom? : Option String) (state : σ) :
    Reply × σ :=
  match Engine.apply date patternName custom? state with
  | (.ok true, state) => (.say ("Special schedule applied to " ++ date.text ++ "."), state)
  | (.ok false, state) =>
    (.say ("Marker set for " ++ date.text ++ " but nothing to remap."), state)
  | (.error (.calendar (.noNextDay _)), state) => (.crash, state)
  | (.error error, state) => (.say ("Error applying special schedule: " ++ error.message), state)

/-- The commands `apply` and `custom`; a custom notation is its own pattern name. -/
def applyCommand (command : String) (words : List String) (state : σ) : Reply × σ :=
  match readDate? words, words.drop 1 with
  | some date, word :: rest =>
    if command = "custom" then
      let text := String.ofList (notationOf (word :: rest))
      applyWith date text (some text) state
    else applyWith date (sentence (word :: rest)) none state
  | _, _ => (.say ("Usage: " ++ command ++ " <YYYY-MM-DD> <pattern...>"), state)

def removeSpecial (words : List String) (state : σ) : String × σ :=
  match readDate? words with
  | none => ("Usage: remove <YYYY-MM-DD>", state)
  | some date =>
    match Engine.remove date state with
    | (.ok true, state) => ("Special schedule removed from " ++ date.text ++ ".", state)
    | (.ok false, state) => ("No special schedule on " ++ date.text ++ ".", state)
    | (.error error, state) => ("Error removing special schedule: " ++ error.message, state)

def showDay (words : List String) (state : σ) : String × σ :=
  match readDate? words with
  | none => ("Usage: show <YYYY-MM-DD>", state)
  | some date =>
    let (slots, state) := Engine.effectiveSchedule date state
    (date.text ++ " (" ++ date.weekday.glyph.toString ++ ")\n" ++
      dayTable (Slot.sortByPeriod slots), state)

/-- A date with the name of its pattern, whose line feeds show as bars. -/
def specialLine (date : Date) (state : σ) : String × σ :=
  let (record, state) := Backend.record date state
  let name := ((record.toOption.bind id).map Record.patternName).getD ""
  ("  " ++ date.text ++ " " ++ String.ofList (Text.substitute '\n' [' ', '|', ' '] name.toList),
    state)

def specialLines : List Date → σ → List String × σ
  | [], state => ([], state)
  | date :: dates, state =>
    let (line, state) := specialLine date state
    let (lines, state) := specialLines dates state
    (line :: lines, state)

def listSpecials (words : List String) (state : σ) : String × σ :=
  match readDate? words, readDate? (words.drop 1) with
  | some first, some last =>
    match Backend.specialDates first last state with
    | (.ok [], state) => ("No special schedules.", state)
    | (.ok dates, state) =>
      let (lines, state) := specialLines dates state
      ("\n".intercalate lines, state)
    | (.error error, state) => ("Error listing special schedules: " ++ error.message, state)
  | _, _ => ("Usage: specials <YYYY-MM-DD> <YYYY-MM-DD>", state)

end

section
variable {m : Type → Type} [Monad m] [Files m]

def formatOf? : String → Option FileFormat
  | "json" => some .json
  | "csv" => some .csv
  | _ => none

/-- The format and the path of a load or save. -/
def fileArguments? (words : List String) : Option (FileFormat × String) :=
  match words with
  | format :: path :: _ => (formatOf? format).map fun format => (format, path)
  | _ => none

/-- The entries in what was read from a path. What cannot be read is a table without rows. -/
def entriesOf (format : FileFormat) :
    Except ReadFailure (List UInt8) → Except FileError (List Entry)
  | .error (.opening fault) => .error (.io fault.message)
  | .error (.reading fault) =>
    match format with
    | .json => .error (.unreadable fault.message)
    | .csv => .error (.data .noEntries)
  | .ok bytes =>
    match format with
    | .json => Snapshot.load (Text.decodeUtf8 bytes)
    | .csv => Sheet.load (Text.decodeUtf8 bytes)

/-- The content of the file for the entries. -/
def contentOf (format : FileFormat) (entries : List Entry) : Except FileError (List Char) :=
  match format with
  | .json => Snapshot.save entries
  | .csv => Sheet.save entries

def loadCommand {σ : Type} [Backend σ] (words : List String) (state : σ) : m (String × σ) :=
  match fileArguments? words with
  | none => return ("Usage: timetable load <json|csv> <path>", state)
  | some (format, path) => do
    let content ← Files.read path
    return storeLoaded path (entriesOf format content) state

/-- Writes the entries into a file and says how that went. -/
def saveEntries (format : FileFormat) (path : String) (entries : List Entry) : m String := do
  match contentOf format entries with
  | .error error => return "Error saving timetable: " ++ error.message
  | .ok content =>
    match ← Files.write path (Text.encodeUtf8 content) with
    | .ok () => return "Timetable saved to " ++ path ++ "."
    | .error fault => return "Error saving timetable: " ++ (FileError.io fault.message).message

def saveCommand {σ : Type} [Backend σ] (words : List String) (state : σ) : m (String × σ) :=
  match Backend.entries state with
  | (.error error, state) => return ("Error reading timetable: " ++ error.message, state)
  | (.ok entries, state) =>
    match fileArguments? words with
    | none => return ("Usage: timetable save <json|csv> <path>", state)
    | some (format, path) => do
      let said ← saveEntries format path entries
      return (said, state)

def timetableCommand {σ : Type} [Backend σ] (words : List String) (state : σ) : m (String × σ) :=
  match words with
  | [] => return showWeek state
  | "show" :: _ => return showWeek state
  | "set" :: words => return setCommand words state
  | "remove" :: words => return removeCommand words state
  | "load" :: words => loadCommand words state
  | "save" :: words => saveCommand words state
  | other :: _ =>
    return ("Unknown timetable command '" ++ other ++ "'.\n" ++
      "Usage: timetable show|set|remove|load|save ...", state)

/-- Carries out the command of a line that is not blank. -/
def execute {σ : Type} [Backend σ] (command : String) (words : List String) (state : σ) :
    m (Reply × σ) :=
  let said (result : String × σ) : Reply × σ := (.say result.1, result.2)
  match command with
  | "help" => return (.say help, state)
  | "quit" => return (.quit, state)
  | "exit" => return (.quit, state)
  | "patterns" => return (.say patterns, state)
  | "classify" => return (.say (classify words), state)
  | "parse" => return (.say (parse words), state)
  | "preview" => return (.say (preview words), state)
  | "timetable" => said <$> timetableCommand words state
  | "apply" => return applyCommand "apply" words state
  | "custom" => return applyCommand "custom" words state
  | "remove" => return said (removeSpecial words state)
  | "show" => return said (showDay words state)
  | "specials" => return said (listSpecials words state)
  | _ => return (.say "Unknown command. Type 'help'.", state)

end
end SchoolWeek.Console
