import SchoolWeek.Text.Blank
import SchoolWeek.Text.Decimal
import SchoolWeek.Text.Percent
import SchoolWeek.Text.Search
import SchoolWeek.Text.Utf8

/-! Where a database is kept, as its name in the settings says: nowhere at all, or in a
file. A name that begins with `file:` is an address, in which a path and options may follow
with percent signs; any other name is a path. -/
namespace SchoolWeek

/-- What may be done with the file of a database. -/
inductive Access
  | read
  | write
  /-- Also make the file if it is missing. -/
  | create
  deriving DecidableEq, Repr

inductive Storage
  | nowhere
  /-- A frozen file is never written, even if it may be made. -/
  | file (path : String) (access : Access) (isFrozen : Bool)
  deriving DecidableEq, Repr

namespace Storage

/-- What the option `mode` asks for: a way to use the file, or no file. -/
inductive Mode
  | access (access : Access)
  | memory
  deriving DecidableEq, Repr

namespace Mode

def ofName? : String → Option Mode
  | "ro" => some (.access .read)
  | "rw" => some (.access .write)
  | "rwc" => some (.access .create)
  | "memory" => some .memory
  | _ => none

/-- The modes in the order in which a later option may go down, but not up. -/
def rank : Mode → Nat
  | .access .read => 0
  | .access .write => 1
  | .access .create => 2
  | .memory => 3

/-- One mode can follow another in the same address. No file is always possible. -/
def allows (mode later : Mode) : Bool := later = .memory || later.rank ≤ mode.rank

end Mode

/-- The path that stands for a database that is kept nowhere. -/
def memoryPath : String := ":memory:"

/-- The ways of locking a file that there are. -/
def lockings : List String := ["unix", "unix-none", "unix-dotfile", "unix-excl"]

/-- The system that keeps files nowhere. -/
def memorySystem : String := "memdb"

/-- What the options of an address have said so far. -/
structure Choice where
  mode : Mode := .access .create
  system : String := "unix"
  deriving DecidableEq, Repr

/-- One more option. Those of other names do not matter here. -/
def choose? (choice : Choice) (option : String × String) : Option Choice :=
  match option with
  | ("vfs", system) => some { choice with system }
  | ("cache", cache) => if cache = "shared" || cache = "private" then some choice else none
  | ("mode", name) =>
    (Mode.ofName? name).bind fun mode =>
      if choice.mode.allows mode then some { choice with mode } else none
  | _ => some choice

/-- A value means yes: a number that is not zero in its last byte, or a word. -/
def isYes (value : String) : Bool :=
  let digits := value.toList.takeWhile Char.isDigit
  if digits.isEmpty then ["on", "yes", "true"].contains (String.ofList (value.toList.map Char.toLower))
  else
    let number := Text.ofDigits digits
    number < Nat.pow 2 31 && number % 256 != 0

/-- A part of an address as a text. A zero byte in it ends the part. -/
def decodePart (part : List Char) : String :=
  let bytes := (Text.percentDecode (Text.encodeUtf8 part)).takeWhile (· != 0)
  String.ofList (Text.decodeUtf8 bytes).lossy

/-- A name with its value. Without an equals sign the value is empty. -/
def decodeOption (part : List Char) : String × String :=
  let (name, value) := (Text.cut? '=' part).getD (part, [])
  (decodePart name, decodePart value)

/-- What follows the name of a server, which can only be this machine. -/
def dropServer? (address : List Char) : Option (List Char) :=
  match address with
  | '/' :: '/' :: rest =>
    let (server, rest) := rest.span (· != '/')
    if server.isEmpty || server == "localhost".toList then some rest else none
  | _ => some address

/-- The storage that a path and options name. Tables cannot be made where nothing is kept
and nothing may be written. -/
def ofOptions? (path : String) (options : List (String × String)) : Option Storage := do
  let choice ← options.foldlM choose? {}
  let isMemory := choice.system = memorySystem
  let isFrozen := (options.lookup "immutable").any isYes
  if !(isMemory || lockings.contains choice.system) then none
  else match choice.mode with
    | .memory => some .nowhere
    | .access access =>
      if path.isEmpty || path = memoryPath then if access = .read then none else some .nowhere
      else if isMemory then if access = .read || isFrozen then none else some .nowhere
      else some (.file path access isFrozen)

/-- The storage of an address, after its scheme. What follows a number sign does not count,
and neither do options without a name. -/
def ofAddress? (address : List Char) : Option Storage := do
  let rest ← dropServer? address
  let (path, query) := (rest.takeWhile (· != '#')).span (· != '?')
  let options := (Text.split (· == '&') (query.drop 1)).map decodeOption
  ofOptions? (decodePart path) (options.filter (!·.1.isEmpty))

/-- The storage of a name, if it names any. -/
def ofName? (name : String) : Option Storage :=
  if name.toList.contains '\x00' then none
  else match Text.dropLead? "file:".toList name.toList with
    | some address => ofAddress? address
    | none =>
      if name.isEmpty || name = memoryPath then some .nowhere else some (.file name .create false)

end Storage
end SchoolWeek
