import SchoolWeek.Text.Blank
import SchoolWeek.Text.Decimal
import SchoolWeek.Text.Letter
import SchoolWeek.Text.Search

/-! Regular expressions that field values are compared with, as far as it matters whether
one can be used. An expression works on characters unless it turns that off, and then on
bytes; it must never match half a character. There are no tables of characters, so on
characters no letter case can be ignored and no class has a name, but for the classes of
ASCII in brackets. Neither can one be used that is nested too deep. -/
namespace SchoolWeek.FieldPattern

/-- The flags that bear on what can be used. -/
structure Flags where
  skipsBlanks : Bool := false
  ignoresCase : Bool := false
  onCharacters : Bool := true
  deriving DecidableEq, Repr

/-- Leaves out white space and comments, which go to the end of a line. -/
def dropBlanks (inComment : Bool) : List Char → List Char
  | [] => []
  | character :: rest =>
    if inComment then dropBlanks (character != '\n') rest
    else if character = '#' then dropBlanks true rest
    else if Text.isBlank character then dropBlanks false rest
    else character :: rest

namespace Flags

/-- What is left to read, under these flags. -/
def skip (flags : Flags) (text : List Char) : List Char :=
  if flags.skipsBlanks then dropBlanks false text else text

/-- The next character that counts. It may be the one right after the mark of a comment. -/
def peek? (flags : Flags) (text : List Char) : Option Char :=
  if flags.skipsBlanks then
    match Text.trimStart text with
    | '#' :: rest => (Text.trimStart rest).head?
    | text => text.head?
  else text.head?

/-- The flags after a list of them; those behind a minus sign are turned off. -/
def apply (isOn : Bool) : List Char → Flags → Flags
  | [], flags => flags
  | '-' :: rest, flags => apply false rest flags
  | 'x' :: rest, flags => apply isOn rest { flags with skipsBlanks := isOn }
  | 'i' :: rest, flags => apply isOn rest { flags with ignoresCase := isOn }
  | 'u' :: rest, flags => apply isOn rest { flags with onCharacters := isOn }
  | _ :: rest, flags => apply isOn rest flags

end Flags

/-- How deep the items read so far are nested, in a group or a class. -/
structure Nesting where
  count : Nat := 0
  deepest : Nat := 0
  last : Nat := 0
  /-- The depth of the branches before, or of the left side of an operation. -/
  before? : Option Nat := none
  deriving DecidableEq, Repr

namespace Nesting

/-- The deepest nesting that there may be. -/
def limit : Nat := 250

def push (nesting : Nesting) (depth : Nat) : Nesting :=
  { nesting with
    count := nesting.count + 1
    deepest := max nesting.deepest depth
    last := depth }

/-- The last item is repeated. -/
def repeatLast (nesting : Nesting) : Nesting :=
  { nesting with
    deepest := max nesting.deepest (nesting.last + 1)
    last := nesting.last + 1 }

/-- Several items in a row are one level deeper than the deepest of them. -/
def sequence (nesting : Nesting) : Nat :=
  if nesting.count ≤ 1 then nesting.deepest else nesting.deepest + 1

/-- The depth of the whole group or class. -/
def total (nesting : Nesting) : Nat :=
  match nesting.before? with
  | none => nesting.sequence
  | some before => max before nesting.sequence + 1

/-- The next branch begins. All branches are on one level. -/
def branch (nesting : Nesting) : Nesting :=
  { before? := some (max (nesting.before?.getD 0) nesting.sequence) }

/-- The right side of an operation begins. All that was before is its left side. -/
def operate (nesting : Nesting) : Nesting := { before? := some nesting.total }

end Nesting

/-- What a character or a backslash with what follows it stands for. -/
inductive Item
  /-- A character. One given as a byte is none on bytes, unless it is ASCII. -/
  | literal (code : Nat) (isByte : Bool)
  /-- Digits, white space or word characters, or all others. -/
  | named (isNegated : Bool)
  /-- A place at or away from the edge of a word. -/
  | wordEdge
  /-- Another place. -/
  | edge
  deriving DecidableEq, Repr

namespace Item

def ofChar (character : Char) : Item := .literal character.toNat false

/-- The item can be matched outside brackets. -/
def isUsable (flags : Flags) : Item → Bool
  | .literal code isByte =>
    if flags.onCharacters then !flags.ignoresCase else !(isByte && 0x7F < code)
  | .named isNegated => !flags.onCharacters && !isNegated
  | .wordEdge => !flags.onCharacters
  | .edge => true

/-- The item can stand in brackets. -/
def isMember (flags : Flags) : Item → Bool
  | .literal code _ => if flags.onCharacters then !flags.ignoresCase else code ≤ 0x7F
  | .named isNegated => !flags.onCharacters && !isNegated
  | .wordEdge => false
  | .edge => false

end Item

/-- A character of this many hexadecimal digits, after those already read. -/
def readHex? (flags : Flags) : Nat → Nat → List Char → Option (Nat × List Char)
  | 0, code, rest => if code.isValidChar then some (code, rest) else none
  | count + 1, code, text =>
    match flags.skip text with
    | [] => none
    | digit :: rest =>
      (Text.appendDigit? 16 code digit).bind fun code => readHex? flags count code rest

/-- The control characters that have a letter. -/
def controlCode? : Char → Option Nat
  | 'a' => some 7
  | 't' => some 9
  | 'n' => some 10
  | 'v' => some 11
  | 'f' => some 12
  | 'r' => some 13
  | _ => none

/-- What follows a backslash. Classes by property are never usable, and neither is what
refers back to a group. -/
def readEscape? (flags : Flags) : List Char → Option (Item × List Char)
  | [] => none
  | 'x' :: rest => (readHex? flags 2 0 rest).map fun (code, rest) => (.literal code true, rest)
  | 'u' :: rest => (readHex? flags 4 0 rest).map fun (code, rest) => (.literal code false, rest)
  | 'U' :: rest => (readHex? flags 8 0 rest).map fun (code, rest) => (.literal code false, rest)
  | 'b' :: rest => if rest.head? = some '\x7b' then none else some (.wordEdge, rest)
  | character :: rest =>
    if ['d', 's', 'w'].contains character then some (.named false, rest)
    else if ['D', 'S', 'W'].contains character then some (.named true, rest)
    else if ['B', '<', '>'].contains character then some (.wordEdge, rest)
    else if ['A', 'z'].contains character then some (.edge, rest)
    else match controlCode? character with
      | some code => some (.literal code false, rest)
      | none =>
        if character.isAlphanum || 0x7F < character.toNat then none
        else some (.ofChar character, rest)

/-- A character or an escape in brackets. -/
def readMember? (flags : Flags) : List Char → Option (Item × List Char)
  | [] => none
  | '\\' :: rest => readEscape? flags rest
  | character :: rest => some (.ofChar character, rest)

/-- One member of a class or a range of characters, and what follows it. -/
def readRange? (flags : Flags) (text : List Char) : Option (List Char) := do
  let (first, rest) ← readMember? flags text
  let rest := flags.skip rest
  let next? := flags.peek? (rest.drop 1)
  if rest.head? = some '-' && next? != some ']' && next? != some '-' then
    let (last, rest) ← readMember? flags (flags.skip (rest.drop 1))
    match first, last with
    | .literal low _, .literal high _ =>
      if low ≤ high && first.isMember flags && last.isMember flags then some rest else none
    | _, _ => none
  else if first.isMember flags then some rest
  else none

/-- The names of the classes of ASCII. -/
def asciiClasses : List String :=
  ["alnum", "alpha", "ascii", "blank", "cntrl", "digit", "graph", "lower", "print", "punct",
    "space", "upper", "word", "xdigit"]

/-- The name of a class of ASCII between colons, after its bracket, and what follows it. -/
def readAscii? : List Char → Option (Bool × List Char)
  | ':' :: text =>
    let isNegated := text.head? = some '^'
    let (name, rest) := (if isNegated then text.drop 1 else text).span (· != ':')
    if asciiClasses.contains (String.ofList name) then
      (Text.dropLead? [':', ']'] rest).map fun rest => (isNegated, rest)
    else none
  | _ => none

/-- Where in a class reading stands: right after its bracket, where a minus sign stands for
itself and so does a closing bracket that comes first, or further on. -/
inductive ClassPlace
  | opened (isEmpty : Bool)
  | further
  deriving DecidableEq, Repr

/-- The members of a class whose bracket has been read. On bytes a class that leaves out
characters would match half ones. -/
def readNegation? (flags : Flags) (text : List Char) : Option (List Char) :=
  match flags.skip text with
  | '^' :: rest => if flags.onCharacters then some rest else none
  | rest => some rest

/-- How deep a class is nested and what follows it, when the rest of it is read. The classes
it lies in have been read up to here. -/
def readClass? (flags : Flags) :
    Nat → List Nesting → Nesting → ClassPlace → List Char → Option (Nat × List Char)
  | 0, _, _, _, _ => none
  | fuel + 1, outer, nesting, place, text =>
    let further (nesting : Nesting) := readClass? flags fuel outer nesting .further
    let isPlain := (Item.ofChar '-').isMember flags
    match place, flags.skip text with
    | _, [] => none
    | .opened _, '-' :: rest =>
      if isPlain then readClass? flags fuel outer (nesting.push 0) (.opened false) rest else none
    | .opened true, ']' :: rest => if isPlain then further (nesting.push 0) rest else none
    | _, '[' :: rest =>
      match readAscii? rest with
      | some (isNegated, rest) =>
        let isUsable := if flags.onCharacters then !flags.ignoresCase else !isNegated
        if isUsable then further (nesting.push 0) rest else none
      | none =>
        (readNegation? flags rest).bind (readClass? flags fuel (nesting :: outer) {} (.opened true))
    | _, ']' :: rest =>
      let depth := nesting.total + 1
      match outer with
      | [] => some (depth, rest)
      | nesting :: outer => readClass? flags fuel outer (nesting.push depth) .further rest
    | _, '&' :: '&' :: rest => further nesting.operate rest
    | _, '-' :: '-' :: rest => further nesting.operate rest
    | _, '~' :: '~' :: rest => further nesting.operate rest
    | _, text => (readRange? flags text).bind (further (nesting.push 0))

/-- How a parenthesis goes on. -/
inductive Opening
  /-- The list of the names of groups after it. -/
  | group (flags : Flags) (names : List (List Char))
  /-- Flags for what follows; the parenthesis is closed already. -/
  | flags (flags : Flags)

/-- The letters of flags, and the sign that turns off those behind it. -/
def flagLetters : List Char := ['i', 'm', 's', 'U', 'u', 'R', 'x', '-']

/-- Flags up to a colon or a parenthesis, each at most once; something follows a minus sign. -/
def readFlags? (seen : List Char) : List Char → Option (List Char × Char × List Char)
  | [] => none
  | character :: rest =>
    if character = ':' || character = ')' then
      if seen.head? = some '-' then none else some (seen.reverse, character, rest)
    else if flagLetters.contains character && !seen.contains character then
      readFlags? (character :: seen) rest
    else none

/-- A group may have this name. -/
def isGroupName : List Char → Bool
  | [] => false
  | first :: rest =>
    (first = '_' || Text.isAlphabetic first) &&
      rest.all fun character =>
        ['_', '.', '[', ']'].contains character || Text.isAlphanumeric character

/-- A new name of a group up to its closing sign. -/
def readName? (flags : Flags) (names : List (List Char)) (text : List Char) :
    Option (Opening × List Char) :=
  let (name, rest) := text.span (· != '>')
  if isGroupName name && !names.contains name && !rest.isEmpty then
    some (.group flags (name :: names), rest.drop 1)
  else none

/-- What follows a parenthesis. Looking ahead and back is not possible. -/
def readOpening? (flags : Flags) (names : List (List Char)) (text : List Char) :
    Option (Opening × List Char) :=
  match flags.skip text with
  | '?' :: '=' :: _ => none
  | '?' :: '!' :: _ => none
  | '?' :: '<' :: '=' :: _ => none
  | '?' :: '<' :: '!' :: _ => none
  | '?' :: 'P' :: '<' :: rest => readName? flags names rest
  | '?' :: '<' :: rest => readName? flags names rest
  | '?' :: rest => do
    let (list, stop, rest) ← readFlags? [] rest
    let changed := flags.apply true list
    if stop = ':' then some (.group changed names, rest)
    else if list.isEmpty then none
    else some (.flags changed, rest)
  | rest => some (.group flags names, rest)

/-- What has been read of an expression: the flags and how deep the open group is nested, the
same for the groups it lies in, the names of groups, and whether there is something to
repeat. -/
structure Progress where
  flags : Flags := {}
  nesting : Nesting := {}
  outer : List (Flags × Nesting) := []
  names : List (List Char) := []
  isRepeatable : Bool := false

/-- One more item that can be repeated. -/
def Progress.push (progress : Progress) (depth : Nat) : Progress :=
  { progress with nesting := progress.nesting.push depth, isRepeatable := true }

/-- The rest of an expression can be used. Counts of repetitions have a closing brace, which
no value of a field contains. -/
def isUsableFrom : Nat → Progress → List Char → Bool
  | 0, _, _ => false
  | fuel + 1, progress, text =>
    let flags := progress.flags
    let afterItem (item : Item) (rest : List Char) : Bool :=
      item.isUsable flags && isUsableFrom fuel (progress.push 0) rest
    let afterMark (rest : List Char) : Bool :=
      progress.isRepeatable &&
        isUsableFrom fuel { progress with nesting := progress.nesting.repeatLast }
          (if rest.head? = some '?' then rest.drop 1 else rest)
    match flags.skip text with
    | [] => progress.outer.isEmpty && progress.nesting.total ≤ Nesting.limit
    | '(' :: rest =>
      match readOpening? flags progress.names rest with
      | none => false
      | some (.flags flags, rest) =>
        isUsableFrom fuel { progress.push 0 with flags, isRepeatable := false } rest
      | some (.group inner names, rest) =>
        let outer := (flags, progress.nesting) :: progress.outer
        isUsableFrom fuel { flags := inner, outer, names } rest
    | ')' :: rest =>
      match progress.outer with
      | [] => false
      | (flags, nesting) :: outer =>
        let depth := progress.nesting.total + 1
        isUsableFrom fuel (Progress.push { progress with flags, nesting, outer } depth) rest
    | '|' :: rest =>
      isUsableFrom fuel
        { progress with nesting := progress.nesting.branch, isRepeatable := false } rest
    | '?' :: rest => afterMark rest
    | '*' :: rest => afterMark rest
    | '+' :: rest => afterMark rest
    | '\x7b' :: _ => false
    | '[' :: rest =>
      match (readNegation? flags rest).bind (readClass? flags rest.length [] {} (.opened true)) with
      | none => false
      | some (depth, rest) => isUsableFrom fuel (progress.push depth) rest
    | '.' :: rest => flags.onCharacters && isUsableFrom fuel (progress.push 0) rest
    | '^' :: rest => afterItem .edge rest
    | '$' :: rest => afterItem .edge rest
    | '\\' :: rest =>
      match readEscape? flags rest with
      | none => false
      | some (item, rest) => afterItem item rest
    | character :: rest => afterItem (.ofChar character) rest

def isUsable (text : List Char) : Bool := isUsableFrom (text.length + 1) {} text

end SchoolWeek.FieldPattern
