import SchoolWeek.Text.Decimal

/-! JSON values that are written, and their two written forms: on one line, and
indented by two spaces. -/
namespace SchoolWeek

/-- A JSON value without fractions. The members of an object keep their order. -/
inductive Json
  | null
  | bool (value : Bool)
  | number (value : Int)
  | text (value : String)
  | array (items : List Json)
  | object (members : List (String × Json))
  deriving Repr, Inhabited

namespace Json

/-- The member, unless it is absent. -/
def optional (name : String) (value? : Option Json) : List (String × Json) :=
  value?.toList.map fun value => (name, value)

def ofNat (value : Nat) : Json := .number value

/-- A value that may be missing, with null for a missing one. -/
def orNull (value? : Option Json) : Json := value?.getD .null

def hexDigit (value : Nat) : Char := (Nat.digitChar value)

/-- A character inside quotes. Quotes, backslashes and control characters are escaped. -/
def escaped (character : Char) : List Char :=
  if character = '"' then ['\\', '"']
  else if character = '\\' then ['\\', '\\']
  else if character = '\n' then ['\\', 'n']
  else if character = '\r' then ['\\', 'r']
  else if character = '\t' then ['\\', 't']
  else if character.toNat = 8 then ['\\', 'b']
  else if character.toNat = 12 then ['\\', 'f']
  else if character.toNat < 32 then
    ['\\', 'u', '0', '0', hexDigit (character.toNat / 16), hexDigit (character.toNat % 16)]
  else [character]

def quoted (text : String) : List Char := '"' :: text.toList.flatMap escaped ++ ['"']

/-- Parts with a separator between them. -/
def joined (separator : List Char) (parts : List (List Char)) : List Char :=
  separator.intercalate parts

mutual

/-- The value on one line, without spaces. -/
def compact : Json → List Char
  | .null => "null".toList
  | .bool true => "true".toList
  | .bool false => "false".toList
  | .number value => Text.signedDecimal value
  | .text value => quoted value
  | .array items => '[' :: joined [','] (compactItems items) ++ [']']
  | .object members => '\x7b' :: joined [','] (compactMembers members) ++ ['\x7d']

def compactItems : List Json → List (List Char)
  | [] => []
  | item :: items => compact item :: compactItems items

def compactMembers : List (String × Json) → List (List Char)
  | [] => []
  | (name, value) :: members => (quoted name ++ ':' :: compact value) :: compactMembers members

end

/-- A new line with an indentation. -/
def newLine (depth : Nat) : List Char := '\n' :: List.replicate (2 * depth) ' '

/-- A container with each part on a line of its own; an empty one stays closed up. -/
def block (first last : Char) (depth : Nat) (parts : List (List Char)) : List Char :=
  match parts with
  | [] => [first, last]
  | parts =>
    first :: newLine (depth + 1) ++ joined (',' :: newLine (depth + 1)) parts ++
      newLine depth ++ [last]

mutual

/-- The value over several lines, in a container of the given depth. -/
def indented (depth : Nat) : Json → List Char
  | .array items => block '[' ']' depth (indentedItems (depth + 1) items)
  | .object members => block '\x7b' '\x7d' depth (indentedMembers (depth + 1) members)
  | value => compact value

def indentedItems (depth : Nat) : List Json → List (List Char)
  | [] => []
  | item :: items => indented depth item :: indentedItems depth items

def indentedMembers (depth : Nat) : List (String × Json) → List (List Char)
  | [] => []
  | (name, value) :: members =>
    (quoted name ++ ':' :: ' ' :: indented depth value) :: indentedMembers depth members

end

/-- The value over several lines, indented by two spaces, without a final line feed. -/
def pretty (value : Json) : List Char := indented 0 value

end Json
end SchoolWeek
