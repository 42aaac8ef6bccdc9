import SchoolWeek.Text.Blank
import SchoolWeek.Text.Search

/-! The kinds of special schedule and how the name of a pattern selects one:
keywords are looked for in a fixed order of kinds, and the first kind with a
keyword in the name wins. Letters count without their case. -/
namespace SchoolWeek

inductive Kind
  | normal | shortA | shortB | shortC | exam | custom
  deriving DecidableEq, Repr, Inhabited

namespace Kind

def all : List Kind := [normal, shortA, shortB, shortC, exam, custom]

/-- The name of the kind on the wire and on the screen. -/
def code : Kind → String
  | normal => "normal"
  | shortA => "short_a"
  | shortB => "short_b"
  | shortC => "short_c"
  | exam => "exam"
  | custom => "custom"

/-- The pattern name offered for a kind; a custom pattern has none. -/
def patternName? : Kind → Option String
  | normal => some "通常時程"
  | shortA => some "短縮A時程"
  | shortB => some "短縮B時程"
  | shortC => some "短縮C時程"
  | exam => some "テスト時程"
  | custom => none

/-- The kinds that have a pattern name, with it. -/
def builtIn : List (Kind × String) :=
  all.filterMap fun kind => kind.patternName?.map fun name => (kind, name)

/-- Reads the code of a kind in either case, with white space around it. -/
def ofText? (text : String) : Option Kind :=
  let wanted := (Text.trim text.toList).map Char.toLower
  all.find? (·.code.toList == wanted)

/-- The kinds that have keywords, most telling first, with their keywords in lower case. -/
def keywords : List (Kind × List String) :=
  [(shortA, ["短縮a"]), (shortB, ["短縮b"]), (shortC, ["短縮c"]),
    (exam, ["テスト", "試験"]), (normal, ["通常"])]

/-- The first kind with a keyword in the name. A name without keywords is custom. -/
def ofPatternName (name : List Char) : Kind :=
  let lowered := name.map Char.toLower
  match keywords.find? fun entry => entry.2.any (Text.occurs ·.toList lowered) with
  | some (kind, _) => kind
  | none => custom

end Kind
end SchoolWeek
