/-! The tree that a TOML document builds up, and the rules by which keys and headers
may extend it. Texts are kept; of other values only that they are there, and of a
list of tables only the last one, which is the only one that can still grow. -/
namespace SchoolWeek.Toml

/-- How a table came into being. -/
inductive Origin
  /-- By a header, or as the document itself. -/
  | header
  /-- As a step on the way to a table with a header. -/
  | implied
  /-- As a step of a dotted key. -/
  | dotted
  deriving DecidableEq, Repr

inductive Node
  | text (value : String)
  | other
  | table (origin : Origin) (members : List (String × Node))
  | tables (last : List (String × Node))
  deriving Repr, Inhabited

abbrev Members := List (String × Node)

namespace Members

/-- The members with the value of one key exchanged. -/
def set (key : String) (node : Node) : Members → Members
  | [] => []
  | (name, old) :: members =>
    if name = key then (name, node) :: members else (name, old) :: set key node members

/-- Changes the table at the end of a path. Missing tables on the way are made, as the
origin says. A table with a header of its own is closed to dotted keys. -/
def change (made : Origin) (edit : Origin → Members → Option Members) :
    List String → Origin → Members → Option Members
  | [], origin, members => edit origin members
  | key :: path, _, members =>
    match members.lookup key with
    | none => (change made edit path made []).map fun inner =>
      members ++ [(key, .table made inner)]
    | some (.table origin inner) =>
      if made = .dotted ∧ origin = .header then none
      else (change made edit path origin inner).map fun inner =>
        set key (.table origin inner) members
    | some (.tables last) =>
      (change made edit path .header last).map fun last => set key (.tables last) members
    | some _ => none

/-- Adds a value under a key that is not there yet, in a table that the same kind of
key has made. -/
def add (isDotted : Bool) (key : String) (node : Node) (origin : Origin) (members : Members) :
    Option Members :=
  if (origin == .dotted) != isDotted || (members.lookup key).isSome then none
  else some (members ++ [(key, node)])

/-- Adds the value of a key that may have several parts; the last part is given first. -/
def addKey (path : List String) (key : String) (node : Node) (members : Members) :
    Option Members :=
  change .dotted (add (!path.isEmpty) key node) path .header members

/-- Opens the table of a header, which must be new or merely implied. -/
def openTable (key : String) (_ : Origin) (members : Members) : Option Members :=
  match members.lookup key with
  | none => some (members ++ [(key, .table .header [])])
  | some (.table .implied inner) => some (set key (.table .header inner) members)
  | some _ => none

/-- Opens one more table of a list of tables. -/
def openItem (key : String) (_ : Origin) (members : Members) : Option Members :=
  match members.lookup key with
  | none => some (members ++ [(key, .tables [])])
  | some (.tables _) => some (set key (.tables []) members)
  | some _ => none

/-- The text under a key, unless there is none at all. -/
def text? (key : String) (members : Members) : Option (Option String) :=
  match members.lookup key with
  | none => some none
  | some (.text value) => some (some value)
  | some _ => none

end Members
end SchoolWeek.Toml
