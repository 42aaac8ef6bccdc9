import SchoolWeek.Notation.Segment
import SchoolWeek.Text.Blank
import SchoolWeek.Text.Search

/-! Mapping lines. A line `月123→月12水3` names a source segment on the left of the
arrow and target segments on its right. If the targets together hold as many
periods as the source, the source periods are dealt out among them in order;
otherwise each target of the same length as the source receives all of it and
the others are dropped. Lines that say nothing of the kind are skipped. -/
namespace SchoolWeek.Mapping

def arrow : Char := '→'

/-- Deals the source periods out: each target takes as many as it has periods itself. -/
def deal (source : Weekday) : List Period → List Segment → List Remap
  | _, [] => []
  | periods, target :: targets =>
    ⟨source, target.day, periods.zip target.periods⟩ ::
      deal source (periods.drop target.periods.length) targets

/-- Gives the whole source to every target of its length. -/
def broadcast (source : Segment) (targets : List Segment) : List Remap :=
  (targets.filter (·.periods.length == source.periods.length)).map fun target =>
    ⟨source.day, target.day, source.periods.zip target.periods⟩

/-- The remaps of one line whose two sides have been read. -/
def pair (source : Segment) (targets : List Segment) : List Remap :=
  if (targets.flatMap (·.periods)).length = source.periods.length then
    deal source.day source.periods targets
  else broadcast source targets

/-- The remaps of one line; none if it has no arrow or no day on the left. -/
def readLine (line : List Char) : List Remap :=
  match Text.cut? arrow line with
  | none => []
  | some (left, right) =>
    match Segment.read? (Text.trim left) with
    | none => []
    | some source => pair source (Segment.scan (Text.trim right))

/-- The remaps of all lines in order. -/
def read (text : List Char) : List Remap :=
  (Text.split (· == '\n') text).flatMap fun line => readLine (Text.trim line)

/-- A remap as a mapping line. -/
def renderLine (remap : Remap) : List Char :=
  Segment.toChars ⟨remap.source, remap.sourcePeriods⟩ ++
    arrow :: Segment.toChars ⟨remap.target, remap.targetPeriods⟩

/-- One mapping line for each remap, with line feeds between them. -/
def render (remaps : List Remap) : List Char := ['\n'].intercalate (remaps.map renderLine)

end SchoolWeek.Mapping
