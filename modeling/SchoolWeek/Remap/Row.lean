import SchoolWeek.Date.Basic
import SchoolWeek.Remap.Basic

/-! The flat form in which remaps are kept: one row for each pair of periods.
`flatten` writes remaps out as rows and `regroup` gathers rows into remaps, one
for each pair of days. -/
namespace SchoolWeek

/-- One pair of periods of a remap, with the name of the pattern it came from. -/
structure Row where
  source : Weekday
  target : Weekday
  sourcePeriod : Period
  targetPeriod : Period
  patternName : String
  deriving DecidableEq, Repr

/-- All that is kept for a special date. -/
structure Record where
  date : Date
  patternName : String
  rows : List Row
  deriving DecidableEq

namespace Remap

def rows (patternName : String) (remap : Remap) : List Row :=
  remap.pairs.map fun pair => ⟨remap.source, remap.target, pair.1, pair.2, patternName⟩

/-- The rows of each remap in turn. -/
def flatten (remaps : List Remap) (patternName : String) : List Row :=
  remaps.flatMap (rows patternName)

/-- Adds a row to the remap of its two days, or opens one at the end. -/
def addRow (row : Row) : List Remap → List Remap
  | [] => [⟨row.source, row.target, [(row.sourcePeriod, row.targetPeriod)]⟩]
  | remap :: remaps =>
    if remap.source = row.source ∧ remap.target = row.target then
      { remap with pairs := remap.pairs ++ [(row.sourcePeriod, row.targetPeriod)] } :: remaps
    else remap :: addRow row remaps

/-- One remap for each pair of days, in the order in which the pairs first occur. -/
def regroup (rows : List Row) : List Remap := rows.foldl (fun remaps row => addRow row remaps) []

end Remap
end SchoolWeek
