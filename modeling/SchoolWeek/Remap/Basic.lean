import SchoolWeek.Weekday
import SchoolWeek.Period

/-! A remap copies classes from periods of one weekday into periods of another.
It is a list of pairs, so there are always as many source periods as target
periods. -/
namespace SchoolWeek

/-- One day and some of its periods, in the order written. -/
structure Segment where
  day : Weekday
  periods : List Period
  deriving DecidableEq, Repr

/-- The classes of `source` at the first periods of the pairs are held on
`target` at the second ones. -/
structure Remap where
  source : Weekday
  target : Weekday
  pairs : List (Period × Period)
  deriving DecidableEq, Repr

namespace Remap

def sourcePeriods (remap : Remap) : List Period := remap.pairs.map Prod.fst

def targetPeriods (remap : Remap) : List Period := remap.pairs.map Prod.snd

/-- Pairs two lists of periods off in order; lists of different length give no remap. -/
def ofPeriods? (source target : Weekday) (sources targets : List Period) : Option Remap :=
  if sources.length = targets.length then some ⟨source, target, sources.zip targets⟩ else none

/-- Same day, same periods: the listed periods stay and the others go. -/
def keep (day : Weekday) (periods : List Period) : Remap :=
  ⟨day, day, periods.map fun period => (period, period)⟩

theorem length_sourcePeriods (remap : Remap) :
    remap.sourcePeriods.length = remap.targetPeriods.length := by
  simp [sourcePeriods, targetPeriods]

theorem ofPeriods?_periods (remap : Remap) :
    ofPeriods? remap.source remap.target remap.sourcePeriods remap.targetPeriods = some remap := by
  have paired : ∀ pairs : List (Period × Period),
      (pairs.map Prod.fst).zip (pairs.map Prod.snd) = pairs := by
    intro pairs
    induction pairs with
    | nil => rfl
    | cons pair pairs ih => simp [ih]
  simp [ofPeriods?, sourcePeriods, targetPeriods, paired]

end Remap
end SchoolWeek
