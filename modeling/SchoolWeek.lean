import SchoolWeek.Date.Instant
import SchoolWeek.Main
import SchoolWeek.Proofs.Rebuilding
import SchoolWeek.Proofs.Removal
import SchoolWeek.Proofs.Rereading
import SchoolWeek.Proofs.SpecialDates
import SchoolWeek.Proofs.Recovery
import SchoolWeek.Proofs.SameAnswers
import SchoolWeek.Proofs.DatesApart
import SchoolWeek.Proofs.StepContract
import SchoolWeek.Proofs.Resemblance
import SchoolWeek.Proofs.LazyApplication
import SchoolWeek.Proofs.WriteOnce
import SchoolWeek.Proofs.Cleared
import SchoolWeek.Proofs.Undoing
import SchoolWeek.Proofs.LastApplication
import SchoolWeek.Proofs.Rendering
import SchoolWeek.Proofs.Refusals
import SchoolWeek.Proofs.Preview
import SchoolWeek.Proofs.CanonicalNotation
import SchoolWeek.Proofs.Storing
import SchoolWeek.Proofs.TimetableMap
import SchoolWeek.Proofs.ShortDay
import SchoolWeek.Proofs.InBounds
import SchoolWeek.Proofs.LastDay
import SchoolWeek.Proofs.UnreadableDays
import SchoolWeek.Proofs.Utf8Text
import SchoolWeek.Proofs.JsonReading
import SchoolWeek.Proofs.JsonFields
import SchoolWeek.Proofs.WireValues
import SchoolWeek.Proofs.SnapshotFile
import SchoolWeek.Proofs.CsvReading
import SchoolWeek.Proofs.SheetFile
import SchoolWeek.Proofs.SegmentGrammar
import SchoolWeek.Proofs.LinePairing
import SchoolWeek.Proofs.Handles
import SchoolWeek.Proofs.DayAnswer
import SchoolWeek.Proofs.LineBreaks
import SchoolWeek.Proofs.Spacing
import SchoolWeek.Proofs.NamedPeriods
import SchoolWeek.Proofs.DayFilling
import SchoolWeek.Proofs.Regrouping
import SchoolWeek.Proofs.KindOrder
import SchoolWeek.Proofs.ClassCopying
import SchoolWeek.Proofs.ConsoleTimetable
import SchoolWeek.Proofs.FirstFlaw
import SchoolWeek.Proofs.DateKeys
