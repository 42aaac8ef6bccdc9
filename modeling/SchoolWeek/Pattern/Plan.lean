import SchoolWeek.Notation.Mapping
import SchoolWeek.Pattern.Kind

/-! The plan for a day: the remaps that a pattern name or a notation stands for on
a given weekday. Built-in kinds keep the first periods of the day. A custom text is
read as mapping lines; if that gives nothing, its segments fill the day from the
first period; if that gives nothing either, its digits are the periods to keep. -/
namespace SchoolWeek.Plan

/-- How many periods from the first a built-in short day keeps. -/
structure Template where
  kind : Kind
  lastPeriod : Nat
  deriving DecidableEq, Repr

namespace Template

def shortA : Template := ⟨.shortA, 4⟩

def shortB : Template := ⟨.shortB, 3⟩

def shortC : Template := ⟨.shortC, 3⟩

def exam : Template := ⟨.exam, 3⟩

def remaps (template : Template) (day : Weekday) : List Remap :=
  [Remap.keep day (Period.range 1 template.lastPeriod)]

end Template

/-- Fills the free periods of the day with the segments in turn. What comes after
the ninth period has nowhere to go. -/
def fill (day : Weekday) : List Period → List Segment → List Remap
  | _, [] => []
  | free, segment :: segments =>
    match segment.periods.zip free with
    | [] => []
    | pairs => ⟨segment.day, day, pairs⟩ :: fill day (free.drop pairs.length) segments

/-- The segments of the text held one after the other, from the first period on. -/
def sequential (text : List Char) (day : Weekday) : List Remap :=
  fill day Period.all (Segment.scan text)

/-- The periods named anywhere in the text, kept in that order. -/
def bareDigits (text : List Char) (day : Weekday) : List Remap :=
  match periodsIn text with
  | [] => []
  | periods => [Remap.keep day periods]

/-- The first reading of a custom text that gives any remap. -/
def ofNotation (text : List Char) (day : Weekday) : List Remap :=
  match Mapping.read text with
  | [] =>
    match sequential text day with
    | [] => bareDigits text day
    | remaps => remaps
  | remaps => remaps

/-- The plan for a kind; only a custom plan looks at the text. -/
def ofKind (kind : Kind) (text : List Char) (day : Weekday) : List Remap :=
  match kind with
  | .normal => []
  | .shortA => Template.shortA.remaps day
  | .shortB => Template.shortB.remaps day
  | .shortC => Template.shortC.remaps day
  | .exam => Template.exam.remaps day
  | .custom => ofNotation text day

/-- The plan that a pattern name stands for. -/
def ofPatternName (name : List Char) (day : Weekday) : List Remap :=
  ofKind (Kind.ofPatternName name) name day

/-- A custom text counts only if it is not blank, and without the white space around it. -/
def effectiveCustom? (custom? : Option String) : Option (List Char) :=
  custom?.bind fun custom =>
    let text := Text.trim custom.toList
    if text.isEmpty then none else some text

/-- What applying a pattern would store: the custom text goes before the name. -/
def preview (name : String) (day : Weekday) (custom? : Option String) : List Remap :=
  match effectiveCustom? custom? with
  | some text => ofNotation text day
  | none => ofPatternName name.toList day

end SchoolWeek.Plan
