/-! Looking for one text inside another. -/
namespace SchoolWeek.Text

/-- `part` stands somewhere in the text. -/
def occurs (part : List Char) : List Char → Bool
  | [] => part.isEmpty
  | character :: rest => part.isPrefixOf (character :: rest) || occurs part rest

/-- What stands before and after the first `separator`, if there is one. -/
def cut? (separator : Char) : List Char → Option (List Char × List Char)
  | [] => none
  | character :: rest =>
    if character = separator then some ([], rest)
    else (cut? separator rest).map fun (before, after) => (character :: before, after)

/-- What follows `lead`, if the text begins with it. -/
def dropLead? : List Char → List Char → Option (List Char)
  | [], text => some text
  | _ :: _, [] => none
  | first :: lead, character :: rest => if first = character then dropLead? lead rest else none

/-- The text with every `old` character turned into the characters `new`. -/
def substitute (old : Char) (new : List Char) (text : List Char) : List Char :=
  text.flatMap fun character => if character = old then new else [character]

theorem occurs_iff {part text : List Char} : occurs part text = true ↔ part <:+: text := by
  induction text with
  | nil => simp [occurs, List.isEmpty_iff]
  | cons character rest ih => simp [occurs, ih, List.infix_cons_iff]

theorem dropLead?_eq_some_iff {lead text rest : List Char} :
    dropLead? lead text = some rest ↔ text = lead ++ rest := by
  induction lead generalizing text with
  | nil => simp [dropLead?]
  | cons first lead ih =>
    cases text with
    | nil => simp [dropLead?]
    | cons character text =>
      by_cases same : first = character
      · simp [dropLead?, same, ih]
      · simp only [dropLead?, if_neg same, List.cons_append, List.cons.injEq]
        constructor
        · intro absurd
          cases absurd
        · rintro ⟨equal, _⟩
          exact (same equal.symm).elim

end SchoolWeek.Text
