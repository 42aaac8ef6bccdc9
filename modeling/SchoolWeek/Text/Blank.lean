/-! White space, as Unicode classes it, and the two things done with it: cutting
it off the ends of a text and splitting a text into its words. -/
namespace SchoolWeek.Text

/-- The characters with the Unicode property White_Space. -/
def isBlank (character : Char) : Bool :=
  let code := character.toNat
  (9 ≤ code && code ≤ 13) || code == 32 || code == 0x85 || code == 0xA0 || code == 0x1680 ||
    (0x2000 ≤ code && code ≤ 0x200A) || code == 0x2028 || code == 0x2029 || code == 0x202F ||
    code == 0x205F || code == 0x3000

def trimStart (text : List Char) : List Char := text.dropWhile isBlank

def trimEnd (text : List Char) : List Char := (text.reverse.dropWhile isBlank).reverse

/-- The text without the white space at its two ends. -/
def trim (text : List Char) : List Char := trimEnd (trimStart text)

/-- A text that holds no character but white space, the empty text included. -/
def allBlank (text : List Char) : Bool := text.all isBlank

/-- The parts between the characters that `isSeparator` picks out, empty parts included. -/
def split (isSeparator : Char → Bool) : List Char → List (List Char)
  | [] => [[]]
  | character :: rest =>
    if isSeparator character then [] :: split isSeparator rest
    else match split isSeparator rest with
      | [] => [[character]]
      | part :: parts => (character :: part) :: parts

/-- The longest runs without white space. -/
def words (text : List Char) : List (List Char) :=
  (split isBlank text).filter (!·.isEmpty)

theorem split_ne_nil (isSeparator : Char → Bool) (text : List Char) :
    split isSeparator text ≠ [] := by
  cases text with
  | nil => exact List.cons_ne_nil _ _
  | cons character rest =>
    unfold split
    split
    · exact List.cons_ne_nil _ _
    · split <;> exact List.cons_ne_nil _ _

end SchoolWeek.Text
