import Mathlib
import SchoolWeek.Text.Utf8

/-! A text that was written as bytes is read back from them, whatever its characters. Each
character is read alone: its first byte announces how many follow it, within bounds that
the bytes of a character keep. The bounds also see to it that no longer character, and so no
byte but its own, is read as a line feed. -/
namespace SchoolWeek.Text

namespace Utf8

variable {byte bits low high missing : Nat} {bytes : List UInt8} {character : Unfinished}

/-- A number written as a byte is that number, if it fits. -/
theorem toNat_ofNat (fits : byte < 256) : (UInt8.ofNat byte).toNat = byte := by
  rw [UInt8.toNat_ofNat']
  exact Nat.mod_eq_of_lt fits

theorem decodeFrom_lead (announced : Unfinished.ofLead? byte = some character)
    (bounds : 0x80 ≤ byte ∧ byte < 256) :
    decodeFrom none (UInt8.ofNat byte :: bytes) = decodeFrom (some character) bytes := by
  rw [decodeFrom, toNat_ofNat bounds.2, start, if_neg (by omega), announced]
  rfl

theorem decodeFrom_middle (bounds : low ≤ byte ∧ byte ≤ high) (fits : byte < 256) :
    decodeFrom (some ⟨missing + 2, low, high, bits⟩) (UInt8.ofNat byte :: bytes) =
      decodeFrom (some ⟨missing + 1, 0x80, 0xBF, bits * 64 + (byte - 0x80)⟩) bytes := by
  rw [decodeFrom, toNat_ofNat fits, advance, if_pos bounds]
  simp

theorem decodeFrom_last (bounds : low ≤ byte ∧ byte ≤ high) (fits : byte < 256) :
    decodeFrom (some ⟨1, low, high, bits⟩) (UInt8.ofNat byte :: bytes) =
      some (Char.ofNat (bits * 64 + (byte - 0x80))) :: decodeFrom none bytes := by
  rw [decodeFrom, toNat_ofNat fits, advance, if_pos bounds]
  simp

theorem ofLead?_two {code : Nat} (most : code ≤ 0x7FF) (least : 0x80 ≤ code) :
    Unfinished.ofLead? (code / 64 % 32 + 0xC0) = some ⟨1, 0x80, 0xBF, code / 64⟩ := by
  have bits : code / 64 % 32 + 0xC0 - 0xC0 = code / 64 := by omega
  rw [Unfinished.ofLead?, if_pos (by omega), bits]

/-- The bounds on the second byte keep out the codes of two bytes and the surrogates. -/
theorem ofLead?_three {code : Nat} (most : code ≤ 0xFFFF) (least : 0x800 ≤ code)
    (valid : code.isValidChar) : ∃ low high,
    Unfinished.ofLead? (code / 4096 % 16 + 0xE0) = some ⟨2, low, high, code / 4096⟩ ∧
      low ≤ code / 64 % 64 + 0x80 ∧ code / 64 % 64 + 0x80 ≤ high := by
  have noSurrogate : code < 0xD800 ∨ 0xE000 ≤ code := by
    rcases valid with below | above <;> omega
  have bits : code / 4096 % 16 + 0xE0 - 0xE0 = code / 4096 := by omega
  unfold Unfinished.ofLead?
  split_ifs with two shortest surrogates middle
  · omega
  · exact ⟨0xA0, 0xBF, by rw [show code / 4096 = 0 by omega], by omega, by omega⟩
  · exact ⟨0x80, 0x9F, by rw [show code / 4096 = 13 by omega], by omega, by omega⟩
  · exact ⟨0x80, 0xBF, by rw [bits], by omega, by omega⟩
  all_goals omega

/-- Here they keep out the codes of three bytes and the numbers past the last character. -/
theorem ofLead?_four {code : Nat} (least : 0x10000 ≤ code) (valid : code.isValidChar) :
    ∃ low high, Unfinished.ofLead? (code / 262144 % 8 + 0xF0) =
        some ⟨3, low, high, code / 262144⟩ ∧
      low ≤ code / 4096 % 64 + 0x80 ∧ code / 4096 % 64 + 0x80 ≤ high := by
  have last : code < 0x110000 := by
    rcases valid with below | above <;> omega
  have bits : code / 262144 % 8 + 0xF0 - 0xF0 = code / 262144 := by omega
  unfold Unfinished.ofLead?
  split_ifs with two shortest surrogates three fewest middle most
  all_goals first | omega | skip
  · exact ⟨0x90, 0xBF, by rw [show code / 262144 = 0 by omega], by omega, by omega⟩
  · exact ⟨0x80, 0xBF, by rw [bits], by omega, by omega⟩
  · exact ⟨0x80, 0x8F, by rw [show code / 262144 = 4 by omega], by omega, by omega⟩

/-- The bytes of a character are read as that character, whatever comes after them. -/
theorem decodeFrom_character (character : Char) (bytes : List UInt8) :
    decodeFrom none (String.utf8EncodeChar character ++ bytes) =
      some character :: decodeFrom none bytes := by
  have valid : character.val.toNat.isValidChar := character.valid
  have made {code : Nat} (same : code = character.val.toNat) : Char.ofNat code = character := by
    rw [same]
    exact Char.ofNat_toNat character
  unfold String.utf8EncodeChar
  generalize character.val.toNat = code at valid made ⊢
  dsimp only
  split_ifs with one two three
  · rw [List.singleton_append, decodeFrom, toNat_ofNat (by omega), start, if_pos (by omega),
      made rfl]
    rfl
  · simp only [List.cons_append, List.nil_append]
    rw [decodeFrom_lead (ofLead?_two two (by omega)) (by omega),
      decodeFrom_last (by omega) (by omega), made (by omega)]
  · obtain ⟨low, high, lead, bounds⟩ := ofLead?_three three (by omega) valid
    simp only [List.cons_append, List.nil_append]
    rw [decodeFrom_lead lead (by omega), decodeFrom_middle bounds (by omega),
      decodeFrom_last (by omega) (by omega), made (by omega)]
  · obtain ⟨low, high, lead, bounds⟩ := ofLead?_four (by omega) valid
    simp only [List.cons_append, List.nil_append]
    rw [decodeFrom_lead lead (by omega), decodeFrom_middle bounds (by omega),
      decodeFrom_middle (by omega) (by omega), decodeFrom_last (by omega) (by omega),
      made (by omega)]

theorem decodeFrom_text (text : List Char) :
    decodeFrom none (text.flatMap String.utf8EncodeChar) = text.map some := by
  induction text with
  | nil => rfl
  | cons character rest ih => rw [List.flatMap_cons, decodeFrom_character, ih, List.map_cons]

/-- What is read of a character already puts its number past that of a line feed. -/
def IsPast (character : Unfinished) : Prop := 0 < character.bits ∨ 0x90 ≤ character.low

theorem isPast_of_lead {character : Unfinished}
    (announced : Unfinished.ofLead? byte = some character) : IsPast character := by
  unfold Unfinished.ofLead? at announced
  unfold IsPast
  split_ifs at announced <;> cases announced <;> dsimp only <;> omega

theorem ofNat_eq_lineFeed {code : Nat} (read : Char.ofNat code = '\n') : code = 10 := by
  have same := congrArg Char.toNat read
  rw [Char.toNat_ofNat] at same
  split_ifs at same
  · exact same
  · cases same

theorem start_lineFeed (byte : Nat) :
    (some '\n' ∈ (start byte).1 → byte = 10) ∧ ∀ character ∈ (start byte).2, IsPast character := by
  unfold start
  split_ifs
  · refine ⟨fun member => ofNat_eq_lineFeed ?_, nofun⟩
    exact (Option.some.inj (List.mem_singleton.mp member)).symm
  · split
    · rename_i character announced
      refine ⟨nofun, fun other same => ?_⟩
      cases same
      exact isPast_of_lead announced
    · exact ⟨fun gap => (nomatch List.mem_singleton.mp gap), nofun⟩

/-- A byte that goes on with a character keeps its number past that of a line feed. -/
theorem advance_lineFeed {character : Unfinished} (past : IsPast character) (byte : Nat) :
    (some '\n' ∈ (advance character byte).1 → byte = 10) ∧
      ∀ next ∈ (advance character byte).2, IsPast next := by
  unfold advance
  split_ifs with within last
  · refine ⟨fun member => ?_, nofun⟩
    have number := ofNat_eq_lineFeed (Option.some.inj (List.mem_singleton.mp member)).symm
    unfold IsPast at past
    omega
  · refine ⟨nofun, fun next same => ?_⟩
    cases same
    unfold IsPast at past
    exact Or.inl (by dsimp only; omega)
  · obtain ⟨read, later⟩ := start_lineFeed byte
    refine ⟨fun member => ?_, later⟩
    rcases List.mem_cons.mp member with gap | member
    · cases gap
    · exact read member

theorem lineFeed_mem_of_decodeFrom (unfinished : Option Unfinished)
    (past : ∀ character ∈ unfinished, IsPast character) (bytes : List UInt8)
    (member : some '\n' ∈ decodeFrom unfinished bytes) : 10 ∈ bytes := by
  induction bytes generalizing unfinished with
  | nil => cases unfinished <;> simp [decodeFrom] at member
  | cons byte bytes ih =>
    have own (same : byte.toNat = 10) : 10 ∈ byte :: bytes :=
      List.mem_cons.mpr (.inl (UInt8.toNat_inj.mp same).symm)
    cases unfinished with
    | none =>
      obtain ⟨read, later⟩ := start_lineFeed byte.toNat
      rw [decodeFrom] at member
      rcases List.mem_append.mp member with first | others
      · exact own (read first)
      · exact List.mem_cons_of_mem _ (ih _ later others)
    | some character =>
      obtain ⟨read, later⟩ := advance_lineFeed (past character rfl) byte.toNat
      rw [decodeFrom] at member
      rcases List.mem_append.mp member with first | others
      · exact own (read first)
      · exact List.mem_cons_of_mem _ (ih _ later others)

end Utf8

/-- A line feed is read from its own byte only. -/
theorem lineFeed_mem_of_decodeUtf8 {bytes : List UInt8} (member : some '\n' ∈ decodeUtf8 bytes) :
    10 ∈ bytes :=
  Utf8.lineFeed_mem_of_decodeFrom none nofun bytes member

/-- The characters of a text without gaps stand in it. -/
theorem eq_map_of_whole? {text : Gapped} {characters : List Char}
    (whole : text.whole? = some characters) : text = characters.map some := by
  unfold Gapped.whole? at whole
  induction text generalizing characters with
  | nil => cases whole; rfl
  | cons first rest ih =>
    rw [List.mapM_cons] at whole
    obtain ⟨character, same, whole⟩ := Option.bind_eq_some_iff.mp whole
    obtain ⟨others, later, whole⟩ := Option.bind_eq_some_iff.mp whole
    rw [← Option.some.inj whole, List.map_cons, ih later, show first = some character from same]

/-- The bytes of an array from a place on, after those taken already. -/
theorem toList_loop (array : ByteArray) (place : Nat) (taken : List UInt8) :
    ByteArray.toList.loop array place taken = taken.reverse ++ array.data.toList.drop place := by
  fun_induction ByteArray.toList.loop array place taken with
  | case1 place taken inside ih =>
    have next : array.data.toList.drop place =
        array.get! place :: array.data.toList.drop (place + 1) := by
      rw [List.drop_eq_getElem_cons (by simpa using inside)]
      congr 1
      exact (getElem!_pos array.data place inside).symm
    rw [ih, next, List.reverse_cons, List.append_assoc, List.singleton_append]
  | case2 place taken outside =>
    rw [List.drop_eq_nil_of_le (by simpa using outside), List.append_nil]

theorem encodeUtf8_eq (text : List Char) :
    encodeUtf8 text = text.flatMap String.utf8EncodeChar := by
  rw [encodeUtf8, String.toUTF8, ByteArray.toList, toList_loop, String.toByteArray_ofList,
    List.utf8Encode, List.toList_data_toByteArray]
  rfl

/-- Every text is read back from its bytes, without gaps. -/
theorem decodeUtf8_encodeUtf8 (text : List Char) :
    decodeUtf8 (encodeUtf8 text) = text.map some := by
  rw [decodeUtf8, encodeUtf8_eq, Utf8.decodeFrom_text]

end SchoolWeek.Text
