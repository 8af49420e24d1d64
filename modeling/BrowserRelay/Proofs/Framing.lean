import BrowserRelay.Text.Lines
import Mathlib.Data.List.Basic
import Mathlib.Tactic.SplitIfs

/-!
# Lines in bytes and back

A line is written as its UTF-8 bytes with a line feed behind them.  Reading lines undoes writing
them, for all lines that hold no line feed and do not end with a carriage return.  Every line that
is read takes at least one byte.
-/

namespace BrowserRelay.Text

/-- The bytes of a text. -/
def utf8Bytes (text : String) : List UInt8 := text.toUTF8.data.toList

theorem utf8Bytes_eq (text : String) :
    utf8Bytes text = text.toList.flatMap String.utf8EncodeChar := by
  rw [utf8Bytes, String.toUTF8_eq_toByteArray]
  conv_lhs => rw [← String.ofList_toList (s := text)]
  rw [String.toByteArray_ofList, List.utf8Encode, List.toList_data_toByteArray]

/-! ## Decoding what was encoded -/

deriving instance DecidableEq for Utf8Lead

theorem utf8Lead_two : ∀ bits < 32, 2 ≤ bits →
    utf8Lead (UInt8.ofNat (bits + 0xC0)) = some ⟨1, 0x80, 0xBF, bits⟩ := by
  decide

theorem utf8Lead_three : ∀ bits < 16,
    utf8Lead (UInt8.ofNat (bits + 0xE0)) =
      some ⟨2, if bits = 0 then 0xA0 else 0x80, if bits = 13 then 0x9F else 0xBF, bits⟩ := by
  decide

theorem utf8Lead_four : ∀ bits < 5,
    utf8Lead (UInt8.ofNat (bits + 0xF0)) =
      some ⟨3, if bits = 0 then 0x90 else 0x80, if bits = 4 then 0x8F else 0xBF, bits⟩ := by
  decide

section Decoding

variable {lead : Utf8Lead} {lowest highest : UInt8} {owed part bits : Nat} (rest : List UInt8)

theorem utf8Decode_ascii {code : Nat} (ascii : code < 0x80) :
    utf8Decode {} (UInt8.ofNat code :: rest) = Char.ofNat code :: utf8Decode {} rest := by
  have value : (UInt8.ofNat code).toNat = code :=
    UInt8.toNat_ofNat_of_lt' (show code < 256 by omega)
  have below : UInt8.ofNat code < 0x80 := by
    rw [UInt8.lt_iff_toNat_lt, value]
    exact ascii
  simp only [utf8Decode, utf8Step, utf8Begin, below, if_true, value, List.singleton_append]

theorem utf8Decode_lead {code : Nat} (beyond : 0x80 ≤ code) (fits : code < 256)
    (announces : utf8Lead (UInt8.ofNat code) = some lead) :
    utf8Decode {} (UInt8.ofNat code :: rest) =
      utf8Decode ⟨lead.following, lead.lowest, lead.highest, lead.bits⟩ rest := by
  have above : ¬ UInt8.ofNat code < 0x80 := by
    rw [UInt8.lt_iff_toNat_lt, UInt8.toNat_ofNat_of_lt' fits]
    exact Nat.not_lt.mpr beyond
  simp only [utf8Decode, utf8Step, utf8Begin, above, if_false, announces, List.nil_append]

/-- A byte that continues the character under way adds its six bits, and completes the character
if it is the last. -/
theorem utf8Decode_continuation (six : part < 64) (low : lowest.toNat ≤ part + 0x80)
    (high : part + 0x80 ≤ highest.toNat) :
    utf8Decode ⟨owed + 1, lowest, highest, bits⟩ (UInt8.ofNat (part + 0x80) :: rest) =
      match owed with
      | 0 => Char.ofNat (bits * 64 + part) :: utf8Decode {} rest
      | _ + 1 => utf8Decode ⟨owed, 0x80, 0xBF, bits * 64 + part⟩ rest := by
  have value : (UInt8.ofNat (part + 0x80)).toNat = part + 0x80 :=
    UInt8.toNat_ofNat_of_lt' (show part + 0x80 < 256 by omega)
  have within : lowest ≤ UInt8.ofNat (part + 0x80) ∧ UInt8.ofNat (part + 0x80) ≤ highest := by
    rw [UInt8.le_iff_toNat_le, UInt8.le_iff_toNat_le, value]
    exact ⟨low, high⟩
  cases owed with
  | zero =>
      simp only [utf8Decode, utf8Step, within, and_self, if_true, value, Nat.add_sub_cancel,
        List.singleton_append]
  | succ owed =>
      simp only [utf8Decode, utf8Step, within, and_self, if_true, value, Nat.add_sub_cancel,
        List.nil_append]

theorem utf8Decode_tail (six : part < 64) :
    utf8Decode ⟨owed + 1, 0x80, 0xBF, bits⟩ (UInt8.ofNat (part + 0x80) :: rest) =
      match owed with
      | 0 => Char.ofNat (bits * 64 + part) :: utf8Decode {} rest
      | _ + 1 => utf8Decode ⟨owed, 0x80, 0xBF, bits * 64 + part⟩ rest :=
  utf8Decode_continuation rest six (Nat.le_add_left _ _)
    (Nat.add_le_add_right (Nat.le_of_lt_succ six) 0x80)

end Decoding

/-- The decoder reads a character off its bytes and is then between characters again. -/
theorem utf8Decode_utf8EncodeChar (character : Char) (rest : List UInt8) :
    utf8Decode {} (String.utf8EncodeChar character ++ rest) = character :: utf8Decode {} rest := by
  obtain ⟨code, same⟩ : ∃ code, code = character.toNat := ⟨_, rfl⟩
  have back : Char.ofNat code = character := by rw [same, Char.ofNat_toNat]
  have valid : code < 0xD800 ∨ 0xDFFF < code ∧ code < 0x110000 := same ▸ character.valid
  have value : character.val.toNat = code := same.symm
  unfold String.utf8EncodeChar
  simp only [value]
  split_ifs with one two three
  · rw [List.singleton_append, utf8Decode_ascii rest (by omega), back]
  · have whole : code / 64 % 32 * 64 + code % 64 = code := by omega
    simp only [List.cons_append, List.nil_append]
    rw [utf8Decode_lead _ (by omega) (by omega) (utf8Lead_two _ (by omega) (by omega))]
    dsimp only
    rw [utf8Decode_tail rest (by omega)]
    dsimp only
    rw [whole, back]
  · have whole : (code / 4096 % 16 * 64 + code / 64 % 64) * 64 + code % 64 = code := by omega
    -- The range of the second byte is narrower where it keeps out shorter forms and surrogates.
    have low : (if code / 4096 % 16 = 0 then 0xA0 else 0x80 : UInt8).toNat ≤
        code / 64 % 64 + 0x80 := by
      split_ifs with zero
      · exact (by omega : 0xA0 ≤ code / 64 % 64 + 0x80)
      · exact Nat.le_add_left _ _
    have high : code / 64 % 64 + 0x80 ≤
        (if code / 4096 % 16 = 13 then 0x9F else 0xBF : UInt8).toNat := by
      split_ifs with surrogates
      · exact (by omega : code / 64 % 64 + 0x80 ≤ 0x9F)
      · exact (by omega : code / 64 % 64 + 0x80 ≤ 0xBF)
    simp only [List.cons_append, List.nil_append]
    rw [utf8Decode_lead _ (by omega) (by omega) (utf8Lead_three _ (by omega))]
    dsimp only
    rw [utf8Decode_continuation _ (by omega) low high]
    dsimp only
    rw [utf8Decode_tail rest (by omega)]
    dsimp only
    rw [whole, back]
  · have whole : ((code / 262144 % 8 * 64 + code / 4096 % 64) * 64 + code / 64 % 64) * 64 +
        code % 64 = code := by omega
    have low : (if code / 262144 % 8 = 0 then 0x90 else 0x80 : UInt8).toNat ≤
        code / 4096 % 64 + 0x80 := by
      split_ifs with zero
      · exact (by omega : 0x90 ≤ code / 4096 % 64 + 0x80)
      · exact Nat.le_add_left _ _
    have high : code / 4096 % 64 + 0x80 ≤
        (if code / 262144 % 8 = 4 then 0x8F else 0xBF : UInt8).toNat := by
      split_ifs with most
      · exact (by omega : code / 4096 % 64 + 0x80 ≤ 0x8F)
      · exact (by omega : code / 4096 % 64 + 0x80 ≤ 0xBF)
    simp only [List.cons_append, List.nil_append]
    rw [utf8Decode_lead _ (by omega) (by omega) (utf8Lead_four _ (by omega))]
    dsimp only
    rw [utf8Decode_continuation _ (by omega) low high]
    dsimp only
    rw [utf8Decode_tail _ (by omega)]
    dsimp only
    rw [utf8Decode_tail rest (by omega)]
    dsimp only
    rw [whole, back]

theorem decodeLossy_utf8Bytes (text : String) : decodeLossy (utf8Bytes text) = text := by
  have decoded (characters : List Char) :
      utf8Decode {} (characters.flatMap String.utf8EncodeChar) = characters := by
    induction characters with
    | nil => rfl
    | cons first characters ih => rw [List.flatMap_cons, utf8Decode_utf8EncodeChar, ih]
  rw [decodeLossy, utf8Bytes_eq, decoded, String.ofList_toList]

/-! ## Control characters stand for themselves -/

/-- A character is one byte of its own value, or only bytes beyond ASCII. -/
theorem utf8EncodeChar_cases (character : Char) :
    (character.toNat < 0x80 ∧
        String.utf8EncodeChar character = [UInt8.ofNat character.toNat]) ∨
      ∀ byte ∈ String.utf8EncodeChar character, 0x80 ≤ byte.toNat := by
  have beyond {part high : Nat} (above : 0x80 ≤ high) (fits : part + high < 256) :
      0x80 ≤ (UInt8.ofNat (part + high)).toNat := by
    rw [UInt8.toNat_ofNat_of_lt' fits]
    exact Nat.le_trans above (Nat.le_add_left _ _)
  have value : character.val.toNat = character.toNat := rfl
  unfold String.utf8EncodeChar
  simp only [value]
  split_ifs with one two three
  · exact .inl ⟨by omega, rfl⟩
  all_goals
    refine .inr ?_
    simp only [List.forall_mem_cons, List.not_mem_nil, false_imp_iff, implies_true, and_true]
  · exact ⟨beyond (by decide) (by omega), beyond (by decide) (by omega)⟩
  · exact ⟨beyond (by decide) (by omega), beyond (by decide) (by omega),
      beyond (by decide) (by omega)⟩
  · exact ⟨beyond (by decide) (by omega), beyond (by decide) (by omega),
      beyond (by decide) (by omega), beyond (by decide) (by omega)⟩

theorem mem_utf8EncodeChar {character : Char} {byte : UInt8} (ascii : byte.toNat < 0x80)
    (listed : byte ∈ String.utf8EncodeChar character) :
    character = Char.ofNat byte.toNat := by
  rcases utf8EncodeChar_cases character with ⟨small, single⟩ | beyond
  · rw [single, List.mem_singleton] at listed
    rw [listed, UInt8.toNat_ofNat_of_lt' (show character.toNat < 256 by omega), Char.ofNat_toNat]
  · exact absurd (beyond byte listed) (Nat.not_le.mpr ascii)

theorem lineFeed_mem_utf8Bytes {text : String} (listed : lineFeed ∈ utf8Bytes text) :
    '\n' ∈ text.toList := by
  rw [utf8Bytes_eq] at listed
  obtain ⟨character, inside, byte⟩ := List.mem_flatMap.mp listed
  rw [mem_utf8EncodeChar (by decide) byte] at inside
  exact inside

theorem carriageReturn_ends_utf8Bytes {text : String}
    (ends : (utf8Bytes text).getLast? = some carriageReturn) :
    text.toList.getLast? = some '\r' := by
  rw [utf8Bytes_eq] at ends
  cases List.eq_nil_or_concat text.toList with
  | inl empty => simp [empty] at ends
  | inr some =>
      obtain ⟨front, last, split⟩ := some
      rw [split, List.concat_eq_append, List.flatMap_append, List.flatMap_singleton,
        List.getLast?_append_of_ne_nil _ String.utf8EncodeChar_ne_nil] at ends
      have byte := List.mem_of_getLast? ends
      rw [split, List.concat_eq_append, List.getLast?_concat,
        mem_utf8EncodeChar (by decide) byte]
      rfl

/-! ## Reading what was written -/

/-- A line that can be told apart from those around it. -/
structure IsLine (line : String) : Prop where
  unbroken : '\n' ∉ line.toList
  uncut : line.toList.getLast? ≠ some '\r'

/-- The bytes in which a line is written. -/
def frame (line : String) : List UInt8 := utf8Bytes line ++ [lineFeed]

/-- The bytes in which lines are written one after the other. -/
def stream (lines : List String) : List UInt8 := lines.flatMap frame

theorem splitAtLineFeed_append {line : List UInt8} (unbroken : lineFeed ∉ line)
    (after : List UInt8) : splitAtLineFeed (line ++ lineFeed :: after) = (line, some after) := by
  induction line with
  | nil => simp [splitAtLineFeed]
  | cons byte line ih =>
      obtain ⟨other, others⟩ : lineFeed ≠ byte ∧ lineFeed ∉ line := by simpa using unbroken
      simp only [List.cons_append, splitAtLineFeed, other.symm, if_false, ih others]

/-- What is split off and what is left make up the bytes, with the line feed in between if there
is one. -/
theorem splitAtLineFeed_eq (bytes : List UInt8) :
    (∃ line after, splitAtLineFeed bytes = (line, some after) ∧
        bytes = line ++ lineFeed :: after) ∨
      splitAtLineFeed bytes = (bytes, none) := by
  induction bytes with
  | nil => exact .inr rfl
  | cons byte bytes ih =>
      by_cases ended : byte = lineFeed
      · exact .inl ⟨[], bytes, by simp [splitAtLineFeed, ended], by simp [ended]⟩
      · rcases ih with ⟨line, after, split, whole⟩ | unsplit
        · exact .inl ⟨byte :: line, after, by simp [splitAtLineFeed, ended, split], by simp [whole]⟩
        · exact .inr (by simp [splitAtLineFeed, ended, unsplit])

theorem nextLine_frame {line : String} (isLine : IsLine line) (after : List UInt8) :
    nextLine (frame line ++ after) = some (line, after) := by
  have unbroken : lineFeed ∉ utf8Bytes line := fun listed =>
    isLine.unbroken (lineFeed_mem_utf8Bytes listed)
  have uncut : (utf8Bytes line).getLast? ≠ some carriageReturn := fun ends =>
    isLine.uncut (carriageReturn_ends_utf8Bytes ends)
  have split : splitAtLineFeed (frame line ++ after) = (utf8Bytes line, some after) := by
    rw [frame, List.append_assoc]
    exact splitAtLineFeed_append unbroken after
  have kept : dropCarriageReturn (utf8Bytes line) = utf8Bytes line := by
    rw [dropCarriageReturn, if_neg uncut]
  unfold nextLine
  split
  case h_1 nothing => simp [frame] at nothing
  case h_2 => simp only [split, kept, decodeLossy_utf8Bytes]

theorem linesOf_of_nextLine {bytes after : List UInt8} {line : String}
    (taken : nextLine bytes = some (line, after)) : linesOf bytes = line :: linesOf after := by
  rw [linesOf]
  split
  case h_1 nothing => simp [taken] at nothing
  case h_2 other left found =>
    obtain ⟨rfl, rfl⟩ := Prod.mk.inj (Option.some.inj (taken.symm.trans found))
    rfl

theorem linesOf_nil : linesOf [] = [] := by
  rw [linesOf]
  rfl

/-- Reading lines undoes writing them, whatever is written behind them. -/
theorem linesOf_stream_append {lines : List String} (areLines : ∀ line ∈ lines, IsLine line)
    (after : List UInt8) : linesOf (stream lines ++ after) = lines ++ linesOf after := by
  induction lines with
  | nil => rfl
  | cons line lines ih =>
      obtain ⟨first, others⟩ := List.forall_mem_cons.mp areLines
      have taken : nextLine (stream (line :: lines) ++ after) =
          some (line, stream lines ++ after) := by
        rw [stream, List.flatMap_cons, List.append_assoc]
        exact nextLine_frame first (stream lines ++ after)
      rw [linesOf_of_nextLine taken, ih others, List.cons_append]

/-- A line is taken from any bytes that there are, and takes at least one of them. -/
theorem nextLine_cases (bytes : List UInt8) :
    (bytes = [] ∧ nextLine bytes = none) ∨
      ∃ line taken after, nextLine bytes = some (line, after) ∧ taken ≠ [] ∧
        bytes = taken ++ after := by
  cases bytes with
  | nil => exact .inl ⟨rfl, rfl⟩
  | cons byte bytes =>
      rcases splitAtLineFeed_eq (byte :: bytes) with ⟨line, after, split, whole⟩ | unsplit
      · refine .inr ⟨decodeLossy (dropCarriageReturn line), line ++ [lineFeed], after, ?_,
          by simp, by simpa using whole⟩
        simp only [nextLine, split]
      · refine .inr ⟨decodeLossy (byte :: bytes), byte :: bytes, [], ?_, List.cons_ne_nil _ _,
          (List.append_nil _).symm⟩
        simp only [nextLine, unsplit]

end BrowserRelay.Text
