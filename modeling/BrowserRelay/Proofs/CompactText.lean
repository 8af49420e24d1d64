import BrowserRelay.Json.Printer
import BrowserRelay.Proofs.NumberText
import Mathlib.Tactic.SplitIfs

/-!
# Compact JSON text is a line

Compact text holds none of the characters below U+0020, so it is not broken into lines.  Of the
characters of a string, those that are not escaped stand in its text as they are, the separators
U+2028 and U+2029 among them.
-/

namespace BrowserRelay.Json

/-- A text without the characters below U+0020. -/
def IsUncontrolled (text : List Char) : Prop := ∀ character ∈ text, 0x20 ≤ character.toNat

section Uncontrolled

variable {first second text : List Char} {character : Char}

theorem isUncontrolled_nil : IsUncontrolled [] := List.forall_mem_nil _

theorem isUncontrolled_append :
    IsUncontrolled (first ++ second) ↔ IsUncontrolled first ∧ IsUncontrolled second :=
  List.forall_mem_append

theorem isUncontrolled_cons :
    IsUncontrolled (character :: text) ↔ 0x20 ≤ character.toNat ∧ IsUncontrolled text :=
  List.forall_mem_cons

theorem IsUncontrolled.cons (rest : IsUncontrolled text) (own : 0x20 ≤ character.toNat) :
    IsUncontrolled (character :: text) :=
  isUncontrolled_cons.mpr ⟨own, rest⟩

theorem AllDigits.isUncontrolled (digits : AllDigits text) : IsUncontrolled text := by
  intro character listed
  have digit := digits character listed
  simp only [Char.isDigit, Bool.and_eq_true, decide_eq_true_eq, UInt32.le_iff_toNat_le] at digit
  exact Nat.le_trans (by decide) digit.1

/-- The lines of a text without control characters are one. -/
theorem IsUncontrolled.not_mem (rest : IsUncontrolled text) (control : character.toNat < 0x20) :
    character ∉ text := fun listed =>
  Nat.not_le.mpr control (rest character listed)

end Uncontrolled

/-! ## Strings -/

theorem isUncontrolled_escapedChar (character : Char) :
    IsUncontrolled (escapedChar character) := by
  have digit : ∀ value < 16, 0x20 ≤ (hexDigit value).toNat := by decide
  unfold escapedChar
  split_ifs with quote backslash backspace formFeed lineFeed carriage tab control
  iterate 7
    · simp [IsUncontrolled]
  · have high := digit (character.toNat / 16) (by omega)
    have low := digit (character.toNat % 16) (by omega)
    simp [IsUncontrolled, high, low]
  · simpa [IsUncontrolled] using control

theorem isUncontrolled_quoted (text : String) : IsUncontrolled (quoted text) := by
  have inside : IsUncontrolled (text.toList.flatMap escapedChar) := by
    intro character listed
    obtain ⟨original, -, escaped⟩ := List.mem_flatMap.mp listed
    exact isUncontrolled_escapedChar original character escaped
  exact .cons (isUncontrolled_append.mpr ⟨inside, .cons isUncontrolled_nil (by decide)⟩)
    (by decide)

/-- Characters beyond ASCII are not escaped, and no escape has them. -/
theorem mem_escapedChar_iff {character original : Char} (beyond : 0x80 ≤ character.toNat) :
    character ∈ escapedChar original ↔ character = original := by
  have digit : ∀ value < 16, (hexDigit value).toNat < 0x80 := by decide
  have apart {other : Char} (ascii : other.toNat < 0x80) : character ≠ other := fun same =>
    Nat.not_le.mpr ascii (same ▸ beyond)
  unfold escapedChar
  split_ifs with quote backslash backspace formFeed lineFeed carriage tab control
  · simp [apart, quote]
  · simp [apart, backslash]
  · simp [apart, backspace]
  · simp [apart, formFeed]
  · simp [apart, lineFeed]
  · simp [apart, carriage]
  · simp [apart, tab]
  · have high := digit (original.toNat / 16) (by omega)
    have low := digit (original.toNat % 16) (by omega)
    have ascii : original.toNat < 0x80 := by omega
    simp [apart, high, low, ascii]
  · simp

theorem mem_quoted_iff {character : Char} {text : String} (beyond : 0x80 ≤ character.toNat) :
    character ∈ quoted text ↔ character ∈ text.toList := by
  have quote : character ≠ '"' := fun same => absurd (same ▸ beyond) (by decide)
  simp [quoted, quote, mem_escapedChar_iff beyond]

/-! ## Numbers -/

theorem isUncontrolled_natText (value : Nat) : IsUncontrolled (natText value) :=
  (allDigits_natText value).isUncontrolled

theorem isUncontrolled_zeros (count : Nat) : IsUncontrolled (List.replicate count '0') :=
  (allDigits_zeros count).isUncontrolled

theorem isUncontrolled_positionalText {digits : List Char} (text : IsUncontrolled digits)
    (leading : Int) : IsUncontrolled (positionalText digits leading) := by
  have zero : IsUncontrolled ['0'] := .cons isUncontrolled_nil (by decide)
  unfold positionalText
  split
  · have behind := isUncontrolled_append.mpr ⟨isUncontrolled_zeros (-leading - 1).toNat, text⟩
    exact .cons (.cons behind (by decide)) (by decide)
  · have whole : IsUncontrolled (digits.take (leading.toNat + 1)) := fun character listed =>
      text character (List.mem_of_mem_take listed)
    have fraction : IsUncontrolled (digits.drop (leading.toNat + 1)) := fun character listed =>
      text character (List.mem_of_mem_drop listed)
    have behind : IsUncontrolled (if (digits.drop (leading.toNat + 1)).isEmpty then ['0']
        else digits.drop (leading.toNat + 1)) := by
      split
      · exact zero
      · exact fraction
    have front := isUncontrolled_append.mpr
      ⟨whole, isUncontrolled_zeros (leading.toNat + 1 - digits.length)⟩
    exact isUncontrolled_append.mpr ⟨front, .cons behind (by decide)⟩

theorem isUncontrolled_exponentText {digits : List Char} (text : IsUncontrolled digits)
    (leading : Int) : IsUncontrolled (exponentText digits leading) := by
  have sign : 0x20 ≤ (if leading < 0 then '-' else '+').toNat := by split <;> decide
  have power : IsUncontrolled ('e' :: (if leading < 0 then '-' else '+') ::
      natText leading.natAbs) :=
    .cons (.cons (isUncontrolled_natText _) sign) (by decide)
  unfold exponentText
  refine isUncontrolled_append.mpr ⟨?_, power⟩
  split
  · obtain ⟨first, others⟩ := isUncontrolled_cons.mp text
    exact .cons (.cons others (by decide)) first
  · exact text

theorem isUncontrolled_decimalText (decimal : Decimal.DecimalNumber) :
    IsUncontrolled (decimalText decimal) := by
  unfold decimalText
  dsimp only
  split
  · exact isUncontrolled_positionalText (isUncontrolled_natText _) _
  · exact isUncontrolled_exponentText (isUncontrolled_natText _) _

theorem isUncontrolled_numberText (number : Number) : IsUncontrolled (numberText number) := by
  cases number with
  | integer value =>
      cases value with
      | ofNat value => exact isUncontrolled_natText value
      | negSucc value => exact .cons (isUncontrolled_natText (value + 1)) (by decide)
  | binary value =>
      have magnitude : IsUncontrolled (if value.mantissa = 0 then ['0', '.', '0']
          else decimalText (Decimal.shortestDecimal value.mantissa value.exponent)) := by
        split
        · simp [IsUncontrolled]
        · exact isUncontrolled_decimalText _
      unfold numberText binaryText
      dsimp only
      split
      · exact .cons magnitude (by decide)
      · exact magnitude

theorem decimalText_ne_nil (decimal : Decimal.DecimalNumber) : decimalText decimal ≠ [] := by
  unfold decimalText positionalText exponentText
  dsimp only
  split_ifs <;> simp

theorem numberText_ne_nil (number : Number) : numberText number ≠ [] := by
  cases number with
  | integer value =>
      cases value with
      | ofNat value => exact Nat.toDigits_ne_nil
      | negSucc value => exact List.cons_ne_nil _ _
  | binary value =>
      unfold numberText binaryText
      dsimp only
      split
      · exact List.cons_ne_nil _ _
      · split
        · exact List.cons_ne_nil _ _
        · exact decimalText_ne_nil _

/-! ## Values -/

theorem isUncontrolled_compactItems {items : List Json}
    (all : ∀ item ∈ items, IsUncontrolled (compactChars item)) :
    IsUncontrolled (compactItems items) := by
  induction items with
  | nil => simp [compactItems, IsUncontrolled]
  | cons item rest ih =>
      obtain ⟨first, others⟩ := List.forall_mem_cons.mp all
      have following := ih others
      cases rest with
      | nil => exact isUncontrolled_append.mpr ⟨first, following⟩
      | cons second rest =>
          exact isUncontrolled_append.mpr ⟨first, .cons following (by decide)⟩

theorem isUncontrolled_compactMembers {members : List (String × Json)}
    (all : ∀ member ∈ members, IsUncontrolled (compactChars member.2)) :
    IsUncontrolled (compactMembers members) := by
  induction members with
  | nil => simp [compactMembers, IsUncontrolled]
  | cons member rest ih =>
      obtain ⟨key, value⟩ := member
      obtain ⟨first, others⟩ := List.forall_mem_cons.mp all
      have following := ih others
      have name := isUncontrolled_quoted key
      cases rest with
      | nil =>
          have text := isUncontrolled_append.mpr ⟨first, following⟩
          exact isUncontrolled_append.mpr ⟨name, .cons text (by decide)⟩
      | cons second rest =>
          have behind : IsUncontrolled (',' :: compactMembers (second :: rest)) :=
            .cons following (by decide)
          have text := isUncontrolled_append.mpr ⟨first, behind⟩
          exact isUncontrolled_append.mpr ⟨name, .cons text (by decide)⟩

theorem isUncontrolled_compactChars (value : Json) : IsUncontrolled (compactChars value) := by
  induction value with
  | null => simp [compactChars, IsUncontrolled]
  | bool value => cases value <;> simp [compactChars, IsUncontrolled]
  | number value => exact isUncontrolled_numberText value
  | string text => exact isUncontrolled_quoted text
  | array items all => exact .cons (isUncontrolled_compactItems all) (by decide)
  | object members all => exact .cons (isUncontrolled_compactMembers all) (by decide)

/-- There is something to be read of every value. -/
theorem compactChars_ne_nil (value : Json) : compactChars value ≠ [] := by
  cases value with
  | null => simp [compactChars]
  | bool value => cases value <;> simp [compactChars]
  | number value => exact numberText_ne_nil value
  | string text => simp [compactChars, quoted]
  | array items => simp [compactChars]
  | object members => simp [compactChars]

theorem isUncontrolled_compact (value : Json) : IsUncontrolled value.compact.toList := by
  rw [compact, String.toList_ofList]
  exact isUncontrolled_compactChars value

end BrowserRelay.Json
