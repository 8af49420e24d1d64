import BrowserRelay.Json.NumberText
import BrowserRelay.Proofs.JsonValues
import BrowserRelay.Proofs.ShortestDecimal
import Mathlib.Tactic.SplitIfs

/-!
# The text of a number

Whatever form a number is written in, the reader takes from its text one numeral, whose value is
that of the shortest decimal.  So the number nearest to the numeral is the number itself.  What the
reader makes of the numeral is the number itself for every whole number, and for the binary numbers
that its arithmetic finds again.
-/

namespace BrowserRelay

/-! ## Digits -/

theorem digitsValue_eq (digits : List Char) :
    digitsValue digits = Nat.ofDigitChars 10 digits 0 := by
  simp only [digitsValue, Nat.ofDigitChars, digitValue, Nat.mul_comm]

theorem digitsValue_append (digits more : List Char) :
    digitsValue (digits ++ more) = digitsValue digits * 10 ^ more.length + digitsValue more := by
  induction more using List.reverseRecOn with
  | nil => simp [digitsValue]
  | append_singleton more digit ih =>
      have last (digits : List Char) :
          digitsValue (digits ++ [digit]) = digitsValue digits * 10 + digitValue digit := by
        simp [digitsValue]
      rw [← List.append_assoc, last, last, ih, List.length_append, List.length_singleton, pow_succ]
      ring

theorem digitsValue_zeros (count : Nat) : digitsValue (List.replicate count '0') = 0 := by
  induction count with
  | zero => rfl
  | succ count ih =>
      rw [List.replicate_succ', digitsValue_append, ih]
      rfl

namespace Json

theorem digitsValue_natText (value : Nat) : digitsValue (natText value) = value := by
  rw [digitsValue_eq, natText, Nat.ofDigitChars_ten_toDigits]

theorem toString_injective : Function.Injective (toString : Nat → String) := by
  intro first second same
  have digits : natText first = natText second := by
    simpa only [natText, Nat.toString_eq_ofList_toDigits, String.toList_ofList] using
      congrArg String.toList same
  rw [← digitsValue_natText first, digits, digitsValue_natText]

/-- A text of digits only. -/
def AllDigits (text : List Char) : Prop := ∀ character ∈ text, character.isDigit = true

/-- A text does not go on with a digit. -/
def EndsDigits (rest : List Char) : Prop := ∀ character ∈ rest.head?, character.isDigit = false

theorem allDigits_natText (value : Nat) : AllDigits (natText value) := fun _ listed =>
  Nat.isDigit_of_mem_toDigits (by decide) (by decide) listed

theorem takeWhile_digits {digits rest : List Char} (all : AllDigits digits)
    (ends : EndsDigits rest) : (digits ++ rest).takeWhile Char.isDigit = digits := by
  rw [List.takeWhile_append_of_pos all]
  cases rest with
  | nil => simp
  | cons character rest => simp [ends character rfl]

theorem dropWhile_digits {digits rest : List Char} (all : AllDigits digits)
    (ends : EndsDigits rest) : (digits ++ rest).dropWhile Char.isDigit = rest := by
  rw [List.dropWhile_append_of_pos all]
  cases rest with
  | nil => rfl
  | cons character rest => simp [ends character rfl]

/-- Digits as they stand before a point: a zero stands alone. -/
structure IsWhole (text : List Char) : Prop where
  digits : AllDigits text
  ne_nil : text ≠ []
  alone : text.head? = some '0' → text.length = 1

theorem natText_head {value : Nat} (positive : 0 < value) : (natText value).head? ≠ some '0' := by
  induction value using Nat.strongRecOn with
  | ind value ih =>
      unfold natText
      rw [Nat.toDigits_eq_if (by decide)]
      split
      case isTrue small =>
        have digit : ∀ value < 10, 0 < value → [Nat.digitChar value].head? ≠ some '0' := by decide
        exact digit value small positive
      case isFalse large =>
        have some := List.ne_nil_of_length_pos (Nat.length_toDigits_pos (b := 10) (n := value / 10))
        rw [List.head?_append_of_ne_nil _ some]
        exact ih (value / 10) (by omega) (by omega)

theorem isWhole_natText (value : Nat) : IsWhole (natText value) := by
  refine ⟨allDigits_natText value, List.ne_nil_of_length_pos Nat.length_toDigits_pos, ?_⟩
  intro zero
  rcases Nat.eq_zero_or_pos value with rfl | positive
  · rfl
  · exact absurd zero (natText_head positive)

theorem isWhole_zero : IsWhole ['0'] := isWhole_natText 0

/-! ## Numerals -/

/-- The exponent of a number with its sign. -/
def exponentSuffix (exponent : Int) : List Char :=
  'e' :: (if exponent < 0 then '-' else '+') :: natText exponent.natAbs

/-- The text of a numeral without its sign. -/
def numeralText (numeral : Numeral) : List Char :=
  numeral.whole ++ ((if numeral.fraction = [] then [] else '.' :: numeral.fraction) ++
    (numeral.exponent.map exponentSuffix).getD [])

/-- The parts of a numeral are what they are called. -/
structure IsNumeral (numeral : Numeral) : Prop where
  whole : IsWhole numeral.whole
  fraction : AllDigits numeral.fraction

/-! ## Reading numbers -/

variable {keeping : Keeping} {numeral : Numeral} {number : Number} {rest : List Char}

/-- A text does not go on with a number. -/
def EndsNumber (rest : List Char) : Prop :=
  ∀ character ∈ rest.head?, character.isDigit = false ∧ character ∉ ['.', 'e', 'E']

theorem EndsNumber.endsDigits (ends : EndsNumber rest) : EndsDigits rest := fun character first =>
  (ends character first).1

theorem finishNumber_of_some (stop rest : List Char)
    (converts : keeping.number? numeral = some number) :
    finishNumber keeping numeral stop rest = .ok (number, rest) := by
  rw [finishNumber, converts]

/-- Behind its whole part a number goes on by what follows. -/
theorem readNumber_whole {negative : Bool} {whole : List Char} (number : IsWhole whole) :
    EndsDigits rest → readNumber keeping negative (whole ++ rest) =
      match rest with
      | '.' :: fraction => readFraction keeping { isNegative := negative, whole } fraction
      | 'e' :: exponent => readExponent keeping { isNegative := negative, whole } exponent
      | 'E' :: exponent => readExponent keeping { isNegative := negative, whole } exponent
      | rest => finishNumber keeping { isNegative := negative, whole } rest rest := by
  intro ends
  obtain ⟨first, more, rfl⟩ := List.exists_cons_of_ne_nil number.ne_nil
  have digit : first.isDigit = true := number.digits first List.mem_cons_self
  have taken := takeWhile_digits number.digits ends
  have dropped := dropWhile_digits number.digits ends
  rw [List.cons_append] at taken dropped ⊢
  unfold readNumber
  dsimp only
  have alone : ¬(first = '0' ∧ (first :: more).length > 1) := by
    rintro ⟨zero, long⟩
    have := number.alone (by rw [List.head?_cons, zero])
    omega
  rewrite [taken, dropped, digit, Bool.not_true, if_neg Bool.false_ne_true, if_neg alone]
  rfl

theorem readFraction_digits {fraction : List Char} (digits : AllDigits fraction)
    (some : fraction ≠ []) :
    EndsDigits rest → readFraction keeping numeral (fraction ++ rest) =
      match rest with
      | 'e' :: exponent => readExponent keeping { numeral with fraction } exponent
      | 'E' :: exponent => readExponent keeping { numeral with fraction } exponent
      | rest => finishNumber keeping { numeral with fraction } rest rest := by
  intro ends
  unfold readFraction
  dsimp only
  rewrite [takeWhile_digits digits ends, dropWhile_digits digits ends,
    if_neg (by simpa [List.isEmpty_iff] using some)]
  rfl

theorem readExponent_suffix {exponent : Int} (ends : EndsDigits rest)
    (converts : keeping.number? { numeral with exponent := some exponent } = some number) :
    readExponent keeping numeral
        ((if exponent < 0 then '-' else '+') :: (natText exponent.natAbs ++ rest)) =
      .ok (number, rest) := by
  have taken := takeWhile_digits (allDigits_natText exponent.natAbs) ends
  have dropped := dropWhile_digits (allDigits_natText exponent.natAbs) ends
  have all := allDigits_natText exponent.natAbs
  have value := digitsValue_natText exponent.natAbs
  have some := (isWhole_natText exponent.natAbs).ne_nil
  generalize natText exponent.natAbs = digits at *
  obtain ⟨first, more, rfl⟩ := List.exists_cons_of_ne_nil some
  rw [List.cons_append] at taken dropped ⊢
  have digit : first.isDigit = true := all first List.mem_cons_self
  by_cases down : exponent < 0
  · have size : -|exponent| = exponent := by rw [abs_of_neg down, neg_neg]
    simp [readExponent, down, digit, taken, dropped, value, size, finishNumber_of_some _ _ converts]
  · have size : |exponent| = exponent := abs_of_nonneg (Int.not_lt.mp down)
    simp [readExponent, down, digit, taken, dropped, value, size, finishNumber_of_some _ _ converts]

/-- The text of a numeral is read as what the numeral is converted to. -/
theorem readNumber_numeralText (formed : IsNumeral numeral) (ends : EndsNumber rest)
    (converts : keeping.number? numeral = some number) :
    readNumber keeping numeral.isNegative (numeralText numeral ++ rest) = .ok (number, rest) := by
  obtain ⟨negative, whole, fraction, exponent⟩ := numeral
  obtain ⟨isWhole, digits⟩ := formed
  have exponentEnds (exponent : Int) : EndsDigits (exponentSuffix exponent ++ rest) := by
    rintro _ ⟨rfl⟩
    rfl
  unfold numeralText
  rw [List.append_assoc, List.append_assoc]
  by_cases bare : fraction = []
  · subst bare
    rw [if_pos rfl, List.nil_append]
    cases exponent with
    | none =>
        change readNumber keeping negative (whole ++ rest) = _
        rw [readNumber_whole isWhole ends.endsDigits]
        split
        · exact absurd (ends _ rfl).2 (by decide)
        · exact absurd (ends _ rfl).2 (by decide)
        · exact absurd (ends _ rfl).2 (by decide)
        · exact finishNumber_of_some _ _ converts
    | some exponent =>
        refine (readNumber_whole isWhole (exponentEnds exponent)).trans ?_
        exact readExponent_suffix ends.endsDigits converts
  · rw [if_neg bare, List.cons_append]
    refine (readNumber_whole isWhole (by rintro _ ⟨rfl⟩; rfl)).trans ?_
    cases exponent with
    | none =>
        refine (readFraction_digits digits bare ends.endsDigits).trans ?_
        split
        · exact absurd (ends _ rfl).2 (by decide)
        · exact absurd (ends _ rfl).2 (by decide)
        · exact finishNumber_of_some _ _ converts
    | some exponent =>
        refine (readFraction_digits digits bare (exponentEnds exponent)).trans ?_
        exact readExponent_suffix ends.endsDigits converts

/-! ## The forms of a decimal -/

/-- The exact value of a numeral without its sign, as digits times a power of ten. -/
def numeralDecimal (numeral : Numeral) : Decimal.DecimalNumber :=
  ⟨digitsValue (numeral.whole ++ numeral.fraction),
    numeral.exponent.getD 0 - numeral.fraction.length⟩

/-- The numeral of the positional form of digits. -/
def positionalNumeral (negative : Bool) (digits : List Char) (leading : Int) : Numeral :=
  if leading < 0 then
    { isNegative := negative, whole := ['0'],
      fraction := List.replicate (-leading - 1).toNat '0' ++ digits }
  else
    let wholeLength := leading.toNat + 1
    { isNegative := negative,
      whole := digits.take wholeLength ++ List.replicate (wholeLength - digits.length) '0',
      fraction := if (digits.drop wholeLength).isEmpty then ['0'] else digits.drop wholeLength }

/-- The numeral of the form of digits with an exponent. -/
def exponentNumeral (negative : Bool) (digits : List Char) (leading : Int) : Numeral :=
  { isNegative := negative, whole := digits.take 1, fraction := digits.drop 1,
    exponent := some leading }

/-- The numeral that a decimal is written as. -/
def decimalNumeral (negative : Bool) (decimal : Decimal.DecimalNumber) : Numeral :=
  let digits := natText decimal.digits
  let leading : Int := decimal.power + digits.length - 1
  if positionalRange.least ≤ leading ∧ leading ≤ positionalRange.greatest then
    positionalNumeral negative digits leading
  else exponentNumeral negative digits leading

theorem allDigits_append {digits more : List Char} :
    AllDigits (digits ++ more) ↔ AllDigits digits ∧ AllDigits more :=
  List.forall_mem_append

theorem allDigits_zeros (count : Nat) : AllDigits (List.replicate count '0') := by
  intro character listed
  rw [List.eq_of_mem_replicate listed]
  rfl

/-- A numeral is written as a text, and its value is that of a decimal. -/
structure Writes (numeral : Numeral) (text : List Char) (value : ℚ) : Prop where
  formed : IsNumeral numeral
  text : numeralText numeral = text
  value : (numeralDecimal numeral).value = value

variable {value : Nat} {leading : Int}

section

variable {text : List Char}

/-- All digits stand behind the point, and zeros before them. -/
theorem behindPoint_writes (negative : Bool) (digits : AllDigits text) (some : text ≠ [])
    (zeros : Nat) :
    Writes
      { isNegative := negative, whole := ['0'], fraction := List.replicate zeros '0' ++ text }
      ('0' :: '.' :: (List.replicate zeros '0' ++ text))
      (digitsValue text * 10 ^ (-(zeros + text.length) : Int)) := by
  have filled : List.replicate zeros '0' ++ text ≠ [] := List.append_ne_nil_of_right_ne_nil _ some
  refine ⟨⟨isWhole_zero, allDigits_append.mpr ⟨allDigits_zeros _, digits⟩⟩, ?_, ?_⟩
  · rw [numeralText, if_neg filled]
    simp
  · have magnitude :
        digitsValue (['0'] ++ (List.replicate zeros '0' ++ text)) = digitsValue text := by
      rw [digitsValue_append, digitsValue_append, digitsValue_zeros]
      simp [digitsValue, digitValue]
    rw [numeralDecimal, Decimal.DecimalNumber.value, magnitude, List.length_append,
      List.length_replicate]
    simp

/-- Digits stand on both sides of the point. -/
theorem aroundPoint_writes (negative : Bool) (digits : AllDigits text)
    (head : text.head? ≠ some '0') {count : Nat} (some : 0 < count) (long : count < text.length) :
    Writes { isNegative := negative, whole := text.take count, fraction := text.drop count }
      (text.take count ++ '.' :: text.drop count)
      (digitsValue text * 10 ^ (count - text.length : Int)) := by
  have back : text.drop count ≠ [] :=
    List.ne_nil_of_length_pos (by rw [List.length_drop]; omega)
  refine ⟨⟨⟨?_, ?_, ?_⟩, ?_⟩, ?_, ?_⟩
  · exact fun character listed => digits character (List.mem_of_mem_take listed)
  · exact List.ne_nil_of_length_pos (by rw [List.length_take]; omega)
  · exact fun zero => absurd (by simpa [List.head?_take, some.ne'] using zero) head
  · exact fun character listed => digits character (List.mem_of_mem_drop listed)
  · simp [numeralText, back]
  · have power : (0 : Int) - ((text.drop count).length : Int) = count - text.length := by
      rw [List.length_drop]
      omega
    simp only [numeralDecimal, Option.getD_none, List.take_append_drop, power,
      Decimal.DecimalNumber.value]

/-- All digits stand before the point, and zeros behind them. -/
theorem beforePoint_writes (negative : Bool) (digits : AllDigits text)
    (head : text.head? ≠ some '0') (some : text ≠ []) (zeros : Nat) :
    Writes
      { isNegative := negative, whole := text ++ List.replicate zeros '0', fraction := ['0'] }
      (text ++ List.replicate zeros '0' ++ ['.', '0'])
      (digitsValue text * 10 ^ (zeros : Int)) := by
  refine ⟨⟨⟨?_, ?_, ?_⟩, allDigits_natText 0⟩, ?_, ?_⟩
  · exact allDigits_append.mpr ⟨digits, allDigits_zeros _⟩
  · exact List.append_ne_nil_of_left_ne_nil some _
  · exact fun zero => absurd (List.head?_append_of_ne_nil _ some ▸ zero) head
  · simp [numeralText]
  · have none : digitsValue ['0'] = 0 := rfl
    rw [numeralDecimal, Decimal.DecimalNumber.value, digitsValue_append, digitsValue_append,
      digitsValue_zeros, none, Nat.add_zero, Nat.add_zero, List.length_replicate, zpow_natCast]
    simp

end

theorem positionalNumeral_writes (negative : Bool) (positive : 0 < value) :
    Writes (positionalNumeral negative (natText value) leading)
      (positionalText (natText value) leading)
      (value * 10 ^ (leading + 1 - (natText value).length)) := by
  have digits := allDigits_natText value
  have some := (isWhole_natText value).ne_nil
  have head := natText_head positive
  have magnitude := digitsValue_natText value
  generalize natText value = text at *
  subst magnitude
  unfold positionalText positionalNumeral
  split
  case isTrue down =>
    have power : leading + 1 - text.length = -((-leading - 1).toNat + text.length) := by omega
    rw [power]
    exact behindPoint_writes negative digits some _
  case isFalse up =>
    dsimp only
    rcases Nat.lt_or_ge (leading.toNat + 1) text.length with long | short
    · have back : (text.drop (leading.toNat + 1)).isEmpty = false := by
        rw [List.isEmpty_eq_false_iff]
        exact List.ne_nil_of_length_pos (by rw [List.length_drop]; omega)
      have none : leading.toNat + 1 - text.length = 0 := by omega
      have power : leading + 1 - text.length = (leading.toNat + 1 : Nat) - text.length := by omega
      rw [none, List.replicate_zero, List.append_nil, back, if_neg Bool.false_ne_true, power]
      exact aroundPoint_writes negative digits head (Nat.succ_pos _) long
    · have power : leading + 1 - text.length = (leading.toNat + 1 - text.length : Nat) := by omega
      rw [List.take_of_length_le short, List.drop_of_length_le short, List.isEmpty_nil,
        if_pos rfl, power]
      exact beforePoint_writes negative digits head some _

theorem exponentNumeral_writes (negative : Bool) :
    Writes (exponentNumeral negative (natText value) leading)
      (exponentText (natText value) leading)
      (value * 10 ^ (leading + 1 - (natText value).length)) := by
  have whole := isWhole_natText value
  have digits := digitsValue_natText value
  generalize natText value = text at *
  subst digits
  obtain ⟨first, more, rfl⟩ := List.exists_cons_of_ne_nil whole.ne_nil
  have digit : AllDigits [first] := fun character listed =>
    List.mem_singleton.mp listed ▸ whole.digits first List.mem_cons_self
  refine ⟨⟨⟨digit, List.cons_ne_nil _ _, fun _ => rfl⟩, ?_⟩, ?_, ?_⟩
  · exact fun character listed => whole.digits character (List.mem_cons_of_mem _ listed)
  · cases more <;> rfl
  · have power : leading - (more.length : Int) = leading + 1 - (first :: more).length := by
      rw [List.length_cons]
      omega
    simp only [numeralDecimal, exponentNumeral, Option.getD_some, List.take_succ_cons,
      List.take_zero, List.drop_succ_cons, List.drop_zero, List.singleton_append, power,
      Decimal.DecimalNumber.value]

theorem decimalNumeral_writes (negative : Bool) {decimal : Decimal.DecimalNumber}
    (positive : 0 < decimal.digits) :
    Writes (decimalNumeral negative decimal) (decimalText decimal) decimal.value := by
  have value : decimal.value = decimal.digits *
      10 ^ (decimal.power + (natText decimal.digits).length - 1 + 1 -
        (natText decimal.digits).length) := by
    rw [Decimal.DecimalNumber.value]
    congr 2
    omega
  rw [value]
  unfold decimalText decimalNumeral
  dsimp only
  split
  · exact positionalNumeral_writes negative positive
  · exact exponentNumeral_writes negative

theorem isNegative_decimalNumeral (negative : Bool) (decimal : Decimal.DecimalNumber) :
    (decimalNumeral negative decimal).isNegative = negative := by
  unfold decimalNumeral positionalNumeral exponentNumeral
  dsimp only
  split_ifs <;> rfl

/-- A decimal is never written like a whole number. -/
theorem not_bare_decimalNumeral (negative : Bool) (decimal : Decimal.DecimalNumber) :
    ¬((decimalNumeral negative decimal).fraction.isEmpty ∧
      (decimalNumeral negative decimal).exponent.isNone) := by
  have some := (isWhole_natText decimal.digits).ne_nil
  unfold decimalNumeral
  dsimp only
  split
  · unfold positionalNumeral
    split
    · simp [some]
    · dsimp only
      split_ifs with none <;> simp_all
  · simp [exponentNumeral]

/-! ## Numbers -/

/-- The numeral that a number is written as. -/
def numeralOf : Number → Numeral
  | .integer value => { isNegative := value < 0, whole := natText value.natAbs }
  | .binary value =>
      if value.mantissa = 0 then
        { isNegative := value.isNegative, whole := ['0'], fraction := ['0'] }
      else
        decimalNumeral value.isNegative (Decimal.shortestDecimal value.mantissa value.exponent)

theorem numeralOf_zero {value : Decimal.Binary64} (zero : value.mantissa = 0) :
    numeralOf (.binary value) =
      { isNegative := value.isNegative, whole := ['0'], fraction := ['0'] } := by
  simp only [numeralOf, zero, ↓reduceIte]

theorem numeralOf_binary {value : Decimal.Binary64} (some : value.mantissa ≠ 0) :
    numeralOf (.binary value) =
      decimalNumeral value.isNegative
        (Decimal.shortestDecimal value.mantissa value.exponent) := by
  simp only [numeralOf, some, ↓reduceIte]

theorem shortestDecimal_positive {value : Decimal.Binary64}
    (proper : (Number.binary value).IsProper) (some : value.mantissa ≠ 0) :
    0 < (Decimal.shortestDecimal value.mantissa value.exponent).digits :=
  (Decimal.shortestDecimal_rounds (Nat.pos_of_ne_zero some) (Decimal.Binary64.isScaled proper)).1

theorem isNumeral_numeralOf (proper : number.IsProper) : IsNumeral (numeralOf number) := by
  cases number with
  | integer value => exact ⟨isWhole_natText _, List.forall_mem_nil _⟩
  | binary value =>
      by_cases zero : value.mantissa = 0
      · rw [numeralOf_zero zero]
        exact ⟨isWhole_zero, allDigits_natText 0⟩
      · rw [numeralOf_binary zero]
        exact (decimalNumeral_writes _ (shortestDecimal_positive proper zero)).formed

/-- A number is written with its sign in front of its numeral. -/
theorem numberText_eq (proper : number.IsProper) :
    numberText number =
      if (numeralOf number).isNegative then '-' :: numeralText (numeralOf number)
      else numeralText (numeralOf number) := by
  cases number with
  | integer value =>
      have bare : numeralText (numeralOf (.integer value)) = natText value.natAbs := by
        simp [numeralText, numeralOf]
      rw [bare]
      cases value with
      | ofNat value => rfl
      | negSucc value =>
          have negative : (numeralOf (.integer (Int.negSucc value))).isNegative = true :=
            decide_eq_true (Int.negSucc_lt_zero value)
          rw [if_pos negative]
          rfl
  | binary value =>
      unfold numberText binaryText
      dsimp only
      by_cases zero : value.mantissa = 0
      · rw [numeralOf_zero zero, if_pos zero]
        rfl
      · rw [numeralOf_binary zero, if_neg zero, isNegative_decimalNumeral,
          (decimalNumeral_writes _ (shortestDecimal_positive proper zero)).text]

theorem numeralText_head (formed : IsNumeral numeral) :
    ∃ first more, numeralText numeral = first :: more ∧ first.isDigit = true := by
  obtain ⟨first, more, whole⟩ := List.exists_cons_of_ne_nil formed.whole.ne_nil
  refine ⟨first, _, by rw [numeralText, whole, List.cons_append], ?_⟩
  exact formed.whole.digits first (whole ▸ List.mem_cons_self)

/-! ## Exact conversion -/

/-- The number that is nearest to a numeral; without fraction and exponent it is a whole number. -/
def nearest? (numeral : Numeral) : Option Number :=
  if numeral.fraction.isEmpty ∧ numeral.exponent.isNone then
    some (.integer (if numeral.isNegative then -digitsValue numeral.whole
      else digitsValue numeral.whole))
  else
    (Decimal.Binary64.ofDecimal numeral.isNegative (numeralDecimal numeral).digits
      (numeralDecimal numeral).power).map .binary

/-- A number is the one that is nearest to its numeral. -/
theorem nearest?_numeralOf (proper : number.IsProper) :
    nearest? (numeralOf number) = some number := by
  cases number with
  | integer value =>
      have digits := digitsValue_natText value.natAbs
      simp only [nearest?, numeralOf, digits, List.isEmpty_nil, Option.isNone_none, and_self,
        ↓reduceIte, Option.some.injEq, Number.integer.injEq]
      by_cases below : value < 0
      · rw [if_pos (decide_eq_true below)]
        omega
      · rw [if_neg (by simpa using below)]
        omega
  | binary value =>
      by_cases zero : value.mantissa = 0
      · rw [numeralOf_zero zero]
        change (Decimal.Binary64.ofDecimal value.isNegative 0 (0 - 1)).map Number.binary = _
        rw [Decimal.Binary64.ofDecimal_zero, Decimal.Binary64.zero_isNegative zero]
        rfl
      · have positive : 0 < value.mantissa := Nat.pos_of_ne_zero zero
        have scaled := Decimal.Binary64.isScaled proper
        obtain ⟨digits, rounds⟩ := Decimal.shortestDecimal_rounds positive scaled
        have same := (decimalNumeral_writes value.isNegative digits).value
        have above : (0 : ℚ) < (Decimal.shortestDecimal value.mantissa value.exponent).value :=
          mul_pos (Nat.cast_pos.mpr digits) (zpow_pos (by norm_num) _)
        rw [numeralOf_binary zero, nearest?, if_neg (not_bare_decimalNumeral _ _),
          isNegative_decimalNumeral]
        rw [← same] at above rounds
        generalize numeralDecimal (decimalNumeral value.isNegative
          (Decimal.shortestDecimal value.mantissa value.exponent)) = decimal at above rounds ⊢
        have some : 0 < decimal.digits := by
          refine Nat.pos_of_ne_zero fun none => ?_
          rw [Decimal.DecimalNumber.value, none, Nat.cast_zero, zero_mul] at above
          exact above.false
        rw [Decimal.Binary64.ofDecimal_eq some positive scaled rounds,
          Decimal.Binary64.assemble_fields value proper]
        rfl

/-! ## What the reader makes of the text of a number -/

/-- The number that the reader finds in the text of a number, unless it finds it too large. -/
def reread? (number : Number) : Option Number := (numeralOf number).number?

/-- The number that a number becomes when its text is read; one that is found too large stays. -/
def reread (number : Number) : Number := (reread? number).getD number

theorem gatherDigits_eq {significand : Nat} {digits : List Char}
    (small : significand * 10 ^ digits.length + digitsValue digits < 2 ^ 64) :
    gatherDigits significand digits =
      (significand * 10 ^ digits.length + digitsValue digits, []) := by
  induction digits generalizing significand with
  | nil => simp [gatherDigits, digitsValue]
  | cons digit digits ih =>
      have first : digitsValue (digit :: digits) =
          digitValue digit * 10 ^ digits.length + digitsValue digits := by
        rw [← List.singleton_append, digitsValue_append]
        simp [digitsValue]
      have longer : significand * 10 ^ (digit :: digits).length + digitsValue (digit :: digits) =
          (significand * 10 + digitValue digit) * 10 ^ digits.length + digitsValue digits := by
        rw [first, List.length_cons, pow_succ]
        ring
      rw [longer] at small ⊢
      have fits : significand * 10 + digitValue digit < 2 ^ 64 := by
        have := Nat.le_mul_of_pos_right (significand * 10 + digitValue digit)
          (Nat.pow_pos (n := digits.length) (by decide : 0 < 10))
        omega
      unfold gatherDigits
      dsimp only
      rw [Nat.pow_eq, if_pos fits, ih small]

/-- Every whole number is read back. -/
theorem reread?_integer {value : Int} (proper : (Number.integer value).IsProper) :
    reread? (.integer value) = some (.integer value) := by
  obtain ⟨low, high⟩ : -2 ^ 63 ≤ value ∧ value < 2 ^ 64 := proper
  have digits : gatherDigits 0 (natText value.natAbs) = (value.natAbs, []) := by
    have small : 0 * 10 ^ (natText value.natAbs).length + digitsValue (natText value.natAbs) <
        2 ^ 64 := by
      rw [digitsValue_natText]
      omega
    rw [gatherDigits_eq small, digitsValue_natText, Nat.zero_mul, Nat.zero_add]
  have gathered : (numeralOf (.integer value)).gathered = (value.natAbs, 0) := by
    simp [Numeral.gathered, numeralOf, digits, gatherDigits]
  have sign : (numeralOf (.integer value)).isNegative = decide (value < 0) := rfl
  have bare : (numeralOf (.integer value)).fraction.isEmpty ∧
      (numeralOf (.integer value)).exponent.isNone := ⟨rfl, rfl⟩
  unfold reread? Numeral.number?
  rw [gathered, sign]
  dsimp only
  rw [if_pos ⟨bare.1, bare.2, rfl⟩]
  by_cases below : value < 0
  · rw [decide_eq_true below, Bool.not_true, if_neg Bool.false_ne_true, Nat.pow_eq,
      if_pos (by omega)]
    congr 2
    omega
  · rw [decide_eq_false below, Bool.not_false, if_pos rfl]
    congr 2
    omega

end Json

/-- A number is read back from its text.  A whole number always is, and a binary number is if the
arithmetic of the reader finds it again. -/
def Number.IsReread : Number → Prop
  | .integer _ => True
  | .binary value => Json.reread? (.binary value) = some (.binary value)

theorem Number.isReread_iff {number : Number} (proper : number.IsProper) :
    number.IsReread ↔ Json.reread? number = some number := by
  cases number with
  | integer value => exact iff_of_true trivial (Json.reread?_integer proper)
  | binary value => exact Iff.rfl

theorem Number.isReread_iff_reread {number : Number} (proper : number.IsProper)
    (read : (Json.reread? number).isSome) : number.IsReread ↔ Json.reread number = number := by
  obtain ⟨found, read⟩ := Option.isSome_iff_exists.mp read
  rw [isReread_iff proper, Json.reread, read, Option.getD_some, Option.some.injEq]

end BrowserRelay
