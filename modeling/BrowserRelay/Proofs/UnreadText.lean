import BrowserRelay.Proofs.JsonText

/-!
# Text that the reader stops in

The reader stops in the text of a value that is nested too deep, or that holds a number that is too
large for it.  That is seen from a reader that finds some number in their place: where the one
succeeds, the other reads the same.
-/

namespace BrowserRelay.Json

variable {numbers : Numeral → Option Number} {depth : Nat}

/-! ## Conversions that find more numbers -/

/-- A conversion agrees with another one wherever that one succeeds. -/
def Extends (numbers others : Numeral → Option Number) : Prop :=
  ∀ numeral number, numbers numeral = some number → others numeral = some number

section

variable {others : Numeral → Option Number} {numeral : Numeral} {characters : List Char}
  {read : Number × List Char}

theorem finishNumber_extends (further : Extends numbers others) {stop rest : List Char}
    (found : finishNumber (.all numbers) numeral stop rest = .ok read) :
    finishNumber (.all others) numeral stop rest = .ok read := by
  have converted : numbers numeral = some read.1 := finishNumber_eq_ok found
  have same : (Keeping.all numbers).number? numeral = some read.1 := converted
  rw [finishNumber_of_some stop rest same] at found
  rw [← found]
  exact finishNumber_of_some stop rest (further numeral read.1 converted)

theorem readExponent_extends (further : Extends numbers others)
    (found : readExponent (.all numbers) numeral characters = .ok read) :
    readExponent (.all others) numeral characters = .ok read := by
  unfold readExponent at found ⊢
  dsimp only at found ⊢
  split at found
  · exact found
  · split at found
    case isTrue digit =>
      rw [if_pos digit]
      exact finishNumber_extends further found
    case isFalse other =>
      rw [if_neg other]
      exact found

theorem readFraction_extends (further : Extends numbers others)
    (found : readFraction (.all numbers) numeral characters = .ok read) :
    readFraction (.all others) numeral characters = .ok read := by
  unfold readFraction at found ⊢
  dsimp only at found ⊢
  split at found
  case isTrue none =>
    rw [if_pos none]
    exact found
  case isFalse some =>
    rw [if_neg some]
    split at found
    · exact readExponent_extends further found
    · exact readExponent_extends further found
    · exact finishNumber_extends further found

theorem readNumber_extends (further : Extends numbers others) {negative : Bool}
    (found : readNumber (.all numbers) negative characters = .ok read) :
    readNumber (.all others) negative characters = .ok read := by
  unfold readNumber at found ⊢
  split at found
  · exact found
  · dsimp only at found ⊢
    split at found
    · simp [stopHere] at found
    · split at found
      · simp [stopAtNext] at found
      · rw [if_neg ‹_›, if_neg ‹_›]
        split at found
        · exact readFraction_extends further found
        · exact readExponent_extends further found
        · exact readExponent_extends further found
        · exact finishNumber_extends further found

end


/-- What is read with some fuel is read alike when more numerals are converted and more containers
may be opened. -/
structure ReadsAlike (numbers others : Numeral → Option Number) (fuel : Nat) : Prop where
  value : ∀ {depth deeper characters read}, depth ≤ deeper →
    readValueFrom (.all numbers) fuel depth characters = .ok read →
      readValueFrom (.all others) fuel deeper characters = .ok read
  items : ∀ {depth deeper isFirst items characters read}, depth ≤ deeper →
    readItems (.all numbers) fuel depth isFirst items characters = .ok read →
      readItems (.all others) fuel deeper isFirst items characters = .ok read
  members : ∀ {depth deeper isFirst members characters read}, depth ≤ deeper →
    readMembers (.all numbers) fuel depth isFirst members characters = .ok read →
      readMembers (.all others) fuel deeper isFirst members characters = .ok read

theorem withValue_number_extends {others : Numeral → Option Number}
    (further : Extends numbers others) {negative : Bool} {characters : List Char}
    {read : Json × List Char}
    (found : withValue (readNumber (.all numbers) negative characters) Json.number = .ok read) :
    withValue (readNumber (.all others) negative characters) Json.number = .ok read := by
  obtain ⟨number, inner, shown⟩ := withValue_eq_ok found
  rw [readNumber_extends further inner, withValue, ← shown]

namespace ReadsAlike

variable {others : Numeral → Option Number} {fuel deeper : Nat}

theorem value_succ (alike : ReadsAlike numbers others fuel) (further : Extends numbers others)
    {characters : List Char} {read : Json × List Char} (le : depth ≤ deeper)
    (found : readValueFrom (.all numbers) (fuel + 1) depth characters = .ok read) :
    readValueFrom (.all others) (fuel + 1) deeper characters = .ok read := by
  unfold readValueFrom at found ⊢
  split at found
  case h_6 => exact withValue_number_extends further found
  case h_7 more skipped =>
    split at found
    · simp [stopAtNext] at found
    case isFalse allowed =>
      have positive : depth ≠ 0 := fun zero => allowed ⟨zero, rfl⟩
      rw [if_neg (fun none => by omega)]
      cases inner : readItems (.all numbers) fuel (depth - 1) true [] more with
      | error stop => simp [inner, withValue] at found
      | ok items => rwa [alike.items (Nat.sub_le_sub_right le 1) inner, ← inner]
  case h_8 more skipped =>
    split at found
    · simp [stopAtNext] at found
    case isFalse allowed =>
      have positive : depth ≠ 0 := fun zero => allowed ⟨zero, rfl⟩
      rw [if_neg (fun none => by omega)]
      cases inner : readMembers (.all numbers) fuel (depth - 1) true [] more with
      | error stop => simp [inner, withValue] at found
      | ok members => rwa [alike.members (Nat.sub_le_sub_right le 1) inner, ← inner]
  case h_9 =>
    split at found
    case isTrue digit =>
      rw [if_pos digit]
      exact withValue_number_extends further found
    case isFalse other =>
      rw [if_neg other]
      exact found
  -- Nothing else is a number or opens a container.
  all_goals exact found

theorem items_succ (alike : ReadsAlike numbers others fuel) {isFirst : Bool} {items : List Json}
    {characters : List Char} {read : List Json × List Char} (le : depth ≤ deeper)
    (found : readItems (.all numbers) (fuel + 1) depth isFirst items characters = .ok read) :
    readItems (.all others) (fuel + 1) deeper isFirst items characters = .ok read := by
  unfold readItems at found ⊢
  split at found
  · simp at found
  · exact found
  · split at found
    · simp at found
    case h_2 inner =>
      rw [alike.value le inner]
      exact alike.items le found

theorem members_succ (alike : ReadsAlike numbers others fuel) {isFirst : Bool}
    {members : List (String × Json)} {characters : List Char}
    {read : List (String × Json) × List Char} (le : depth ≤ deeper)
    (found : readMembers (.all numbers) (fuel + 1) depth isFirst members characters = .ok read) :
    readMembers (.all others) (fuel + 1) deeper isFirst members characters = .ok read := by
  have keys (text : List Char) : readString (.all others) text = readString (.all numbers) text :=
    rfl
  unfold readMembers at found ⊢
  split at found
  · simp at found
  · exact found
  · rw [keys]
    split at found
    · simp at found
    · split at found
      · simp at found
      · split at found
        · simp at found
        case h_2 inner =>
          rw [alike.value le inner]
          exact alike.members le found

end ReadsAlike

theorem readsAlike {others : Numeral → Option Number} (further : Extends numbers others)
    (fuel : Nat) : ReadsAlike numbers others fuel := by
  induction fuel with
  | zero =>
      constructor
      · intro depth deeper characters read _ found
        simp [readValueFrom, stopAtNext] at found
      · intro depth deeper isFirst items characters read _ found
        simp [readItems, stopAtNext] at found
      · intro depth deeper isFirst members characters read _ found
        simp [readMembers, stopAtNext] at found
  | succ fuel alike => exact ⟨alike.value_succ further, alike.items_succ, alike.members_succ⟩

/-- Fall back on a number where a conversion fails. -/
def fallingBack (numbers : Numeral → Option Number) (number : Number) (numeral : Numeral) :
    Option Number :=
  some ((numbers numeral).getD number)

theorem extends_fallingBack (numbers : Numeral → Option Number) (number : Number) :
    Extends numbers (fallingBack numbers number) := by
  intro numeral found converted
  rw [fallingBack, converted, Option.getD_some]

/-- A value whose text is read: it is nested no deeper than a limit, and none of its numbers is
found too large. -/
structure IsReadable (limit : Nat) (value : Json) : Prop extends value.Fits limit where
  converted : ∀ number ∈ value.numbers, (reread? number).isSome

theorem IsReadable.converts {value : Json} (readable : value.IsReadable depth) :
    ∀ number ∈ value.numbers, Numeral.number? (numeralOf number) = some (reread number) := by
  intro number inside
  obtain ⟨found, read⟩ := Option.isSome_iff_exists.mp (readable.converted number inside)
  rw [reread, read]
  exact read

/-- The reader stops in the pretty text of a proper value that is not readable. -/
theorem stops_in_prettyChars {value : Json} (proper : value.IsProper)
    (unread : ¬value.IsReadable depth) (level fuel : Nat) (rest : List Char)
    (enough : 2 * (prettyChars level value).length ≤ fuel) (ends : EndsNumber rest) :
    ∃ stop, readValueFrom .value fuel depth (prettyChars level value ++ rest) = .error stop := by
  cases found : readValueFrom .value fuel depth (prettyChars level value ++ rest) with
  | error stop => exact ⟨stop, rfl⟩
  | ok read =>
      -- Falling back on any number, the reader would find the same value.
      have falls (other : Number) :
          value.mapNumbers (fun number => (reread? number).getD other) = read.1 := by
        have whole : value.Fits (max depth value.depth) := ⟨proper, Nat.le_max_right _ _⟩
        have reads : Reads (fallingBack Numeral.number? other) (max depth value.depth)
            (prettyChars level value)
            (value.mapNumbers fun number => (reread? number).getD other) :=
          reads_prettyChars whole (fun _ _ => rfl) level
        have same := (readsAlike (extends_fallingBack _ other) fuel).value
          (Nat.le_max_left depth value.depth) found
        rw [reads fuel rest enough ends] at same
        exact congrArg Prod.fst (Except.ok.inj same)
      refine absurd ⟨⟨proper, ?_⟩, fun number inside => ?_⟩ unread
      · have shallow := ((answersFit fuel).value found).shallow
        rwa [← falls (.integer 0), depth_mapNumbers] at shallow
      · have alike := (falls (.integer 0)).trans (falls (.integer 1)).symm
        have same := mapNumbers_eq_iff.mp alike number inside
        cases read : reread? number with
        | none => simp [read] at same
        | some => rfl

end BrowserRelay.Json
