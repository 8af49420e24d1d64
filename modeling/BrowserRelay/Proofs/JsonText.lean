import BrowserRelay.Json.Printer
import BrowserRelay.Proofs.NumberText
import Mathlib.Tactic.SplitIfs

/-!
# JSON text reads back

The reader takes from the text of a proper value the value itself but for its numbers, which become
what the reader makes of theirs.  It stops where a number is too large for it, and where a value is
nested deeper than it allows.
-/

namespace BrowserRelay.Json

variable {numbers : Numeral → Option Number}

/-! ## Blanks -/

def AllBlank (text : List Char) : Prop := ∀ character ∈ text, isJsonBlank character = true

theorem skipBlanks_append {blanks : List Char} (blank : AllBlank blanks) (rest : List Char) :
    skipBlanks (blanks ++ rest) = skipBlanks rest :=
  List.dropWhile_append_of_pos blank

theorem skipBlanks_cons {character : Char} (solid : isJsonBlank character = false)
    (rest : List Char) : skipBlanks (character :: rest) = character :: rest :=
  List.dropWhile_cons_of_neg (by simp [solid])

theorem allBlank_nil : AllBlank [] := List.forall_mem_nil _

theorem allBlank_space : AllBlank [' '] := by simp [AllBlank, isJsonBlank]

theorem allBlank_lineStart (level : Nat) : AllBlank (lineStart level) := by
  intro character listed
  rcases List.mem_cons.mp listed with rfl | listed
  · rfl
  · rw [List.eq_of_mem_replicate listed]
    rfl

/-! ## Strings -/

theorem hexValue?_hexDigit : ∀ value < 16, hexValue? (hexDigit value) = some value := by
  decide

theorem readStringFrom_escapedChar (gathered rest : List Char) (character : Char) :
    readStringFrom true .plain gathered (escapedChar character ++ rest) =
      readStringFrom true .plain (character :: gathered) rest := by
  unfold escapedChar
  split_ifs with quote backslash backspace formFeed lineFeed carriage tab control
  · subst quote; rfl
  · subst backslash; rfl
  · subst backspace; rfl
  · subst formFeed; rfl
  · subst lineFeed; rfl
  · subst carriage; rfl
  · subst tab; rfl
  · have high := hexValue?_hexDigit (character.toNat / 16) (by omega)
    have low := hexValue?_hexDigit (character.toNat % 16) (by omega)
    have zero : hexValue? '0' = some 0 := rfl
    have unit : character.toNat / 16 * 16 + character.toNat % 16 = character.toNat := by omega
    have simple : completeUnit true character.toNat none = .ok (some character, .plain) := by
      unfold completeUnit
      dsimp only
      rw [Bool.not_true, if_neg Bool.false_ne_true, if_neg (by omega), if_neg (by omega),
        Char.ofNat_toNat]
    simp [readStringFrom, high, low, zero, unit, simple]
  · simp [readStringFrom, quote, backslash, control]

theorem readStringFrom_escaped (gathered characters rest : List Char) :
    readStringFrom true .plain gathered (characters.flatMap escapedChar ++ '"' :: rest) =
      .ok (String.ofList (gathered.reverse ++ characters), rest) := by
  induction characters generalizing gathered with
  | nil =>
      rw [List.append_nil]
      rfl
  | cons character characters ih =>
      rw [List.flatMap_cons, List.append_assoc, readStringFrom_escapedChar, ih,
        List.reverse_cons, List.append_assoc, List.singleton_append]

/-- A string is read back behind its opening quote. -/
theorem readString_quoted (text : String) (rest : List Char) :
    readString (.all numbers) (text.toList.flatMap escapedChar ++ '"' :: rest) = .ok (text, rest) := by
  have strict : (Keeping.all numbers).isStrict = true := rfl
  rw [readString, strict, readStringFrom_escaped, List.reverse_nil, List.nil_append,
    String.ofList_toList]

/-! ## Reading values -/

theorem skipBlanks_idem (characters : List Char) :
    skipBlanks (skipBlanks characters) = skipBlanks characters := by
  induction characters with
  | nil => rfl
  | cons character characters ih =>
      cases blank : isJsonBlank character
      · rw [skipBlanks_cons blank, skipBlanks_cons blank]
      · have skipped : skipBlanks (character :: characters) = skipBlanks characters :=
          List.dropWhile_cons_of_pos blank
        rw [skipped, ih]

theorem readValueFrom_skipBlanks {fuel depth : Nat} (characters : List Char) :
    readValueFrom (.all numbers) (fuel + 1) depth (skipBlanks characters) =
      readValueFrom (.all numbers) (fuel + 1) depth characters := by
  unfold readValueFrom
  rw [skipBlanks_idem]

/-- What is read starts, behind blanks, with a character that closes nothing. -/
theorem start_of_readValueFrom {fuel depth : Nat} {characters rest : List Char} {value : Json}
    (read : readValueFrom (.all numbers) fuel depth characters = .ok (value, rest)) :
    ∃ first more, skipBlanks characters = first :: more ∧ first ∉ [']', ',', '\x7d'] := by
  cases fuel with
  | zero => simp [readValueFrom, stopAtNext] at read
  | succ fuel =>
      unfold readValueFrom at read
      cases skipped : skipBlanks characters with
      | nil => simp [skipped, stopAtNext] at read
      | cons first more =>
          refine ⟨first, more, rfl, fun closing => ?_⟩
          simp only [List.mem_cons, List.not_mem_nil, or_false] at closing
          rcases closing with rfl | rfl | rfl <;> simp [skipped, stopAtNext] at read

theorem start_of_null {fuel depth : Nat} {characters rest : List Char}
    (read : readValueFrom (.all numbers) fuel depth characters = .ok (.null, rest)) :
    ∃ more, skipBlanks characters = 'n' :: more := by
  cases fuel with
  | zero => simp [readValueFrom, stopAtNext] at read
  | succ fuel =>
      unfold readValueFrom at read
      split at read
      case h_1 => simp [stopAtNext] at read
      case h_2 more start => exact ⟨more, start⟩
      case h_7 =>
        split at read
        · simp [stopAtNext] at read
        · simpa using withValue_eq_ok read
      case h_8 =>
        split at read
        · simp [stopAtNext] at read
        · simpa using withValue_eq_ok read
      case h_9 =>
        split at read
        · simpa using withValue_eq_ok read
        · simp [stopAtNext] at read
      all_goals simpa using withValue_eq_ok read

/-- A text is read as a value, whatever follows it.  Its numerals are converted in a given way, and
`depth` is the number of containers that may be opened. -/
def Reads (numbers : Numeral → Option Number) (depth : Nat) (text : List Char) (value : Json) :
    Prop :=
  ∀ (fuel : Nat) (rest : List Char), 2 * text.length ≤ fuel → EndsNumber rest →
    readValueFrom (.all numbers) fuel depth (text ++ rest) = .ok (value, rest)

variable {depth : Nat}

theorem reads_null : Reads numbers depth ['n', 'u', 'l', 'l'] .null := by
  intro fuel rest enough _
  obtain ⟨fuel, rfl⟩ := Nat.exists_eq_add_of_le' enough
  rfl

theorem reads_bool (value : Bool) : Reads numbers depth (compactChars (.bool value)) (.bool value) := by
  intro fuel rest enough _
  cases value <;> obtain ⟨fuel, rfl⟩ := Nat.exists_eq_add_of_le' enough <;> rfl

theorem reads_string (text : String) : Reads numbers depth (quoted text) (.string text) := by
  intro fuel rest enough _
  cases fuel with
  | zero => simp [quoted] at enough
  | succ fuel =>
      have read : readString (.all numbers) (text.toList.flatMap escapedChar ++ '"' :: rest) =
          .ok (text, rest) := readString_quoted text rest
      have start : quoted text ++ rest =
          '"' :: (text.toList.flatMap escapedChar ++ '"' :: rest) := by
        simp [quoted]
      rw [start]
      unfold readValueFrom
      rw [skipBlanks_cons rfl]
      change withValue (readString (.all numbers) _) Json.string = _
      rw [read]
      rfl

theorem ne_of_digit {first : Char} (digit : first.isDigit = true) (other : Char)
    (noDigit : other.isDigit = false) : first ≠ other := by
  rintro rfl
  simp [digit] at noDigit

theorem solid_of_digit {first : Char} (digit : first.isDigit = true) :
    isJsonBlank first = false := by
  have apart := ne_of_digit digit
  simp [isJsonBlank, apart ' ' rfl, apart '\n' rfl, apart '\t' rfl, apart '\r' rfl]

theorem readValueFrom_digit {fuel : Nat} {first : Char} {more : List Char}
    (digit : first.isDigit = true) :
    readValueFrom (.all numbers) (fuel + 1) depth (first :: more) =
      withValue (readNumber (.all numbers) false (first :: more)) Json.number := by
  unfold readValueFrom
  rw [skipBlanks_cons (solid_of_digit digit)]
  split
  case h_1 none => simp at none
  case h_9 same =>
    obtain ⟨rfl, rfl⟩ := List.cons.inj same
    exact if_pos digit
  all_goals exact absurd (List.cons.inj (by assumption)).1 (ne_of_digit digit _ rfl)

theorem reads_number {number shown : Number} (proper : number.IsProper)
    (converts : numbers (numeralOf number) = some shown) :
    Reads numbers depth (numberText number) (.number shown) := by
  intro fuel rest enough ends
  have formed := isNumeral_numeralOf proper
  have read : readNumber (.all numbers) (numeralOf number).isNegative
      (numeralText (numeralOf number) ++ rest) = .ok (shown, rest) :=
    readNumber_numeralText formed ends converts
  obtain ⟨first, more, starts, digit⟩ := numeralText_head formed
  rw [numberText_eq proper] at enough ⊢
  generalize numeralText (numeralOf number) = text at *
  cases fuel with
  | zero => split at enough <;> simp [starts] at enough
  | succ fuel =>
      split
      case isTrue negative =>
        rw [negative] at read
        have step : readValueFrom (.all numbers) (fuel + 1) depth ('-' :: (text ++ rest)) =
            withValue (readNumber (.all numbers) true (text ++ rest)) Json.number := rfl
        rw [List.cons_append, step, read]
        rfl
      case isFalse positive =>
        rw [Bool.not_eq_true] at positive
        rw [positive, starts] at read
        rw [starts, List.cons_append, readValueFrom_digit digit, ← List.cons_append, read]
        rfl

/-! ## Parts of containers -/

section

variable {characters next rest : List Char} {first : Char} {fuel : Nat}

theorem nextItem_closed (isFirst : Bool) (found : skipBlanks characters = ']' :: rest) :
    nextItem isFirst characters = .ok (.closed rest) := by
  unfold nextItem
  rw [found]
  rfl

theorem nextItem_first (found : skipBlanks characters = first :: next) (more : first ≠ ']') :
    nextItem true characters = .ok (.more (first :: next)) := by
  unfold nextItem
  rw [found]
  split
  case h_1 none => simp at none
  case h_2 closed => exact absurd (List.cons.inj closed).1 more
  case h_3 => rfl

theorem nextItem_later (comma : skipBlanks characters = ',' :: rest)
    (found : skipBlanks rest = first :: next) (more : first ≠ ']') :
    nextItem false characters = .ok (.more (first :: next)) := by
  simp [nextItem, comma, found, more]

theorem nextKey_closed (isFirst : Bool) (found : skipBlanks characters = '\x7d' :: rest) :
    nextKey isFirst characters = .ok (.closed rest) := by
  unfold nextKey
  rw [found]
  rfl

theorem nextKey_first (found : skipBlanks characters = '"' :: next) :
    nextKey true characters = .ok (.more next) := by
  unfold nextKey
  rw [found]
  rfl

theorem nextKey_later (comma : skipBlanks characters = ',' :: rest)
    (found : skipBlanks rest = '"' :: next) : nextKey false characters = .ok (.more next) := by
  simp [nextKey, comma, found]

theorem readItems_more {isFirst : Bool} {item : Json} {before : List Json}
    (found : nextItem isFirst characters = .ok (.more (skipBlanks next)))
    (read : readValueFrom (.all numbers) fuel depth next = .ok (item, rest)) :
    readItems (.all numbers) (fuel + 1) depth isFirst before characters =
      readItems (.all numbers) fuel depth false (item :: before) rest := by
  cases fuel with
  | zero => simp [readValueFrom, stopAtNext] at read
  | succ fuel =>
      rw [readItems, found]
      dsimp only
      rw [readValueFrom_skipBlanks, read]

end

/-! ## Containers -/

section

variable (before after : List Char) (close : Char)

/-- The text of a container behind one of its parts; `before` stands before every part and `after`
behind the last one. -/
def tailText : List (List Char) → List Char
  | [] => after ++ [close]
  | part :: parts => ',' :: (before ++ (part ++ tailText parts))

/-- The text of a container behind its opening bracket. -/
def bodyText : List (List Char) → List Char
  | [] => [close]
  | part :: parts => before ++ (part ++ tailText before after close parts)

theorem length_lt_tailText (parts : List (List Char)) :
    parts.length < (tailText before after close parts).length := by
  induction parts with
  | nil => simp [tailText]
  | cons part parts ih =>
      simp only [tailText, List.length_cons, List.length_append]
      omega

theorem length_le_bodyText (parts : List (List Char)) :
    parts.length ≤ (bodyText before after close parts).length := by
  cases parts with
  | nil => exact Nat.zero_le _
  | cons part parts =>
      have := length_lt_tailText before after close parts
      simp only [bodyText, List.length_cons, List.length_append]
      omega

end

variable {before after rest : List Char}

theorem endsNumber_append {blanks : List Char} (blank : AllBlank blanks) {character : Char}
    (ends : character ∈ [',', ']', '\x7d']) : EndsNumber (blanks ++ character :: rest) := by
  cases blanks with
  | nil =>
      rintro _ ⟨rfl⟩
      simp only [List.mem_cons, List.not_mem_nil, or_false] at ends
      rcases ends with rfl | rfl | rfl <;> decide
  | cons first blanks =>
      rintro _ ⟨rfl⟩
      have blank := blank first List.mem_cons_self
      simp only [isJsonBlank, Bool.or_eq_true, decide_eq_true_eq] at blank
      rcases blank with ((rfl | rfl) | rfl) | rfl <;> decide

theorem tailText_endsNumber (before : List Char) (close : Char) (blank : AllBlank after)
    (closes : close ∈ [',', ']', '\x7d']) (parts : List (List Char)) (rest : List Char) :
    EndsNumber (tailText before after close parts ++ rest) := by
  cases parts with
  | nil =>
      rw [tailText, List.append_assoc, List.singleton_append]
      exact endsNumber_append blank closes
  | cons part parts => exact endsNumber_append allBlank_nil (by decide)

theorem skipBlanks_after (blank : AllBlank after) {close : Char}
    (solid : isJsonBlank close = false) :
    skipBlanks (tailText before after close [] ++ rest) = close :: rest := by
  rw [tailText, List.append_assoc, List.singleton_append, skipBlanks_append blank,
    skipBlanks_cons solid]

theorem skipBlanks_comma {close : Char} (part : List Char) (parts : List (List Char)) :
    skipBlanks (tailText before after close (part :: parts) ++ rest) =
      ',' :: (before ++ (part ++ (tailText before after close parts ++ rest))) := by
  rw [tailText, List.cons_append, skipBlanks_cons rfl]
  simp

theorem nextItem_tail {first : Char} {more text : List Char} (blank : AllBlank before)
    (texts : List (List Char))
    (start : skipBlanks (text ++ (tailText before after ']' texts ++ rest)) = first :: more)
    (opens : first ≠ ']') :
    nextItem false (tailText before after ']' (text :: texts) ++ rest) =
      .ok (.more (first :: more)) :=
  nextItem_later (skipBlanks_comma text texts) (by rw [skipBlanks_append blank, start]) opens

theorem nextItem_body {first : Char} {more text : List Char} (blank : AllBlank before)
    (texts : List (List Char))
    (start : skipBlanks (text ++ (tailText before after ']' texts ++ rest)) = first :: more)
    (opens : first ≠ ']') :
    nextItem true (bodyText before after ']' (text :: texts) ++ rest) =
      .ok (.more (first :: more)) := by
  refine nextItem_first ?_ opens
  rw [bodyText, List.append_assoc, List.append_assoc, skipBlanks_append blank, start]

theorem readItems_tail {fuel : Nat} {texts : List (List Char)} {items read : List Json}
    (blankBefore : AllBlank before) (blankAfter : AllBlank after)
    (reads : List.Forall₂ (Reads numbers depth) texts items)
    (enough : 2 * (tailText before after ']' texts).length ≤ fuel) :
    readItems (.all numbers) fuel depth false read (tailText before after ']' texts ++ rest) =
      .ok (read.reverse ++ items, rest) := by
  induction reads generalizing fuel read with
  | nil =>
      cases fuel with
      | zero => simp [tailText] at enough
      | succ fuel =>
          rw [readItems, nextItem_closed false (skipBlanks_after blankAfter rfl), List.append_nil]
  | @cons text item texts items reads others ih =>
      simp only [tailText, List.length_cons, List.length_append] at enough
      obtain ⟨fuel, rfl⟩ : ∃ less, fuel = less + 1 := ⟨fuel - 1, by omega⟩
      have inner := reads fuel _ (by omega)
        (tailText_endsNumber before ']' blankAfter (by decide) texts rest)
      obtain ⟨first, next, start, opens⟩ := start_of_readValueFrom inner
      have found := nextItem_tail blankBefore texts start (List.ne_of_not_mem_cons opens)
      rw [← start] at found
      rw [readItems_more found inner, ih (by omega), List.reverse_cons, List.append_assoc,
        List.singleton_append]

theorem reads_array {texts : List (List Char)} {items : List Json}
    (blankBefore : AllBlank before) (blankAfter : AllBlank after)
    (reads : List.Forall₂ (Reads numbers depth) texts items) :
    Reads numbers (depth + 1) ('[' :: bodyText before after ']' texts) (.array items) := by
  intro fuel rest enough ends
  obtain ⟨fuel, rfl⟩ : ∃ less, fuel = less + 1 := ⟨fuel - 1, by simp at enough; omega⟩
  have step (characters : List Char) :
      readValueFrom (.all numbers) (fuel + 1) (depth + 1) ('[' :: characters) =
        withValue (readItems (.all numbers) fuel depth true [] characters) Json.array := rfl
  rw [List.cons_append, step]
  cases reads with
  | nil =>
      obtain ⟨fuel, rfl⟩ : ∃ less, fuel = less + 1 :=
        ⟨fuel - 1, by simp [bodyText] at enough; omega⟩
      rfl
  | @cons text item texts items reads others =>
      simp only [bodyText, List.length_cons, List.length_append] at enough
      obtain ⟨fuel, rfl⟩ : ∃ less, fuel = less + 1 := ⟨fuel - 1, by omega⟩
      have inner := reads fuel _ (by omega)
        (tailText_endsNumber before ']' blankAfter (by decide) texts rest)
      obtain ⟨first, next, start, opens⟩ := start_of_readValueFrom inner
      have found := nextItem_body blankBefore texts start (List.ne_of_not_mem_cons opens)
      rw [← start] at found
      rw [readItems_more found inner, readItems_tail blankBefore blankAfter others (by omega)]
      rfl

theorem insertMember_last {key : String} {value : Json} {members : List (String × Json)}
    (last : ∀ member ∈ members, member.1 < key) :
    insertMember key value members = members ++ [(key, value)] := by
  induction members with
  | nil => rfl
  | cons member members ih =>
      obtain ⟨less, later⟩ := List.forall_mem_cons.mp last
      rw [insertMember, if_neg (String.lt_asymm less), if_neg (Ne.symm (String.ne_of_lt less)),
        ih later, List.cons_append]

/-- The members of an object after others have been read. -/
def insertMembers (held members : List (String × Json)) : List (String × Json) :=
  members.foldl (fun sorted member => insertMember member.1 member.2 sorted) held

theorem insertMembers_of_sorted {held members : List (String × Json)}
    (sorted : (held ++ members).Pairwise fun first second => first.1 < second.1) :
    insertMembers held members = held ++ members := by
  induction members generalizing held with
  | nil => exact (List.append_nil held).symm
  | cons member members ih =>
      have last : insertMember member.1 member.2 held = held ++ [member] :=
        insertMember_last fun other listed =>
          (List.pairwise_append.mp sorted).2.2 other listed member List.mem_cons_self
      have later : insertMembers (held ++ [member]) members = held ++ [member] ++ members :=
        ih (by simpa using sorted)
      rw [insertMembers, List.foldl_cons, last, ← insertMembers, later, List.append_assoc,
        List.singleton_append]

theorem ofMembers_of_sorted {members : List (String × Json)}
    (sorted : members.Pairwise fun first second => first.1 < second.1) :
    ofMembers members = .object members := by
  have whole : insertMembers [] members = [] ++ members := insertMembers_of_sorted sorted
  exact congrArg Json.object whole

theorem Reads.blank {blanks text : List Char} {value : Json} (reads : Reads numbers depth text value)
    (blank : AllBlank blanks) : Reads numbers depth (blanks ++ text) value := by
  intro fuel rest enough ends
  have inner := reads fuel rest (by rw [List.length_append] at enough; omega) ends
  cases fuel with
  | zero => simp [readValueFrom, stopAtNext] at inner
  | succ fuel =>
      rw [← readValueFrom_skipBlanks, List.append_assoc, skipBlanks_append blank,
        readValueFrom_skipBlanks, inner]

theorem readMembers_more {fuel : Nat} {isFirst : Bool} {key : String} {value : Json}
    {members : List (String × Json)} {characters next : List Char}
    (found : nextKey isFirst characters =
      .ok (.more (key.toList.flatMap escapedChar ++ '"' :: ':' :: next)))
    (read : readValueFrom (.all numbers) fuel depth next = .ok (value, rest)) :
    readMembers (.all numbers) (fuel + 1) depth isFirst members characters =
      readMembers (.all numbers) fuel depth false (insertMember key value members) rest := by
  have colon : readColon (':' :: next) = .ok ((), next) := rfl
  rw [readMembers, found]
  dsimp only
  rw [readString_quoted]
  dsimp only
  rw [colon]
  dsimp only
  rw [read]

/-- A text is read as a member of an object. -/
def ReadsMember (numbers : Numeral → Option Number) (depth : Nat) (text : List Char)
    (member : String × Json) : Prop :=
  ∃ valueText, text = quoted member.1 ++ ':' :: valueText ∧ Reads numbers depth valueText member.2

theorem quoted_append (key : String) (rest : List Char) :
    quoted key ++ rest = '"' :: (key.toList.flatMap escapedChar ++ '"' :: rest) := by
  simp [quoted]

theorem nextKey_tail (blank : AllBlank before) (key : String) (text : List Char)
    (texts : List (List Char)) :
    nextKey false (tailText before after '\x7d' ((quoted key ++ ':' :: text) :: texts) ++ rest) =
      .ok (.more (key.toList.flatMap escapedChar ++ '"' :: ':' ::
        (text ++ (tailText before after '\x7d' texts ++ rest)))) := by
  refine nextKey_later (skipBlanks_comma _ texts) ?_
  rw [skipBlanks_append blank, List.append_assoc, quoted_append, skipBlanks_cons rfl,
    List.cons_append]

theorem nextKey_body (blank : AllBlank before) (key : String) (text : List Char)
    (texts : List (List Char)) :
    nextKey true (bodyText before after '\x7d' ((quoted key ++ ':' :: text) :: texts) ++ rest) =
      .ok (.more (key.toList.flatMap escapedChar ++ '"' :: ':' ::
        (text ++ (tailText before after '\x7d' texts ++ rest)))) := by
  refine nextKey_first ?_
  rw [bodyText, List.append_assoc, skipBlanks_append blank, List.append_assoc,
    List.append_assoc, quoted_append, skipBlanks_cons rfl, List.cons_append]

theorem readMembers_tail {fuel : Nat} {texts : List (List Char)}
    {members read : List (String × Json)} (blankBefore : AllBlank before)
    (blankAfter : AllBlank after) (reads : List.Forall₂ (ReadsMember numbers depth) texts members)
    (enough : 2 * (tailText before after '\x7d' texts).length ≤ fuel) :
    readMembers (.all numbers) fuel depth false read (tailText before after '\x7d' texts ++ rest) =
      .ok (insertMembers read members, rest) := by
  induction reads generalizing fuel read with
  | nil =>
      cases fuel with
      | zero => simp [tailText] at enough
      | succ fuel =>
          rw [readMembers, nextKey_closed false (skipBlanks_after blankAfter rfl)]
          rfl
  | @cons text member texts members reads others ih =>
      obtain ⟨valueText, rfl, reads⟩ := reads
      simp only [tailText, List.length_cons, List.length_append] at enough
      obtain ⟨fuel, rfl⟩ : ∃ less, fuel = less + 1 := ⟨fuel - 1, by omega⟩
      have inner := reads fuel _ (by omega)
        (tailText_endsNumber before '\x7d' blankAfter (by decide) texts rest)
      rw [readMembers_more (nextKey_tail blankBefore _ _ _) inner, ih (by omega)]
      rfl

/-- The members of an object may stand in any order, and of those with one key the last counts. -/
theorem reads_ofMembers {texts : List (List Char)} {members : List (String × Json)}
    (blankBefore : AllBlank before) (blankAfter : AllBlank after)
    (reads : List.Forall₂ (ReadsMember numbers depth) texts members) :
    Reads numbers (depth + 1) ('\x7b' :: bodyText before after '\x7d' texts) (.ofMembers members) := by
  intro fuel rest enough ends
  obtain ⟨fuel, rfl⟩ : ∃ less, fuel = less + 1 := ⟨fuel - 1, by simp at enough; omega⟩
  have step (characters : List Char) :
      readValueFrom (.all numbers) (fuel + 1) (depth + 1) ('\x7b' :: characters) =
        withValue (readMembers (.all numbers) fuel depth true [] characters) Json.object := rfl
  rw [List.cons_append, step]
  cases reads with
  | nil =>
      obtain ⟨fuel, rfl⟩ : ∃ less, fuel = less + 1 :=
        ⟨fuel - 1, by simp [bodyText] at enough; omega⟩
      rfl
  | @cons text member texts members reads others =>
      obtain ⟨valueText, rfl, reads⟩ := reads
      simp only [bodyText, List.length_cons, List.length_append] at enough
      obtain ⟨fuel, rfl⟩ : ∃ less, fuel = less + 1 := ⟨fuel - 1, by omega⟩
      have inner := reads fuel _ (by omega)
        (tailText_endsNumber before '\x7d' blankAfter (by decide) texts rest)
      rw [readMembers_more (nextKey_body blankBefore _ _ _) inner,
        readMembers_tail blankBefore blankAfter others (by omega)]
      rfl

theorem reads_object {texts : List (List Char)} {members : List (String × Json)}
    (blankBefore : AllBlank before) (blankAfter : AllBlank after)
    (reads : List.Forall₂ (ReadsMember numbers depth) texts members)
    (sorted : members.Pairwise fun first second => first.1 < second.1) :
    Reads numbers (depth + 1) ('\x7b' :: bodyText before after '\x7d' texts) (.object members) := by
  rw [← ofMembers_of_sorted sorted]
  exact reads_ofMembers blankBefore blankAfter reads

/-! ## Values on several lines -/

theorem prettyItems_eq (level : Nat) (items : List Json) :
    prettyItems level items =
      bodyText (lineStart (level + 1)) (lineStart level) ']'
        (items.map (prettyChars (level + 1))) := by
  cases items with
  | nil => rfl
  | cons item items =>
      induction items generalizing item with
      | nil => simp [prettyItems, bodyText, tailText]
      | cons next items ih => rw [prettyItems, ih] <;> simp [bodyText, tailText]

/-- The text of a member on a line of its own, behind its indentation. -/
def prettyMember (level : Nat) (member : String × Json) : List Char :=
  quoted member.1 ++ ':' :: ([' '] ++ prettyChars level member.2)

theorem prettyMembers_eq (level : Nat) (members : List (String × Json)) :
    prettyMembers level members =
      bodyText (lineStart (level + 1)) (lineStart level) '\x7d'
        (members.map (prettyMember (level + 1))) := by
  cases members with
  | nil => rfl
  | cons member members =>
      induction members generalizing member with
      | nil => simp [prettyMembers, bodyText, tailText, prettyMember]
      | cons next members ih =>
          rw [prettyMembers, ih] <;> simp [bodyText, tailText, prettyMember]

theorem exists_depth_succ {value : Json} {held : Nat} (fits : value.Fits depth)
    (container : value.depth = held + 1) : ∃ less, depth = less + 1 :=
  ⟨depth - 1, by have := fits.shallow; omega⟩

variable {change : Number → Number}

/-- Pretty text of a proper value is read with its numbers converted if it is shallow enough. -/
theorem reads_prettyChars {value : Json} (fits : value.Fits depth)
    (converts : ∀ number ∈ value.numbers, numbers (numeralOf number) = some (change number))
    (level : Nat) : Reads numbers depth (prettyChars level value) (value.mapNumbers change) := by
  induction value generalizing depth level with
  | null => exact reads_null
  | bool value => exact reads_bool value
  | number value =>
      cases fits.proper with
      | number proper => exact reads_number proper (converts value (List.mem_singleton_self value))
  | string text => exact reads_string text
  | array items ih =>
      obtain ⟨depth, rfl⟩ := exists_depth_succ fits (by rw [Json.depth])
      have fits := fits_array_iff.mp fits
      rw [prettyChars, prettyItems_eq, mapNumbers_array]
      refine reads_array (allBlank_lineStart _) (allBlank_lineStart _) ?_
      refine List.forall₂_map_left_iff.mpr (List.forall₂_map_right_iff.mpr ?_)
      exact List.forall₂_same.mpr fun item listed => ih item listed (fits item listed)
        (fun number inside => converts number (mem_numbers_array.mpr ⟨item, listed, inside⟩)) _
  | object members ih =>
      obtain ⟨depth, rfl⟩ := exists_depth_succ fits (by rw [Json.depth])
      obtain ⟨sorted, fits⟩ := fits_object_iff.mp fits
      rw [prettyChars, prettyMembers_eq, mapNumbers_object]
      refine reads_object (allBlank_lineStart _) (allBlank_lineStart _) ?_
        (List.pairwise_map.mpr sorted)
      refine List.forall₂_map_left_iff.mpr (List.forall₂_map_right_iff.mpr ?_)
      refine List.forall₂_same.mpr fun member listed => ⟨_, rfl, ?_⟩
      refine (ih member listed (fits member listed) (fun number inside => ?_) _).blank
        allBlank_space
      exact converts number (mem_numbers_object.mpr ⟨member, listed, inside⟩)

/-! ## Values on one line -/

theorem compactItems_eq (items : List Json) :
    compactItems items = bodyText [] [] ']' (items.map compactChars) := by
  cases items with
  | nil => rfl
  | cons item items =>
      induction items generalizing item with
      | nil => simp [compactItems, bodyText, tailText]
      | cons next items ih => rw [compactItems, ih] <;> simp [bodyText, tailText]

def compactMember (member : String × Json) : List Char :=
  quoted member.1 ++ ':' :: compactChars member.2

theorem compactMembers_eq (members : List (String × Json)) :
    compactMembers members = bodyText [] [] '\x7d' (members.map compactMember) := by
  cases members with
  | nil => rfl
  | cons member members =>
      induction members generalizing member with
      | nil => simp [compactMembers, bodyText, tailText, compactMember]
      | cons next members ih =>
          rw [compactMembers, ih] <;> simp [bodyText, tailText, compactMember]

/-- Compact text of members in any order reads as the object made of them. -/
theorem reads_compactMembers {members : List (String × Json)}
    (reads : ∀ member ∈ members,
      Reads numbers depth (compactChars member.2) (member.2.mapNumbers change)) :
    Reads numbers (depth + 1) (compactChars (.object members))
      (.ofMembers (members.map fun member => (member.1, member.2.mapNumbers change))) := by
  rw [compactChars, compactMembers_eq]
  apply reads_ofMembers allBlank_nil allBlank_nil
  apply List.forall₂_map_left_iff.mpr
  apply List.forall₂_map_right_iff.mpr
  apply List.forall₂_same.mpr
  intro member listed
  exact ⟨_, rfl, reads member listed⟩

/-- Compact text of a proper value is read with its numbers converted if it is shallow enough. -/
theorem reads_compactChars {value : Json} (fits : value.Fits depth)
    (converts : ∀ number ∈ value.numbers, numbers (numeralOf number) = some (change number)) :
    Reads numbers depth (compactChars value) (value.mapNumbers change) := by
  induction value generalizing depth with
  | null => exact reads_null
  | bool value => exact reads_bool value
  | number value =>
      cases fits.proper with
      | number proper => exact reads_number proper (converts value (List.mem_singleton_self value))
  | string text => exact reads_string text
  | array items ih =>
      obtain ⟨depth, rfl⟩ := exists_depth_succ fits (by rw [Json.depth])
      have fits := fits_array_iff.mp fits
      rw [compactChars, compactItems_eq, mapNumbers_array]
      refine reads_array allBlank_nil allBlank_nil ?_
      refine List.forall₂_map_left_iff.mpr (List.forall₂_map_right_iff.mpr ?_)
      exact List.forall₂_same.mpr fun item listed => ih item listed (fits item listed)
        fun number inside => converts number (mem_numbers_array.mpr ⟨item, listed, inside⟩)
  | object members ih =>
      obtain ⟨depth, rfl⟩ := exists_depth_succ fits (by rw [Json.depth])
      obtain ⟨sorted, fits⟩ := fits_object_iff.mp fits
      have reads := reads_compactMembers fun member listed =>
        ih member listed (fits member listed) fun number inside =>
          converts number (mem_numbers_object.mpr ⟨member, listed, inside⟩)
      have still : (members.map fun member => (member.1, member.2.mapNumbers change)).Pairwise
          fun first second => first.1 < second.1 := List.pairwise_map.mpr sorted
      rwa [ofMembers_of_sorted still, ← mapNumbers_object] at reads

end BrowserRelay.Json
