import BrowserRelay.Json.Reader
import BrowserRelay.Proofs.Scaling
import Mathlib.Data.List.Basic

/-!
# JSON values as they are read

The reader answers with proper values only: whole numbers are in range, binary numbers are finite,
and the keys of an object increase.  They are nested no deeper than the reader allows.
-/

namespace BrowserRelay

/-- A whole number in range, or a binary number that is finite. -/
def Number.IsProper : Number → Prop
  | .integer value => -2 ^ 63 ≤ value ∧ value < 2 ^ 64
  | .binary value => value.exponentField < 2047

/-! ## Numbers that are read -/

namespace Numeral

variable {numeral : Numeral}

theorem gatherDigits_lt {significand : Nat} (small : significand < 2 ^ 64) (digits : List Char) :
    (gatherDigits significand digits).1 < 2 ^ 64 := by
  induction digits generalizing significand with
  | nil => exact small
  | cons digit digits ih =>
      unfold gatherDigits
      dsimp only
      split
      case isTrue fits => exact ih fits
      case isFalse => exact small

theorem gathered_lt (numeral : Numeral) : numeral.gathered.1 < 2 ^ 64 :=
  gatherDigits_lt (gatherDigits_lt (by decide) _) _

theorem binary?_finite {value : Decimal.Binary64} (read : numeral.binary? = some value) :
    value.exponentField < 2047 := by
  unfold binary? at read
  dsimp only at read
  split at read
  · split at read
    · simp at read
    · obtain rfl := Option.some.inj read
      exact Decimal.Binary64.zero_finite _
  · exact Decimal.Binary64.ofParts_finite read

theorem number?_proper {number : Number} (read : numeral.number? = some number) :
    number.IsProper := by
  have binary (read : numeral.binary?.map .binary = some number) : number.IsProper := by
    obtain ⟨value, found, rfl⟩ := Option.map_eq_some_iff.mp read
    exact binary?_finite found
  have small := numeral.gathered_lt
  unfold number? at read
  dsimp only at read
  split at read
  · split at read
    · obtain rfl := Option.some.inj read
      exact ⟨by omega, by omega⟩
    · split at read
      case isTrue bounds =>
        obtain rfl := Option.some.inj read
        have bound : numeral.gathered.1 ≤ 2 ^ 63 := bounds.2
        exact ⟨by omega, by omega⟩
      case isFalse => exact binary read
  · exact binary read

end Numeral

namespace Json

/-- What holds of the values that contain no others, and of the others if it holds of what they
contain, holds of all values. -/
@[elab_as_elim, induction_eliminator]
theorem values_induction {motive : Json → Prop} (null : motive .null)
    (bool : ∀ value, motive (.bool value)) (number : ∀ value, motive (.number value))
    (string : ∀ text, motive (.string text))
    (array : ∀ items, (∀ item ∈ items, motive item) → motive (.array items))
    (object : ∀ members, (∀ member ∈ members, motive member.2) → motive (.object members))
    (value : Json) : motive value :=
  @Json.rec motive (fun items => ∀ item ∈ items, motive item)
    (fun members => ∀ member ∈ members, motive member.2) (fun member => motive member.2)
    null bool number string array object
    (List.forall_mem_nil _) (fun _ _ first rest => List.forall_mem_cons.mpr ⟨first, rest⟩)
    (List.forall_mem_nil _) (fun _ _ first rest => List.forall_mem_cons.mpr ⟨first, rest⟩)
    (fun _ _ holds => holds) value

/-! ## Depth -/

mutual

/-- How many containers are nested in a value at most, itself among them. -/
def depth : Json → Nat
  | .array items => depthOfItems items + 1
  | .object members => depthOfMembers members + 1
  | _ => 0

def depthOfItems : List Json → Nat
  | [] => 0
  | item :: rest => max (depth item) (depthOfItems rest)

def depthOfMembers : List (String × Json) → Nat
  | [] => 0
  | (_, value) :: rest => max (depth value) (depthOfMembers rest)

end

theorem depthOfItems_le_iff {items : List Json} {limit : Nat} :
    depthOfItems items ≤ limit ↔ ∀ item ∈ items, item.depth ≤ limit := by
  induction items with
  | nil => simp [depthOfItems]
  | cons item items ih => simp [depthOfItems, ih]

theorem depthOfMembers_le_iff {members : List (String × Json)} {limit : Nat} :
    depthOfMembers members ≤ limit ↔ ∀ member ∈ members, member.2.depth ≤ limit := by
  induction members with
  | nil => simp [depthOfMembers]
  | cons member members ih =>
      obtain ⟨key, value⟩ := member
      simp [depthOfMembers, ih]

theorem depth_array_le_iff {items : List Json} {limit : Nat} :
    (Json.array items).depth ≤ limit + 1 ↔ ∀ item ∈ items, item.depth ≤ limit := by
  rw [depth, Nat.add_le_add_iff_right, depthOfItems_le_iff]

theorem depth_object_le_iff {members : List (String × Json)} {limit : Nat} :
    (Json.object members).depth ≤ limit + 1 ↔ ∀ member ∈ members, member.2.depth ≤ limit := by
  rw [depth, Nat.add_le_add_iff_right, depthOfMembers_le_iff]

/-! ## The numbers in a value -/

mutual

/-- The numbers that stand in a value. -/
def numbers : Json → List Number
  | .number value => [value]
  | .array items => numbersOfItems items
  | .object members => numbersOfMembers members
  | _ => []

def numbersOfItems : List Json → List Number
  | [] => []
  | item :: rest => numbers item ++ numbersOfItems rest

def numbersOfMembers : List (String × Json) → List Number
  | [] => []
  | (_, value) :: rest => numbers value ++ numbersOfMembers rest

end

theorem mem_numbers_array {items : List Json} {number : Number} :
    number ∈ (Json.array items).numbers ↔ ∃ item ∈ items, number ∈ item.numbers := by
  rw [numbers]
  induction items with
  | nil => simp [numbersOfItems]
  | cons item items ih => simp [numbersOfItems, ih]

theorem mem_numbers_object {members : List (String × Json)} {number : Number} :
    number ∈ (Json.object members).numbers ↔ ∃ member ∈ members, number ∈ member.2.numbers := by
  rw [numbers]
  induction members with
  | nil => simp [numbersOfMembers]
  | cons member members ih =>
      obtain ⟨key, value⟩ := member
      simp [numbersOfMembers, ih]

mutual

/-- A value with its numbers replaced. -/
def mapNumbers (change : Number → Number) : Json → Json
  | .number value => .number (change value)
  | .array items => .array (mapItemNumbers change items)
  | .object members => .object (mapMemberNumbers change members)
  | other => other

def mapItemNumbers (change : Number → Number) : List Json → List Json
  | [] => []
  | item :: rest => mapNumbers change item :: mapItemNumbers change rest

def mapMemberNumbers (change : Number → Number) : List (String × Json) → List (String × Json)
  | [] => []
  | (key, value) :: rest => (key, mapNumbers change value) :: mapMemberNumbers change rest

end

variable {change other : Number → Number}

theorem mapNumbers_array (change : Number → Number) (items : List Json) :
    (Json.array items).mapNumbers change = .array (items.map (mapNumbers change)) := by
  rw [mapNumbers]
  induction items with
  | nil => rfl
  | cons item items ih => simpa [mapItemNumbers] using ih

theorem mapNumbers_object (change : Number → Number) (members : List (String × Json)) :
    (Json.object members).mapNumbers change =
      .object (members.map fun member => (member.1, member.2.mapNumbers change)) := by
  rw [mapNumbers]
  induction members with
  | nil => rfl
  | cons member members ih =>
      obtain ⟨key, value⟩ := member
      simpa [mapMemberNumbers] using ih

/-- Two ways to replace the numbers of a value give the same value only if they replace each of
them alike. -/
theorem mapNumbers_eq_iff {value : Json} :
    value.mapNumbers change = value.mapNumbers other ↔
      ∀ number ∈ value.numbers, change number = other number := by
  induction value with
  | null | bool | string => simp [mapNumbers, numbers]
  | number value => simp [mapNumbers, numbers]
  | array items ih =>
      simp only [mapNumbers_array, array.injEq, List.map_inj_left, mem_numbers_array]
      constructor
      · rintro same number ⟨item, listed, inside⟩
        exact (ih item listed).mp (same item listed) number inside
      · exact fun same item listed => (ih item listed).mpr fun number inside =>
          same number ⟨item, listed, inside⟩
  | object members ih =>
      simp only [mapNumbers_object, object.injEq, List.map_inj_left, mem_numbers_object,
        Prod.mk.injEq, true_and]
      constructor
      · rintro same number ⟨member, listed, inside⟩
        exact (ih member listed).mp (same member listed) number inside
      · exact fun same member listed => (ih member listed).mpr fun number inside =>
          same number ⟨member, listed, inside⟩

theorem mapNumbers_id (value : Json) : value.mapNumbers id = value := by
  induction value with
  | null | bool | string | number => rfl
  | array items ih =>
      rw [mapNumbers_array, List.map_congr_left ih, List.map_id']
  | object members ih =>
      rw [mapNumbers_object, List.map_congr_left fun member listed => by rw [ih member listed],
        List.map_id']

theorem mapNumbers_eq_self_iff {value : Json} :
    value.mapNumbers change = value ↔ ∀ number ∈ value.numbers, change number = number := by
  have same : value.mapNumbers change = value.mapNumbers id ↔ _ := mapNumbers_eq_iff
  rwa [mapNumbers_id] at same

theorem depth_mapNumbers (value : Json) : (value.mapNumbers change).depth = value.depth := by
  induction value with
  | null | bool | string | number => rfl
  | array items ih =>
      rw [mapNumbers_array, depth, depth, Nat.add_right_cancel_iff]
      induction items with
      | nil => rfl
      | cons item items more =>
          obtain ⟨first, others⟩ := List.forall_mem_cons.mp ih
          rw [List.map_cons, depthOfItems, depthOfItems, first, more others]
  | object members ih =>
      rw [mapNumbers_object, depth, depth, Nat.add_right_cancel_iff]
      induction members with
      | nil => rfl
      | cons member members more =>
          obtain ⟨first, others⟩ := List.forall_mem_cons.mp ih
          rw [List.map_cons, depthOfMembers, depthOfMembers, first, more others]

/-! ## Proper values -/

/-- The numbers in a value are proper, and the keys of its objects increase. -/
inductive IsProper : Json → Prop
  | null : IsProper .null
  | bool (value : Bool) : IsProper (.bool value)
  | number {value : Number} (proper : value.IsProper) : IsProper (.number value)
  | string (text : String) : IsProper (.string text)
  | array {items : List Json} (proper : ∀ item ∈ items, IsProper item) : IsProper (.array items)
  | object {members : List (String × Json)}
      (sorted : members.Pairwise fun first second => first.1 < second.1)
      (proper : ∀ member ∈ members, IsProper member.2) : IsProper (.object members)

theorem IsProper.numbers {value : Json} (proper : value.IsProper) :
    ∀ number ∈ value.numbers, number.IsProper := by
  induction value with
  | null | bool | string => exact List.forall_mem_nil _
  | number value =>
      cases proper with
      | number proper => exact List.forall_mem_singleton.mpr proper
  | array items ih =>
      cases proper with
      | array proper =>
          intro number inside
          obtain ⟨item, listed, inside⟩ := mem_numbers_array.mp inside
          exact ih item listed (proper item listed) number inside
  | object members ih =>
      cases proper with
      | object sorted proper =>
          intro number inside
          obtain ⟨member, listed, inside⟩ := mem_numbers_object.mp inside
          exact ih member listed (proper member listed) number inside

/-- A proper value that is nested no deeper than a limit. -/
structure Fits (limit : Nat) (value : Json) : Prop where
  proper : value.IsProper
  shallow : value.depth ≤ limit

theorem fits_array_iff {items : List Json} {limit : Nat} :
    (Json.array items).Fits (limit + 1) ↔ ∀ item ∈ items, item.Fits limit := by
  constructor
  · rintro ⟨proper, shallow⟩ item listed
    cases proper with
    | array proper => exact ⟨proper item listed, depth_array_le_iff.mp shallow item listed⟩
  · intro fits
    exact ⟨.array fun item listed => (fits item listed).proper,
      depth_array_le_iff.mpr fun item listed => (fits item listed).shallow⟩

theorem fits_object_iff {members : List (String × Json)} {limit : Nat} :
    (Json.object members).Fits (limit + 1) ↔
      members.Pairwise (fun first second => first.1 < second.1) ∧
        ∀ member ∈ members, member.2.Fits limit := by
  constructor
  · rintro ⟨proper, shallow⟩
    cases proper with
    | object sorted proper =>
        exact ⟨sorted, fun member listed =>
          ⟨proper member listed, depth_object_le_iff.mp shallow member listed⟩⟩
  · rintro ⟨sorted, fits⟩
    exact ⟨.object sorted fun member listed => (fits member listed).proper,
      depth_object_le_iff.mpr fun member listed => (fits member listed).shallow⟩

/-! ## Members -/

/-- What a member in front of others adds to them. -/
theorem lookup_cons_eq (key other : String) (value : Json) (members : List (String × Json)) :
    ((key, value) :: members).lookup other =
      if other = key then some value else members.lookup other := by
  by_cases same : other = key
  · simp [same]
  · rw [List.lookup_cons, beq_eq_false_iff_ne.mpr same, if_neg same]

/-- A member that is put among others is found under its key, and the others under theirs. -/
theorem lookup_insertMember (key other : String) (value : Json) (members : List (String × Json)) :
    (insertMember key value members).lookup other =
      if other = key then some value else members.lookup other := by
  induction members with
  | nil => simp [insertMember, lookup_cons_eq]
  | cons first members ih =>
      obtain ⟨name, held⟩ := first
      unfold insertMember
      split
      case isTrue before =>
        by_cases same : other = key
        · simp [same]
        · simp [same, lookup_cons_eq]
      case isFalse notBefore =>
        split
        case isTrue replaced =>
          subst replaced
          by_cases same : other = key
          · simp [same]
          · simp [same, lookup_cons_eq]
        case isFalse apart =>
          by_cases first : other = name
          · subst first
            simp [Ne.symm apart]
          · simp [lookup_cons_eq, first, ih]

/-- Of the members with one key the last counts. -/
theorem get?_ofMembers_concat (members : List (String × Json)) (key other : String) (value : Json) :
    (ofMembers (members ++ [(key, value)])).get? other =
      if other = key then some value else (ofMembers members).get? other := by
  unfold ofMembers
  rw [List.foldl_append]
  exact lookup_insertMember key other value _

/-- Of the members that an object is made of, the last with a key is found under it. -/
theorem get?_ofMembers (members : List (String × Json)) (key : String) :
    (ofMembers members).get? key = members.reverse.lookup key := by
  induction members using List.reverseRecOn with
  | nil => rfl
  | append_singleton members member ih =>
      obtain ⟨name, value⟩ := member
      rw [get?_ofMembers_concat, ih, List.reverse_concat, lookup_cons_eq]

theorem get?_ofMembers_pair {first second : String} (apart : first ≠ second) (one two : Json) :
    (ofMembers [(first, one), (second, two)]).get? first = some one ∧
      (ofMembers [(first, one), (second, two)]).get? second = some two := by
  simp [get?_ofMembers, lookup_cons_eq, apart]

theorem proper_of_get? {value member : Json} {key : String} (proper : value.IsProper)
    (found : value.get? key = some member) : member.IsProper := by
  cases value with
  | object members =>
      cases proper with
      | object _ proper =>
          obtain ⟨_, _, listed, _⟩ := List.lookup_eq_some_iff.mp found
          exact proper (key, member) (by simp [listed])
  | _ => simp [get?] at found

theorem proper_getD {value : Option Json} {other : Json} (proper : ∀ found ∈ value, found.IsProper)
    (otherwise : other.IsProper) : (value.getD other).IsProper := by
  cases value with
  | none => exact otherwise
  | some value => exact proper value rfl

/-! ## What the reader answers with -/

theorem mem_insertMember {key : String} {value : Json} {members : List (String × Json)}
    {member : String × Json} (listed : member ∈ insertMember key value members) :
    member = (key, value) ∨ member ∈ members := by
  induction members with
  | nil => exact .inl (List.mem_singleton.mp listed)
  | cons first members ih =>
      obtain ⟨other, otherValue⟩ := first
      unfold insertMember at listed
      split at listed
      · exact List.mem_cons.mp listed
      · split at listed
        · exact (List.mem_cons.mp listed).imp_right (List.mem_cons_of_mem _)
        · rcases List.mem_cons.mp listed with rfl | later
          · exact .inr List.mem_cons_self
          · exact (ih later).imp_right (List.mem_cons_of_mem _)

theorem sorted_insertMember {key : String} {value : Json} {members : List (String × Json)}
    (sorted : members.Pairwise fun first second => first.1 < second.1) :
    (insertMember key value members).Pairwise fun first second => first.1 < second.1 := by
  induction members with
  | nil => simp [insertMember]
  | cons first members ih =>
      obtain ⟨other, otherValue⟩ := first
      obtain ⟨least, rest⟩ := List.pairwise_cons.mp sorted
      unfold insertMember
      split
      case isTrue before =>
        refine List.pairwise_cons.mpr ⟨fun member listed => ?_, sorted⟩
        rcases List.mem_cons.mp listed with rfl | later
        · exact before
        · exact String.lt_trans before (least member later)
      case isFalse notBefore =>
        split
        case isTrue same =>
          subst same
          exact List.pairwise_cons.mpr ⟨least, rest⟩
        case isFalse apart =>
          refine List.pairwise_cons.mpr ⟨fun member listed => ?_, ih rest⟩
          rcases mem_insertMember listed with rfl | later
          · exact Std.lt_of_le_of_ne notBefore (Ne.symm apart)
          · exact least member later

theorem isProper_ofMembers {members : List (String × Json)}
    (proper : ∀ member ∈ members, member.2.IsProper) : (ofMembers members).IsProper := by
  induction members using List.reverseRecOn with
  | nil => exact .object .nil (List.forall_mem_nil _)
  | append_singleton members member ih =>
      have earlier := ih fun other listed => proper other (List.mem_append_left _ listed)
      unfold ofMembers at earlier ⊢
      rw [List.foldl_append, List.foldl_cons, List.foldl_nil]
      cases earlier with
      | object sorted each =>
          refine .object (sorted_insertMember sorted) fun other listed => ?_
          rcases mem_insertMember listed with rfl | listed
          · exact proper member (by simp)
          · exact each other listed

/-- An object has no members but those that it is made of. -/
theorem mem_ofMembers (members : List (String × Json)) :
    ∃ held, ofMembers members = .object held ∧ ∀ member ∈ held, member ∈ members := by
  induction members using List.reverseRecOn with
  | nil => exact ⟨[], rfl, List.forall_mem_nil _⟩
  | append_singleton members member ih =>
      obtain ⟨held, made, among⟩ := ih
      refine ⟨insertMember member.1 member.2 held, ?_, fun other listed => ?_⟩
      · rw [ofMembers, List.foldl_append]
        exact congrArg (fun held => Json.object (insertMember member.1 member.2 held))
          (Json.object.inj made)
      · rcases mem_insertMember listed with rfl | old
        · simp
        · exact List.mem_append_left _ (among other old)

theorem fits_ofMembers {members : List (String × Json)} {limit : Nat}
    (fits : ∀ member ∈ members, member.2.Fits limit) :
    (ofMembers members).Fits (limit + 1) := by
  have proper := isProper_ofMembers fun member listed => (fits member listed).proper
  obtain ⟨held, made, among⟩ := mem_ofMembers members
  rw [made] at proper ⊢
  exact ⟨proper, depth_object_le_iff.mpr fun member listed =>
    (fits member (among member listed)).shallow⟩

theorem finishNumber_eq_ok {numbers : Numeral → Option Number} {numeral : Numeral}
    {stop rest left : List Char} {read : Number}
    (done : finishNumber (.all numbers) numeral stop rest = .ok (read, left)) :
    numbers numeral = some read := by
  unfold finishNumber at done
  split at done
  case h_1 found converted =>
    obtain ⟨rfl, -⟩ := Prod.mk.inj (Except.ok.inj done)
    exact converted
  case h_2 => simp [stopHere] at done

/-! A number that is read is what some numeral is converted to. -/

section

variable {numbers : Numeral → Option Number} {characters rest : List Char} {number : Number}

theorem readExponent_answers {numeral : Numeral}
    (read : readExponent (.all numbers) numeral characters = .ok (number, rest)) :
    ∃ numeral, numbers numeral = some number := by
  unfold readExponent at read
  dsimp only at read
  split at read
  · simp [stopHere] at read
  · split at read
    · exact ⟨_, finishNumber_eq_ok read⟩
    · simp [stopHere] at read

theorem readFraction_answers {numeral : Numeral}
    (read : readFraction (.all numbers) numeral characters = .ok (number, rest)) :
    ∃ numeral, numbers numeral = some number := by
  unfold readFraction at read
  dsimp only at read
  split at read
  · simp [stopAtNext] at read
  · split at read
    · exact readExponent_answers read
    · exact readExponent_answers read
    · exact ⟨_, finishNumber_eq_ok read⟩

theorem readNumber_answers {negative : Bool}
    (read : readNumber (.all numbers) negative characters = .ok (number, rest)) :
    ∃ numeral, numbers numeral = some number := by
  unfold readNumber at read
  split at read
  · simp [stopHere] at read
  · dsimp only at read
    split at read
    · simp [stopHere] at read
    · split at read
      · simp [stopAtNext] at read
      · split at read
        · exact readFraction_answers read
        · exact readExponent_answers read
        · exact readExponent_answers read
        · exact ⟨_, finishNumber_eq_ok read⟩

end

theorem readNumber_proper {negative : Bool} {characters rest : List Char} {number : Number}
    (read : readNumber .value negative characters = .ok (number, rest)) : number.IsProper := by
  obtain ⟨numeral, converted⟩ := readNumber_answers read
  exact Numeral.number?_proper converted

theorem withValue_eq_ok {Fault α β : Type} {reading : Reading Fault α} {change : α → β} {value : β}
    {rest : List Char} (read : withValue reading change = .ok (value, rest)) :
    ∃ inner, reading = .ok (inner, rest) ∧ value = change inner := by
  cases reading with
  | error stop => simp [withValue] at read
  | ok found =>
      obtain ⟨inner, left⟩ := found
      obtain ⟨rfl, rfl⟩ := Prod.mk.inj (Except.ok.inj read)
      exact ⟨inner, rfl, rfl⟩

/-- What is read with some fuel is proper and nested no deeper than the reader allows. -/
structure AnswersFit (fuel : Nat) : Prop where
  value : ∀ {depth characters value rest},
    readValueFrom .value fuel depth characters = .ok (value, rest) → value.Fits depth
  items : ∀ {depth first before characters read rest}, (∀ item ∈ before, item.Fits depth) →
    readItems .value fuel depth first before characters = .ok (read, rest) →
      ∀ item ∈ read, item.Fits depth
  members : ∀ {depth first before characters read rest},
    before.Pairwise (fun first second => first.1 < second.1) →
    (∀ member ∈ before, member.2.Fits depth) →
    readMembers .value fuel depth first before characters = .ok (read, rest) →
      read.Pairwise (fun first second => first.1 < second.1) ∧
        ∀ member ∈ read, member.2.Fits depth

namespace AnswersFit

variable {fuel : Nat}

theorem value_succ (answers : AnswersFit fuel) {depth : Nat} {characters rest : List Char}
    {value : Json} (read : readValueFrom .value (fuel + 1) depth characters = .ok (value, rest)) :
    value.Fits depth := by
  have flat {value : Json} (proper : value.IsProper) (bare : value.depth = 0) :
      value.Fits depth :=
    ⟨proper, bare ▸ Nat.zero_le depth⟩
  have below (shallow : ¬(depth = 0 ∧ Keeping.value.isStrict)) : depth = depth - 1 + 1 := by
    have positive : depth ≠ 0 := fun zero => shallow ⟨zero, rfl⟩
    omega
  unfold readValueFrom at read
  split at read
  · simp [stopAtNext] at read
  · obtain ⟨_, -, rfl⟩ := withValue_eq_ok read
    exact flat .null rfl
  · obtain ⟨_, -, rfl⟩ := withValue_eq_ok read
    exact flat (.bool true) rfl
  · obtain ⟨_, -, rfl⟩ := withValue_eq_ok read
    exact flat (.bool false) rfl
  · obtain ⟨text, -, rfl⟩ := withValue_eq_ok read
    exact flat (.string text) rfl
  · obtain ⟨number, inner, rfl⟩ := withValue_eq_ok read
    exact flat (.number (readNumber_proper inner)) rfl
  · split at read
    case isTrue => simp [stopAtNext] at read
    case isFalse shallow =>
      obtain ⟨items, inner, rfl⟩ := withValue_eq_ok read
      rw [below shallow]
      exact fits_array_iff.mpr (answers.items (List.forall_mem_nil _) inner)
  · split at read
    case isTrue => simp [stopAtNext] at read
    case isFalse shallow =>
      obtain ⟨members, inner, rfl⟩ := withValue_eq_ok read
      rw [below shallow]
      exact fits_object_iff.mpr (answers.members .nil (List.forall_mem_nil _) inner)
  · split at read
    · obtain ⟨number, inner, rfl⟩ := withValue_eq_ok read
      exact flat (.number (readNumber_proper inner)) rfl
    · simp [stopAtNext] at read

theorem items_succ (answers : AnswersFit fuel) {depth : Nat} {first : Bool}
    {before read : List Json} {characters rest : List Char}
    (fits : ∀ item ∈ before, item.Fits depth)
    (done : readItems .value (fuel + 1) depth first before characters = .ok (read, rest)) :
    ∀ item ∈ read, item.Fits depth := by
  unfold readItems at done
  split at done
  · simp at done
  · obtain ⟨rfl, rfl⟩ := Prod.mk.inj (Except.ok.inj done)
    exact fun item listed => fits item (List.mem_reverse.mp listed)
  · split at done
    · simp at done
    case h_2 item left inner =>
      exact answers.items (List.forall_mem_cons.mpr ⟨answers.value inner, fits⟩) done

theorem members_succ (answers : AnswersFit fuel) {depth : Nat} {first : Bool}
    {before read : List (String × Json)} {characters rest : List Char}
    (sorted : before.Pairwise fun first second => first.1 < second.1)
    (fits : ∀ member ∈ before, member.2.Fits depth)
    (done : readMembers .value (fuel + 1) depth first before characters = .ok (read, rest)) :
    read.Pairwise (fun first second => first.1 < second.1) ∧
      ∀ member ∈ read, member.2.Fits depth := by
  unfold readMembers at done
  split at done
  · simp at done
  · obtain ⟨rfl, rfl⟩ := Prod.mk.inj (Except.ok.inj done)
    exact ⟨sorted, fits⟩
  · split at done
    · simp at done
    · split at done
      · simp at done
      · split at done
        · simp at done
        case h_2 value left inner =>
          refine answers.members (sorted_insertMember sorted) (fun member listed => ?_) done
          rcases mem_insertMember listed with rfl | old
          · exact answers.value inner
          · exact fits member old

end AnswersFit

theorem answersFit (fuel : Nat) : AnswersFit fuel := by
  induction fuel with
  | zero =>
      constructor
      · intro depth characters value rest read
        simp [readValueFrom, stopAtNext] at read
      · intro depth first before characters read rest _ done
        simp [readItems, stopAtNext] at done
      · intro depth first before characters read rest _ _ done
        simp [readMembers, stopAtNext] at done
  | succ fuel answers => exact ⟨answers.value_succ, answers.items_succ, answers.members_succ⟩

theorem fits_of_readValue {depth : Nat} {characters rest : List Char} {value : Json}
    (read : readValue depth characters = .ok (value, rest)) : value.Fits depth :=
  (answersFit _).value read

theorem fits_of_parse {text : String} {value : Json} (parsed : parse text = .ok value) :
    value.Fits depthLimit := by
  unfold parse at parsed
  split at parsed
  · simp at parsed
  case h_2 whole read =>
    obtain rfl := Except.ok.inj parsed
    unfold parseChars at read
    split at read
    · simp at read
    case h_2 found rest inner =>
      unfold readEnd at read
      split at read
      · obtain rfl := Except.ok.inj read
        exact fits_of_readValue inner
      · simp at read

end Json

end BrowserRelay
