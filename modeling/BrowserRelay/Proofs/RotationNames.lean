import BrowserRelay.Proofs.Pruning
import Mathlib.Data.List.Nodup

/-!
# The names of rotations

The time stamp and the sequence number of a rotation can be read off its name.  Names of different
sequence numbers are different, so that a store cannot hold them all, and a log is always moved to
a name that is free.
-/

namespace BrowserRelay.Rotation

variable {log : LogName}

/-! ## Reading names -/

/-- The time stamp and the sequence number that a tag spells. -/
def tagNumbers (tag : List Char) : Nat × Nat :=
  (digitsValue (tag.takeWhile (· ≠ '-')), digitsValue ((tag.dropWhile (· ≠ '-')).drop 1))

theorem digitsValue_sequenceText (sequence : Nat) :
    digitsValue (sequenceText sequence) = sequence := by
  unfold sequenceText
  rw [digitsValue_append, digitsValue_zeros, Nat.zero_mul, Nat.zero_add]
  exact Json.digitsValue_natText sequence

theorem tagNumbers_tag (stamp sequence : Nat) :
    tagNumbers (Nat.toDigits 10 stamp ++ '-' :: sequenceText sequence) = (stamp, sequence) := by
  have digits : ∀ character ∈ Nat.toDigits 10 stamp, (decide (character ≠ '-')) = true := by
    intro character listed
    have isDigit := Json.allDigits_natText stamp character listed
    refine decide_eq_true fun hyphen => ?_
    simp [hyphen] at isDigit
  unfold tagNumbers
  rw [List.takeWhile_append_of_pos digits, List.dropWhile_append_of_pos digits,
    List.takeWhile_cons_of_neg (by simp), List.dropWhile_cons_of_neg (by simp), List.append_nil,
    List.drop_one, List.tail_cons, digitsValue_sequenceText]
  exact congrArg (·, sequence) (Json.digitsValue_natText stamp)

theorem tag?_rotatedName (log : LogName) (stamp sequence : Nat) :
    tag? log (rotatedName log stamp sequence) =
      some (Nat.toDigits 10 stamp ++ '-' :: sequenceText sequence) := by
  rw [tag?_eq_some_iff, rotatedName, String.toList_ofList]

theorem rotatedName_inj {stamp sequence other otherSequence : Nat} :
    rotatedName log stamp sequence = rotatedName log other otherSequence ↔
      stamp = other ∧ sequence = otherSequence := by
  constructor
  · intro same
    have tags := congrArg (fun name => (tag? log name).map tagNumbers) same
    simpa [tag?_rotatedName, tagNumbers_tag] using tags
  · rintro ⟨rfl, rfl⟩
    rfl

/-- A name is that of a rotation if the numbers that it spells give it back. -/
theorem isRotation_iff {name : String} :
    IsRotation log name ↔ ∃ tag ∈ tag? log name, (tagNumbers tag).1 < 2 ^ 128 ∧
      (tagNumbers tag).2 < 2 ^ 32 ∧
        name = rotatedName log (tagNumbers tag).1 (tagNumbers tag).2 := by
  constructor
  · rintro ⟨stamp, sequence, stampFits, sequenceFits, rfl⟩
    refine ⟨_, tag?_rotatedName log stamp sequence, ?_⟩
    rw [tagNumbers_tag]
    exact ⟨stampFits, sequenceFits, rfl⟩
  · rintro ⟨tag, -, stampFits, sequenceFits, spelled⟩
    exact ⟨_, _, stampFits, sequenceFits, spelled⟩

instance : DecidablePred (IsRotation log) := fun _ => decidable_of_iff _ isRotation_iff.symm

theorem LogName.not_isRotation (log : LogName) : ¬ IsRotation log log.fileName := fun rotation =>
  log.not_looksRotated rotation.looksRotated

theorem rotatedName_ne_fileName (log : LogName) (stamp sequence : Nat) :
    rotatedName log stamp sequence ≠ log.fileName := by
  intro same
  have lengths := congrArg (List.length ∘ String.toList) same
  simp [rotatedName, LogName.fileName] at lengths
  omega

/-! ## Free names -/

theorem hyphen_mem_rotatedName (log : LogName) (stamp sequence : Nat) :
    '-' ∈ (rotatedName log stamp sequence).toList := by
  simp [rotatedName]

/-- Nothing that every system holds is named like a rotation. -/
theorem no_hyphen_of_isDirectory {key : FileKey} {name : String}
    (there : System.isDirectory (key ++ [name]) = true) : '-' ∉ name.toList := by
  have plain : ∀ names ∈ System.directories, ∀ name ∈ names, '-' ∉ name.toList := by
    decide
  simp only [System.isDirectory, Bool.or_eq_true, decide_eq_true_eq, List.any_eq_true] at there
  rcases there with (above | root) | ⟨names, listed, below⟩
  · have up : name = ".." := by simpa using List.all_eq_true.mp above name (by simp)
    rw [up]
    simp
  · have last := congrArg List.getLast? root
    rw [List.getLast?_concat] at last
    have slash : name = "/" := Option.some.inj last
    rw [slash]
    simp
  · have last := congrArg List.getLast? below
    rw [List.getLast?_concat, List.getLast?_append] at last
    cases lastName : names.getLast? with
    | none =>
        rw [lastName] at last
        have root : name = "/" := by simpa [Place.root] using last
        rw [root]
        simp
    | some other =>
        rw [lastName] at last
        obtain rfl : name = other := by simpa using last
        exact plain names listed name (List.mem_of_getLast? lastName)

theorem plain_of_lookup {key : FileKey} {name : String}
    (there : (System.files.lookup (key ++ [name])).isSome) :
    '-' ∉ name.toList ∧ '.' ∉ name.toList := by
  have plain : ∀ entry ∈ System.files, ∀ name ∈ entry.1,
      '-' ∉ name.toList ∧ '.' ∉ name.toList := by decide
  obtain ⟨entry, listed, same⟩ := List.lookup_isSome_iff.mp there
  apply plain entry listed
  rw [← beq_iff_eq.mp same]
  simp

variable {store : FileStore} {directory : FileKey} {stamp : Nat}

/-- A name of a rotation is taken only by what the store itself holds. -/
theorem mem_of_taken {sequence : Nat}
    (taken : store.entryAt (directory ++ [rotatedName log stamp sequence]) ≠ .nothing) :
    directory ++ [rotatedName log stamp sequence] ∈
      store.files.map Prod.fst ++ store.directories := by
  have hyphen := hyphen_mem_rotatedName log stamp sequence
  unfold FileStore.entryAt at taken
  split at taken
  case isTrue there =>
    unfold FileStore.isDirectory at there
    cases Bool.or_eq_true_iff.mp there with
    | inl system => exact absurd hyphen (no_hyphen_of_isDirectory system)
    | inr made => exact List.mem_append_right _ (List.contains_iff_mem.mp made)
  case isFalse =>
    split at taken
    case isTrue there =>
      apply List.mem_append_left
      unfold FileStore.file? at there
      split at there
      case h_1 found =>
        obtain ⟨before, after, split, -⟩ := List.lookup_eq_some_iff.mp found
        rw [split]
        simp
      case h_2 => simp at there
      case h_3 => exact absurd hyphen (plain_of_lookup there).1
    case isFalse => exact absurd rfl taken

/-- The search ends at a free name, or finds no free name within its fuel. -/
theorem freeSequence_cases (store : FileStore) (log : LogName) (directory : FileKey)
    (stamp fuel sequence : Nat) :
    (∀ other, sequence ≤ other →
        other < freeSequence store log directory stamp fuel sequence →
          store.entryAt (directory ++ [rotatedName log stamp other]) ≠ .nothing) ∧
      (store.entryAt (directory ++
          [rotatedName log stamp (freeSequence store log directory stamp fuel sequence)]) =
            .nothing ∨
        freeSequence store log directory stamp fuel sequence = sequence + fuel) := by
  induction fuel generalizing sequence with
  | zero => exact ⟨fun other least less => absurd less (Nat.not_lt.mpr least), .inr rfl⟩
  | succ fuel ih =>
      unfold freeSequence
      split
      case isTrue free =>
        exact ⟨fun other least less => absurd less (Nat.not_lt.mpr least), .inl free⟩
      case isFalse taken =>
        obtain ⟨takenAfter, ends⟩ := ih (sequence + 1)
        constructor
        · intro other least less
          rcases Nat.eq_or_lt_of_le least with rfl | later
          · exact taken
          · exact takenAfter other later less
        · apply ends.imp_right
          intro last
          omega

/-- What the store itself holds in a directory. -/
def entriesIn (store : FileStore) (directory : FileKey) : List FileKey :=
  (store.files.map Prod.fst ++ store.directories).filter fun key => key.dropLast = directory

theorem length_entriesIn_le (store : FileStore) (directory : FileKey) :
    (entriesIn store directory).length ≤ store.files.length + store.directories.length := by
  unfold entriesIn
  apply (List.length_filter_le _ _).trans
  rw [List.length_append, List.length_map]

/-- No more names are taken than the directory has entries. -/
theorem le_of_taken {count : Nat}
    (taken : ∀ sequence < count,
      store.entryAt (directory ++ [rotatedName log stamp sequence]) ≠ .nothing) :
    count ≤ (entriesIn store directory).length := by
  have listed : ((List.range count).map fun sequence =>
      directory ++ [rotatedName log stamp sequence]) ⊆ entriesIn store directory := by
    intro key some
    obtain ⟨sequence, inRange, rfl⟩ := List.mem_map.mp some
    refine List.mem_filter.mpr ⟨mem_of_taken (taken sequence (List.mem_range.mp inRange)), ?_⟩
    rw [List.dropLast_concat]
    exact decide_eq_true rfl
  have distinct : ((List.range count).map fun sequence =>
      directory ++ [rotatedName log stamp sequence]).Nodup := by
    apply List.Nodup.map _ List.nodup_range
    intro sequence other same
    exact (rotatedName_inj.mp (List.cons.inj (List.append_cancel_left same)).1).2
  have fits := (List.subperm_of_subset distinct listed).length_le
  simpa only [List.length_map, List.length_range] using fits

/-- A log is moved to the least sequence number whose name is free. -/
theorem freeSequence_spec {fuel : Nat}
    (enough : store.files.length + store.directories.length < fuel) :
    store.entryAt (directory ++
        [rotatedName log stamp (freeSequence store log directory stamp fuel 0)]) = .nothing ∧
      ∀ other < freeSequence store log directory stamp fuel 0,
        store.entryAt (directory ++ [rotatedName log stamp other]) ≠ .nothing := by
  obtain ⟨taken, ends⟩ := freeSequence_cases store log directory stamp fuel 0
  have takenBelow (other : Nat) (less : other < freeSequence store log directory stamp fuel 0) :=
    taken other (Nat.zero_le other) less
  refine ⟨ends.resolve_right fun last => ?_, takenBelow⟩
  -- All names of the search are taken, and they are more than the store holds.
  rw [last, Nat.zero_add] at takenBelow
  have fits := (le_of_taken takenBelow).trans (length_entriesIn_le store directory)
  exact absurd fits (Nat.not_le.mpr enough)

end BrowserRelay.Rotation
