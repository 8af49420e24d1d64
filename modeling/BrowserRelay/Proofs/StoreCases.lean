import BrowserRelay.Files.Store

/-!
# When the operations of a store succeed

A step of a walk through the tree, and an operation of a store, succeeds under an exact condition
and then has one result.  What the operations do to the files is read off these conditions, and
what holds of making one directory carries over to making all that are missing.
-/

namespace BrowserRelay

/-! ## Places -/

namespace Place

variable {entryAt : FileKey → Entry} {place : Place} {directory key : FileKey} {name path : String}
  {asDirectory : Bool}

theorem find_within_eq_ok_iff :
    (within directory name asDirectory).find entryAt = .ok key ↔
      directory ++ [name] = key ∧ name.utf8ByteSize ≤ longestName ∧
        (entryAt key = .directory ∨ entryAt key = .file ∧ asDirectory = false) := by
  constructor
  · intro leads
    unfold find at leads
    dsimp only at leads
    split at leads
    · simp at leads
    case isFalse short =>
      cases there : entryAt (directory ++ [name]) with
      | nothing => simp [there] at leads
      | file =>
          cases asDirectory with
          | true => simp [there] at leads
          | false =>
              obtain rfl : directory ++ [name] = key := by simpa [there] using leads
              exact ⟨rfl, Nat.not_lt.mp short, .inr ⟨there, rfl⟩⟩
      | directory =>
          obtain rfl : directory ++ [name] = key := by simpa [there] using leads
          exact ⟨rfl, Nat.not_lt.mp short, .inl there⟩
  · rintro ⟨rfl, short, there⟩
    unfold find
    dsimp only
    rw [if_neg (Nat.not_lt.mpr short)]
    rcases there with there | ⟨there, rfl⟩
    · rw [there]
    · rw [there]
      rfl

theorem forFile_eq_ok_iff :
    place.forFile entryAt = .ok key ↔
      ∃ directory name, place = within directory name false ∧ directory ++ [name] = key ∧
        name.utf8ByteSize ≤ longestName ∧ entryAt key ≠ .directory := by
  cases place with
  | reached directory => simp [forFile]
  | within directory name asDirectory =>
      unfold forFile
      dsimp only
      constructor
      · intro placed
        split at placed
        · simp at placed
        case isFalse plain =>
          obtain rfl := Bool.eq_false_iff.mpr plain
          split at placed
          · simp at placed
          case isFalse short =>
            split at placed
            · simp at placed
            case isFalse apart =>
              obtain rfl := Except.ok.inj placed
              exact ⟨directory, name, rfl, rfl, Nat.not_lt.mp short, apart⟩
      · rintro ⟨above, last, same, rfl, short, apart⟩
        obtain ⟨rfl, rfl, rfl⟩ := Place.within.inj same
        rw [if_neg Bool.false_ne_true, if_neg (Nat.not_lt.mpr short), if_neg apart]

theorem forDirectory_eq_ok_iff :
    place.forDirectory entryAt = .ok key ↔
      ∃ directory name asDirectory, place = within directory name asDirectory ∧
        directory ++ [name] = key ∧ name.utf8ByteSize ≤ longestName ∧
          entryAt key = .nothing := by
  cases place with
  | reached directory => simp [forDirectory]
  | within directory name asDirectory =>
      unfold forDirectory
      dsimp only
      constructor
      · intro placed
        split at placed
        · simp at placed
        case isFalse short =>
          split at placed
          · simp at placed
          case isFalse free =>
            obtain rfl := Except.ok.inj placed
            exact ⟨directory, name, asDirectory, rfl, rfl, Nat.not_lt.mp short, Decidable.not_not.mp free⟩
      · rintro ⟨above, last, behind, same, rfl, short, free⟩
        obtain ⟨rfl, rfl, rfl⟩ := Place.within.inj same
        rw [if_neg (Nat.not_lt.mpr short), if_neg (Decidable.not_not.mpr free)]

theorem follow_cons_eq_ok_iff {second : String} {rest : List String} :
    follow entryAt asDirectory directory (name :: second :: rest) = .ok place ↔
      ∃ next, (ofName directory name true).find entryAt = .ok next ∧
        follow entryAt asDirectory next (second :: rest) = .ok place := by
  rw [follow.eq_def]
  dsimp only
  cases (ofName directory name true).find entryAt with
  | error refusal => simp
  | ok next => simp

theorem ofPath_eq_ok_iff :
    ofPath entryAt path = .ok place ↔
      path.contains '\x00' = false ∧ path ≠ "" ∧ path.utf8ByteSize ≤ longestPath ∧
        follow entryAt (Path.endsInSlash path) (if Path.isAbsolute path then root else [])
          (Path.names path) = .ok place := by
  unfold ofPath
  split
  case isTrue stray => simp [stray]
  case isFalse clean =>
    split
    case isTrue empty => simp [empty]
    case isFalse some =>
      split
      case isTrue long => simp [Nat.not_le.mpr long]
      case isFalse short => simp [clean, some, Nat.not_lt.mp short]

end Place

/-! ## Stores -/

namespace FileStore

variable {store written made after : FileStore} {path : String} {key : FileKey}

theorem find_eq_ok_iff_of_shelf (shelf : store.kind = .shelf) :
    store.find path = .ok key ↔ (store.file? key).isSome ∧ Path.components path = key := by
  unfold find
  rw [shelf]
  dsimp only
  constructor
  · intro leads
    split at leads
    case isTrue there =>
      obtain rfl := Except.ok.inj leads
      exact ⟨there, rfl⟩
    case isFalse => simp at leads
  · rintro ⟨there, rfl⟩
    exact if_pos there

theorem find_eq_ok_iff_of_tree (tree : store.kind = .tree) :
    store.find path = .ok key ↔
      ∃ place, store.placeOf path = .ok place ∧ place.find store.entryAt = .ok key := by
  unfold find
  rw [tree]
  cases store.placeOf path with
  | error refusal => simp
  | ok place => simp

theorem placeForFile_eq_ok_iff_of_tree (tree : store.kind = .tree) :
    store.placeForFile path = .ok key ↔
      ∃ place, store.placeOf path = .ok place ∧ place.forFile store.entryAt = .ok key ∧
        System.takesNew key.dropLast = true := by
  unfold placeForFile
  rw [tree]
  cases store.placeOf path with
  | error refusal => simp
  | ok place =>
      simp only [Except.ok.injEq, exists_eq_left']
      cases place.forFile store.entryAt with
      | error refusal => simp
      | ok other =>
          dsimp only
          constructor
          · intro placed
            split at placed
            case isTrue takes =>
              obtain rfl := Except.ok.inj placed
              exact ⟨rfl, takes⟩
            case isFalse => simp at placed
          · rintro ⟨same, takes⟩
            obtain rfl := Except.ok.inj same
            exact if_pos takes

theorem directoryAt_eq_ok_iff :
    store.directoryAt path = .ok key ↔
      store.find path = .ok key ∧ store.isDirectory key = true := by
  unfold directoryAt
  cases store.find path with
  | error refusal => simp
  | ok other =>
      dsimp only
      constructor
      · intro leads
        split at leads
        case isTrue there =>
          obtain rfl := Except.ok.inj leads
          exact ⟨rfl, there⟩
        case isFalse => simp at leads
      · rintro ⟨same, there⟩
        obtain rfl := Except.ok.inj same
        exact if_pos there

/-- Rewriting a file puts its new text under the key of the path, but that a device keeps
nothing. -/
theorem rewriteFile_cases {change : String → String} {modified : Int}
    (rewritten : store.rewriteFile path change modified = .ok written) :
    ∃ key, store.placeForFile path = .ok key ∧
      ((store.kind = .tree ∧ System.isDevice key = true) ∧ written = store ∨
        ¬(store.kind = .tree ∧ System.isDevice key = true) ∧
          written = { store with
            files := putFile key
              ⟨change (((store.file? key).map StoredFile.text).getD ""), modified⟩
              store.files }) := by
  unfold rewriteFile at rewritten
  split at rewritten
  · simp at rewritten
  case h_2 key placed =>
    refine ⟨key, placed, ?_⟩
    dsimp only at rewritten
    split at rewritten
    case isTrue device =>
      split at rewritten
      · simp at rewritten
      · exact .inl ⟨device, (Except.ok.inj rewritten).symm⟩
    case isFalse ordinary => exact .inr ⟨ordinary, (Except.ok.inj rewritten).symm⟩

theorem write_cases (store : FileStore) (path text : String) (modified : Int) :
    (∃ failure, store.write path text modified =
        (.error failure, { store with outcomes := store.outcomes.later })) ∨
      ∃ written, store.write path text modified = (.ok (), written) ∧
        ({ store with outcomes := store.outcomes.later }).rewriteFile path (fun _ => text)
          modified = .ok written := by
  unfold write
  dsimp only
  split
  · exact .inl ⟨_, rfl⟩
  · split
    · exact .inl ⟨_, rfl⟩
    case h_2 written rewritten => exact .inr ⟨written, rfl, rewritten⟩

/-! ## Directories -/

/-- A directory is made where nothing stands. -/
theorem makeDirectory_cases (done : store.makeDirectory path = .ok made) :
    ∃ key, store.entryAt key = .nothing ∧
      made = { store with directories := store.directories ++ [key] } := by
  unfold makeDirectory at done
  split at done
  · simp at done
  · split at done
    · simp at done
    case h_2 key free =>
      obtain ⟨-, -, -, -, -, -, nothing⟩ := Place.forDirectory_eq_ok_iff.mp free
      split at done
      · exact ⟨key, nothing, (Except.ok.inj done).symm⟩
      · simp at done

/-- What making one directory keeps is kept by making a directory and those above it. -/
theorem makeDirectories_induction {Holds : FileStore → Prop}
    (step : ∀ {before after : FileStore} {path : String}, Holds before →
      before.makeDirectory path = .ok after → Holds after)
    (paths : List String) (start : Holds store) : Holds (makeDirectories paths store).2 := by
  induction paths generalizing store with
  | nil => exact start
  | cons path ancestors ih =>
      unfold makeDirectories
      dsimp only
      split
      · exact start
      · split
        case h_1 made => exact step start made
        case h_2 =>
          have above := ih start
          split
          case h_1 refused => rwa [refused] at above
          case h_2 succeeded =>
            rw [succeeded] at above
            split
            case h_1 made => exact step above made
            case h_2 => exact above
        case h_3 => exact start

/-- What is known of a store after one outcome was used, and kept by making a directory, holds
after directories were created. -/
theorem createDirectories_induction (Holds : FileStore → Prop)
    (step : ∀ {before after : FileStore} {path : String}, Holds before →
      before.makeDirectory path = .ok after → Holds after)
    (path : String)
    (start : ∀ requested, Holds { store with
      outcomes := store.outcomes.later, requested := requested }) :
    Holds (store.createDirectories path).2 := by
  unfold createDirectories
  dsimp only
  split
  · exact start store.requested
  · split
    · exact start _
    · have made := makeDirectories_induction step (Path.ancestors path)
        (start (store.requested ++ [path]))
      split
      case h_1 refused => rwa [refused] at made
      case h_2 succeeded => rwa [succeeded] at made

/-- A text is written with its directory if that is created first, or if it needs none. -/
theorem writeWithDirectory_cases (store : FileStore) (path text : String) (modified : Int) :
    store.writeWithDirectory path text modified = store.write path text modified ∨
      (∃ parent failure created, store.createDirectories parent = (.error failure, created) ∧
        store.writeWithDirectory path text modified = (.error failure, created)) ∨
      ∃ parent created, store.createDirectories parent = (.ok (), created) ∧
        store.writeWithDirectory path text modified = created.write path text modified := by
  unfold writeWithDirectory
  split
  · exact .inl rfl
  case h_2 parent _ =>
    split
    · exact .inl rfl
    · split
      case h_1 failure created refused => exact .inr (.inl ⟨parent, failure, created, refused, rfl⟩)
      case h_2 created succeeded => exact .inr (.inr ⟨parent, created, succeeded, rfl⟩)

/-! ## Moving -/

theorem movableKey_eq_ok_iff {place : Place} :
    movableKey place = .ok key ↔
      ∃ directory name asDirectory, place = .within directory name asDirectory ∧
        directory ++ [name] = key ∧ name.utf8ByteSize ≤ Place.longestName := by
  cases place with
  | reached directory => simp [movableKey]
  | within directory name asDirectory =>
      unfold movableKey
      dsimp only
      constructor
      · intro movable
        split at movable
        · simp at movable
        case isFalse short =>
          exact ⟨directory, name, asDirectory, rfl, Except.ok.inj movable, Nat.not_lt.mp short⟩
      · rintro ⟨above, last, behind, same, rfl, short⟩
        obtain ⟨rfl, rfl, rfl⟩ := Place.within.inj same
        exact if_neg (Nat.not_lt.mpr short)

end FileStore

end BrowserRelay
