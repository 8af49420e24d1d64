import BrowserRelay.Proofs.PathKeys

/-!
# What the operations of a tree do to its files

Making directories leaves the files as they are, writing changes what stands under the key of its
path, moving takes what stands under one key to another, and deleting leaves the rest.  All of this
is said of what stands under a key, whatever the order of the files.
-/

namespace BrowserRelay

namespace FileStore

variable {store written after : FileStore} {path : String}

/-! ## Directories and texts -/

theorem createDirectories_files (store : FileStore) (path : String) :
    (store.createDirectories path).2.files = store.files ∧
      (store.createDirectories path).2.kind = store.kind := by
  apply createDirectories_induction
    (fun after => after.files = store.files ∧ after.kind = store.kind)
  case step =>
    intro before after parent kept done
    obtain ⟨key, -, rfl⟩ := makeDirectory_cases done
    exact kept
  case start => exact fun requested => ⟨rfl, rfl⟩

/-- A text is written under the key of its path, or to a device, which keeps nothing. -/
theorem rewriteFile_of_tree {change : String → String} {modified : Int}
    (tree : store.kind = .tree) (rewritten : store.rewriteFile path change modified = .ok written) :
    written.find path = .ok (Path.key path) ∧
      (System.isDevice (Path.key path) = true ∧ written = store ∨
        System.isDevice (Path.key path) = false ∧
          written = { store with
            files := putFile (Path.key path)
              ⟨change (((store.file? (Path.key path)).map StoredFile.text).getD ""), modified⟩
              store.files }) := by
  obtain ⟨key, placed, result⟩ := rewriteFile_cases rewritten
  obtain rfl := key_of_placeForFile tree placed
  rcases result with ⟨device, rfl⟩ | ⟨ordinary, rfl⟩
  · refine ⟨?_, .inl ⟨device.2, rfl⟩⟩
    exact find_of_placeForFile placed rfl rfl (file?_of_isDevice tree device.2)
  · have noDevice : System.isDevice (Path.key path) = false := by
      by_contra device
      exact ordinary ⟨tree, (Bool.not_eq_false _).mp device⟩
    refine ⟨find_of_placeForFile placed rfl rfl ?_, .inr ⟨noDevice, rfl⟩⟩
    rw [file?_putFile]
    rfl

/-! ## Files under one key -/

/-- All files that stand under a key. -/
def filesUnder (files : List (FileKey × StoredFile)) (key : FileKey) : List StoredFile :=
  (files.filter fun entry => entry.1 = key).map Prod.snd

variable {files : List (FileKey × StoredFile)}

theorem mem_filesUnder {key : FileKey} {file : StoredFile} :
    file ∈ filesUnder files key ↔ (key, file) ∈ files := by
  simp [filesUnder]

theorem filesUnder_eq_nil_of_lookup {key : FileKey} (absent : files.lookup key = none) :
    filesUnder files key = [] := by
  apply List.eq_nil_iff_forall_not_mem.mpr
  intro file listed
  have apart := List.lookup_eq_none_iff.mp absent _ (mem_filesUnder.mp listed)
  simp at apart

theorem filesUnder_cons (entry : FileKey × StoredFile) (files : List (FileKey × StoredFile))
    (key : FileKey) : filesUnder (entry :: files) key =
      if entry.1 = key then entry.2 :: filesUnder files key else filesUnder files key := by
  unfold filesUnder
  rw [List.filter_cons]
  split
  case isTrue same => rw [if_pos (decide_eq_true_iff.mp same), List.map_cons]
  case isFalse apart => rw [if_neg (mt decide_eq_true apart)]

theorem lookup_eq_head?_filesUnder (files : List (FileKey × StoredFile)) (key : FileKey) :
    files.lookup key = (filesUnder files key).head? := by
  induction files with
  | nil => rfl
  | cons entry files ih =>
      obtain ⟨other, file⟩ := entry
      rw [filesUnder_cons]
      split
      case isTrue same =>
        rw [← same, List.lookup_cons_self]
        rfl
      case isFalse apart =>
        rw [List.lookup_cons, beq_eq_false_iff_ne.mpr (Ne.symm apart)]
        exact ih

/-- What is written replaces the first file under its key. -/
theorem filesUnder_putFile (key other : FileKey) (file : StoredFile)
    (files : List (FileKey × StoredFile)) :
    filesUnder (putFile key file files) other =
      if other = key then file :: (filesUnder files key).tail else filesUnder files other := by
  induction files with
  | nil =>
      rw [putFile, filesUnder_cons]
      split
      case isTrue same => rw [if_pos same.symm]; rfl
      case isFalse apart => rw [if_neg (Ne.symm apart)]
  | cons entry files ih =>
      unfold putFile
      split
      case isTrue first =>
        rw [filesUnder_cons, filesUnder_cons, filesUnder_cons, if_pos first]
        dsimp only
        split
        case isTrue same =>
          rw [if_pos same.symm, same]
          rfl
        case isFalse apart =>
          rw [if_neg (Ne.symm apart), if_neg fun same => apart (first.symm.trans same)]
      case isFalse notFirst =>
        rw [filesUnder_cons, ih, filesUnder_cons, filesUnder_cons, if_neg notFirst]
        dsimp only
        split
        case isTrue here =>
          have apart : other ≠ key := fun same => notFirst (here.trans same)
          rw [if_neg apart, if_neg apart]
        case isFalse => rfl

theorem entryAt_eq_nothing_iff {key : FileKey} :
    store.entryAt key = .nothing ↔ store.isDirectory key = false ∧ store.file? key = none := by
  unfold entryAt
  split
  case isTrue there => simp [there]
  case isFalse missing =>
    split
    case isTrue found => simp [Option.isSome_iff_ne_none.mp found]
    case isFalse none => simpa [missing] using none

/-- Where nothing stands there is no file. -/
theorem filesUnder_eq_nil_of_nothing {key : FileKey} (free : store.entryAt key = .nothing) :
    filesUnder store.files key = [] := by
  apply filesUnder_eq_nil_of_lookup
  have missing := (entryAt_eq_nothing_iff.mp free).2
  unfold file? at missing
  split at missing
  · simp at missing
  · assumption
  · assumption

/-! ## Moving and deleting -/

/-- What a move does to the files of a store. -/
def movedFiles (source target : FileKey) (files : List (FileKey × StoredFile)) :
    List (FileKey × StoredFile) :=
  files.map fun entry => (moveKey source target entry.1, entry.2)

theorem move_files {place : Place} {directory : FileKey} {name : String}
    (moved : store.move place directory name = .ok after) :
    after.files = movedFiles place.key (directory ++ [name]) store.files ∧
      after.kind = store.kind := by
  unfold move at moved
  split at moved
  · simp at moved
  case h_2 source movable =>
    obtain rfl := key_of_movableKey movable
    split at moved
    · simp at moved
    · split at moved
      · simp at moved
      · split at moved
        · simp at moved
        · obtain rfl := Except.ok.inj moved
          exact ⟨rfl, rfl⟩

theorem moveKey_eq_iff {directory key : FileKey} {source target name : String} :
    moveKey (directory ++ [source]) (directory ++ [target]) key = directory ++ [name] ↔
      key = directory ++ [source] ∧ name = target ∨
        key ≠ directory ++ [source] ∧ key = directory ++ [name] := by
  unfold moveKey
  split
  case isTrue below =>
    obtain ⟨rest, rfl⟩ := List.isPrefixOf_iff_prefix.mp below
    rw [List.drop_left]
    have lengths (first second : String) :
        directory ++ [first] ++ rest = directory ++ [second] ↔ rest = [] ∧ first = second := by
      constructor
      · intro same
        rw [List.append_assoc] at same
        have ends := List.append_cancel_left same
        simpa [and_comm] using ends
      · rintro ⟨rfl, rfl⟩
        rw [List.append_nil]
    rw [lengths, ne_eq, lengths, lengths]
    constructor
    · rintro ⟨whole, same⟩
      exact .inl ⟨⟨whole, rfl⟩, same.symm⟩
    · rintro (⟨⟨whole, -⟩, same⟩ | ⟨more, whole, -⟩)
      · exact ⟨whole, same.symm⟩
      · exact absurd ⟨whole, rfl⟩ more
  case isFalse apart =>
    have other : key ≠ directory ++ [source] := by
      rintro rfl
      simp at apart
    simp [other]

/-- A file that is moved alone to a free key stands there, and nothing under its old key. -/
theorem filesUnder_movedFiles {source target key : FileKey}
    (alone : ∀ entry ∈ files, moveKey source target entry.1 = key ↔
      entry.1 = source ∧ key = target ∨ entry.1 ≠ source ∧ entry.1 = key)
    (free : filesUnder files target = []) :
    filesUnder (movedFiles source target files) key =
      if key = target then filesUnder files source
      else if key = source then []
      else filesUnder files key := by
  have under : filesUnder (movedFiles source target files) key =
      (files.filter fun entry =>
        entry.1 = source ∧ key = target ∨ entry.1 ≠ source ∧ entry.1 = key).map Prod.snd := by
    unfold filesUnder movedFiles
    rw [List.filter_map, List.map_map]
    refine congrArg (List.map Prod.snd) (List.filter_congr fun entry listed => ?_)
    exact decide_eq_decide.mpr (alone entry listed)
  rw [under, filesUnder]
  have absent : ∀ entry ∈ files, entry.1 ≠ target := by
    intro entry listed same
    have there := mem_filesUnder.mpr (same ▸ listed : (target, entry.2) ∈ files)
    rw [free] at there
    exact List.not_mem_nil there
  split
  case isTrue isTarget =>
    refine congrArg (List.map Prod.snd) (List.filter_congr fun entry listed => ?_)
    simp [isTarget, absent entry listed]
  case isFalse notTarget =>
    split
    case isTrue isSource =>
      rw [List.map_eq_nil_iff, List.filter_eq_nil_iff]
      intro entry _
      have apart : source ≠ target := isSource ▸ notTarget
      simp [isSource, apart]
    case isFalse notSource =>
      refine congrArg (List.map Prod.snd) (List.filter_congr fun entry _ => ?_)
      by_cases here : entry.1 = key
      · simp [here, notSource]
      · simp [here, notTarget]

/-- A file that is moved to a free name beside it stands there, and nothing under its old name. -/
theorem filesUnder_moved_beside {directory : FileKey} {source target : String}
    (free : filesUnder files (directory ++ [target]) = []) (name : String) :
    filesUnder (movedFiles (directory ++ [source]) (directory ++ [target]) files)
        (directory ++ [name]) =
      if name = target then filesUnder files (directory ++ [source])
      else if name = source then []
      else filesUnder files (directory ++ [name]) := by
  have same (other : String) : directory ++ [name] = directory ++ [other] ↔ name = other := by
    simp
  rw [filesUnder_movedFiles (fun entry _ => ?_) free, if_congr (same target) rfl rfl,
    if_congr (same source) rfl rfl]
  rw [same]
  exact moveKey_eq_iff

theorem filesUnder_filter (keys : List FileKey) (key : FileKey) :
    filesUnder (files.filter fun entry => !keys.contains entry.1) key =
      if key ∈ keys then [] else filesUnder files key := by
  unfold filesUnder
  rw [List.filter_filter]
  split
  case isTrue gone =>
    have none : files.filter (fun entry => decide (entry.1 = key) && !keys.contains entry.1) =
        [] := by
      apply List.filter_eq_nil_iff.mpr
      intro entry _ kept
      simp only [Bool.and_eq_true, decide_eq_true_eq] at kept
      rw [kept.1] at kept
      simp [gone] at kept
    rw [none]
    rfl
  case isFalse stays =>
    refine congrArg (List.map Prod.snd) (List.filter_congr fun entry _ => ?_)
    by_cases here : entry.1 = key
    · simp [here, stays]
    · simp [here]

end FileStore

end BrowserRelay
