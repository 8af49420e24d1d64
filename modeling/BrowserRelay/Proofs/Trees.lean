import BrowserRelay.Proofs.StoreFrame

/-!
# Trees of files

In a tree every file and every directory stands in a directory, and nothing stands below a file.
So moving a file to a free name in a directory moves this file and no other, and a tree stays a
tree.
-/

namespace BrowserRelay

/-! ## Directories above -/

theorem System.isDirectory_above {key : FileKey} (there : System.isDirectory key = true) :
    System.isDirectory (Place.above key) = true := by
  have below : ∀ names ∈ System.directories,
      System.isDirectory (Place.above (Place.root ++ names)) = true := by
    decide
  simp only [System.isDirectory, Bool.or_eq_true, decide_eq_true_eq, List.any_eq_true] at there
  rcases there with (up | rfl) | ⟨names, listed, rfl⟩
  · have higher : Place.isStartOrAbove (key ++ [".."]) = true := by
      rw [Place.isStartOrAbove, List.all_append]
      exact Bool.and_eq_true_iff.mpr ⟨up, rfl⟩
    have notRoot : key ≠ Place.root := by
      rintro rfl
      simp [Place.isStartOrAbove, Place.root] at up
    rw [Place.above, if_neg notRoot, if_pos up, System.isDirectory, higher]
    rfl
  · rfl
  · exact below names listed

namespace Place

variable {entryAt : FileKey → Entry}

theorem isDirectory_of_find {directory key : FileKey} {name : String}
    (closed : ∀ key, entryAt key = .directory → entryAt (above key) = .directory)
    (start : entryAt directory = .directory)
    (found : (ofName directory name true).find entryAt = .ok key) : entryAt key = .directory := by
  unfold ofName at found
  split at found
  · obtain rfl := Except.ok.inj found
    exact start
  · split at found
    · obtain rfl := Except.ok.inj found
      exact closed directory start
    · obtain ⟨-, -, there⟩ := find_within_eq_ok_iff.mp found
      simpa using there

/-- A walk that has reached something has reached a directory. -/
theorem isDirectory_of_reached
    (closed : ∀ key, entryAt key = .directory → entryAt (above key) = .directory)
    {asDirectory : Bool} {directory reached : FileKey} {names : List String}
    (start : entryAt directory = .directory)
    (leads : follow entryAt asDirectory directory names = .ok (.reached reached)) :
    entryAt reached = .directory := by
  induction names generalizing directory with
  | nil =>
      obtain rfl := Place.reached.inj (Except.ok.inj leads)
      exact start
  | cons name names ih =>
      cases names with
      | nil =>
          have place : ofName directory name asDirectory = .reached reached := Except.ok.inj leads
          unfold ofName at place
          split at place
          · obtain rfl := Place.reached.inj place
            exact start
          · split at place
            · obtain rfl := Place.reached.inj place
              exact closed directory start
            · simp at place
      | cons second rest =>
          obtain ⟨next, found, further⟩ := follow_cons_eq_ok_iff.mp leads
          exact ih (isDirectory_of_find closed start found) further

end Place

namespace FileStore

variable {store after : FileStore} {path name : String} {directory source target key : FileKey}
  {place : Place}

/-- What has the key and a name of a directory stands in this directory. -/
theorem isDirectory_above_concat (store : FileStore) (directory : FileKey) (name : String) :
    store.isDirectory (Place.above (directory ++ [name])) = store.isDirectory directory := by
  have system {key : FileKey} (there : System.isDirectory key = true) :
      store.isDirectory key = true := by
    rw [isDirectory, there, Bool.true_or]
  have start {key : FileKey} (up : Place.isStartOrAbove key = true) :
      store.isDirectory key = true := by
    apply system
    rw [System.isDirectory, up]
    rfl
  unfold Place.above
  split
  case isTrue isRoot =>
    have empty : directory = [] := by
      simpa [Place.root] using congrArg List.dropLast isRoot
    rw [empty, system rfl, start rfl]
  case isFalse =>
    split
    case isTrue up =>
      have parts := List.all_append.symm.trans up
      rw [start (List.all_append.trans (Bool.and_eq_true_iff.mpr ⟨up, rfl⟩)),
        start (Bool.and_eq_true_iff.mp parts).1]
    case isFalse => rw [List.dropLast_concat]

theorem file?_of_tree (tree : store.kind = .tree) (key : FileKey) :
    store.file? key = (store.files.lookup key).or (System.files.lookup key) := by
  unfold file?
  rw [tree]
  cases store.files.lookup key with
  | none => rfl
  | some file => rfl

/-- What a tree holds stands in directories, under keys that nothing else has. -/
structure IsTree (store : FileStore) : Prop where
  kind : store.kind = .tree
  apart : ∀ key ∈ store.files.map Prod.fst, store.isDirectory key = false
  within : ∀ key ∈ store.files.map Prod.fst ++ store.directories,
    store.isDirectory (Place.above key) = true
  distinct : (store.files.map Prod.fst).Nodup

/-- The file of one key now has another key, and nothing else is different. -/
structure Moves (before after : FileStore) (source target : FileKey) : Prop where
  moved : after.file? target = before.file? source
  left : after.entryAt source = .nothing
  others : ∀ key, key ≠ source → key ≠ target → after.file? key = before.file? key
  directories : ∀ key, after.isDirectory key = before.isDirectory key

/-- Some files are gone, and nothing else is different. -/
structure Deletes (before after : FileStore) (keys : List FileKey) : Prop where
  files : ∀ key, after.file? key = if key ∈ keys then none else before.file? key
  directories : ∀ key, after.isDirectory key = before.isDirectory key

namespace IsTree

theorem isDirectory_above (tree : store.IsTree) (there : store.isDirectory key = true) :
    store.isDirectory (Place.above key) = true := by
  rcases Bool.or_eq_true_iff.mp there with system | made
  · rw [isDirectory, System.isDirectory_above system, Bool.true_or]
  · exact tree.within key (List.mem_append_right _ (List.contains_iff_mem.mp made))

/-- Below a file there is no directory. -/
theorem not_isDirectory_append (tree : store.IsTree) (file : source ∈ store.files.map Prod.fst)
    (rest : List String) : store.isDirectory (source ++ rest) = false := by
  induction rest using List.reverseRecOn with
  | nil =>
      rw [List.append_nil]
      exact tree.apart source file
  | append_singleton rest name ih =>
      by_contra there
      have above := tree.isDirectory_above (Bool.not_eq_false _ ▸ there)
      rw [← List.append_assoc, isDirectory_above_concat, ih] at above
      exact Bool.false_ne_true above

/-- Below a file there is nothing. -/
theorem eq_of_prefix (tree : store.IsTree) (file : source ∈ store.files.map Prod.fst)
    (there : key ∈ store.files.map Prod.fst ++ store.directories) (below : source <+: key) :
    key = source := by
  obtain ⟨rest, rfl⟩ := below
  induction rest using List.reverseRecOn with
  | nil => rw [List.append_nil]
  | append_singleton rest name =>
      have above := tree.within _ there
      rw [← List.append_assoc, isDirectory_above_concat,
        tree.not_isDirectory_append file rest] at above
      exact absurd above Bool.false_ne_true

/-- A file is moved alone. -/
theorem moveKey_eq (tree : store.IsTree) (file : source ∈ store.files.map Prod.fst)
    (there : key ∈ store.files.map Prod.fst ++ store.directories) :
    moveKey source target key = if key = source then target else key := by
  unfold moveKey
  split
  case isTrue below =>
    obtain rfl := tree.eq_of_prefix file there (List.isPrefixOf_iff_prefix.mp below)
    rw [if_pos rfl, List.drop_length, List.append_nil]
  case isFalse apart =>
    rw [if_neg]
    rintro rfl
    exact apart (List.isPrefixOf_iff_prefix.mpr (List.prefix_refl key))

theorem entryAt_of_mem (tree : store.IsTree) (file : source ∈ store.files.map Prod.fst) :
    store.entryAt source = .file := by
  obtain ⟨entry, listed, rfl⟩ := List.mem_map.mp file
  have there : (store.files.lookup entry.1).isSome :=
    List.lookup_isSome_iff.mpr ⟨entry, listed, beq_self_eq_true _⟩
  obtain ⟨found, looked⟩ := Option.isSome_iff_exists.mp there
  unfold entryAt
  rw [tree.apart _ file, file?_of_tree tree.kind, looked]
  rfl

/-- What has been reached is a directory. -/
theorem entryAt_of_reached (tree : store.IsTree)
    (placed : store.placeOf path = .ok (.reached directory)) :
    store.entryAt directory = .directory := by
  have closed (key : FileKey) (there : store.entryAt key = .directory) :
      store.entryAt (Place.above key) = .directory :=
    entryAt_eq_directory_iff.mpr (tree.isDirectory_above (entryAt_eq_directory_iff.mp there))
  obtain ⟨-, -, -, follows⟩ := Place.ofPath_eq_ok_iff.mp placed
  apply Place.isDirectory_of_reached closed _ follows
  split
  · exact entryAt_eq_directory_iff.mpr rfl
  · exact entryAt_eq_directory_iff.mpr rfl

/-- A file that is found can be moved. -/
theorem exists_place (tree : store.IsTree) (file : source ∈ store.files.map Prod.fst)
    (leads : store.find path = .ok source) :
    ∃ place, store.placeOf path = .ok place ∧ place.find store.entryAt = .ok source ∧
      movableKey place = .ok source := by
  obtain ⟨place, placed, found⟩ := (find_eq_ok_iff_of_tree tree.kind).mp leads
  refine ⟨place, placed, found, ?_⟩
  cases place with
  | within directory name asDirectory =>
      obtain ⟨isKey, short, -⟩ := Place.find_within_eq_ok_iff.mp found
      exact movableKey_eq_ok_iff.mpr ⟨directory, name, asDirectory, rfl, isKey, short⟩
  | reached directory =>
      obtain rfl := Except.ok.inj found
      have reached := tree.entryAt_of_reached placed
      simp [tree.entryAt_of_mem file] at reached

/-- A file is moved to another name if the name is not too long. -/
theorem move_eq (tree : store.IsTree) (file : source ∈ store.files.map Prod.fst)
    (movable : movableKey place = .ok source) (found : place.find store.entryAt = .ok source)
    (fits : name.utf8ByteSize ≤ Place.longestName) :
    store.move place directory name = .ok { store with
      files := movedFiles source (directory ++ [name]) store.files } := by
  have there : store.entryAt source ≠ .nothing := by simp [tree.entryAt_of_mem file]
  have stay : store.directories.map (moveKey source (directory ++ [name])) =
      store.directories := by
    apply (List.map_congr_left _).trans (List.map_id _)
    intro key made
    rw [tree.moveKey_eq file (List.mem_append_right _ made), if_neg, id]
    rintro rfl
    have isDirectory := tree.apart key file
    simp [FileStore.isDirectory, made] at isDirectory
  unfold move
  rw [movable]
  dsimp only
  rw [if_neg there, if_neg (Nat.not_lt.mpr fits), found]
  dsimp only
  rw [stay]
  rfl

end IsTree

/-! ## Moving and deleting -/

/-- A file that is moved to a free key stands there, and nothing under its old key. -/
theorem IsTree.lookup_movedFiles (tree : store.IsTree)
    (file : source ∈ store.files.map Prod.fst) (free : filesUnder store.files target = [])
    (key : FileKey) :
    (movedFiles source target store.files).lookup key =
      if key = target then store.files.lookup source
      else if key = source then none
      else store.files.lookup key := by
  have alone : ∀ entry ∈ store.files, moveKey source target entry.1 = key ↔
      entry.1 = source ∧ key = target ∨ entry.1 ≠ source ∧ entry.1 = key := by
    intro entry listed
    rw [tree.moveKey_eq file (List.mem_append_left _ (List.mem_map_of_mem listed))]
    by_cases here : entry.1 = source
    · simp [here, eq_comm]
    · simp [here]
  simp only [lookup_eq_head?_filesUnder, filesUnder_movedFiles alone free]
  split
  · rfl
  · split <;> rfl

/-- A file that gets a free key is moved, and nothing else is different. -/
theorem IsTree.moves (tree : store.IsTree) (file : source ∈ store.files.map Prod.fst)
    (ordinary : System.files.lookup source = none) (free : store.entryAt target = .nothing) :
    Moves store { store with files := movedFiles source target store.files } source target := by
  obtain ⟨-, missing⟩ := entryAt_eq_nothing_iff.mp free
  rw [file?_of_tree tree.kind, Option.or_eq_none_iff] at missing
  have apart : source ≠ target := by
    rintro rfl
    simp [tree.entryAt_of_mem file] at free
  have looked := tree.lookup_movedFiles file (filesUnder_eq_nil_of_nothing free)
  refine ⟨?_, ?_, fun key notSource notTarget => ?_, fun _ => rfl⟩
  · rw [file?_of_tree (by exact tree.kind), file?_of_tree tree.kind, looked, if_pos rfl,
      missing.2, ordinary]
  · refine entryAt_eq_nothing_iff.mpr ⟨tree.apart source file, ?_⟩
    rw [file?_of_tree (by exact tree.kind), looked, if_neg apart, if_pos rfl, ordinary]
    rfl
  · rw [file?_of_tree (by exact tree.kind), file?_of_tree tree.kind, looked, if_neg notTarget,
      if_neg notSource]

theorem IsTree.movedFiles (tree : store.IsTree) (file : source ∈ store.files.map Prod.fst)
    (inside : store.isDirectory directory = true)
    (free : store.entryAt (directory ++ [name]) = .nothing) :
    IsTree { store with files := movedFiles source (directory ++ [name]) store.files } := by
  have keys : (FileStore.movedFiles source (directory ++ [name]) store.files).map Prod.fst =
      (store.files.map Prod.fst).map fun key =>
        if key = source then directory ++ [name] else key := by
    rw [FileStore.movedFiles, List.map_map, List.map_map]
    apply List.map_congr_left
    intro entry listed
    exact tree.moveKey_eq file (List.mem_append_left _ (List.mem_map_of_mem listed))
  refine ⟨tree.kind, fun key listed => ?_, fun key listed => ?_, ?_⟩
  · rw [keys] at listed
    obtain ⟨old, there, rfl⟩ := List.mem_map.mp listed
    split
    · exact (entryAt_eq_nothing_iff.mp free).1
    · exact tree.apart old there
  · rw [keys] at listed
    rcases List.mem_append.mp listed with moved | made
    · obtain ⟨old, there, rfl⟩ := List.mem_map.mp moved
      split
      · exact (isDirectory_above_concat store directory name).trans inside
      · exact tree.within old (List.mem_append_left _ there)
    · exact tree.within key (List.mem_append_right _ made)
  · rw [keys]
    apply tree.distinct.map_on
    intro first there second thereToo same
    have absent : directory ++ [name] ∉ store.files.map Prod.fst := by
      intro listed
      simp [tree.entryAt_of_mem listed] at free
    split at same
    case isTrue isSource =>
      split at same
      case isTrue isSourceToo => rw [isSource, isSourceToo]
      case isFalse => exact absurd thereToo (same ▸ absent)
    case isFalse =>
      split at same
      case isTrue => exact absurd there (same ▸ absent)
      case isFalse => exact same

theorem IsTree.deletes {keys : List FileKey} (tree : store.IsTree)
    (ordinary : ∀ key ∈ keys, System.files.lookup key = none) :
    Deletes store
      { store with files := store.files.filter fun entry => !keys.contains entry.1 } keys := by
  refine ⟨fun key => ?_, fun _ => rfl⟩
  rw [file?_of_tree (by exact tree.kind), file?_of_tree tree.kind]
  dsimp only
  rw [Rotation.lookup_filter_keys]
  split
  case isTrue gone => rw [ordinary key gone]; rfl
  case isFalse => rfl

theorem IsTree.filter (tree : store.IsTree) (kept : FileKey × StoredFile → Bool) :
    IsTree { store with files := store.files.filter kept } := by
  have fewer : ((store.files.filter kept).map Prod.fst).Sublist (store.files.map Prod.fst) :=
    List.filter_sublist.map Prod.fst
  refine ⟨tree.kind, fun key listed => tree.apart key (fewer.subset listed),
    fun key listed => tree.within key ?_, fewer.nodup tree.distinct⟩
  exact (fewer.append (List.Sublist.refl store.directories)).subset listed

/-- A path leads to the same directory while no directory is made or taken away. -/
theorem directoryAt_of_same (tree : store.kind = .tree) (kind : after.kind = store.kind)
    (same : ∀ key, after.isDirectory key = store.isDirectory key)
    (there : store.directoryAt path = .ok directory) :
    after.directoryAt path = .ok directory := by
  obtain ⟨leads, isDirectory⟩ := directoryAt_eq_ok_iff.mp there
  have stays : after.entryAt directory = store.entryAt directory := by
    rw [entryAt_eq_directory_iff.mpr isDirectory, entryAt_eq_directory_iff, same, isDirectory]
  refine directoryAt_eq_ok_iff.mpr ⟨?_, (same directory).trans isDirectory⟩
  exact find_of_stands tree kind (fun key made => (same key).trans made) leads fun _ => stays

/-- A file that is found stands under the key of its path, and the store keeps it if the system
does not. -/
theorem key_of_fileAt? {file : StoredFile} (tree : store.kind = .tree)
    (found : store.fileAt? path = some file)
    (ordinary : System.files.lookup (Path.key path) = none) :
    store.find path = .ok (Path.key path) ∧ store.file? (Path.key path) = some file ∧
      Path.key path ∈ store.files.map Prod.fst := by
  unfold fileAt? at found
  cases leads : store.find path with
  | error refusal => simp [leads] at found
  | ok key =>
      obtain rfl := key_of_find tree leads
      rw [leads] at found
      refine ⟨rfl, found, ?_⟩
      dsimp only at found
      rw [file?_of_tree tree, ordinary, Option.or_none] at found
      obtain ⟨before, behind, split, -⟩ := List.lookup_eq_some_iff.mp found
      simp [split]

end FileStore

end BrowserRelay
