import BrowserRelay.Proofs.DiskBound
import BrowserRelay.Proofs.Trees

/-!
# Rotating and pruning once

In a tree of files a log is moved to the least free name beside it, and nothing else becomes
different.  Pruning deletes the shortest run of the oldest rotations without which the others fit
into the budget together with the log, and nothing else.
-/

namespace BrowserRelay.Rotation

variable {store after : FileStore} {path : String} {log : LogName} {directory : FileKey}

/-! ## Rotating -/

/-- A file that is found under the key of a log is moved to the least free name. -/
theorem exists_rotate {stamp : Nat} (named : LogName.ofPath? path = .ok log) (tree : store.IsTree)
    (there : store.directoryAt log.directory = .ok directory)
    (file : Path.key path ∈ store.files.map Prod.fst)
    (leads : store.find path = .ok (Path.key path)) :
    ∃ sequence,
      store.entryAt (directory ++ [rotatedName log stamp sequence]) = .nothing ∧
      (∀ lesser < sequence,
        store.entryAt (directory ++ [rotatedName log stamp lesser]) ≠ .nothing) ∧
      ((rotatedName log stamp sequence).utf8ByteSize ≤ Place.longestName →
        rotate store path stamp = .ok
          (Path.join log.directory (rotatedName log stamp sequence),
            { store with
              files := FileStore.movedFiles (Path.key path)
                (directory ++ [rotatedName log stamp sequence]) store.files })) := by
  have enough := Nat.lt_succ_self (store.files.length + store.directories.length)
  refine ⟨_, (freeSequence_spec enough).1, (freeSequence_spec enough).2, fun fits => ?_⟩
  obtain ⟨place, placed, found, movable⟩ := tree.exists_place file leads
  unfold rotate
  rw [named]
  dsimp only
  rw [placed, there]
  dsimp only
  rw [tree.move_eq file movable found fits]

theorem looksRotated_ordinary {name : String} (looks : LooksRotated log name) (key : FileKey) :
    System.files.lookup (key ++ [name]) = none := by
  obtain ⟨tag, -, -, spelled⟩ := looks
  by_contra there
  apply (plain_of_lookup (Option.isSome_iff_ne_none.mpr there)).2
  rw [spelled]
  simp

/-- A log that has been moved aside is among its rotations. -/
theorem mem_rotatedSiblings {stamp sequence : Nat} {file : StoredFile}
    (named : LogName.ofPath? path = .ok log)
    (there : after.directoryAt log.directory = .ok directory)
    (moved : after.file? (directory ++ [rotatedName log stamp sequence]) = some file) :
    ∃ siblings, rotatedSiblings after path = .ok siblings ∧
      Path.join log.directory (rotatedName log stamp sequence) ∈ siblings := by
  have looks := looksRotated_rotatedName log stamp sequence
  have kept : after.files.lookup (directory ++ [rotatedName log stamp sequence]) = some file := by
    unfold FileStore.file? at moved
    split at moved
    case h_1 looked => rw [looked, moved]
    case h_2 => simp at moved
    case h_3 => simp [looksRotated_ordinary looks] at moved
  obtain ⟨before, behind, split, -⟩ := List.lookup_eq_some_iff.mp kept
  refine ⟨_, by rw [rotatedSiblings, named]; dsimp only; rw [there], ?_⟩
  refine List.mem_map.mpr ⟨⟨rotatedName log stamp sequence, file⟩, ?_, rfl⟩
  refine mem_siblingsOf_iff.mpr ⟨?_, looks⟩
  rw [split]
  exact List.mem_append_right before List.mem_cons_self

/-! ## Pruning -/

/-- No shorter run from the front is enough. -/
theorem lt_of_shorter {budget live : Nat} {fewer more : List Sibling}
    (shorter : fewer.length <
      (excess budget (live + sizes (fewer ++ more)) (fewer ++ more)).length) :
    budget < live + sizes more := by
  induction fewer with
  | nil =>
      cases more with
      | nil => simp [excess] at shorter
      | cons first rest =>
          rw [List.nil_append, excess] at shorter
          split at shorter
          · simp at shorter
          case isFalse large => exact Nat.not_le.mp large
  | cons first fewer ih =>
      have less : live + sizes (first :: (fewer ++ more)) - first.file.size =
          live + sizes (fewer ++ more) := by
        rw [sizes_cons]
        omega
      rw [List.cons_append, excess, less] at shorter
      split at shorter
      · simp at shorter
      · exact ih (Nat.lt_of_succ_lt_succ shorter)

theorem rotationsIn_keys (store : FileStore) (log : LogName) (directory : FileKey) :
    ((rotationsIn store log directory).map fun sibling => directory ++ [sibling.name]).Sublist
      (store.files.map Prod.fst) := by
  unfold rotationsIn
  induction store.files with
  | nil => exact List.Sublist.refl []
  | cons entry files ih =>
      obtain ⟨key, file⟩ := entry
      rw [List.filterMap_cons, List.map_cons]
      dsimp only
      cases within : nameWithin? directory key with
      | none => exact ih.cons key
      | some name =>
          rw [Option.bind_some, nameWithin?_eq_some_iff.mp within]
          by_cases rotated : isRotatedName log name = true
          · rw [if_pos rotated]
            exact ih.cons_cons _
          · rw [if_neg rotated]
            exact ih.cons _

/-- Rotations in one directory of a tree have different names. -/
theorem nodup_siblingsOf (tree : store.IsTree) (log : LogName) (directory : FileKey) :
    ((siblingsOf store log directory).map Sibling.name).Nodup := by
  have keys := (rotationsIn_keys store log directory).nodup tree.distinct
  have names : ((rotationsIn store log directory).map Sibling.name).Nodup := by
    apply List.Nodup.of_map fun name => directory ++ [name]
    rwa [List.map_map]
  exact ((List.mergeSort_perm _ _).map Sibling.name).nodup_iff.mpr names

/-- Without the names of a front, what follows it is left. -/
theorem filter_behind {deleted kept : List Sibling}
    (distinct : ((deleted ++ kept).map Sibling.name).Nodup) :
    (deleted ++ kept).filter
      (fun sibling => !(deleted.map Sibling.name).contains sibling.name) = kept := by
  rw [List.map_append, List.nodup_append] at distinct
  have none : deleted.filter
      (fun sibling => !(deleted.map Sibling.name).contains sibling.name) = [] := by
    apply List.filter_eq_nil_iff.mpr
    intro sibling isGone
    simpa using ⟨sibling, isGone, rfl⟩
  rw [List.filter_append, none, List.nil_append, List.filter_eq_self]
  intro sibling isKept
  simp only [Bool.not_eq_true', List.contains_eq_mem, decide_eq_false_iff_not]
  intro isGone
  exact distinct.2.2 _ isGone _ (List.mem_map_of_mem isKept) rfl

/-- What pruning has done: it has deleted the shortest run of the oldest rotations without which
the others fit into the budget together with the log, or all. -/
structure Prunes (log : LogName) (directory : FileKey) (budget live : Nat)
    (before after : FileStore) (deleted kept : List Sibling) : Prop where
  siblings : siblingsOf before log directory = deleted ++ kept
  left : siblingsOf after log directory = kept
  fits : live + sizes kept ≤ budget ∨ kept = []
  shortest : ∀ fewer more, deleted ++ kept = fewer ++ more →
    fewer.length < deleted.length → budget < live + sizes more
  deletes : FileStore.Deletes before after (deleted.map fun sibling => directory ++ [sibling.name])

theorem exists_enforceBudget (budget : Nat) (named : LogName.ofPath? path = .ok log)
    (tree : store.IsTree) (there : store.directoryAt log.directory = .ok directory) :
    ∃ deleted kept after,
      enforceBudget store path budget =
        .ok (deleted.map (Path.join log.directory ·.name), after) ∧
      after.IsTree ∧
      Prunes log directory budget (store.sizeAt path) store after deleted kept := by
  let siblings := siblingsOf store log directory
  let deleted := excess budget (store.sizeAt path + sizes siblings) siblings
  let keys := deleted.map fun sibling => directory ++ [sibling.name]
  let after := { store with files := store.files.filter fun entry => !keys.contains entry.1 }
  obtain ⟨kept, split, ends⟩ := exists_rest_of_excess budget (store.sizeAt path) siblings
  have among : deleted ⊆ siblings := excess_subset _ _ _
  have ordinary : ∀ key ∈ keys, System.files.lookup key = none := by
    intro key listed
    obtain ⟨sibling, isGone, rfl⟩ := List.mem_map.mp listed
    exact looksRotated_ordinary (mem_siblingsOf_iff.mp (among isGone)).2 directory
  refine ⟨deleted, kept, after, ?_, tree.filter _, split, ?_, ends, ?_, tree.deletes ordinary⟩
  · unfold enforceBudget
    rw [named]
    dsimp only
    rw [there]
    simp only [List.map_map, Function.comp_def]
    rfl
  · have distinct := nodup_siblingsOf tree log directory
    have left : rotationsIn after log directory =
        (rotationsIn store log directory).filter
          fun sibling => !(deleted.map Sibling.name).contains sibling.name := by
      apply filesBeside_filter
      rw [List.map_map]
      rfl
    have behind : siblings.filter
        (fun sibling => !(deleted.map Sibling.name).contains sibling.name) = kept := by
      rw [split]
      exact filter_behind (split ▸ distinct)
    have part : kept.Sublist siblings := by
      rw [split]
      exact List.sublist_append_right _ kept
    apply siblingsOf_eq
    · rw [left, ← behind]
      exact (List.mergeSort_perm _ _).filter _
    · exact (pairwise_siblingsOf store log directory).sublist part
    · exact (part.map Sibling.name).nodup distinct
  · intro fewer more same shorter
    apply lt_of_shorter
    rw [← split.trans same]
    exact shorter

/-! ## Both -/

/-- A log that a tree itself keeps is moved to the least free name beside it, unless that name is
too long, and is one of its rotations then.  Pruning deletes the shortest run of the oldest
rotations without which the rest fits into the budget together with the log, or all if there is no
such run, and never the log. -/
theorem log_is_rotated_and_pruned (named : LogName.ofPath? path = .ok log) (tree : store.IsTree)
    (there : store.directoryAt log.directory = .ok directory) :
    (∀ stamp file, store.fileAt? path = some file →
      System.files.lookup (Path.key path) = none →
      (entriesIn store directory).length < 2 ^ 32 →
      ∃ sequence < 2 ^ 32,
        store.entryAt (directory ++ [rotatedName log stamp sequence]) = .nothing ∧
        (∀ lesser < sequence,
          store.entryAt (directory ++ [rotatedName log stamp lesser]) ≠ .nothing) ∧
        ((rotatedName log stamp sequence).utf8ByteSize ≤ Place.longestName →
          ∃ after,
            rotate store path stamp =
              .ok (Path.join log.directory (rotatedName log stamp sequence), after) ∧
            after.IsTree ∧
            after.file? (directory ++ [rotatedName log stamp sequence]) = some file ∧
            FileStore.Moves store after (Path.key path)
              (directory ++ [rotatedName log stamp sequence]) ∧
            ∃ siblings, rotatedSiblings after path = .ok siblings ∧
              Path.join log.directory (rotatedName log stamp sequence) ∈ siblings)) ∧
    ∀ budget, ∃ deleted kept after,
      rotatedSiblings store path = .ok ((deleted ++ kept).map (Path.join log.directory ·.name)) ∧
      enforceBudget store path budget =
        .ok (deleted.map (Path.join log.directory ·.name), after) ∧
      after.IsTree ∧
      Prunes log directory budget (store.sizeAt path) store after deleted kept ∧
      ∀ sibling ∈ deleted, directory ++ [sibling.name] ≠ Path.key path := by
  constructor
  · intro stamp file found ordinary few
    obtain ⟨leads, isFile, listed⟩ := FileStore.key_of_fileAt? tree.kind found ordinary
    have inside := (FileStore.directoryAt_eq_ok_iff.mp there).2
    obtain ⟨sequence, free, taken, rotates⟩ := exists_rotate named tree there listed leads
    refine ⟨sequence, (le_of_taken taken).trans_lt few, free, taken, fun fits => ?_⟩
    have moves := tree.moves listed ordinary free
    have moved := moves.moved.trans isFile
    refine ⟨_, rotates fits, tree.movedFiles listed inside free, moved, moves, ?_⟩
    exact mem_rotatedSiblings named
      (FileStore.directoryAt_of_same tree.kind rfl moves.directories there) moved
  · intro budget
    obtain ⟨deleted, kept, after, enforced, stays, prunes⟩ :=
      exists_enforceBudget budget named tree there
    refine ⟨deleted, kept, after, ?_, enforced, stays, prunes, ?_⟩
    · rw [rotatedSiblings, named]
      dsimp only
      rw [there, ← prunes.siblings]
    · intro sibling isGone same
      rw [LogName.key_eq named, ← FileStore.key_of_directoryAt tree.kind there] at same
      have isLog : sibling.name = log.fileName := by simpa using same
      have listed : sibling ∈ siblingsOf store log directory := by
        rw [prunes.siblings]
        exact List.mem_append_left kept isGone
      exact log.not_looksRotated (isLog ▸ (mem_siblingsOf_iff.mp listed).2)

/-- The small log beside one of its rotations. -/
def rotatedOnce : FileStore := tickStore ["run.5-0000.jsonl", "run.jsonl"]

theorem rotatedOnce_isTree : rotatedOnce.IsTree where
  kind := rfl
  apart := by decide
  within := by decide
  distinct := by decide

theorem siblingsOf_rotatedOnce :
    siblingsOf rotatedOnce smallLog [] = [⟨"run.5-0000.jsonl", ⟨tick.line 4096, 5⟩⟩] := by
  apply siblingsOf_eq
  · decide
  · decide
  · decide

/-- Rotated at the same time once more, the small log takes the next number.  Pruned instead, it
loses its only rotation. -/
theorem small_log_is_rotated_and_pruned :
    (∃ after, rotate rotatedOnce smallLogger.path 5 = .ok ("./run.5-0001.jsonl", after) ∧
      after.file? ["run.5-0001.jsonl"] = some ⟨tick.line 4096, 5⟩ ∧
      after.entryAt ["run.jsonl"] = .nothing) ∧
    ∃ after,
      enforceBudget rotatedOnce smallLogger.path 60 = .ok (["./run.5-0000.jsonl"], after) ∧
      after.file? ["run.5-0000.jsonl"] = none := by
  have live : rotatedOnce.fileAt? smallLogger.path = some ⟨tick.line 4096, 5⟩ := by
    unfold FileStore.fileAt? FileStore.find
    rw [placeOf_smallLog]
    rfl
  have size : rotatedOnce.sizeAt smallLogger.path = 52 := by
    unfold FileStore.sizeAt FileStore.find
    rw [placeOf_smallLog]
    decide
  obtain ⟨rotates, prunes⟩ :=
    log_is_rotated_and_pruned smallLog_named rotatedOnce_isTree (directoryAt_smallLog _)
  constructor
  · obtain ⟨sequence, -, free, taken, moves⟩ := rotates 5 _ live (by decide) (by decide)
    have second : sequence = 1 := by
      apply Nat.le_antisymm
      · by_contra later
        exact taken 1 (Nat.not_le.mp later) (by decide)
      · by_contra none
        obtain rfl := Nat.lt_one_iff.mp (Nat.not_le.mp none)
        exact absurd free (by decide)
    subst second
    obtain ⟨after, rotated, -, moved, only, -⟩ := moves (by decide)
    exact ⟨after, rotated, moved, only.left⟩
  · obtain ⟨deleted, kept, after, -, enforced, -, step, -⟩ := prunes 60
    have whole := step.siblings.symm.trans siblingsOf_rotatedOnce
    rcases List.append_eq_singleton_iff.mp whole with ⟨rfl, rfl⟩ | ⟨rfl, rfl⟩
    · -- The log and one rotation take more room than there is.
      have fits := step.fits
      rw [size] at fits
      exact absurd fits (by decide)
    · exact ⟨after, enforced, step.deletes.files ["run.5-0000.jsonl"]⟩

end BrowserRelay.Rotation
