import BrowserRelay.Proofs.RotationNames
import BrowserRelay.Proofs.StoreChanges
import BrowserRelay.RunLog.Logger

/-!
# What an append does to the files

In a tree, an append that succeeds writes under the key of the log and under no other.  If it
rotates, everything under that key then moves to a free name beside it, and pruning takes files
away from the front of the siblings.
-/

namespace BrowserRelay

/-! ## Appending -/

namespace RunLogger

variable {logger : RunLogger} {store after : FileStore} {event : LogEvent} {modified stamp : Nat}

theorem makeDirectory_files (store : FileStore) (path : String) :
    (makeDirectory store path).2.files = store.files ∧
      (makeDirectory store path).2.kind = store.kind := by
  unfold makeDirectory
  split
  · exact ⟨rfl, rfl⟩
  · exact ⟨rfl, rfl⟩
  · exact store.createDirectories_files _

/-- The store in which the line of an event has just been written. -/
def written? (logger : RunLogger) (store : FileStore) (event : LogEvent) (modified : Nat) :
    Option FileStore :=
  match makeDirectory store logger.path with
  | (.error _, _) => none
  | (.ok (), made) =>
      (made.append logger.path (event.line logger.payloadLimit) modified).toOption

theorem written?_eq_some_iff {written : FileStore} :
    logger.written? store event modified = some written ↔
      ∃ made, makeDirectory store logger.path = (.ok (), made) ∧
        made.append logger.path (event.line logger.payloadLimit) modified = .ok written := by
  unfold written?
  rcases makes : makeDirectory store logger.path with ⟨failure | _, made⟩
  · simp
  · cases appended : made.append logger.path (event.line logger.payloadLimit) modified with
    | error refusal => simp [appended, Except.toOption]
    | ok other => simp [appended, Except.toOption]

/-- Where an append moves the log and which rotations it deletes then, if it does. -/
def rotation? (logger : RunLogger) (store : FileStore) (event : LogEvent)
    (modified stamp : Nat) : Option (String × List String) :=
  (logger.written? store event modified).bind fun written =>
    if written.sizeAt logger.path < Rotation.threshold logger.budget then none
    else
      match Rotation.rotate written logger.path stamp with
      | .error _ => none
      | .ok (target, rotated) =>
          (Rotation.enforceBudget rotated logger.path logger.budget).toOption.map fun pruned =>
            (target, pruned.1)

/-- An append that succeeds has written, and then looks at how much the log has grown. -/
theorem exists_written_of_append
    (done : logger.append store event modified stamp = (.ok (), after)) :
    ∃ written, logger.written? store event modified = some written ∧
      logger.rotateIfGrown written stamp = (.ok (), after) := by
  unfold append at done
  split at done
  · simp at done
  case h_2 made makes =>
    split at done
    · simp at done
    case h_2 written writes =>
      exact ⟨written, written?_eq_some_iff.mpr ⟨made, makes, writes⟩, done⟩

/-- A log that has grown is moved aside, and its rotations are pruned. -/
theorem rotation?_of_parts {written rotated : FileStore} {target : String} {deleted : List String}
    (writes : logger.written? store event modified = some written)
    (large : Rotation.threshold logger.budget ≤ written.sizeAt logger.path)
    (moves : Rotation.rotate written logger.path stamp = .ok (target, rotated))
    (prunes : Rotation.enforceBudget rotated logger.path logger.budget = .ok (deleted, after)) :
    logger.rotation? store event modified stamp = some (target, deleted) := by
  rw [rotation?, writes, Option.bind_some, if_neg (Nat.not_lt.mpr large)]
  simp only [moves, prunes]
  rfl

/-- What an append that succeeds has done: it has written, and either the log is still small or it
has been moved aside and its rotations have been pruned. -/
theorem append_cases (done : logger.append store event modified stamp = (.ok (), after)) :
    ∃ written, logger.written? store event modified = some written ∧
      (written.sizeAt logger.path < Rotation.threshold logger.budget ∧
          logger.rotation? store event modified stamp = none ∧ after = written ∨
        ∃ target rotated deleted,
          logger.rotation? store event modified stamp = some (target, deleted) ∧
          Rotation.rotate written logger.path stamp = .ok (target, rotated) ∧
          Rotation.enforceBudget rotated logger.path logger.budget = .ok (deleted, after)) := by
  obtain ⟨written, isWritten, done⟩ := exists_written_of_append done
  refine ⟨written, isWritten, ?_⟩
  unfold rotateIfGrown at done
  split at done
  case isTrue small =>
    obtain ⟨-, rfl⟩ := Prod.mk.inj done
    refine .inl ⟨small, ?_, rfl⟩
    rw [rotation?, isWritten, Option.bind_some, if_pos small]
  case isFalse large =>
    split at done
    · simp at done
    case h_2 target rotated moves =>
      split at done
      · simp at done
      case h_2 deleted pruned prunes =>
        obtain ⟨-, rfl⟩ := Prod.mk.inj done
        exact .inr ⟨target, rotated, deleted,
          rotation?_of_parts isWritten (Nat.not_lt.mp large) moves prunes, moves, prunes⟩

/-- An append whose parts succeed does what they do. -/
theorem append_of_parts {written rotated : FileStore} {target : String} {deleted : List String}
    (writes : logger.written? store event modified = some written)
    (large : Rotation.threshold logger.budget ≤ written.sizeAt logger.path)
    (moves : Rotation.rotate written logger.path stamp = .ok (target, rotated))
    (prunes : Rotation.enforceBudget rotated logger.path logger.budget = .ok (deleted, after)) :
    logger.append store event modified stamp = (.ok (), after) ∧
      logger.rotation? store event modified stamp = some (target, deleted) := by
  refine ⟨?_, rotation?_of_parts writes large moves prunes⟩
  obtain ⟨made, makes, appended⟩ := written?_eq_some_iff.mp writes
  unfold append rotateIfGrown
  simp only [makes, appended, if_neg (Nat.not_lt.mpr large), moves, prunes]

/-- Writing the line of an event changes the log only, and the log is found afterwards. -/
theorem written?_cases {written : FileStore} (tree : store.kind = .tree)
    (writes : logger.written? store event modified = some written) :
    written.kind = .tree ∧ written.find logger.path = .ok (Path.key logger.path) ∧
      (System.isDevice (Path.key logger.path) = true ∧ written.files = store.files ∨
        System.isDevice (Path.key logger.path) = false ∧
          written.files = FileStore.putFile (Path.key logger.path)
            ⟨((store.file? (Path.key logger.path)).map StoredFile.text).getD "" ++
              event.line logger.payloadLimit, modified⟩ store.files) := by
  obtain ⟨made, makes, appended⟩ := written?_eq_some_iff.mp writes
  have same := makeDirectory_files store logger.path
  rw [makes] at same
  obtain ⟨files, kind⟩ := same
  dsimp only at files kind
  have madeTree : made.kind = .tree := kind.trans tree
  have file : made.file? (Path.key logger.path) = store.file? (Path.key logger.path) := by
    unfold FileStore.file?
    rw [files, kind]
  obtain ⟨found, device | ordinary⟩ := FileStore.rewriteFile_of_tree madeTree appended
  · obtain ⟨isDevice, rfl⟩ := device
    exact ⟨madeTree, found, .inl ⟨isDevice, files⟩⟩
  · obtain ⟨noDevice, spelled⟩ := ordinary
    rw [file, files] at spelled
    refine ⟨?_, found, .inr ⟨noDevice, ?_⟩⟩
    · rw [spelled]
      exact madeTree
    · rw [spelled]

end RunLogger

/-! ## Rotating and pruning -/

namespace Rotation

variable {store after : FileStore} {path : String} {log : LogName}

/-- A rotation moves what stands under the key of the log to a free name beside it. -/
theorem rotate_cases {stamp : Nat} {target : String} (named : LogName.ofPath? path = .ok log)
    (tree : store.kind = .tree) (rotated : rotate store path stamp = .ok (target, after)) :
    ∃ sequence,
      store.entryAt (Path.key log.directory ++ [rotatedName log stamp sequence]) = .nothing ∧
      target = Path.join log.directory (rotatedName log stamp sequence) ∧
      after.kind = .tree ∧
      after.files = FileStore.movedFiles (Path.key path)
        (Path.key log.directory ++ [rotatedName log stamp sequence]) store.files := by
  unfold rotate at rotated
  rw [named] at rotated
  dsimp only at rotated
  split at rotated
  · simp at rotated
  · simp at rotated
  case h_3 place directory placed found =>
    obtain rfl := FileStore.key_of_directoryAt tree found
    split at rotated
    · simp at rotated
    case h_2 moved =>
      obtain ⟨rfl, rfl⟩ := Prod.mk.inj (Except.ok.inj rotated)
      obtain ⟨files, kind⟩ := FileStore.move_files moved
      rw [FileStore.key_of_placeOf placed] at files
      exact ⟨_, (freeSequence_spec (Nat.lt_succ_self _)).1, rfl, kind.trans tree, files⟩

/-- After a rotation the log stands under its new name, and nothing under its own. -/
theorem filesUnder_of_rotate {stamp : Nat} {target : String}
    (named : LogName.ofPath? path = .ok log) (tree : store.kind = .tree)
    (rotated : rotate store path stamp = .ok (target, after)) :
    ∃ sequence, after.kind = .tree ∧
      FileStore.filesUnder store.files
        (Path.key log.directory ++ [rotatedName log stamp sequence]) = [] ∧
      target = Path.join log.directory (rotatedName log stamp sequence) ∧
      ∀ name, FileStore.filesUnder after.files (Path.key log.directory ++ [name]) =
        if name = rotatedName log stamp sequence then
          FileStore.filesUnder store.files (Path.key log.directory ++ [log.fileName])
        else if name = log.fileName then []
        else FileStore.filesUnder store.files (Path.key log.directory ++ [name]) := by
  obtain ⟨sequence, free, joined, kind, files⟩ := rotate_cases named tree rotated
  have nothing := FileStore.filesUnder_eq_nil_of_nothing free
  refine ⟨sequence, kind, nothing, joined, fun name => ?_⟩
  rw [files, LogName.key_eq named]
  exact FileStore.filesUnder_moved_beside nothing name

theorem Sibling.comesBefore_iff {first second : Sibling} :
    first.comesBefore second = true ↔ first.file.modified < second.file.modified ∨
      first.file.modified = second.file.modified ∧ first.name ≤ second.name := by
  simp [comesBefore]

theorem Sibling.comesBefore_trans (first second third : Sibling)
    (before : first.comesBefore second = true) (behind : second.comesBefore third = true) :
    first.comesBefore third = true := by
  rw [comesBefore_iff] at *
  rcases before with earlier | ⟨same, less⟩
  · rcases behind with later | ⟨same, -⟩
    · exact .inl (earlier.trans later)
    · exact .inl (same ▸ earlier)
  · rcases behind with later | ⟨sameAgain, lessAgain⟩
    · exact .inl (same ▸ later)
    · exact .inr ⟨same.trans sameAgain, String.le_trans less lessAgain⟩

theorem Sibling.comesBefore_total (first second : Sibling) :
    (first.comesBefore second || second.comesBefore first) = true := by
  rw [Bool.or_eq_true, comesBefore_iff, comesBefore_iff]
  rcases Int.lt_trichotomy first.file.modified second.file.modified with less | same | more
  · exact .inl (.inl less)
  · rcases String.le_total first.name second.name with before | behind
    · exact .inl (.inr ⟨same, before⟩)
    · exact .inr (.inr ⟨same.symm, behind⟩)
  · exact .inr (.inl more)

theorem pairwise_siblingsOf (store : FileStore) (log : LogName) (directory : FileKey) :
    (siblingsOf store log directory).Pairwise fun first second => first.comesBefore second :=
  List.pairwise_mergeSort Sibling.comesBefore_trans Sibling.comesBefore_total _

/-- Rotations of different names have only one order. -/
theorem siblingsOf_eq {directory : FileKey} {siblings : List Sibling}
    (same : siblings.Perm (rotationsIn store log directory))
    (ordered : siblings.Pairwise fun first second => first.comesBefore second)
    (distinct : (siblings.map Sibling.name).Nodup) :
    siblingsOf store log directory = siblings := by
  have perm : (siblingsOf store log directory).Perm siblings :=
    (List.mergeSort_perm _ _).trans same.symm
  apply perm.eq_of_pairwise _ (pairwise_siblingsOf store log directory) ordered
  intro first second listed listedToo before behind
  apply List.inj_on_of_nodup_map distinct (perm.subset listed) listedToo
  rw [Sibling.comesBefore_iff] at before behind
  rcases before with less | ⟨same, less⟩
  · omega
  · rcases behind with more | ⟨-, more⟩
    · omega
    · exact String.le_antisymm less more

/-- What pruning leaves fits into the budget together with the log, or is nothing. -/
theorem exists_rest_of_excess (budget live : Nat) (siblings : List Sibling) :
    ∃ rest, siblings = excess budget (live + sizes siblings) siblings ++ rest ∧
      (live + sizes rest ≤ budget ∨ rest = []) := by
  induction siblings with
  | nil => exact ⟨[], rfl, .inr rfl⟩
  | cons first rest ih =>
      by_cases fits : live + sizes (first :: rest) ≤ budget
      · refine ⟨first :: rest, ?_, .inl fits⟩
        rw [excess, if_pos fits, List.nil_append]
      · obtain ⟨left, split, ends⟩ := ih
        have less : live + sizes (first :: rest) - first.file.size = live + sizes rest := by
          rw [sizes_cons]
          omega
        refine ⟨left, ?_, ends⟩
        rw [excess, if_neg fits, less, List.cons_append, ← split]

/-- The rotations that pruning deletes, oldest first. -/
def excessSiblings (store : FileStore) (path : String) (log : LogName) (budget : Nat) :
    List Sibling :=
  let siblings := siblingsOf store log (Path.key log.directory)
  excess budget (store.sizeAt path + sizes siblings) siblings

theorem enforceBudget_cases {budget : Nat} {deleted : List String}
    (named : LogName.ofPath? path = .ok log) (tree : store.kind = .tree)
    (enforced : enforceBudget store path budget = .ok (deleted, after)) :
    deleted = (excessSiblings store path log budget).map (Path.join log.directory ·.name) ∧
      after = { store with
        files := store.files.filter fun entry =>
          !((excessSiblings store path log budget).map fun sibling =>
            Path.key log.directory ++ [sibling.name]).contains entry.1 } := by
  unfold enforceBudget at enforced
  rw [named] at enforced
  dsimp only at enforced
  split at enforced
  · simp at enforced
  case h_2 directory found =>
    obtain rfl := FileStore.key_of_directoryAt tree found
    obtain ⟨rfl, rfl⟩ := Prod.mk.inj (Except.ok.inj enforced)
    simp only [List.map_map, Function.comp_def]
    exact ⟨rfl, rfl⟩

/-- Pruning leaves nothing under the names that it deletes, and changes nothing else. -/
theorem filesUnder_of_enforceBudget {budget : Nat} {deleted : List String}
    (named : LogName.ofPath? path = .ok log) (tree : store.kind = .tree)
    (enforced : enforceBudget store path budget = .ok (deleted, after)) (name : String) :
    FileStore.filesUnder after.files (Path.key log.directory ++ [name]) =
      if name ∈ (excessSiblings store path log budget).map Sibling.name then []
      else FileStore.filesUnder store.files (Path.key log.directory ++ [name]) := by
  obtain ⟨-, rfl⟩ := enforceBudget_cases named tree enforced
  have listed : Path.key log.directory ++ [name] ∈
      (excessSiblings store path log budget).map
        (fun sibling => Path.key log.directory ++ [sibling.name]) ↔
      name ∈ (excessSiblings store path log budget).map Sibling.name := by
    simp
  rw [FileStore.filesUnder_filter]
  exact if_congr listed rfl rfl

theorem LooksRotated.not_isAbsolute {name : String} (named : LogName.ofPath? path = .ok log)
    (looks : LooksRotated log name) : Path.isAbsolute name = false := by
  obtain ⟨tag, -, -, spelled⟩ := looks
  have plain := Path.no_slash_of_fileName? (LogName.fileName_eq named)
  rw [LogName.fileName, String.toList_ofList] at plain
  unfold Path.isAbsolute
  rw [spelled]
  cases stem : log.stem.toList with
  | nil => rfl
  | cons character rest =>
      rw [stem] at plain
      have noSlash : character ≠ '/' := fun slash => plain (by simp [slash])
      simp [noSlash]

/-- The paths of two files beside the log are the same if their names are, and are in the order of
their names. -/
theorem LooksRotated.join_inj {first second : String} (named : LogName.ofPath? path = .ok log)
    (looks : LooksRotated log first) (looksToo : LooksRotated log second) :
    Path.join log.directory first = Path.join log.directory second ↔ first = second := by
  obtain ⟨front, joined⟩ := Path.exists_join_front log.directory
  rw [joined first (looks.not_isAbsolute named), joined second (looksToo.not_isAbsolute named)]
  exact String.append_right_inj front

theorem LooksRotated.join_lt {first second : String} (named : LogName.ofPath? path = .ok log)
    (looks : LooksRotated log first) (looksToo : LooksRotated log second) (less : first < second) :
    Path.join log.directory first < Path.join log.directory second := by
  obtain ⟨front, joined⟩ := Path.exists_join_front log.directory
  rw [joined first (looks.not_isAbsolute named), joined second (looksToo.not_isAbsolute named)]
  rw [String.lt_iff] at less ⊢
  rw [String.toList_append, String.toList_append]
  exact List.append_left_lt less

theorem looksRotated_of_mem_excess {budget : Nat} {sibling : Sibling}
    (isGone : sibling ∈ excessSiblings store path log budget) : LooksRotated log sibling.name :=
  (mem_siblingsOf_iff.mp (excess_subset _ _ _ isGone)).2

/-- The path of a rotation is among the deleted paths if its name is among the deleted names. -/
theorem mem_deleted_iff {budget : Nat} {deleted : List String} {name : String}
    (named : LogName.ofPath? path = .ok log) (tree : store.kind = .tree)
    (prunes : enforceBudget store path budget = .ok (deleted, after))
    (looks : LooksRotated log name) :
    Path.join log.directory name ∈ deleted ↔
      name ∈ (excessSiblings store path log budget).map Sibling.name := by
  obtain ⟨paths, -⟩ := enforceBudget_cases named tree prunes
  rw [paths]
  simp only [List.mem_map]
  constructor
  · rintro ⟨sibling, isGone, same⟩
    refine ⟨sibling, isGone, ?_⟩
    exact ((looksRotated_of_mem_excess isGone).join_inj named looks).mp same
  · rintro ⟨sibling, isGone, rfl⟩
    exact ⟨sibling, isGone, rfl⟩

end Rotation

/-! ## A small log -/

section

open Rotation

deriving instance DecidableEq for Sibling
deriving instance DecidableEq for FileStore

/-- A log of which one line fits into the budget, but not two. -/
def smallLogger : RunLogger where
  path := "run.jsonl"
  budget := 60

def smallLog : LogName := ⟨".", "run", some "jsonl"⟩

def tick : LogEvent := ⟨.info, "tick", .null⟩

/-- A tree of files that hold one line each, all written at one reading of the clock. -/
def tickStore (names : List String) : FileStore where
  kind := .tree
  files := names.map fun name => ([name], ⟨tick.line 4096, 5⟩)

/-- An append to the small log: the rotations before, the name to which the log is moved, all
rotations in their order, the paths that are deleted and the rotations that are left. -/
structure TickRun where
  names : List String
  name : String
  order : List String
  deleted : List String
  left : List String

def tickRuns : List TickRun :=
  let first := "run.5-0000.jsonl"
  let second := "run.5-0001.jsonl"
  [⟨[], first, [first], [], [first]⟩,
    ⟨[first], second, [first, second], ["./" ++ first], [second]⟩,
    ⟨[second], first, [first, second], ["./" ++ first], [second]⟩]

theorem smallLog_named : LogName.ofPath? smallLogger.path = .ok smallLog := by
  unfold smallLog
  decide

theorem placeOf_smallLog (store : FileStore) :
    store.placeOf smallLogger.path = .ok (.within [] "run.jsonl" false) := by
  unfold FileStore.placeOf
  rw [Place.ofPath_eq]
  rfl

theorem directoryAt_smallLog (names : List String) :
    (tickStore names).directoryAt smallLog.directory = .ok [] := by
  unfold FileStore.directoryAt FileStore.find FileStore.placeOf
  rw [Place.ofPath_eq]
  rfl

theorem smallLogger_append : ∀ run ∈ tickRuns,
    smallLogger.append (tickStore run.names) tick 5 5 = (.ok (), tickStore run.left) ∧
      smallLogger.rotation? (tickStore run.names) tick 5 5 =
        some ("./" ++ run.name, run.deleted) := by
  have writes : ∀ run ∈ tickRuns, smallLogger.written? (tickStore run.names) tick 5 =
      some (tickStore (run.names ++ ["run.jsonl"])) := by
    unfold RunLogger.written? FileStore.append FileStore.rewriteFile FileStore.placeForFile
    simp only [placeOf_smallLog]
    decide
  have large : ∀ run ∈ tickRuns, threshold smallLogger.budget ≤
      (tickStore (run.names ++ ["run.jsonl"])).sizeAt smallLogger.path := by
    unfold FileStore.sizeAt FileStore.find
    simp only [placeOf_smallLog]
    decide
  have moves : ∀ run ∈ tickRuns,
      rotate (tickStore (run.names ++ ["run.jsonl"])) smallLogger.path 5 =
        .ok ("./" ++ run.name, tickStore (run.names ++ [run.name])) := by
    unfold rotate
    simp only [smallLog_named, placeOf_smallLog, directoryAt_smallLog]
    decide
  have order : ∀ run ∈ tickRuns, siblingsOf (tickStore (run.names ++ [run.name])) smallLog [] =
      run.order.map fun name => ⟨name, ⟨tick.line 4096, 5⟩⟩ := by
    intro run listed
    apply siblingsOf_eq
    · revert run
      decide
    · revert run
      decide
    · revert run
      decide
  have prunes : ∀ run ∈ tickRuns,
      enforceBudget (tickStore (run.names ++ [run.name])) smallLogger.path smallLogger.budget =
        .ok (run.deleted, tickStore run.left) := by
    intro run listed
    unfold enforceBudget FileStore.sizeAt FileStore.find
    rw [smallLog_named, placeOf_smallLog]
    dsimp only
    rw [directoryAt_smallLog]
    dsimp only
    rw [order run listed]
    revert run
    decide
  intro run listed
  exact RunLogger.append_of_parts (writes run listed) (large run listed) (moves run listed)
    (prunes run listed)

end

end BrowserRelay
