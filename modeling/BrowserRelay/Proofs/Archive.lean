import BrowserRelay.Proofs.LogFiles

/-!
# Which events the files of the log hold

An archive follows the events into the files.  Every append gives the log one event more; when the
log is moved aside its events become those of a rotation, and when a rotation is deleted they are
gone.
-/

namespace BrowserRelay

/-! ## Archives -/

/-- An event that is appended, and the readings of the clock when it is written and when the log is
moved aside. -/
structure LogCall where
  event : LogEvent
  modified : Nat
  stamp : Nat

/-- A rotation: its path, when it was written last and which events it holds, by number. -/
structure Kept where
  path : String
  modified : Nat
  events : List Nat

/-- A store and the events in the files of a log: in the log itself, which was written last at some
time, and in its rotations, in the order in which they were made. -/
structure Archive where
  store : FileStore
  time : Nat := 0
  live : List Nat := []
  rotated : List Kept := []
  count : Nat := 0

namespace Archive

/-- The events that are still in the files, in the order of the files. -/
def events (archive : Archive) : List Nat :=
  archive.rotated.flatMap Kept.events ++ archive.live

/-- The archive after an append. -/
def append (logger : RunLogger) (archive : Archive) (call : LogCall) : Archive :=
  let after := (logger.append archive.store call.event call.modified call.stamp).2
  let live := archive.live ++ [archive.count]
  match logger.rotation? archive.store call.event call.modified call.stamp with
  | none => ⟨after, call.modified, live, archive.rotated, archive.count + 1⟩
  | some (target, deleted) =>
      let rotated := archive.rotated ++ [⟨target, call.modified, live⟩]
      ⟨after, call.modified, [], rotated.filter fun kept => !deleted.contains kept.path,
        archive.count + 1⟩

/-- The text of events, given the line of each. -/
def text (line : Nat → String) (events : List Nat) : String :=
  String.join (events.map line)

/-- The files of the log hold the lines of the events that they are said to hold, and nothing
else; other files that look like rotations have been there from the start. -/
structure IsFaithful (log : Rotation.LogName) (start : FileStore) (line : Nat → String)
    (archive : Archive) : Prop where
  tree : archive.store.kind = .tree
  live : FileStore.filesUnder archive.store.files (Path.key log.directory ++ [log.fileName]) =
    if archive.live = [] then [] else [⟨text line archive.live, archive.time⟩]
  rotated : ∀ kept ∈ archive.rotated, kept.events ≠ [] ∧ kept.modified ≤ archive.time ∧
    ∃ name, Rotation.LooksRotated log name ∧ kept.path = Path.join log.directory name ∧
      FileStore.filesUnder archive.store.files (Path.key log.directory ++ [name]) =
        [⟨text line kept.events, kept.modified⟩]
  ordered : archive.rotated.Pairwise fun older newer => older.modified ≤ newer.modified
  others : ∀ name, Rotation.LooksRotated log name →
    (∃ kept ∈ archive.rotated, kept.path = Path.join log.directory name) ∨
      FileStore.filesUnder archive.store.files (Path.key log.directory ++ [name]) ⊆
        FileStore.filesUnder start.files (Path.key log.directory ++ [name])

namespace IsFaithful

open Rotation FileStore

variable {logger : RunLogger} {log : LogName} {start : FileStore} {line : Nat → String}
  {archive : Archive}

theorem text_append (line : Nat → String) (events : List Nat) (event : Nat) :
    text line (events ++ [event]) = text line events ++ line event := by
  simp [text, String.join_append]

theorem ne_fileName {name : String} (looks : LooksRotated log name) : name ≠ log.fileName :=
  fun same => log.not_looksRotated (same ▸ looks)

/-- The text of the log is that of its events. -/
theorem text_live (faithful : archive.IsFaithful log start line)
    (own : System.files.lookup (Path.key log.directory ++ [log.fileName]) = none) :
    ((archive.store.file? (Path.key log.directory ++ [log.fileName])).map
      StoredFile.text).getD "" = text line archive.live := by
  have live := faithful.live
  unfold FileStore.file?
  rw [lookup_eq_head?_filesUnder, live, faithful.tree]
  by_cases empty : archive.live = []
  · rw [if_pos empty, empty, List.head?_nil]
    dsimp only
    rw [own]
    rfl
  · rw [if_neg empty]
    rfl

/-- Writing an event adds its line to the log. -/
theorem write {written : FileStore} {event : LogEvent} {modified : Nat}
    (faithful : archive.IsFaithful log start line)
    (named : LogName.ofPath? logger.path = .ok log)
    (own : System.files.lookup (Path.key logger.path) = none)
    (later : archive.time ≤ modified)
    (spelled : line archive.count = event.line logger.payloadLimit)
    (writes : logger.written? archive.store event modified = some written) :
    IsFaithful log start line
      ⟨written, modified, archive.live ++ [archive.count], archive.rotated,
        archive.count + 1⟩ := by
  obtain ⟨tree, -, files⟩ := RunLogger.written?_cases faithful.tree writes
  have noDevice : System.isDevice (Path.key logger.path) ≠ true := fun device => by
    have there := @file?_of_isDevice { kind := .tree } _ rfl device
    simp [FileStore.file?, own] at there
  have put := (files.resolve_left fun device => noDevice device.1).2
  rw [LogName.key_eq named] at put own
  rw [faithful.text_live own, ← spelled, ← text_append] at put
  have same {name : String} (looks : LooksRotated log name) :
      filesUnder written.files (Path.key log.directory ++ [name]) =
        filesUnder archive.store.files (Path.key log.directory ++ [name]) := by
    rw [put, filesUnder_putFile, if_neg]
    simpa using ne_fileName looks
  refine ⟨tree, ?_, ?_, faithful.ordered, ?_⟩
  · have more : archive.live ++ [archive.count] ≠ [] := by simp
    dsimp only
    rw [put, filesUnder_putFile, if_pos rfl, faithful.live, if_neg more]
    split <;> rfl
  · intro kept listed
    obtain ⟨some, early, name, looks, path, under⟩ := faithful.rotated kept listed
    exact ⟨some, early.trans later, name, looks, path, (same looks).trans under⟩
  · intro name looks
    dsimp only
    rw [same looks]
    exact faithful.others name looks

/-- Moving the log aside makes a rotation of its events. -/
theorem rotate {rotated : FileStore} {target : String} {stamp : Nat}
    (faithful : archive.IsFaithful log start line) (some : archive.live ≠ [])
    (named : LogName.ofPath? logger.path = .ok log)
    (moves : Rotation.rotate archive.store logger.path stamp = .ok (target, rotated)) :
    IsFaithful log start line
      ⟨rotated, archive.time, [], archive.rotated ++ [⟨target, archive.time, archive.live⟩],
        archive.count⟩ := by
  obtain ⟨sequence, tree, nothing, joined, under⟩ :=
    filesUnder_of_rotate named faithful.tree moves
  rw [faithful.live, if_neg some] at under
  have newLooks := looksRotated_rotatedName log stamp sequence
  refine ⟨tree, ?_, ?_, ?_, ?_⟩
  · dsimp only
    rw [under, if_neg (Ne.symm (ne_fileName newLooks)), if_pos rfl, if_pos rfl]
  · intro kept listed
    rcases List.mem_append.mp listed with before | new
    · obtain ⟨some, early, name, looks, path, stands⟩ := faithful.rotated kept before
      refine ⟨some, early, name, looks, path, ?_⟩
      dsimp only
      rw [under, if_neg, if_neg (ne_fileName looks), stands]
      rintro rfl
      rw [nothing] at stands
      exact List.cons_ne_nil _ _ stands.symm
    · obtain rfl := List.mem_singleton.mp new
      exact ⟨some, Nat.le_refl _, _, newLooks, joined, (under _).trans (if_pos rfl)⟩
  · apply List.pairwise_append.mpr
    refine ⟨faithful.ordered, List.pairwise_singleton _ _, ?_⟩
    intro older before newer new
    obtain rfl := List.mem_singleton.mp new
    exact (faithful.rotated older before).2.1
  · intro name looks
    by_cases isNew : name = rotatedName log stamp sequence
    · exact .inl ⟨_, List.mem_append_right _ (List.mem_singleton.mpr rfl), isNew ▸ joined⟩
    · dsimp only
      rw [under, if_neg isNew, if_neg (ne_fileName looks)]
      rcases faithful.others name looks with ⟨kept, listed, path⟩ | foreign
      · exact .inl ⟨kept, List.mem_append_left _ listed, path⟩
      · exact .inr foreign

/-- Pruning takes rotations away with all that they hold. -/
theorem prune {pruned : FileStore} {deleted : List String} {budget : Nat}
    (faithful : archive.IsFaithful log start line)
    (named : LogName.ofPath? logger.path = .ok log)
    (prunes : enforceBudget archive.store logger.path budget = .ok (deleted, pruned)) :
    IsFaithful log start line
      ⟨pruned, archive.time, archive.live,
        archive.rotated.filter fun kept => !deleted.contains kept.path, archive.count⟩ := by
  obtain ⟨-, files⟩ := enforceBudget_cases named faithful.tree prunes
  let gone := excessSiblings archive.store logger.path log budget
  have under := filesUnder_of_enforceBudget named faithful.tree prunes
  have deleted_iff {name : String} (looks : LooksRotated log name) :
      Path.join log.directory name ∈ deleted ↔ name ∈ gone.map Sibling.name :=
    mem_deleted_iff named faithful.tree prunes looks
  refine ⟨?_, ?_, ?_, faithful.ordered.filter _, ?_⟩
  · rw [files]
    exact faithful.tree
  · have spared : log.fileName ∉ gone.map Sibling.name := fun listed => by
      obtain ⟨sibling, isGone, same⟩ := List.mem_map.mp listed
      exact ne_fileName (looksRotated_of_mem_excess isGone) same
    dsimp only
    rw [under, if_neg spared, faithful.live]
  · intro kept listed
    obtain ⟨before, stays⟩ := List.mem_filter.mp listed
    obtain ⟨some, early, name, looks, path, stands⟩ := faithful.rotated kept before
    refine ⟨some, early, name, looks, path, ?_⟩
    have spared : name ∉ gone.map Sibling.name := fun isGone => by
      rw [path] at stays
      simp [(deleted_iff looks).mpr isGone] at stays
    dsimp only
    rw [under, if_neg spared, stands]
  · intro name looks
    dsimp only
    rw [under]
    split
    case isTrue => exact .inr (List.nil_subset _)
    case isFalse spared =>
      rcases faithful.others name looks with ⟨kept, listed, path⟩ | foreign
      · refine .inl ⟨kept, List.mem_filter.mpr ⟨listed, ?_⟩, path⟩
        rw [path]
        simp [mt (deleted_iff looks).mp spared]
      · exact .inr foreign

/-- Of two rotations the one that is deleted was written last before the one that is kept, or at
the same time and its path comes first. -/
theorem deleted_before_kept {pruned : FileStore} {deleted : List String} {budget : Nat}
    (faithful : archive.IsFaithful log start line)
    (named : LogName.ofPath? logger.path = .ok log)
    (prunes : enforceBudget archive.store logger.path budget = .ok (deleted, pruned))
    {first second : Kept} (listed : first ∈ archive.rotated) (listedToo : second ∈ archive.rotated)
    (goes : first.path ∈ deleted) (stays : second.path ∉ deleted) :
    first.modified < second.modified ∨
      first.modified = second.modified ∧ first.path < second.path := by
  obtain ⟨-, -, firstName, looks, path, stands⟩ := faithful.rotated first listed
  obtain ⟨-, -, secondName, looksToo, secondPath, standsToo⟩ := faithful.rotated second listedToo
  rw [path, mem_deleted_iff named faithful.tree prunes looks] at goes
  rw [secondPath, mem_deleted_iff named faithful.tree prunes looksToo] at stays
  obtain ⟨gone, isGone, rfl⟩ := List.mem_map.mp goes
  let siblings := siblingsOf archive.store log (Path.key log.directory)
  obtain ⟨rest, split, -⟩ :=
    exists_rest_of_excess budget (archive.store.sizeAt logger.path) siblings
  -- What was deleted is the file of the first rotation, and the second one is among the rest.
  have goneFile : gone.file = ⟨text line first.events, first.modified⟩ := by
    have inStore := (mem_siblingsOf_iff.mp (excess_subset _ _ _ isGone)).1
    rw [← mem_filesUnder, stands] at inStore
    exact List.mem_singleton.mp inStore
  let left : Sibling := ⟨secondName, ⟨text line second.events, second.modified⟩⟩
  have isLeft : left ∈ rest := by
    have inStore : (Path.key log.directory ++ [secondName], left.file) ∈ archive.store.files := by
      rw [← mem_filesUnder, standsToo]
      exact List.mem_singleton.mpr rfl
    have isSibling : left ∈ siblings := mem_siblingsOf_iff.mpr ⟨inStore, looksToo⟩
    rw [split] at isSibling
    apply (List.mem_append.mp isSibling).resolve_left
    intro isGoneToo
    exact stays (List.mem_map_of_mem isGoneToo)
  have before : gone.comesBefore left = true := by
    have ordered : siblings.Pairwise fun before behind => before.comesBefore behind :=
      pairwise_siblingsOf _ _ _
    rw [split] at ordered
    exact (List.pairwise_append.mp ordered).2.2 gone isGone left isLeft
  rw [Sibling.comesBefore_iff, goneFile] at before
  rcases before with earlier | ⟨same, less⟩
  · exact .inl (Int.ofNat_lt.mp earlier)
  · refine .inr ⟨Int.ofNat_inj.mp same, ?_⟩
    have apart : gone.name ≠ secondName := fun same => stays (same ▸ goes)
    rw [path, secondPath]
    apply looks.join_lt named looksToo
    exact String.not_le.mp fun more => apart (String.le_antisymm less more)

/-- What an append that succeeds does to an archive. -/
theorem append_cases {call : LogCall} (faithful : archive.IsFaithful log start line)
    (named : LogName.ofPath? logger.path = .ok log)
    (own : System.files.lookup (Path.key logger.path) = none)
    (later : archive.time ≤ call.modified)
    (spelled : line archive.count = call.event.line logger.payloadLimit)
    (done : (logger.append archive.store call.event call.modified call.stamp).1 = .ok ()) :
    logger.rotation? archive.store call.event call.modified call.stamp = none ∧
        (archive.append logger call).IsFaithful log start line ∨
      ∃ target deleted rotated,
        logger.rotation? archive.store call.event call.modified call.stamp =
          some (target, deleted) ∧
        IsFaithful log start line ⟨rotated, call.modified, [],
          archive.rotated ++ [⟨target, call.modified, archive.live ++ [archive.count]⟩],
          archive.count + 1⟩ ∧
        enforceBudget rotated logger.path logger.budget =
          .ok (deleted, (archive.append logger call).store) := by
  have result : logger.append archive.store call.event call.modified call.stamp =
      (.ok (), (logger.append archive.store call.event call.modified call.stamp).2) :=
    Prod.ext done rfl
  obtain ⟨written, writes, cases⟩ := RunLogger.append_cases result
  have noted := faithful.write named own later spelled writes
  rcases cases with ⟨-, stays, same⟩ | ⟨target, rotated, deleted, rotates, moves, prunes⟩
  · refine .inl ⟨stays, ?_⟩
    unfold Archive.append
    rw [stays, same]
    exact noted
  · refine .inr ⟨target, deleted, rotated, rotates, noted.rotate (by simp) named moves, ?_⟩
    unfold Archive.append
    rw [rotates]
    exact prunes

/-- An append keeps an archive faithful. -/
theorem append {call : LogCall} (faithful : archive.IsFaithful log start line)
    (named : LogName.ofPath? logger.path = .ok log)
    (own : System.files.lookup (Path.key logger.path) = none)
    (later : archive.time ≤ call.modified)
    (spelled : line archive.count = call.event.line logger.payloadLimit)
    (done : (logger.append archive.store call.event call.modified call.stamp).1 = .ok ()) :
    (archive.append logger call).IsFaithful log start line := by
  rcases faithful.append_cases named own later spelled done with
    ⟨-, same⟩ | ⟨target, deleted, rotated, rotates, moved, prunes⟩
  · exact same
  · have pruned := moved.prune named prunes
    unfold Archive.append at pruned ⊢
    rw [rotates] at pruned ⊢
    exact pruned

end IsFaithful

end Archive

end BrowserRelay
