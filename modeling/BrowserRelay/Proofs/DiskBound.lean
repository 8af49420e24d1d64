import BrowserRelay.Proofs.LogFiles

/-!
# How much room the log takes

Rotations are pruned whenever one is added, so that they never take more room than the budget
allows, and the log itself is moved aside before it can add more than its share.
-/

namespace BrowserRelay

namespace Rotation

variable {store after : FileStore} {log : LogName} {directory : FileKey} {path : String}

/-! ## The files of the log -/

/-- The files of a directory that have certain names. -/
def filesBeside (store : FileStore) (directory : FileKey) (wanted : String → Bool) :
    List Sibling :=
  store.files.filterMap fun entry =>
    (nameWithin? directory entry.1).bind fun name =>
      if wanted name then some ⟨name, entry.2⟩ else none

/-- The rotations of a log, in no particular order. -/
def rotationsOf (store : FileStore) (log : LogName) : List Sibling :=
  filesBeside store (Path.key log.directory) fun name => IsRotation log name

/-- The room that a log takes without its rotations, among the files of the store itself. -/
def liveSize (store : FileStore) (log : LogName) : Nat :=
  ((store.files.lookup (Path.key log.directory ++ [log.fileName])).map StoredFile.size).getD 0

theorem filesBeside_sublist {wanted more : String → Bool}
    (wider : ∀ name, wanted name = true → more name = true) :
    (filesBeside store directory wanted).Sublist (filesBeside store directory more) := by
  unfold filesBeside
  induction store.files with
  | nil => exact List.Sublist.refl _
  | cons entry files ih =>
      simp only [List.filterMap_cons]
      cases nameWithin? directory entry.1 with
      | none => exact ih
      | some name =>
          by_cases isWanted : wanted name = true
          · simpa [isWanted, wider name isWanted] using ih
          · by_cases isMore : more name = true
            · simpa [isWanted, isMore] using ih.cons _
            · simpa [isWanted, isMore] using ih

/-- A file that is written changes no files of other names. -/
theorem filesBeside_putFile {wanted : String → Bool} {name : String} {file : StoredFile}
    (written : after.files = FileStore.putFile (directory ++ [name]) file store.files)
    (other : wanted name = false) :
    filesBeside after directory wanted = filesBeside store directory wanted := by
  unfold filesBeside
  rw [written]
  induction store.files with
  | nil => simp [FileStore.putFile, nameWithin?, other]
  | cons entry files ih =>
      unfold FileStore.putFile
      split
      case isTrue same =>
        simp [same, nameWithin?, other]
      case isFalse => simp only [List.filterMap_cons, ih]

/-- Files that are deleted are gone from those of their directory. -/
theorem filesBeside_filter {wanted : String → Bool} {gone : List String}
    (pruned : after.files = store.files.filter fun entry =>
      !(gone.map fun name => directory ++ [name]).contains entry.1) :
    filesBeside after directory wanted =
      (filesBeside store directory wanted).filter fun sibling => !gone.contains sibling.name := by
  unfold filesBeside
  rw [pruned, List.filterMap_filter, List.filter_filterMap]
  apply List.filterMap_congr
  intro entry _
  cases within : nameWithin? directory entry.1 with
  | none => simp
  | some name =>
      have listed : (gone.map fun name => directory ++ [name]).contains entry.1 =
          gone.contains name := by
        rw [nameWithin?_eq_some_iff.mp within, Bool.eq_iff_iff, List.contains_iff_mem,
          List.contains_iff_mem]
        simp
      rw [listed, Option.bind_some]
      by_cases isWanted : wanted name = true
      · by_cases isGone : name ∈ gone
        · simp [isWanted, isGone, Option.filter_some]
        · simp [isWanted, isGone, Option.filter_some]
      · simp [isWanted]

theorem sizes_eq_sum (siblings : List Sibling) :
    sizes siblings = (siblings.map fun sibling => sibling.file.size).sum :=
  rfl

theorem sizes_le_of_sublist {siblings more : List Sibling} (fewer : siblings.Sublist more) :
    sizes siblings ≤ sizes more := by
  rw [sizes_eq_sum, sizes_eq_sum]
  exact (fewer.map _).sum_le_sum fun _ _ => Nat.zero_le _

theorem sizes_perm {siblings others : List Sibling} (same : siblings.Perm others) :
    sizes siblings = sizes others := by
  rw [sizes_eq_sum, sizes_eq_sum]
  exact (same.map _).sum_nat

/-! ## Pruning -/

/-- The rotations that are left after pruning fit into the budget. -/
theorem rotations_fit_of_enforceBudget {budget : Nat} {deleted : List String}
    (named : LogName.ofPath? path = .ok log) (tree : store.kind = .tree)
    (enforced : enforceBudget store path budget = .ok (deleted, after)) :
    sizes (rotationsOf after log) ≤ budget := by
  obtain ⟨-, pruned⟩ := enforceBudget_cases named tree enforced
  let siblings := siblingsOf store log (Path.key log.directory)
  let gone := excessSiblings store path log budget
  let kept (sibling : Sibling) : Bool := !(gone.map Sibling.name).contains sibling.name
  obtain ⟨rest, split, ends⟩ := exists_rest_of_excess budget (store.sizeAt path) siblings
  have left : filesBeside after (Path.key log.directory) (isRotatedName log) =
      (rotationsIn store log (Path.key log.directory)).filter kept := by
    apply filesBeside_filter
    rw [pruned, List.map_map]
    rfl
  have others : siblings.filter kept = rest.filter kept := by
    have none : gone.filter kept = [] := by
      apply List.filter_eq_nil_iff.mpr
      intro sibling isGone
      simpa [kept] using ⟨sibling, isGone, rfl⟩
    rw [split, List.filter_append]
    exact (congrArg (· ++ rest.filter kept) none).trans (List.nil_append _)
  calc
    sizes (rotationsOf after log)
        ≤ sizes (filesBeside after (Path.key log.directory) (isRotatedName log)) := by
      apply sizes_le_of_sublist
      apply filesBeside_sublist
      intro name rotation
      exact isRotatedName_iff.mpr (of_decide_eq_true rotation).looksRotated
    _ = sizes (siblings.filter kept) := by
      rw [left]
      exact sizes_perm ((List.mergeSort_perm _ _).symm.filter kept)
    _ ≤ sizes rest := by
      rw [others]
      exact sizes_le_of_sublist (List.filter_sublist)
    _ ≤ budget := by
      rcases ends with fits | rfl
      · omega
      · exact Nat.zero_le budget

/-! ## Appending -/

/-- No room is taken under a key from which everything has been moved away. -/
theorem liveSize_of_rotate {stamp : Nat} {target : String} (named : LogName.ofPath? path = .ok log)
    (tree : store.kind = .tree) (rotated : rotate store path stamp = .ok (target, after)) :
    liveSize after log = 0 := by
  obtain ⟨sequence, -, -, -, under⟩ := filesUnder_of_rotate named tree rotated
  have other := (rotatedName_ne_fileName log stamp sequence).symm
  unfold liveSize
  rw [FileStore.lookup_eq_head?_filesUnder, under, if_neg other, if_pos rfl]
  rfl

/-- Pruning makes no file larger. -/
theorem liveSize_of_enforceBudget {budget : Nat} {deleted : List String}
    (named : LogName.ofPath? path = .ok log) (tree : store.kind = .tree)
    (enforced : enforceBudget store path budget = .ok (deleted, after)) :
    liveSize after log ≤ liveSize store log := by
  unfold liveSize
  rw [FileStore.lookup_eq_head?_filesUnder, FileStore.lookup_eq_head?_filesUnder,
    filesUnder_of_enforceBudget named tree enforced]
  split
  · exact Nat.zero_le _
  · exact Nat.le_refl _

theorem liveSize_le_sizeAt (named : LogName.ofPath? path = .ok log)
    (found : store.find path = .ok (Path.key path)) : liveSize store log ≤ store.sizeAt path := by
  unfold liveSize FileStore.sizeAt
  rw [found, ← LogName.key_eq named]
  dsimp only
  cases listed : store.files.lookup (Path.key path) with
  | none => exact Nat.zero_le _
  | some file =>
      have kept : store.file? (Path.key path) = some file := by
        unfold FileStore.file?
        rw [listed]
      rw [kept]
      exact Nat.le_refl _

end Rotation

namespace RunLogger

open Rotation

variable {logger : RunLogger} {log : LogName}

theorem threshold_pos (budget : Nat) : 0 < threshold budget :=
  Nat.lt_of_lt_of_le Nat.zero_lt_one (Nat.le_max_right _ _)

/-- A course of appends that all succeed.  What others do to the store in between leaves the
rotations of the log as they are. -/
inductive Course (logger : RunLogger) (log : LogName) : FileStore → FileStore → Prop
  | none (store : FileStore) : Course logger log store store
  | append {start before after : FileStore} {event : LogEvent} {modified stamp : Nat}
      (earlier : Course logger log start before)
      (done : logger.append before event modified stamp = (.ok (), after)) :
      Course logger log start after
  | meanwhile {start before after : FileStore} (earlier : Course logger log start before)
      (kind : after.kind = before.kind)
      (kept : (rotationsOf after log).Perm (rotationsOf before log)) :
      Course logger log start after

/-- What one append does to the room that the log and its rotations take. -/
theorem append_sizes {store after : FileStore} {event : LogEvent} {modified stamp : Nat}
    (named : LogName.ofPath? logger.path = .ok log) (tree : store.kind = .tree)
    (done : logger.append store event modified stamp = (.ok (), after)) :
    after.kind = .tree ∧ liveSize after log < threshold logger.budget ∧
      (logger.rotation? store event modified stamp = none ∧
          rotationsOf after log = rotationsOf store log ∨
        liveSize after log = 0 ∧ sizes (rotationsOf after log) ≤ logger.budget) := by
  obtain ⟨written, writes, cases⟩ := append_cases done
  obtain ⟨writtenTree, found, files⟩ := written?_cases tree writes
  rcases cases with ⟨small, stays, rfl⟩ | ⟨target, rotated, deleted, -, moves, prunes⟩
  · refine ⟨writtenTree, (liveSize_le_sizeAt named found).trans_lt small, .inl ⟨stays, ?_⟩⟩
    rcases files with ⟨-, same⟩ | ⟨-, put⟩
    · unfold rotationsOf filesBeside
      rw [same]
    · rw [LogName.key_eq named] at put
      exact filesBeside_putFile put (decide_eq_false log.not_isRotation)
  · have rotatedTree : rotated.kind = .tree := by
      obtain ⟨-, -, -, kind, -⟩ := rotate_cases named writtenTree moves
      exact kind
    have empty : liveSize after log = 0 := by
      have smaller := liveSize_of_enforceBudget named rotatedTree prunes
      rw [liveSize_of_rotate named writtenTree moves] at smaller
      exact Nat.le_zero.mp smaller
    refine ⟨?_, ?_, .inr ⟨empty, rotations_fit_of_enforceBudget named rotatedTree prunes⟩⟩
    · obtain ⟨-, rfl⟩ := enforceBudget_cases named rotatedTree prunes
      exact rotatedTree
    · rw [empty]
      exact threshold_pos logger.budget

theorem Course.rotations_fit {start store : FileStore} (course : Course logger log start store)
    (named : LogName.ofPath? logger.path = .ok log) (tree : start.kind = .tree)
    (fits : sizes (rotationsOf start log) ≤ logger.budget) :
    store.kind = .tree ∧ sizes (rotationsOf store log) ≤ logger.budget := by
  induction course with
  | none => exact ⟨tree, fits⟩
  | append earlier done ih =>
      obtain ⟨beforeTree, beforeFits⟩ := ih
      obtain ⟨afterTree, -, stays | moves⟩ := append_sizes named beforeTree done
      · rw [stays.2]
        exact ⟨afterTree, beforeFits⟩
      · exact ⟨afterTree, moves.2⟩
  | meanwhile earlier kind kept ih =>
      obtain ⟨beforeTree, beforeFits⟩ := ih
      rw [sizes_perm kept]
      exact ⟨kind.trans beforeTree, beforeFits⟩

/-- The log stays below its share of the budget, and takes less than the budget and that share
together with its rotations; whenever it has just been moved aside, all of it fits into the
budget. -/
theorem log_stays_within_budget {start before after : FileStore} {event : LogEvent}
    {modified stamp : Nat} (named : LogName.ofPath? logger.path = .ok log)
    (tree : start.kind = .tree) (fits : sizes (rotationsOf start log) ≤ logger.budget)
    (course : Course logger log start before)
    (done : logger.append before event modified stamp = (.ok (), after)) :
    ((logger.rotation? before event modified stamp).isSome = true →
        liveSize after log + sizes (rotationsOf after log) ≤ logger.budget) ∧
      liveSize after log < threshold logger.budget ∧
      liveSize after log + sizes (rotationsOf after log) <
        logger.budget + threshold logger.budget := by
  obtain ⟨beforeTree, beforeFits⟩ := course.rotations_fit named tree fits
  obtain ⟨-, small, stays | moves⟩ := append_sizes named beforeTree done
  · obtain ⟨noMove, same⟩ := stays
    refine ⟨fun moved => ?_, small, ?_⟩
    · simp [noMove] at moved
    · rw [same]
      omega
  · obtain ⟨empty, rotationsFit⟩ := moves
    refine ⟨fun _ => ?_, small, ?_⟩
    · omega
    · omega

/-- A log of one line fits into the budget, and so does what is left when it is moved aside
again. -/
theorem small_log_stays_within_budget :
    sizes (rotationsOf (tickStore []) smallLog) ≤ smallLogger.budget ∧
      liveSize (tickStore ["run.5-0001.jsonl"]) smallLog +
        sizes (rotationsOf (tickStore ["run.5-0001.jsonl"]) smallLog) ≤ smallLogger.budget := by
  have runs := smallLogger_append
  simp only [tickRuns, List.forall_mem_cons] at runs
  obtain ⟨⟨first, -⟩, ⟨second, rotates⟩, -⟩ := runs
  have fits : sizes (rotationsOf (tickStore []) smallLog) ≤ smallLogger.budget := Nat.zero_le _
  have course : Course smallLogger smallLog (tickStore []) (tickStore ["run.5-0000.jsonl"]) :=
    (Course.none _).append first
  have bound := (log_stays_within_budget smallLog_named rfl fits course second).1
  exact ⟨fits, bound (by rw [rotates]; rfl)⟩

end RunLogger

end BrowserRelay
