import BrowserRelay.Proofs.Archive

/-!
# Whether the oldest events are deleted first

Pruning deletes rotations by the time at which they were last written, and by their paths where
that was the same time.  While the clock stands still a new rotation can get the free name of a
deleted one, and so come before rotations that are older.  The events in the files of the log are
the last ones that were appended, if and only if no rotation is deleted for that reason.
-/

namespace BrowserRelay

namespace Kept

/-! ## Deleting rotations -/

theorem suffix_of_head {whole first second : List Nat} {head : Nat} (distinct : whole.Nodup)
    (ends : head :: first <:+ whole) (inside : head :: second <:+ head :: first) :
    second = first := by
  obtain ⟨front, split⟩ := inside
  cases front with
  | nil => exact (List.cons.inj split).2
  | cons other front =>
      have again : head ∈ first := by
        rw [← (List.cons.inj split).2]
        simp
      exact absurd again (List.nodup_cons.mp (distinct.sublist ends.sublist)).1

/-- Ends of a list without repetition that begin alike are the same. -/
theorem suffix_eq_of_head {whole first second : List Nat} {head : Nat} (distinct : whole.Nodup)
    (ends : head :: first <:+ whole) (endsToo : head :: second <:+ whole) : first = second := by
  rcases List.suffix_or_suffix_of_suffix ends endsToo with inside | inside
  · exact suffix_of_head distinct endsToo inside
  · exact (suffix_of_head distinct ends inside).symm

variable {rotated : List Kept} {stays : Kept → Bool}

/-- No rotation can be deleted while all events stay. -/
theorem stays_of_events_eq (some : ∀ kept ∈ rotated, kept.events ≠ [])
    (same : (rotated.filter stays).flatMap events = rotated.flatMap events) :
    ∀ kept ∈ rotated, stays kept = true := by
  induction rotated with
  | nil => simp
  | cons first rest ih =>
      obtain ⟨someFirst, someRest⟩ := List.forall_mem_cons.mp some
      by_cases firstStays : stays first = true
      · rw [List.filter_cons_of_pos firstStays, List.flatMap_cons, List.flatMap_cons] at same
        exact List.forall_mem_cons.mpr ⟨firstStays, ih someRest (List.append_cancel_left same)⟩
      · rw [List.filter_cons_of_neg firstStays, List.flatMap_cons] at same
        have fewer := ((List.filter_sublist (p := stays) (l := rest)).flatMap events).length_le
        have lengths := congrArg List.length same
        have long := List.length_pos_iff.mpr someFirst
        rw [List.length_append] at lengths
        omega

/-- The events that are left are the last ones, if and only if no rotation is deleted while an
older one stays. -/
theorem filter_suffix_iff {whole : List Nat} (distinct : whole.Nodup)
    (some : ∀ kept ∈ rotated, kept.events ≠ []) (ends : rotated.flatMap events <:+ whole) :
    (rotated.filter stays).flatMap events <:+ whole ↔
      ∀ older newer, [older, newer].Sublist rotated → stays older = true →
        stays newer = true := by
  induction rotated with
  | nil => simp
  | cons first rest ih =>
      obtain ⟨someFirst, someRest⟩ := List.forall_mem_cons.mp some
      rw [List.flatMap_cons] at ends
      by_cases firstStays : stays first = true
      · rw [List.filter_cons_of_pos firstStays, List.flatMap_cons]
        constructor
        · intro left older newer pair _
          obtain ⟨head, others, split⟩ := List.exists_cons_of_ne_nil someFirst
          rw [split, List.cons_append] at left ends
          have same := List.append_cancel_left (suffix_eq_of_head distinct left ends)
          apply stays_of_events_eq someRest same
          cases pair with
          | cons _ behind => exact behind.subset (by simp)
          | cons_cons _ behind => exact List.singleton_sublist.mp behind
        · intro closed
          have all : rest.filter stays = rest := List.filter_eq_self.mpr fun kept listed =>
            closed first kept ((List.singleton_sublist.mpr listed).cons_cons first) firstStays
          rwa [all]
      · rw [List.filter_cons_of_neg firstStays,
          ih someRest ((List.suffix_append first.events _).trans ends)]
        constructor
        · intro closed older newer pair olderStays
          cases pair with
          | cons _ behind => exact closed older newer behind olderStays
          | cons_cons _ behind => exact absurd olderStays firstStays
        · intro closed older newer pair
          exact closed older newer (pair.cons first)

end Kept

/-! ## Appending to an archive -/

namespace Archive

open Rotation

variable {logger : RunLogger} {log : LogName} {start : FileStore} {line : Nat → String}
  {archive : Archive} {call : LogCall}

/-- An append deletes a rotation and keeps an older one that was written last at the same time and
whose path comes later. -/
def Overtakes (logger : RunLogger) (archive : Archive) (call : LogCall) : Prop :=
  ∃ target deleted older newer,
    logger.rotation? archive.store call.event call.modified call.stamp = some (target, deleted) ∧
    [older, newer].Sublist
      (archive.rotated ++ [⟨target, call.modified, archive.live ++ [archive.count]⟩]) ∧
    older.path ∉ deleted ∧ newer.path ∈ deleted ∧
    older.modified = newer.modified ∧ newer.path < older.path

theorem count_append (logger : RunLogger) (archive : Archive) (call : LogCall) :
    (archive.append logger call).count = archive.count + 1 := by
  unfold append
  dsimp only
  split <;> rfl

theorem time_append (logger : RunLogger) (archive : Archive) (call : LogCall) :
    (archive.append logger call).time = call.modified := by
  unfold append
  dsimp only
  split <;> rfl

/-- No rotation overtakes an older one, if and only if none is deleted while an older one stays. -/
theorem not_overtakes_iff {target : String} {deleted : List String} {rotated pruned : FileStore}
    (rotates : logger.rotation? archive.store call.event call.modified call.stamp =
      some (target, deleted))
    (moved : IsFaithful log start line ⟨rotated, call.modified, [],
      archive.rotated ++ [⟨target, call.modified, archive.live ++ [archive.count]⟩],
      archive.count + 1⟩)
    (named : LogName.ofPath? logger.path = .ok log)
    (prunes : enforceBudget rotated logger.path logger.budget = .ok (deleted, pruned)) :
    ¬ archive.Overtakes logger call ↔
      ∀ older newer, [older, newer].Sublist
          (archive.rotated ++ [⟨target, call.modified, archive.live ++ [archive.count]⟩]) →
        older.path ∉ deleted → newer.path ∉ deleted := by
  constructor
  · intro noneOvertaken older newer pair stays goes
    have inOrder : older.modified ≤ newer.modified := by
      simpa using moved.ordered.sublist pair
    -- What is deleted comes first in the order of times and paths, and the times of rotations
    -- only grow, so that the paths must have decided.
    rcases moved.deleted_before_kept named prunes (pair.subset (by simp))
        (pair.subset (by simp)) goes stays with less | ⟨same, before⟩
    · omega
    · exact noneOvertaken
        ⟨target, deleted, older, newer, rotates, pair, stays, goes, same.symm, before⟩
  · rintro closed ⟨_, _, older, newer, again, pair, stays, goes, -⟩
    obtain ⟨rfl, rfl⟩ := Prod.mk.inj (Option.some.inj (rotates.symm.trans again))
    exact closed older newer pair stays goes

/-- An append keeps the last events, if and only if no rotation overtakes an older one. -/
theorem suffix_append_iff (faithful : archive.IsFaithful log start line)
    (named : LogName.ofPath? logger.path = .ok log)
    (own : System.files.lookup (Path.key logger.path) = none)
    (later : archive.time ≤ call.modified)
    (spelled : line archive.count = call.event.line logger.payloadLimit)
    (done : (logger.append archive.store call.event call.modified call.stamp).1 = .ok ())
    (ends : archive.events <:+ List.range archive.count) :
    (archive.append logger call).events <:+ List.range (archive.append logger call).count ↔
      ¬ archive.Overtakes logger call := by
  have longer : archive.events ++ [archive.count] <:+ List.range (archive.count + 1) := by
    obtain ⟨front, split⟩ := ends
    exact ⟨front, by rw [List.range_succ, ← split, List.append_assoc]⟩
  rw [events, List.append_assoc] at longer
  rw [count_append]
  rcases faithful.append_cases named own later spelled done with
    ⟨stays, -⟩ | ⟨target, deleted, rotated, rotates, moved, prunes⟩
  · have noneOvertaken : ¬ archive.Overtakes logger call := by
      rintro ⟨target, deleted, older, newer, rotates, -⟩
      rw [stays] at rotates
      simp at rotates
    apply iff_of_true _ noneOvertaken
    unfold append
    rw [stays]
    exact longer
  · let made := archive.rotated ++
      [⟨target, call.modified, archive.live ++ [archive.count]⟩]
    have some : ∀ kept ∈ made, kept.events ≠ [] := fun kept listed =>
      (moved.rotated kept listed).1
    have wholeEnds : made.flatMap Kept.events <:+ List.range (archive.count + 1) := by
      rw [List.flatMap_append, List.flatMap_singleton]
      exact longer
    have left : (archive.append logger call).events =
        (made.filter fun kept => !deleted.contains kept.path).flatMap Kept.events := by
      unfold events append
      rw [rotates]
      exact List.append_nil _
    rw [left, Kept.filter_suffix_iff List.nodup_range some wholeEnds,
      not_overtakes_iff rotates moved named prunes]
    simp [made]

end Archive

/-! ## Runs -/

namespace RunLogger

open Rotation

variable {logger : RunLogger} {log : LogName} {start : FileStore} {calls : List LogCall}

/-- The archive after calls, from a store on. -/
def archive (logger : RunLogger) (start : FileStore) (calls : List LogCall) : Archive :=
  calls.foldl (Archive.append logger) { store := start }

/-- All appends succeed. -/
def Succeed (logger : RunLogger) (start : FileStore) (calls : List LogCall) : Prop :=
  ∀ earlier call, earlier ++ [call] <+: calls →
    (logger.append (logger.archive start earlier).store call.event call.modified call.stamp).1 =
      .ok ()

theorem succeed_nil (logger : RunLogger) (start : FileStore) : logger.Succeed start [] :=
  fun earlier call next => absurd (List.prefix_nil.mp next) (by simp)

theorem Succeed.concat {call : LogCall} (succeed : logger.Succeed start calls)
    (done : (logger.append (logger.archive start calls).store call.event call.modified
      call.stamp).1 = .ok ()) : logger.Succeed start (calls ++ [call]) := by
  intro earlier other next
  rcases List.prefix_concat_iff.mp next with same | inside
  · obtain ⟨rfl, last⟩ := List.append_inj' same rfl
    obtain rfl := (List.cons.inj last).1
    exact done
  · exact succeed earlier other inside

/-- The line of each event. -/
def line (logger : RunLogger) (calls : List LogCall) (number : Nat) : String :=
  (calls[number]?.map fun call => call.event.line logger.payloadLimit).getD ""

theorem archive_concat (logger : RunLogger) (start : FileStore) (calls : List LogCall)
    (call : LogCall) :
    logger.archive start (calls ++ [call]) = (logger.archive start calls).append logger call := by
  unfold archive
  rw [List.foldl_append]
  rfl

theorem count_archive (logger : RunLogger) (start : FileStore) (calls : List LogCall) :
    (logger.archive start calls).count = calls.length := by
  induction calls using List.reverseRecOn with
  | nil => rfl
  | append_singleton calls call ih =>
      rw [archive_concat, Archive.count_append, ih, List.length_append, List.length_singleton]

theorem line_next {earlier : List LogCall} {call : LogCall} (next : earlier ++ [call] <+: calls) :
    logger.line calls earlier.length = call.event.line logger.payloadLimit := by
  obtain ⟨rest, rfl⟩ := next
  simp [line]

/-- The log was last written before the next event comes. -/
theorem time_archive_le (clock : (calls.map LogCall.modified).Pairwise (· ≤ ·))
    {earlier : List LogCall} {call : LogCall} (next : earlier ++ [call] <+: calls) :
    (logger.archive start earlier).time ≤ call.modified := by
  induction earlier using List.reverseRecOn with
  | nil => exact Nat.zero_le _
  | append_singleton earlier last _ =>
      rw [archive_concat, Archive.time_append]
      have readings := clock.sublist (next.sublist.map LogCall.modified)
      rw [List.map_append, List.pairwise_append] at readings
      exact readings.2.2 last.modified (by simp) call.modified (by simp)

theorem lookups_of_fresh {key : FileKey} (tree : start.kind = .tree)
    (fresh : start.file? key = none) :
    start.files.lookup key = none ∧ System.files.lookup key = none := by
  unfold FileStore.file? at fresh
  rw [tree] at fresh
  cases absent : start.files.lookup key with
  | none =>
      rw [absent] at fresh
      exact ⟨rfl, fresh⟩
  | some file => simp [absent] at fresh

/-- The events of an archive are the events in the files. -/
theorem archive_isFaithful (named : LogName.ofPath? logger.path = .ok log)
    (tree : start.kind = .tree) (fresh : start.file? (Path.key logger.path) = none)
    (succeed : logger.Succeed start calls)
    (clock : (calls.map LogCall.modified).Pairwise (· ≤ ·)) {earlier : List LogCall}
    (part : earlier <+: calls) :
    (logger.archive start earlier).IsFaithful log start (logger.line calls) := by
  obtain ⟨absent, own⟩ := lookups_of_fresh tree fresh
  induction earlier using List.reverseRecOn with
  | nil =>
      rw [LogName.key_eq named] at absent
      have nothing := FileStore.filesUnder_eq_nil_of_lookup absent
      exact ⟨tree, nothing, by simp [archive], List.Pairwise.nil,
        fun name looks => .inr (List.Subset.refl _)⟩
  | append_singleton earlier call ih =>
      have faithful := ih ((List.prefix_append earlier [call]).trans part)
      rw [archive_concat]
      apply faithful.append named own (time_archive_le clock part)
      · rw [count_archive, line_next part]
      · exact succeed earlier call part

/-- What is in the files of a log are the events that were appended last, at all times, if and only
if no append deletes a rotation and keeps an older one that was written last at the same time and
whose path comes later. -/
theorem oldest_events_are_deleted_first_iff (named : LogName.ofPath? logger.path = .ok log)
    (tree : start.kind = .tree) (fresh : start.file? (Path.key logger.path) = none)
    (succeed : logger.Succeed start calls)
    (clock : (calls.map LogCall.modified).Pairwise (· ≤ ·)) :
    (∀ earlier, earlier <+: calls →
        (logger.archive start earlier).IsFaithful log start (logger.line calls)) ∧
      ((∀ earlier, earlier <+: calls →
          (logger.archive start earlier).events <:+ List.range earlier.length) ↔
        ∀ earlier call, earlier ++ [call] <+: calls →
          ¬ (logger.archive start earlier).Overtakes logger call) := by
  have faithful {earlier : List LogCall} (part : earlier <+: calls) :=
    archive_isFaithful named tree fresh succeed clock part
  have step {earlier : List LogCall} {call : LogCall} (next : earlier ++ [call] <+: calls)
      (ends : (logger.archive start earlier).events <:+ List.range earlier.length) :
      (logger.archive start (earlier ++ [call])).events <:+
          List.range (earlier ++ [call]).length ↔
        ¬ (logger.archive start earlier).Overtakes logger call := by
    have part := (List.prefix_append earlier [call]).trans next
    rw [← count_archive logger start earlier] at ends
    rw [← count_archive logger start (earlier ++ [call]), archive_concat]
    apply Archive.suffix_append_iff (faithful part) named (lookups_of_fresh tree fresh).2
      (time_archive_le clock next) _ (succeed earlier call next) ends
    rw [count_archive, line_next next]
  refine ⟨fun earlier part => faithful part, ?_, ?_⟩
  · intro ends earlier call next
    exact (step next (ends earlier ((List.prefix_append earlier [call]).trans next))).mp
      (ends _ next)
  · intro noneOvertaken earlier part
    induction earlier using List.reverseRecOn with
    | nil => exact List.suffix_refl _
    | append_singleton earlier call ih =>
        exact (step part (ih ((List.prefix_append earlier [call]).trans part))).mpr
          (noneOvertaken earlier call part)

/-- Three events that come while the clock stands still: the third one is deleted, though the second
one is kept. -/
theorem newest_event_is_lost :
    ¬ ∀ earlier, earlier <+: List.replicate 3 (LogCall.mk tick 5 5) →
      (smallLogger.archive (tickStore []) earlier).events <:+ List.range earlier.length := by
  have runs := smallLogger_append
  simp only [tickRuns, List.forall_mem_cons] at runs
  obtain ⟨⟨first, firstMoves⟩, ⟨second, secondMoves⟩, ⟨third, thirdMoves⟩, -⟩ := runs
  let call : LogCall := ⟨tick, 5, 5⟩
  have afterFirst : smallLogger.archive (tickStore []) [call] =
      ⟨tickStore ["run.5-0000.jsonl"], 5, [], [⟨"./run.5-0000.jsonl", 5, [0]⟩], 1⟩ := by
    unfold archive
    rw [List.foldl_cons, List.foldl_nil, Archive.append, firstMoves, first]
    rfl
  have afterSecond : smallLogger.archive (tickStore []) [call, call] =
      ⟨tickStore ["run.5-0001.jsonl"], 5, [], [⟨"./run.5-0001.jsonl", 5, [1]⟩], 2⟩ := by
    rw [show [call, call] = [call] ++ [call] from rfl, archive_concat, afterFirst, Archive.append,
      secondMoves, second]
    rfl
  have succeedOnce : smallLogger.Succeed (tickStore []) [call] :=
    (succeed_nil _ _).concat (congrArg Prod.fst first)
  have succeedTwice : smallLogger.Succeed (tickStore []) [call, call] := by
    apply succeedOnce.concat
    rw [afterFirst]
    exact congrArg Prod.fst second
  have succeed : smallLogger.Succeed (tickStore []) (List.replicate 3 call) := by
    apply succeedTwice.concat
    rw [afterSecond]
    exact congrArg Prod.fst third
  have clock : ((List.replicate 3 call).map LogCall.modified).Pairwise (· ≤ ·) := by decide
  apply mt (oldest_events_are_deleted_first_iff smallLog_named rfl rfl succeed clock).2.mp
  intro noneOvertaken
  apply noneOvertaken [call, call] call (List.prefix_refl _)
  rw [afterSecond]
  exact ⟨_, _, _, _, thirdMoves, List.Sublist.refl _, by decide +kernel, by decide +kernel, rfl,
    by decide +kernel⟩

end RunLogger

end BrowserRelay
