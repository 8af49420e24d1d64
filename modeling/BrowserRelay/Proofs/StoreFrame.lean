import BrowserRelay.Proofs.StoreChanges

/-!
# What writing leaves alone

Making directories changes no file, and writing a text changes the file of its path alone, if it
changes any.  So a path under which another file is found leads to the same file afterwards.
-/

namespace BrowserRelay

/-- What is found at a place is found there while it stands. -/
theorem Place.find_of_stands {entryAt later : FileKey → Entry} {place : Place} {key : FileKey}
    (leads : place.find entryAt = .ok key)
    (stands : entryAt key ≠ .nothing → later key = entryAt key) : place.find later = .ok key := by
  cases place with
  | reached directory => exact leads
  | within directory name asDirectory =>
      obtain ⟨isKey, short, there⟩ := find_within_eq_ok_iff.mp leads
      have same : later key = entryAt key := by
        apply stands
        rcases there with there | ⟨there, -⟩ <;> simp [there]
      exact find_within_eq_ok_iff.mpr ⟨isKey, short, by rwa [same]⟩

namespace FileStore

variable {store before middle after : FileStore} {path : String}

/-- The key of the file that a path names. -/
def keyOf (store : FileStore) (path : String) : FileKey :=
  match store.kind with
  | .shelf => Path.components path
  | .tree => Path.key path

theorem find_eq_keyOf {key : FileKey} (leads : store.find path = .ok key) :
    key = store.keyOf path := by
  unfold keyOf
  cases kind : store.kind with
  | tree => exact key_of_find kind leads
  | shelf => exact ((find_eq_ok_iff_of_shelf kind).mp leads).2.symm

theorem placeForFile_eq_keyOf {key : FileKey} (placed : store.placeForFile path = .ok key) :
    key = store.keyOf path := by
  unfold keyOf
  cases kind : store.kind with
  | tree => exact key_of_placeForFile kind placed
  | shelf =>
      unfold placeForFile at placed
      simp only [kind] at placed
      exact (Except.ok.inj placed).symm

/-- A path leads to where it led while the directories stay, and what it leads to. -/
theorem find_of_stands {key : FileKey} (tree : before.kind = .tree)
    (kind : after.kind = before.kind)
    (directories : ∀ key, before.isDirectory key = true → after.isDirectory key = true)
    (leads : before.find path = .ok key)
    (stands : before.entryAt key ≠ .nothing → after.entryAt key = before.entryAt key) :
    after.find path = .ok key := by
  obtain ⟨place, placed, found⟩ := (find_eq_ok_iff_of_tree tree).mp leads
  have reached : after.placeOf path = .ok place :=
    Place.ofPath_of_directories (fun other directory => by
      rw [entryAt_eq_directory_iff] at directory ⊢
      exact directories other directory) placed
  exact (find_eq_ok_iff_of_tree (kind.trans tree)).mpr
    ⟨place, reached, Place.find_of_stands found stands⟩

/-! ## What is spared -/

/-- Only files under some of the keys were changed, and directories were made only where there was
no other file. -/
structure Spares (changed : FileKey → Prop) (before after : FileStore) : Prop where
  kind : after.kind = before.kind
  files : ∀ key, ¬changed key → after.file? key = before.file? key
  directories : ∀ key, before.isDirectory key = true → after.isDirectory key = true
  apart : ∀ key, ¬changed key → (before.file? key).isSome →
    after.isDirectory key = before.isDirectory key

namespace Spares

variable {changed : FileKey → Prop}

theorem refl (store : FileStore) : Spares changed store store :=
  ⟨rfl, fun _ _ => rfl, fun _ => id, fun _ _ _ => rfl⟩

theorem trans (first : Spares changed before middle) (second : Spares changed middle after) :
    Spares changed before after where
  kind := second.kind.trans first.kind
  files key free := (second.files key free).trans (first.files key free)
  directories key there := second.directories key (first.directories key there)
  apart key free found :=
    (second.apart key free (by rwa [first.files key free])).trans (first.apart key free found)

theorem keyOf (spares : Spares changed before after) (path : String) :
    after.keyOf path = before.keyOf path := by
  unfold FileStore.keyOf
  rw [spares.kind]

theorem entryAt (spares : Spares changed before after) {key : FileKey} (free : ¬changed key)
    (some : before.entryAt key ≠ .nothing) : after.entryAt key = before.entryAt key := by
  unfold FileStore.entryAt at some ⊢
  rw [spares.files key free]
  split at some
  case isTrue there => rw [if_pos (spares.directories key there), if_pos there]
  case isFalse missing =>
    split at some
    case isTrue found => rw [spares.apart key free found]
    case isFalse => exact absurd rfl some

/-- A path leads to where it led. -/
theorem find (spares : Spares changed before after) (free : ¬changed (before.keyOf path))
    {key : FileKey} (leads : before.find path = .ok key) : after.find path = .ok key := by
  obtain rfl := find_eq_keyOf leads
  cases kind : before.kind with
  | shelf =>
      obtain ⟨there, isKey⟩ := (find_eq_ok_iff_of_shelf kind).mp leads
      refine (find_eq_ok_iff_of_shelf (spares.kind.trans kind)).mpr ⟨?_, isKey⟩
      rwa [spares.files _ free]
  | tree => exact find_of_stands kind spares.kind spares.directories leads (spares.entryAt free)

theorem contents?_of_find (spares : Spares changed before after)
    (free : ¬changed (before.keyOf path)) {key : FileKey} (leads : before.find path = .ok key) :
    after.contents? path = before.contents? path := by
  have same := spares.files key (find_eq_keyOf leads ▸ free)
  rw [contents?, contents?, fileAt?, fileAt?, spares.find free leads, leads]
  exact congrArg (Option.map StoredFile.text) same

/-- A text that is found stays. -/
theorem contents?_of_some (spares : Spares changed before after)
    (free : ¬changed (before.keyOf path)) {text : String}
    (found : before.contents? path = some text) : after.contents? path = some text := by
  cases leads : before.find path with
  | error refusal => simp [contents?, fileAt?, leads] at found
  | ok key => rw [spares.contents?_of_find free leads, found]

theorem contents?_of_shelf (spares : Spares changed before after)
    (free : ¬changed (before.keyOf path)) (shelf : before.kind = .shelf) :
    after.contents? path = before.contents? path := by
  have later : after.kind = .shelf := spares.kind.trans shelf
  have isKey : before.keyOf path = Path.components path := by rw [FileStore.keyOf, shelf]
  have same := spares.files _ free
  rw [isKey] at same
  unfold contents? fileAt? FileStore.find
  simp only [shelf, later, same]
  cases found : before.file? (Path.components path) with
  | none => rfl
  | some file => simp [same, found]

end Spares

/-! ## What the operations spare -/

theorem spares_makeDirectory {changed : FileKey → Prop} {made : FileStore}
    (done : store.makeDirectory path = .ok made) : Spares changed store made := by
  obtain ⟨key, nothing, rfl⟩ := makeDirectory_cases done
  have isDirectory (other : FileKey) :
      FileStore.isDirectory { store with directories := store.directories ++ [key] } other =
        (store.isDirectory other || decide (other = key)) := by
    unfold FileStore.isDirectory
    rw [List.contains_append, Bool.or_assoc]
    simp
  refine ⟨rfl, fun other _ => rfl, fun other there => ?_, fun other _ found => ?_⟩
  · rw [isDirectory, there, Bool.true_or]
  · have apart : other ≠ key := by
      rintro rfl
      simp [(entryAt_eq_nothing_iff.mp nothing).2] at found
    rw [isDirectory, decide_eq_false apart, Bool.or_false]

theorem spares_createDirectories {changed : FileKey → Prop} (store : FileStore) (path : String) :
    Spares changed store (store.createDirectories path).2 := by
  apply createDirectories_induction (Spares changed store)
  case step => exact fun kept done => kept.trans (spares_makeDirectory done)
  case start => exact fun requested => ⟨rfl, fun _ _ => rfl, fun _ => id, fun _ _ _ => rfl⟩

theorem file?_putFile_of_ne {key other : FileKey} (apart : other ≠ key) (file : StoredFile)
    (store : FileStore) :
    { store with files := putFile key file store.files }.file? other = store.file? other := by
  unfold file?
  rw [lookup_eq_head?_filesUnder, filesUnder_putFile, if_neg apart, ← lookup_eq_head?_filesUnder]

theorem spares_rewriteFile {change : String → String} {modified : Int}
    (rewritten : store.rewriteFile path change modified = .ok after) :
    Spares (· = store.keyOf path) store after := by
  obtain ⟨key, placed, ⟨-, rfl⟩ | ⟨-, rfl⟩⟩ := rewriteFile_cases rewritten
  · exact .refl _
  · obtain rfl := placeForFile_eq_keyOf placed
    exact ⟨rfl, fun other apart => file?_putFile_of_ne apart _ store, fun _ => id,
      fun _ _ _ => rfl⟩

theorem spares_write (store : FileStore) (path text : String) (modified : Int) :
    Spares (· = store.keyOf path) store (store.write path text modified).2 := by
  have used : Spares (· = store.keyOf path) store { store with
      outcomes := store.outcomes.later } :=
    ⟨rfl, fun _ _ => rfl, fun _ => id, fun _ _ _ => rfl⟩
  rcases store.write_cases path text modified with
    ⟨failure, failed⟩ | ⟨written, succeeded, rewritten⟩
  · rw [failed]
    exact used
  · rw [succeeded]
    exact used.trans (spares_rewriteFile rewritten)

/-- Writing a text and the directory for it changes no file but the one of the path. -/
theorem spares_writeWithDirectory (store : FileStore) (path text : String) (modified : Int) :
    Spares (· = store.keyOf path) store (store.writeWithDirectory path text modified).2 := by
  have made (parent : String) : Spares (· = store.keyOf path) store _ :=
    spares_createDirectories store parent
  rcases store.writeWithDirectory_cases path text modified with
    same | ⟨parent, failure, created, refused, same⟩ | ⟨parent, created, succeeded, same⟩
  · rw [same]
    exact spares_write store path text modified
  · have kept := made parent
    rw [refused] at kept
    rwa [same]
  · have kept := made parent
    rw [succeeded] at kept
    have written := spares_write created path text modified
    rw [kept.keyOf] at written
    rw [same]
    exact kept.trans written

/-! ## Failures -/

theorem write_error {text : String} {modified : Int} {failure : Failure}
    (failed : store.write path text modified = (.error failure, after)) :
    after = { store with outcomes := store.outcomes.later } := by
  rcases store.write_cases path text modified with ⟨other, same⟩ | ⟨written, same, -⟩
  · exact (Prod.mk.inj (failed.symm.trans same)).2
  · simp [same] at failed

theorem spares_write_error {changed : FileKey → Prop} {text : String} {modified : Int}
    {failure : Failure} (failed : store.write path text modified = (.error failure, after)) :
    Spares changed store after ∧ after.files = store.files := by
  rw [write_error failed]
  exact ⟨⟨rfl, fun _ _ => rfl, fun _ => id, fun _ _ _ => rfl⟩, rfl⟩

/-- No file is changed, and what a path leads to is what it led to. -/
structure KeepsFiles (before after : FileStore) : Prop where
  files : after.files = before.files
  contents : ∀ path, before.kind = .shelf ∨ before.exists? path = true →
    after.contents? path = before.contents? path

theorem Spares.keepsFiles (spares : Spares (fun _ => False) before after)
    (files : after.files = before.files) : KeepsFiles before after where
  files := files
  contents path known := by
    rcases known with shelf | there
    · exact spares.contents?_of_shelf id shelf
    · cases leads : before.find path with
      | error refusal => simp [exists?, leads] at there
      | ok key => exact spares.contents?_of_find id leads

/-- A write that fails changes no file at all. -/
theorem keepsFiles_of_writeWithDirectory {text : String} {modified : Int} {failure : Failure}
    (failed : store.writeWithDirectory path text modified = (.error failure, after)) :
    KeepsFiles store after := by
  rcases store.writeWithDirectory_cases path text modified with
    same | ⟨parent, other, created, refused, same⟩ | ⟨parent, created, succeeded, same⟩
  · obtain ⟨spares, files⟩ := spares_write_error (same.symm.trans failed)
    exact spares.keepsFiles files
  · have made : Spares (fun _ => False) store _ := spares_createDirectories store parent
    have files := (createDirectories_files store parent).1
    rw [refused] at made files
    obtain ⟨-, rfl⟩ := Prod.mk.inj (same.symm.trans failed)
    exact made.keepsFiles files
  · have made : Spares (fun _ => False) store _ := spares_createDirectories store parent
    have files := (createDirectories_files store parent).1
    rw [succeeded] at made files
    obtain ⟨spares, kept⟩ := spares_write_error (same.symm.trans failed)
    exact (made.trans spares).keepsFiles (kept.trans files)

end FileStore

end BrowserRelay
