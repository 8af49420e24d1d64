import BrowserRelay.Proofs.StoreCases

/-!
# What is written stands there afterwards

A write that succeeds leaves its text under the path, unless the path leads to a device, and no
operation of a store adds outcomes to those still to come.
-/

namespace BrowserRelay

/-! ## Places -/

namespace Place

variable {entryAt later : FileKey → Entry}

theorem find_ofName {directory : FileKey} {name : String} {key : FileKey}
    (same : ∀ key, entryAt key = .directory → later key = .directory)
    (found : (ofName directory name true).find entryAt = .ok key) :
    (ofName directory name true).find later = .ok key := by
  unfold ofName at found ⊢
  by_cases dot : name = "."
  · rw [if_pos dot] at found ⊢
    exact found
  · rw [if_neg dot] at found ⊢
    by_cases up : name = ".."
    · rw [if_pos up] at found ⊢
      exact found
    · rw [if_neg up] at found ⊢
      obtain ⟨isKey, short, there⟩ := find_within_eq_ok_iff.mp found
      have stood : entryAt key = .directory := by simpa using there
      exact find_within_eq_ok_iff.mpr ⟨isKey, short, .inl (same key stood)⟩

/-- A walk leads to the same place while its directories stay. -/
theorem follow_of_directories
    (same : ∀ key, entryAt key = .directory → later key = .directory) {asDirectory : Bool}
    {directory : FileKey} {names : List String} {place : Place}
    (reached : follow entryAt asDirectory directory names = .ok place) :
    follow later asDirectory directory names = .ok place := by
  induction names generalizing directory with
  | nil => exact reached
  | cons name names ih =>
      cases names with
      | nil => exact reached
      | cons second rest =>
          obtain ⟨next, found, further⟩ := follow_cons_eq_ok_iff.mp reached
          exact follow_cons_eq_ok_iff.mpr ⟨next, find_ofName same found, ih further⟩

theorem ofPath_of_directories
    (same : ∀ key, entryAt key = .directory → later key = .directory) {path : String}
    {place : Place} (reached : ofPath entryAt path = .ok place) :
    ofPath later path = .ok place := by
  obtain ⟨clean, some, short, follows⟩ := ofPath_eq_ok_iff.mp reached
  exact ofPath_eq_ok_iff.mpr ⟨clean, some, short, follow_of_directories same follows⟩

/-- A place for a file is where the file is found once it is there. -/
theorem find_of_forFile {place : Place} {key : FileKey} (placed : place.forFile entryAt = .ok key)
    (there : later key = .file) : place.find later = .ok key := by
  obtain ⟨directory, name, rfl, isKey, short, -⟩ := forFile_eq_ok_iff.mp placed
  exact find_within_eq_ok_iff.mpr ⟨isKey, short, .inr ⟨there, rfl⟩⟩

theorem entryAt_of_forFile {place : Place} {key : FileKey}
    (placed : place.forFile entryAt = .ok key) : entryAt key ≠ .directory := by
  obtain ⟨-, -, -, -, -, apart⟩ := forFile_eq_ok_iff.mp placed
  exact apart

end Place

namespace FileStore

variable {store : FileStore}

/-! ## Files under keys -/

theorem lookup_putFile (key : FileKey) (file : StoredFile) (files : List (FileKey × StoredFile)) :
    (putFile key file files).lookup key = some file := by
  induction files with
  | nil => simp [putFile]
  | cons first files ih =>
      obtain ⟨other, otherFile⟩ := first
      unfold putFile
      split
      · simp
      case isFalse apart =>
        rw [List.lookup_cons, beq_eq_false_iff_ne.mpr (Ne.symm apart)]
        exact ih

theorem file?_putFile (store : FileStore) (key : FileKey) (file : StoredFile) :
    { store with files := putFile key file store.files }.file? key = some file := by
  unfold file?
  rw [lookup_putFile]

theorem file?_of_isDevice {key : FileKey} (tree : store.kind = .tree)
    (device : System.isDevice key = true) : (store.file? key).isSome := by
  have there : (System.files.lookup key).isSome := by
    simp only [System.isDevice, Bool.or_eq_true, decide_eq_true_eq] at device
    rcases device with rfl | rfl <;> decide
  unfold file?
  rw [tree]
  cases store.files.lookup key with
  | none => exact there
  | some file => rfl

/-- A path leads to a device, which takes texts and keeps none. -/
def LeadsToDevice (store : FileStore) (path : String) : Prop :=
  store.kind = .tree ∧ ∃ key, store.find path = .ok key ∧ System.isDevice key = true

theorem entryAt_eq_directory_iff {key : FileKey} :
    store.entryAt key = .directory ↔ store.isDirectory key = true := by
  unfold entryAt
  split
  case isTrue there => simp [there]
  case isFalse missing => split <;> simp [missing]

/-- The key under which a file is to be written is where the path leads once a file is there. -/
theorem find_of_placeForFile {written : FileStore} {path : String} {key : FileKey}
    (placed : store.placeForFile path = .ok key) (kind : written.kind = store.kind)
    (directories : written.directories = store.directories)
    (there : (written.file? key).isSome) : written.find path = .ok key := by
  cases shape : store.kind with
  | shelf =>
      rw [placeForFile, shape] at placed
      obtain rfl := Except.ok.inj placed
      exact (find_eq_ok_iff_of_shelf (kind.trans shape)).mpr ⟨there, rfl⟩
  | tree =>
      obtain ⟨place, leads, inPlace, -⟩ := (placeForFile_eq_ok_iff_of_tree shape).mp placed
      have alike (key : FileKey) : written.isDirectory key = store.isDirectory key := by
        rw [isDirectory, directories, isDirectory]
      have same : written.placeOf path = .ok place :=
        Place.ofPath_of_directories (fun key directory => by
          rw [entryAt_eq_directory_iff] at directory ⊢
          rw [alike, directory]) leads
      have isFile : written.entryAt key = .file := by
        have noDirectory := Place.entryAt_of_forFile inPlace
        rw [ne_eq, entryAt_eq_directory_iff, ← alike] at noDirectory
        rw [entryAt, if_neg noDirectory, if_pos there]
      exact (find_eq_ok_iff_of_tree (kind.trans shape)).mpr
        ⟨place, same, Place.find_of_forFile inPlace isFile⟩

/-- What is written is found, unless the path leads to a device. -/
theorem contents?_of_rewriteFile {written : FileStore} {path text : String} {modified : Int}
    (rewritten : store.rewriteFile path (fun _ => text) modified = .ok written)
    (keeps : ¬written.LeadsToDevice path) :
    written.exists? path = true ∧ written.contents? path = some text := by
  obtain ⟨key, placed, ⟨device, rfl⟩ | ⟨-, rfl⟩⟩ := rewriteFile_cases rewritten
  · refine absurd ⟨device.1, key, ?_, device.2⟩ keeps
    exact find_of_placeForFile placed rfl rfl (file?_of_isDevice device.1 device.2)
  · have file := file?_putFile store key ⟨text, modified⟩
    have found : find { store with files := putFile key ⟨text, modified⟩ store.files } path =
        .ok key :=
      find_of_placeForFile placed rfl rfl (by rw [file]; rfl)
    constructor
    · rw [exists?, found]
    · rw [contents?, fileAt?, found]
      dsimp only
      rw [file]
      rfl

/-- A write that succeeds leaves its text under the path. -/
theorem contents?_of_write {written : FileStore} {path text : String} {modified : Int}
    (done : store.write path text modified = (.ok (), written))
    (keeps : ¬written.LeadsToDevice path) :
    written.exists? path = true ∧ written.contents? path = some text := by
  rcases store.write_cases path text modified with
    ⟨failure, failed⟩ | ⟨after, succeeded, rewritten⟩
  · simp [failed] at done
  · obtain ⟨-, rfl⟩ := Prod.mk.inj (succeeded.symm.trans done)
    exact contents?_of_rewriteFile rewritten keeps

theorem contents?_of_writeWithDirectory {written : FileStore} {path text : String}
    {modified : Int} (done : store.writeWithDirectory path text modified = (.ok (), written))
    (keeps : ¬written.LeadsToDevice path) :
    written.exists? path = true ∧ written.contents? path = some text := by
  rcases store.writeWithDirectory_cases path text modified with
    same | ⟨parent, failure, created, -, same⟩ | ⟨parent, created, -, same⟩
  · exact contents?_of_write (same.symm.trans done) keeps
  · simp [same] at done
  · exact contents?_of_write (same.symm.trans done) keeps

/-! ## Outcomes -/

theorem rewriteFile_outcomes {written : FileStore} {path : String} {change : String → String}
    {modified : Int} (rewritten : store.rewriteFile path change modified = .ok written) :
    written.outcomes = store.outcomes := by
  obtain ⟨key, -, ⟨-, rfl⟩ | ⟨-, rfl⟩⟩ := rewriteFile_cases rewritten
  · rfl
  · rfl

theorem write_outcomes (store : FileStore) (path text : String) (modified : Int) :
    (store.write path text modified).2.outcomes = store.outcomes.later := by
  rcases store.write_cases path text modified with
    ⟨failure, failed⟩ | ⟨written, succeeded, rewritten⟩
  · rw [failed]
  · rw [succeeded, rewriteFile_outcomes rewritten]

theorem createDirectories_outcomes (store : FileStore) (path : String) :
    (store.createDirectories path).2.outcomes = store.outcomes.later := by
  apply createDirectories_induction (fun after => after.outcomes = store.outcomes.later)
  case step =>
    intro before after parent kept done
    obtain ⟨key, -, rfl⟩ := makeDirectory_cases done
    exact kept
  case start => exact fun requested => rfl

/-- All operations still to come in a store succeed. -/
def Succeeds (store : FileStore) : Prop := ∀ outcome ∈ store.outcomes, outcome = none

theorem Succeeds.next (succeeds : store.Succeeds) : store.outcomes.next = none := by
  unfold Outcomes.next
  cases outcomes : store.outcomes with
  | nil => rfl
  | cons outcome rest =>
      rw [succeeds outcome (outcomes ▸ List.mem_cons_self)]
      rfl

theorem Succeeds.later {later : FileStore} (succeeds : store.Succeeds)
    (outcomes : later.outcomes = store.outcomes.later) : later.Succeeds := by
  intro outcome listed
  rw [outcomes] at listed
  exact succeeds outcome (List.mem_of_mem_tail listed)

theorem Succeeds.writeWithDirectory (succeeds : store.Succeeds) (path text : String)
    (modified : Int) : (store.writeWithDirectory path text modified).2.Succeeds := by
  have created (parent : String) := succeeds.later (createDirectories_outcomes store parent)
  rcases store.writeWithDirectory_cases path text modified with
    same | ⟨parent, failure, made, refused, same⟩ | ⟨parent, made, done, same⟩
  · rw [same]
    exact succeeds.later (write_outcomes _ _ _ _)
  · have stillSucceeds := created parent
    rw [refused] at stillSucceeds
    rwa [same]
  · have stillSucceeds := created parent
    rw [done] at stillSucceeds
    rw [same]
    exact stillSucceeds.later (write_outcomes _ _ _ _)

end FileStore

end BrowserRelay
