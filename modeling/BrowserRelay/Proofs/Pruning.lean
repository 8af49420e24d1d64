import BrowserRelay.Proofs.NumberText
import BrowserRelay.Proofs.Scripts
import BrowserRelay.Proofs.WrittenFiles
import BrowserRelay.RunLog.Rotation
import Mathlib.Data.List.TakeWhile

/-!
# What pruning deletes

Pruning deletes files whose names look like those of rotations: the name of the log with digits
and hyphens in the middle.  The rotations of the log look so, and the log does not, but others do
that no rotation has made, and they are spared only if they fit into the budget together with all
that is younger.
-/

/-! ## Where the path of a file leads -/

namespace BrowserRelay

namespace Path

/-- A part of a path that says something. -/
def isTelling (piece : List Char) : Bool :=
  piece ≠ [] ∧ piece ≠ ['.']

theorem filter_pieces_drop_leadLength (characters : List Char) :
    (pieces (characters.drop (leadLength characters))).filter isTelling =
      (pieces characters).filter isTelling := by
  unfold leadLength
  split
  · simp [pieces, isTelling]
  · simp [pieces, isTelling]
  · simp [pieces, isTelling]
  · rfl

theorem components_eq (path : String) :
    components path = ([path.toList.take (leadLength path.toList)].filter (· ≠ []) ++
      (pieces path.toList).filter isTelling).map String.ofList := by
  have kept : ((pieces (path.toList.drop (leadLength path.toList))).filter isTelling).filter
      (· ≠ []) = (pieces path.toList).filter isTelling := by
    rw [filter_pieces_drop_leadLength]
    refine List.filter_eq_self.mpr fun piece listed => ?_
    have tells := (List.mem_filter.mp listed).2
    simp only [isTelling, decide_eq_true_eq] at tells ⊢
    exact tells.1
  unfold components
  dsimp only
  rw [← List.singleton_append, List.filter_append]
  exact congrArg (fun parts => List.map String.ofList
    ([path.toList.take (leadLength path.toList)].filter (· ≠ []) ++ parts)) kept

theorem names_eq (path : String) :
    (names path).filter (· ≠ ".") = ((pieces path.toList).filter isTelling).map String.ofList := by
  have dot (piece : List Char) : String.ofList piece = "." ↔ piece = ['.'] :=
    ⟨fun same => by simpa using congrArg String.toList same, fun same => same ▸ rfl⟩
  unfold names
  rw [List.filter_map, List.filter_filter]
  refine congrArg (List.map String.ofList) (List.filter_congr fun piece _ => ?_)
  simp [isTelling, dot, Bool.and_comm]

theorem getLast?_components {path name : String} (named : fileName? path = some name) :
    (components path).getLast? = some name := by
  unfold fileName? at named
  split at named
  · simp at named
  case h_2 part last =>
    split at named
    · simp at named
    · rw [last, named]

/-- The last part of a path, if it is the name of a file, is the last name that says something. -/
theorem getLast?_names {path name : String} (named : fileName? path = some name) :
    ((names path).filter (· ≠ ".")).getLast? = some name ∧ name ≠ ".." := by
  have lead : path.toList.take (leadLength path.toList) ∈ [[], ['/'], ['.']] := by
    unfold leadLength
    split <;> simp [*]
  unfold fileName? at named
  rw [components_eq, List.map_append, List.getLast?_append] at named
  rw [names_eq]
  cases last : (((pieces path.toList).filter isTelling).map String.ofList).getLast? with
  | none =>
    rw [last] at named
    simp only [List.mem_cons, List.not_mem_nil, or_false] at lead
    rcases lead with bare | root | dot
    · simp [bare] at named
    · simp [root] at named
    · simp [dot] at named
  | some part =>
    rw [last, Option.some_or] at named
    dsimp only at named
    split at named
    · simp at named
    case isFalse plain =>
      obtain rfl := Option.some.inj named
      exact ⟨rfl, fun up => plain (.inr (.inr up))⟩

end Path

namespace Place

variable {entryAt : FileKey → Entry}

theorem find_ofName_eq {directory key : FileKey} {name : String} {asDirectory : Bool}
    (found : (ofName directory name asDirectory).find entryAt = .ok key) (named : name ≠ "..") :
    key = if name = "." then directory else directory ++ [name] := by
  unfold ofName at found
  split at found
  case isTrue dot =>
    rw [if_pos dot]
    exact (Except.ok.inj found).symm
  case isFalse other =>
    rw [if_neg other]
    exact (find_within_eq_ok_iff.mp found).1.symm

/-- Dots lead nowhere else. -/
theorem follow_dots {names : List String} (dots : ∀ name ∈ names, name = ".") (asDirectory : Bool)
    (directory : FileKey) :
    follow entryAt asDirectory directory names = .ok (.reached directory) := by
  induction names with
  | nil => rfl
  | cons first rest ih =>
      obtain ⟨rfl, restDots⟩ := List.forall_mem_cons.mp dots
      cases rest with
      | nil => rfl
      | cons second rest =>
          rw [follow.eq_def]
          exact ih restDots

theorem getLast?_of_follow {directory key : FileKey} {names : List String} {asDirectory : Bool}
    {place : Place} {name : String} (named : name ≠ "..")
    (last : (names.filter (· ≠ ".")).getLast? = some name)
    (reached : follow entryAt asDirectory directory names = .ok place)
    (found : place.find entryAt = .ok key) : key.getLast? = some name := by
  induction names generalizing directory with
  | nil => simp at last
  | cons first rest ih =>
      rw [List.filter_cons] at last
      by_cases tells : rest.filter (· ≠ ".") = []
      · -- Only dots follow, so the first name is the one.
        rw [tells] at last
        obtain ⟨other, rfl⟩ : first ≠ "." ∧ first = name := by
          by_cases dot : first = "."
          · simp [dot] at last
          · exact ⟨dot, by simpa [dot] using last⟩
        have dots : ∀ name ∈ rest, name = "." := by simpa using tells
        cases rest with
        | nil =>
            obtain rfl := Except.ok.inj reached
            rw [find_ofName_eq found named, if_neg other, List.getLast?_concat]
        | cons second rest =>
            obtain ⟨next, step, further⟩ := follow_cons_eq_ok_iff.mp reached
            obtain rfl := Except.ok.inj ((follow_dots dots asDirectory next).symm.trans further)
            obtain rfl := Except.ok.inj found
            rw [find_ofName_eq step named, if_neg other, List.getLast?_concat]
      · have lastOfRest : (rest.filter (· ≠ ".")).getLast? = some name := by
          obtain ⟨head, others, more⟩ := List.exists_cons_of_ne_nil tells
          rw [more] at last ⊢
          split at last
          · rwa [List.getLast?_cons_cons] at last
          · exact last
        cases rest with
        | nil => simp at tells
        | cons second rest =>
            obtain ⟨next, -, further⟩ := follow_cons_eq_ok_iff.mp reached
            exact ih lastOfRest further

end Place

/-- What stands where a path leads has the name of its last part. -/
theorem FileStore.getLast?_of_find {store : FileStore} {path name : String} {key : FileKey}
    (found : store.find path = .ok key) (named : Path.fileName? path = some name) :
    key.getLast? = some name := by
  cases kind : store.kind with
  | shelf =>
      obtain ⟨-, rfl⟩ := (find_eq_ok_iff_of_shelf kind).mp found
      exact Path.getLast?_components named
  | tree =>
      obtain ⟨place, placed, leads⟩ := (find_eq_ok_iff_of_tree kind).mp found
      obtain ⟨last, proper⟩ := Path.getLast?_names named
      obtain ⟨-, -, -, follows⟩ := Place.ofPath_eq_ok_iff.mp placed
      exact Place.getLast?_of_follow proper last follows leads

end BrowserRelay

namespace BrowserRelay.Rotation

/-! ## Names -/

theorem dropBeginning?_eq_some_iff {beginning text rest : List Char} :
    dropBeginning? beginning text = some rest ↔ text = beginning ++ rest := by
  induction beginning generalizing text with
  | nil => simp [dropBeginning?]
  | cons expected beginning ih =>
      cases text with
      | nil => simp [dropBeginning?]
      | cons character text =>
          by_cases same : character = expected
          · simp [dropBeginning?, same, ih]
          · simp [dropBeginning?, same]

/-- The tag stands between the stem and the extension. -/
theorem tag?_eq_some_iff {log : LogName} {name : String} {tag : List Char} :
    tag? log name = some tag ↔
      name.toList = log.stem.toList ++ '.' :: tag ++ extensionText log.extension := by
  simp only [tag?, Option.bind_eq_some_iff, Option.map_eq_some_iff, dropBeginning?_eq_some_iff]
  constructor
  · rintro ⟨rest, begins, reversed, ends, rfl⟩
    have whole := congrArg List.reverse ends
    rw [List.reverse_reverse, List.reverse_append, List.reverse_reverse] at whole
    rw [begins, whole]
    simp
  · intro spelled
    refine ⟨tag ++ extensionText log.extension, ?_, tag.reverse, ?_, List.reverse_reverse tag⟩
    · rw [spelled]
      simp
    · rw [List.reverse_append]

/-- A name that is taken for that of a rotation: digits and hyphens stand in the middle of the
name of the log. -/
def LooksRotated (log : LogName) (name : String) : Prop :=
  ∃ tag : List Char, tag ≠ [] ∧ (∀ character ∈ tag, character.isDigit = true ∨ character = '-') ∧
    name.toList = log.stem.toList ++ '.' :: tag ++ extensionText log.extension

/-- A name that a rotation of the log can make. -/
def IsRotation (log : LogName) (name : String) : Prop :=
  ∃ stamp sequence, stamp < 2 ^ 128 ∧ sequence < 2 ^ 32 ∧ name = rotatedName log stamp sequence

theorem isRotatedName_iff {log : LogName} {name : String} :
    isRotatedName log name = true ↔ LooksRotated log name := by
  unfold isRotatedName LooksRotated
  simp only [← tag?_eq_some_iff]
  cases tag? log name with
  | none => simp
  | some tag => simp [isTagCharacter]

/-- What a log is moved to is taken for a rotation. -/
theorem looksRotated_rotatedName (log : LogName) (stamp sequence : Nat) :
    LooksRotated log (rotatedName log stamp sequence) := by
  refine ⟨Nat.toDigits 10 stamp ++ '-' :: sequenceText sequence, by simp, ?_, ?_⟩
  · intro character listed
    rcases List.mem_append.mp listed with inStamp | behind
    · exact .inl (Json.allDigits_natText stamp character inStamp)
    · rcases List.mem_cons.mp behind with hyphen | inSequence
      · exact .inr hyphen
      · rcases List.mem_append.mp inSequence with zero | digit
        · exact .inl (Json.allDigits_zeros _ character zero)
        · exact .inl (Json.allDigits_natText sequence character digit)
  · simp [rotatedName]

/-- Rotations are taken for rotations. -/
theorem IsRotation.looksRotated {log : LogName} {name : String} (rotation : IsRotation log name) :
    LooksRotated log name := by
  obtain ⟨stamp, sequence, -, -, rfl⟩ := rotation
  exact looksRotated_rotatedName log stamp sequence

/-- A rotation adds one hyphen to the name of the log. -/
theorem IsRotation.count_hyphen {log : LogName} {name : String} (rotation : IsRotation log name) :
    name.toList.count '-' =
      log.stem.toList.count '-' + 1 + (extensionText log.extension).count '-' := by
  obtain ⟨stamp, sequence, -, -, rfl⟩ := rotation
  have none {digits : List Char} (all : Json.AllDigits digits) : digits.count '-' = 0 :=
    List.count_eq_zero.mpr fun hyphen => by simpa using all '-' hyphen
  have inStamp : (Nat.toDigits 10 stamp).count '-' = 0 := none (Json.allDigits_natText stamp)
  have inSequence : (sequenceText sequence).count '-' = 0 :=
    none (Json.allDigits_append.mpr ⟨Json.allDigits_zeros _, Json.allDigits_natText sequence⟩)
  simp [rotatedName, inStamp, inSequence]
  omega

/-! ## The log itself -/

/-- The name of the log put together again. -/
def LogName.fileName (log : LogName) : String :=
  String.ofList (log.stem.toList ++ extensionText log.extension)

theorem LogName.not_looksRotated (log : LogName) : ¬ LooksRotated log log.fileName := by
  rintro ⟨tag, -, -, spelled⟩
  have lengths := congrArg List.length spelled
  simp [LogName.fileName] at lengths
  omega

theorem splitName_spelled {name stem : String} {extension : Option String}
    (split : Path.splitName name = (stem, extension)) :
    name.toList = stem.toList ++ extensionText extension := by
  unfold Path.splitName at split
  dsimp only at split
  split at split
  case isTrue dotted =>
    obtain ⟨rfl, rfl⟩ := Prod.mk.inj split
    have dot : '.' ∈ name.toList.reverse := by simpa using dotted.1
    have parts := List.takeWhile_append_dropWhile (p := (· ≠ '.')) (l := name.toList.reverse)
    have behind : name.toList.reverse.dropWhile (· ≠ '.') =
        '.' :: (name.toList.reverse.dropWhile (· ≠ '.')).drop 1 := by
      cases rest : name.toList.reverse.dropWhile (· ≠ '.') with
      | nil => simpa using List.dropWhile_eq_nil_iff.mp rest '.' dot
      | cons character others =>
          have stops := List.head?_dropWhile_not (· ≠ '.') name.toList.reverse
          rw [rest] at stops
          simpa using stops
    have whole := congrArg List.reverse parts
    rw [List.reverse_append, List.reverse_reverse, behind] at whole
    simpa [extensionText] using whole.symm
  case isFalse =>
    obtain ⟨rfl, rfl⟩ := Prod.mk.inj split
    exact (List.append_nil _).symm

theorem LogName.fileName_eq {path : String} {log : LogName}
    (named : LogName.ofPath? path = .ok log) : Path.fileName? path = some log.fileName := by
  unfold LogName.ofPath? at named
  cases name : Path.fileName? path with
  | none => simp [name] at named
  | some name =>
    rw [name] at named
    obtain rfl := Except.ok.inj named
    exact congrArg some (String.toList_injective
      ((splitName_spelled rfl).trans (String.toList_ofList).symm))

/-! ## How much is deleted -/

/-- The room that files take. -/
def sizes (siblings : List Sibling) : Nat :=
  (siblings.map fun sibling => sibling.file.size).foldr Nat.add 0

theorem sizes_cons (sibling : Sibling) (siblings : List Sibling) :
    sizes (sibling :: siblings) = sibling.file.size + sizes siblings :=
  rfl

theorem sizes_append (siblings more : List Sibling) :
    sizes (siblings ++ more) = sizes siblings + sizes more := by
  induction siblings with
  | nil => simp [sizes]
  | cons sibling siblings ih => rw [List.cons_append, sizes_cons, sizes_cons, ih, Nat.add_assoc]

/-- A file is deleted if it does not fit into the budget with the log and all behind it. -/
theorem mem_excess_iff {budget live : Nat} {siblings : List Sibling} {sibling : Sibling} :
    sibling ∈ excess budget (live + sizes siblings) siblings ↔
      ∃ before after, siblings = before ++ sibling :: after ∧
        budget < live + sizes (sibling :: after) := by
  induction siblings with
  | nil => simp [excess]
  | cons first rest ih =>
      have less : live + sizes (first :: rest) - first.file.size = live + sizes rest := by
        rw [sizes_cons]
        omega
      rw [excess, less]
      by_cases fits : live + sizes (first :: rest) ≤ budget
      · rw [if_pos fits]
        refine ⟨fun listed => by simp at listed, ?_⟩
        rintro ⟨before, after, split, large⟩
        have part : sizes (sibling :: after) ≤ sizes (first :: rest) := by
          rw [split, sizes_append]
          omega
        omega
      · rw [if_neg fits, List.mem_cons, ih]
        constructor
        · rintro (rfl | ⟨before, after, split, large⟩)
          · exact ⟨[], rest, rfl, Nat.not_le.mp fits⟩
          · exact ⟨first :: before, after, by rw [split, List.cons_append], large⟩
        · rintro ⟨before, after, split, large⟩
          rcases List.cons_eq_append_iff.mp split with ⟨rfl, same⟩ | ⟨before, rfl, behind⟩
          · exact .inl (List.cons.inj same).1
          · exact .inr ⟨before, after, behind, large⟩

theorem nameWithin?_eq_some_iff {directory key : FileKey} {name : String} :
    nameWithin? directory key = some name ↔ key = directory ++ [name] := by
  unfold nameWithin?
  constructor
  · intro within
    split at within
    case isTrue above =>
      rw [← above]
      exact (List.dropLast_append_getLast? name within).symm
    case isFalse => simp at within
  · rintro rfl
    simp

/-- What may be deleted are the files beside the log that look like its rotations. -/
theorem mem_siblingsOf_iff {store : FileStore} {log : LogName} {directory : FileKey}
    {sibling : Sibling} :
    sibling ∈ siblingsOf store log directory ↔
      (directory ++ [sibling.name], sibling.file) ∈ store.files ∧
        LooksRotated log sibling.name := by
  obtain ⟨name, file⟩ := sibling
  simp only [siblingsOf, List.mem_mergeSort, rotationsIn, List.mem_filterMap, Prod.exists,
    Option.bind_eq_some_iff, nameWithin?_eq_some_iff]
  constructor
  · rintro ⟨key, file, listed, other, rfl, found⟩
    split at found
    case isTrue rotated =>
      obtain ⟨rfl, rfl⟩ := Sibling.mk.inj (Option.some.inj found)
      exact ⟨listed, isRotatedName_iff.mp rotated⟩
    case isFalse => simp at found
  · rintro ⟨listed, looks⟩
    exact ⟨_, file, listed, name, rfl, if_pos (isRotatedName_iff.mpr looks)⟩

/-! ## Pruning -/

/-- Something else stands under a key than before, or nothing. -/
def ChangesAt (before later : FileStore) (key : FileKey) : Prop :=
  later.files.lookup key ≠ before.files.lookup key

theorem lookup_filter_keys (keys : List FileKey) (files : List (FileKey × StoredFile))
    (key : FileKey) :
    (files.filter fun (other, _) => !keys.contains other).lookup key =
      if key ∈ keys then none else files.lookup key := by
  induction files with
  | nil => simp
  | cons first files ih =>
      obtain ⟨other, file⟩ := first
      by_cases same : key = other
      · subst same
        by_cases gone : key ∈ keys
        · simpa [gone] using ih
        · simp [gone]
      · have apart : (key == other) = false := beq_eq_false_iff_ne.mpr same
        by_cases gone : other ∈ keys
        · simpa [gone, List.lookup_cons, apart] using ih
        · simpa [gone, List.lookup_cons, apart] using ih

/-- What pruning takes away. -/
theorem changesAt_iff {store : FileStore} {log : LogName} {directory : FileKey}
    {gone : List Sibling} (among : gone ⊆ siblingsOf store log directory) {key : FileKey} :
    ChangesAt store
        { store with
          files := store.files.filter fun (other, _) =>
            !(gone.map fun sibling => directory ++ [sibling.name]).contains other } key ↔
      ∃ sibling ∈ gone, key = directory ++ [sibling.name] := by
  unfold ChangesAt
  rw [lookup_filter_keys]
  constructor
  · intro changes
    by_cases listed : key ∈ gone.map fun sibling => directory ++ [sibling.name]
    · obtain ⟨sibling, isGone, same⟩ := List.mem_map.mp listed
      exact ⟨sibling, isGone, same.symm⟩
    · rw [if_neg listed] at changes
      exact absurd rfl changes
  · rintro ⟨sibling, isGone, rfl⟩
    have there := (mem_siblingsOf_iff.mp (among isGone)).1
    rw [if_pos (List.mem_map_of_mem isGone)]
    intro none
    have absent := List.lookup_eq_none_iff.mp none.symm _ there
    simp at absent

theorem excess_subset (budget total : Nat) (siblings : List Sibling) :
    excess budget total siblings ⊆ siblings := by
  induction siblings generalizing total with
  | nil => simp [excess]
  | cons first rest ih =>
      rw [excess]
      split
      · exact List.nil_subset _
      · exact List.cons_subset_cons first (ih _)

/-- Pruning changes nothing but files beside the log that look like its rotations, and never the
log.  It takes rotations only, if and only if every other file that looks like one fits into the
budget together with the log and all that is younger. -/
theorem foreign_files_are_spared_iff {store : FileStore} {path : String} {log : LogName}
    {directory : FileKey} (budget : Nat) (named : LogName.ofPath? path = .ok log)
    (found : store.directoryAt log.directory = .ok directory) :
    ∃ deleted pruned, enforceBudget store path budget = .ok (deleted, pruned) ∧
      pruned = { store with files := pruned.files } ∧
      (∀ key, store.find path = .ok key → ¬ ChangesAt store pruned key) ∧
      (∀ key, ChangesAt store pruned key →
        ∃ name, key = directory ++ [name] ∧ LooksRotated log name) ∧
      ((∀ key, ChangesAt store pruned key →
          ∃ name, key = directory ++ [name] ∧ IsRotation log name) ↔
        ∀ older sibling younger, siblingsOf store log directory = older ++ sibling :: younger →
          ¬ IsRotation log sibling.name →
            store.sizeAt path + sizes (sibling :: younger) ≤ budget) := by
  let siblings := siblingsOf store log directory
  let gone := excess budget (store.sizeAt path + sizes siblings) siblings
  have among : gone ⊆ siblings := excess_subset _ _ _
  have pruned : enforceBudget store path budget = .ok (gone.map fun sibling =>
      Path.join log.directory sibling.name,
      { store with
        files := store.files.filter fun (other, _) =>
          !(gone.map fun sibling => directory ++ [sibling.name]).contains other }) := by
    unfold enforceBudget
    rw [named]
    dsimp only
    rw [found]
    simp only [List.map_map, Function.comp_def]
    rfl
  refine ⟨_, _, pruned, rfl, ?_, ?_, ?_⟩
  · intro key leads changes
    obtain ⟨sibling, isGone, rfl⟩ := (changesAt_iff among).mp changes
    have last := FileStore.getLast?_of_find leads (LogName.fileName_eq named)
    rw [List.getLast?_concat] at last
    have looks := (mem_siblingsOf_iff.mp (among isGone)).2
    rw [Option.some.inj last] at looks
    exact log.not_looksRotated looks
  · intro key changes
    obtain ⟨sibling, isGone, rfl⟩ := (changesAt_iff among).mp changes
    exact ⟨sibling.name, rfl, (mem_siblingsOf_iff.mp (among isGone)).2⟩
  · simp only [changesAt_iff among]
    constructor
    · intro rotations older sibling younger split foreign
      by_contra large
      have isGone : sibling ∈ gone :=
        mem_excess_iff.mpr ⟨older, younger, split, Nat.not_le.mp large⟩
      obtain ⟨name, same, rotation⟩ := rotations _ ⟨sibling, isGone, rfl⟩
      have sameName : sibling.name = name := by simpa using same
      exact foreign (sameName ▸ rotation)
    · rintro spared key ⟨sibling, isGone, rfl⟩
      obtain ⟨older, younger, split, large⟩ := mem_excess_iff.mp isGone
      refine ⟨sibling.name, rfl, ?_⟩
      by_contra foreign
      exact absurd (spared older sibling younger split foreign) (Nat.not_le.mpr large)

deriving instance DecidableEq for LogName

/-- A log beside which somebody keeps a copy that is named after a day. -/
def datedCopy : FileStore where
  kind := .tree
  files := [(["log.2024-01-15.jsonl"], ⟨"kept", 1⟩), (["log.jsonl"], ⟨"live", 2⟩)]

/-- The copy is deleted, though no rotation has made it. -/
theorem dated_copy_is_lost :
    ∃ deleted pruned, enforceBudget datedCopy "log.jsonl" 3 = .ok (deleted, pruned) ∧
      ∃ key, ChangesAt datedCopy pruned key ∧
        ¬ ∃ name, key = [] ++ [name] ∧ IsRotation ⟨".", "log", some "jsonl"⟩ name := by
  have named : LogName.ofPath? "log.jsonl" = .ok ⟨".", "log", some "jsonl"⟩ := by decide
  have found : datedCopy.directoryAt "." = .ok [] := by
    have plain : ".".contains '\x00' = false := by simp
    unfold FileStore.directoryAt FileStore.find FileStore.placeOf Place.ofPath
    rw [plain]
    decide
  obtain ⟨deleted, pruned, enforced, -, -, -, spared⟩ :=
    foreign_files_are_spared_iff 3 named found
  refine ⟨deleted, pruned, enforced, ?_⟩
  by_contra! rotations
  let copy : Sibling := ⟨"log.2024-01-15.jsonl", ⟨"kept", 1⟩⟩
  have foreign : ¬ IsRotation ⟨".", "log", some "jsonl"⟩ copy.name := fun rotation => by
    have hyphens := rotation.count_hyphen
    revert hyphens
    decide
  have listed : copy ∈ siblingsOf datedCopy ⟨".", "log", some "jsonl"⟩ [] :=
    mem_siblingsOf_iff.mpr
      ⟨List.mem_cons_self, isRotatedName_iff.mp (by decide)⟩
  obtain ⟨older, younger, split⟩ := List.append_of_mem listed
  have fits := spared.mp rotations older copy younger split foreign
  have size : copy.file.size = 4 := by decide
  rw [sizes_cons, size] at fits
  omega

end BrowserRelay.Rotation
