import BrowserRelay.Proofs.Pruning

/-!
# Where paths lead in a tree

A walk through a tree either is refused or leads where the names of the path say, whatever stands
there.  The file of a log therefore stands in the directory of the log, under its own name.
-/

namespace BrowserRelay

/-! ## Parts of paths -/

namespace Path

theorem pieces_ne_nil (characters : List Char) : pieces characters ≠ [] := by
  cases characters with
  | nil => simp [pieces]
  | cons character rest =>
      unfold pieces
      split
      · simp
      · split <;> simp

theorem pieces_append_slash (first rest : List Char) :
    pieces (first ++ '/' :: rest) = pieces first ++ pieces rest := by
  induction first with
  | nil => simp [pieces]
  | cons character first ih =>
      rw [List.cons_append, pieces, pieces, ih]
      split
      · rfl
      · cases split : pieces first with
        | nil => exact absurd split (pieces_ne_nil first)
        | cons piece others => rfl

/-- The parts of a path that say something. -/
def tellingPieces (characters : List Char) : List (List Char) :=
  (pieces characters).filter isTelling

theorem tellingPieces_append_slash (first rest : List Char) :
    tellingPieces (first ++ '/' :: rest) = tellingPieces first ++ tellingPieces rest := by
  unfold tellingPieces
  rw [pieces_append_slash, List.filter_append]

/-- What stands in front of the last part of a path, which is given in reverse. -/
def aboveLast (reversed : List Char) : List Char :=
  (reversed.dropWhile (· ≠ '/')).drop 1

/-- What a path that is given in reverse says at its end. -/
def atEnd (reversed : List Char) : List Char :=
  (reversed.takeWhile (· ≠ '/')).reverse

theorem tellingPieces_reverse (reversed : List Char) :
    tellingPieces reversed.reverse =
      tellingPieces (aboveLast reversed).reverse ++ [atEnd reversed].filter isTelling := by
  have plain : '/' ∉ atEnd reversed := fun slash => by
    have holds := List.mem_takeWhile_imp (List.mem_reverse.mp slash)
    simp at holds
  have whole : reversed.takeWhile (· ≠ '/') ++ reversed.dropWhile (· ≠ '/') = reversed :=
    List.takeWhile_append_dropWhile
  unfold aboveLast
  cases rest : reversed.dropWhile (· ≠ '/') with
  | nil =>
      rw [rest, List.append_nil] at whole
      have same : reversed.reverse = atEnd reversed := by rw [atEnd, whole]
      rw [same, tellingPieces, pieces_of_no_slash plain]
      rfl
  | cons character above =>
      have stops := List.head?_dropWhile_not (· ≠ '/') reversed
      rw [rest] at stops
      obtain rfl : character = '/' := by simpa using stops
      have same : reversed.reverse = above.reverse ++ '/' :: atEnd reversed := by
        rw [← congrArg List.reverse whole, rest, atEnd]
        simp
      rw [same, tellingPieces_append_slash]
      congr 1
      rw [tellingPieces, pieces_of_no_slash plain]

theorem aboveLast_suffix (reversed : List Char) : aboveLast reversed <:+ reversed :=
  (List.drop_suffix 1 _).trans (List.dropWhile_suffix _)

theorem trimEnd_suffix (fuel : Nat) (reversed : List Char) : trimEnd fuel reversed <:+ reversed := by
  induction fuel generalizing reversed with
  | zero => exact List.suffix_refl reversed
  | succ fuel ih =>
      unfold trimEnd
      dsimp only
      split
      · exact (ih _).trans (aboveLast_suffix reversed)
      · exact List.suffix_refl reversed

theorem isTelling_atEnd {reversed : List Char} :
    isTelling (atEnd reversed) = false ↔
      reversed.takeWhile (· ≠ '/') = [] ∨ reversed.takeWhile (· ≠ '/') = ['.'] := by
  have dot : (reversed.takeWhile (· ≠ '/')).reverse = ['.'] ↔
      reversed.takeWhile (· ≠ '/') = ['.'] := by
    rw [List.reverse_eq_iff]
    rfl
  simp only [isTelling, atEnd, ne_eq, List.reverse_eq_nil_iff, dot, decide_eq_false_iff_not]
  tauto

/-- What is dropped from the end of a path says nothing. -/
theorem tellingPieces_trimEnd (fuel : Nat) (reversed : List Char) :
    tellingPieces (trimEnd fuel reversed).reverse = tellingPieces reversed.reverse := by
  induction fuel generalizing reversed with
  | zero => rfl
  | succ fuel ih =>
      unfold trimEnd
      dsimp only
      split
      case isTrue dropped =>
        have nothing := isTelling_atEnd.mpr dropped.2
        rw [tellingPieces_reverse reversed, List.filter_cons_of_neg (by simp [nothing]),
          List.filter_nil, List.append_nil]
        exact ih (aboveLast reversed)
      case isFalse => rfl

/-- Nothing more can be dropped from the end of a path after as many rounds as it has
characters. -/
theorem trimEnd_ends {fuel : Nat} {reversed : List Char} (enough : reversed.length ≤ fuel) :
    trimEnd fuel reversed = [] ∨ isTelling (atEnd (trimEnd fuel reversed)) = true := by
  induction fuel generalizing reversed with
  | zero => exact .inl (List.eq_nil_of_length_eq_zero (Nat.le_zero.mp enough))
  | succ fuel ih =>
      unfold trimEnd
      dsimp only
      split
      case isTrue dropped =>
        apply ih
        have shorter := (List.dropWhile_suffix (l := reversed) (· ≠ '/')).length_le
        have some := List.length_pos_iff.mpr dropped.1
        rw [List.length_drop]
        omega
      case isFalse kept =>
        by_cases empty : reversed = []
        · exact .inl empty
        · apply Or.inr
          by_contra nothing
          exact kept ⟨empty, isTelling_atEnd.mp (Bool.not_eq_true _ ▸ nothing)⟩

/-- The beginning of a path starts at the root if the path does. -/
theorem head?_lead {characters front : List Char}
    (begins : front <+: characters.drop (leadLength characters)) :
    (characters.take (leadLength characters) ++ front).head? = some '/' ↔
      characters.head? = some '/' := by
  obtain ⟨rest, whole⟩ := begins
  have same : characters.take (leadLength characters) ++ front ++ rest = characters := by
    rw [List.append_assoc, whole, List.take_append_drop]
  cases beginning : characters.take (leadLength characters) ++ front with
  | cons character others =>
      rw [← same, beginning]
      rfl
  | nil =>
      -- A path that starts at the root has a beginning that is no shorter than the root.
      cases characters with
      | nil => rfl
      | cons first others =>
          have other : first ≠ '/' := fun slash => by
            subst slash
            simp [leadLength] at beginning
          simp [other]

/-- A path without its beginning and the parts at its end that says as much as the beginning of
a path that is as long. -/
theorem tellingPieces_lead {characters front : List Char}
    (begins : front <+: characters.drop (leadLength characters)) :
    tellingPieces (characters.take (leadLength characters) ++ front) = tellingPieces front := by
  unfold leadLength at begins ⊢
  split at begins
  · simp [tellingPieces, pieces, isTelling]
  · obtain rfl : front = [] := by simpa using begins
    rfl
  · cases front with
    | nil => rfl
    | cons character front =>
        obtain ⟨rfl, -⟩ := List.cons_prefix_cons.mp begins
        simp [tellingPieces, pieces, isTelling]
  · simp

/-- The path of a file says what the path without its last part says, and then the name. -/
theorem exists_parent? {path name : String} (named : fileName? path = some name) :
    ∃ parent, parent? path = some parent ∧
      tellingPieces path.toList = tellingPieces parent.toList ++ [name.toList] ∧
      isAbsolute parent = isAbsolute path := by
  have lastName := (getLast?_names named).1
  rw [names_eq] at lastName
  let lead := path.toList.take (leadLength path.toList)
  let body := trimEnd path.toList.length (path.toList.drop (leadLength path.toList)).reverse
  let front := (trimEnd path.toList.length (aboveLast body)).reverse
  have told : tellingPieces path.toList = tellingPieces body.reverse := by
    rw [tellingPieces_trimEnd, List.reverse_reverse]
    exact (filter_pieces_drop_leadLength path.toList).symm
  have some : body ≠ [] := fun empty => by
    have nothing : tellingPieces path.toList = [] := by rw [told, empty]; rfl
    rw [tellingPieces] at nothing
    simp [nothing] at lastName
  have ends : isTelling (atEnd body) = true := by
    have enough : (path.toList.drop (leadLength path.toList)).reverse.length ≤
        path.toList.length := by simp
    exact (trimEnd_ends enough).resolve_left some
  have parts : tellingPieces path.toList =
      tellingPieces (aboveLast body).reverse ++ [atEnd body] := by
    rw [told, tellingPieces_reverse, List.filter_cons_of_pos ends, List.filter_nil]
  have last : atEnd body = name.toList := by
    change ((tellingPieces path.toList).map String.ofList).getLast? = _ at lastName
    rw [parts, List.map_append, List.map_singleton, List.getLast?_concat] at lastName
    rw [← Option.some.inj lastName, String.toList_ofList]
  have begins : front <+: path.toList.drop (leadLength path.toList) := by
    have suffix := (trimEnd_suffix path.toList.length (aboveLast body)).trans
      ((aboveLast_suffix body).trans (trimEnd_suffix _ _))
    rwa [← List.reverse_prefix, List.reverse_reverse] at suffix
  refine ⟨String.ofList (lead ++ front), ?_, ?_, ?_⟩
  · unfold parent?
    exact if_neg some
  · rw [parts, last, String.toList_ofList, tellingPieces_lead begins, tellingPieces_trimEnd]
  · unfold isAbsolute
    rw [String.toList_ofList]
    exact decide_eq_decide.mpr (head?_lead begins)

theorem no_slash_of_mem_pieces {characters piece : List Char} (listed : piece ∈ pieces characters) :
    '/' ∉ piece := by
  induction characters generalizing piece with
  | nil =>
      obtain rfl := List.mem_singleton.mp listed
      exact List.not_mem_nil
  | cons character rest ih =>
      unfold pieces at listed
      split at listed
      case isTrue =>
        rcases List.mem_cons.mp listed with rfl | behind
        · exact List.not_mem_nil
        · exact ih behind
      case isFalse noSlash =>
        cases split : pieces rest with
        | nil => exact absurd split (pieces_ne_nil rest)
        | cons first others =>
            rw [split] at listed ih
            rcases List.mem_cons.mp listed with rfl | behind
            · intro slash
              rcases List.mem_cons.mp slash with same | inFirst
              · exact noSlash same.symm
              · exact ih List.mem_cons_self inFirst
            · exact ih (List.mem_cons_of_mem first behind)

theorem no_slash_of_fileName? {path name : String} (named : fileName? path = some name) :
    '/' ∉ name.toList := by
  have last := List.mem_of_getLast? (getLast?_names named).1
  rw [names_eq] at last
  obtain ⟨piece, listed, rfl⟩ := List.mem_map.mp last
  rw [String.toList_ofList]
  exact no_slash_of_mem_pieces (List.mem_filter.mp listed).1

/-- A relative path is put behind the same text whatever it is. -/
theorem exists_join_front (base : String) :
    ∃ front : String, ∀ path, isAbsolute path = false → join base path = front ++ path := by
  unfold join
  cases last : base.toList.getLast? with
  | none => exact ⟨"", fun path relative => by simp [relative]⟩
  | some character =>
      by_cases slash : character = '/'
      · exact ⟨base, fun path relative => by simp [relative, slash]⟩
      · exact ⟨base ++ "/", fun path relative => by simp [relative]⟩

end Path

/-! ## Keys -/

namespace Place

variable {entryAt : FileKey → Entry}

/-- A walk in terms of the characters of the path. -/
theorem ofPath_eq (path : String) :
    ofPath entryAt path =
      if path.toList.contains '\x00' then .error .strayNul
      else if path = "" then .error .missing
      else if longestPath < path.utf8ByteSize then .error .nameTooLong
      else
        follow entryAt (Path.endsInSlash path) (if Path.isAbsolute path then root else [])
          (Path.names path) := by
  unfold ofPath
  simp

/-- Where a name leads from a directory. -/
def step (directory : FileKey) (name : String) : FileKey :=
  if name = "." then directory
  else if name = ".." then above directory
  else directory ++ [name]

/-- The key of what stands or is to stand at a place. -/
def key : Place → FileKey
  | within directory name _ => directory ++ [name]
  | reached directory => directory

theorem key_ofName (directory : FileKey) (name : String) (asDirectory : Bool) :
    (ofName directory name asDirectory).key = step directory name := by
  unfold ofName step
  split
  · rfl
  · split <;> rfl

theorem key_of_find {place : Place} {found : FileKey} (leads : place.find entryAt = .ok found) :
    found = place.key := by
  cases place with
  | reached directory => exact (Except.ok.inj leads).symm
  | within directory name asDirectory => exact (find_within_eq_ok_iff.mp leads).1.symm

theorem key_of_forFile {place : Place} {found : FileKey}
    (leads : place.forFile entryAt = .ok found) : found = place.key := by
  obtain ⟨directory, name, rfl, isKey, -⟩ := forFile_eq_ok_iff.mp leads
  exact isKey.symm

theorem key_of_follow {directory : FileKey} {names : List String} {asDirectory : Bool}
    {place : Place} (leads : follow entryAt asDirectory directory names = .ok place) :
    place.key = names.foldl step directory := by
  induction names generalizing directory with
  | nil => exact congrArg key (Except.ok.inj leads).symm
  | cons name names ih =>
      cases names with
      | nil =>
          obtain rfl := Except.ok.inj leads
          exact key_ofName directory name asDirectory
      | cons second rest =>
          obtain ⟨next, found, further⟩ := follow_cons_eq_ok_iff.mp leads
          rw [ih further, key_of_find found, key_ofName]
          rfl

theorem foldl_step_filter (names : List String) (directory : FileKey) :
    (names.filter (· ≠ ".")).foldl step directory = names.foldl step directory := by
  induction names generalizing directory with
  | nil => rfl
  | cons name names ih =>
      by_cases dot : name = "."
      · rw [List.filter_cons_of_neg (by simp [dot]), ih, List.foldl_cons, step, if_pos dot]
      · rw [List.filter_cons_of_pos (by simp [dot]), List.foldl_cons, List.foldl_cons, ih]

end Place

/-- The key to which the names of a path lead. -/
def Path.key (path : String) : FileKey :=
  (names path).foldl Place.step (if isAbsolute path then Place.root else [])

theorem Path.key_eq (path : String) :
    key path = ((tellingPieces path.toList).map String.ofList).foldl Place.step
      (if isAbsolute path then Place.root else []) := by
  rw [key, ← Place.foldl_step_filter, names_eq]
  rfl

/-- A file stands under its name in the directory that its path names without the last part. -/
theorem Rotation.LogName.key_eq {path : String} {log : LogName}
    (named : LogName.ofPath? path = .ok log) :
    Path.key path = Path.key log.directory ++ [log.fileName] := by
  have fileName := LogName.fileName_eq named
  obtain ⟨parent, above, parts, absolute⟩ := Path.exists_parent? fileName
  have directory : Path.key log.directory = Path.key parent := by
    unfold LogName.ofPath? at named
    rw [fileName, above] at named
    have spelled : (if parent = "" then "." else parent) = log.directory :=
      congrArg LogName.directory (Except.ok.inj named)
    rw [← spelled]
    split
    case isTrue empty =>
      subst empty
      decide
    case isFalse => rfl
  obtain ⟨last, proper⟩ := Path.getLast?_names fileName
  have notDot : log.fileName ≠ "." := by
    have listed := (List.mem_filter.mp (List.mem_of_getLast? last)).2
    simpa using listed
  rw [directory, Path.key_eq, Path.key_eq, parts, absolute, List.map_append, List.foldl_append,
    List.map_singleton, String.ofList_toList, List.foldl_cons, List.foldl_nil, Place.step,
    if_neg notDot, if_neg proper]

namespace FileStore

variable {store : FileStore} {path : String}

theorem key_of_placeOf {place : Place} (leads : store.placeOf path = .ok place) :
    place.key = Path.key path := by
  obtain ⟨-, -, -, follows⟩ := Place.ofPath_eq_ok_iff.mp leads
  exact Place.key_of_follow follows

theorem key_of_find {key : FileKey} (tree : store.kind = .tree) (leads : store.find path = .ok key) :
    key = Path.key path := by
  obtain ⟨place, placed, found⟩ := (find_eq_ok_iff_of_tree tree).mp leads
  rw [Place.key_of_find found, key_of_placeOf placed]

theorem key_of_placeForFile {key : FileKey} (tree : store.kind = .tree)
    (leads : store.placeForFile path = .ok key) : key = Path.key path := by
  obtain ⟨place, placed, inPlace, -⟩ := (placeForFile_eq_ok_iff_of_tree tree).mp leads
  rw [Place.key_of_forFile inPlace, key_of_placeOf placed]

theorem key_of_directoryAt {key : FileKey} (tree : store.kind = .tree)
    (leads : store.directoryAt path = .ok key) : key = Path.key path :=
  key_of_find tree (directoryAt_eq_ok_iff.mp leads).1

theorem key_of_movableKey {place : Place} {key : FileKey} (movable : movableKey place = .ok key) :
    key = place.key := by
  obtain ⟨directory, name, asDirectory, rfl, isKey, -⟩ := movableKey_eq_ok_iff.mp movable
  exact isKey.symm

end FileStore

end BrowserRelay
