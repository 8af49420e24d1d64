import BrowserRelay.Proofs.CompactText
import BrowserRelay.Proofs.ReadBack
import BrowserRelay.Proofs.LogFiles
import BrowserRelay.Proofs.WrittenFiles
import Mathlib.Data.Nat.Find

/-!
# Long payloads are cut between characters

Of a payload that is too long for the log, the longest beginning of its text is kept that leaves
room for three dots.  A search that goes down byte by byte finds where it ends, and never ends
inside a character.  What an event adds to the log is one line, and the event is read back from it
with the payload that was logged.
-/

namespace BrowserRelay

/-! ## Beginnings of a text -/

namespace Text

/-- Where a search that goes down from a number of bytes finds a boundary between characters. -/
def lastBoundary (text : String) : Nat → Nat
  | 0 => 0
  | bytes + 1 =>
      if String.Pos.Raw.IsValid text ⟨bytes + 1⟩ then bytes + 1 else lastBoundary text bytes

/-- The first bytes of a text, unless they end inside a character. -/
def beginning? (text : String) (bytes : Nat) : Option String :=
  if boundary : String.Pos.Raw.IsValid text ⟨bytes⟩ then
    some (text.sliceTo ⟨⟨bytes⟩, boundary⟩).copy
  else none

/-- A text begins with another that takes at most a number of bytes, and with no longer one. -/
structure IsLongestBeginning (bytes : Nat) (text beginning : String) : Prop where
  begins : ∃ rest, text = beginning ++ rest
  fits : beginning.utf8ByteSize ≤ bytes
  longest : ∀ other rest, text = other ++ rest → other.utf8ByteSize ≤ bytes →
    other.utf8ByteSize ≤ beginning.utf8ByteSize

variable {text : String} {bytes : Nat}

theorem utf8ByteSize_cons (character : Char) (rest : List Char) :
    (String.ofList (character :: rest)).utf8ByteSize =
      character.utf8Size + (String.ofList rest).utf8ByteSize := by
  rw [String.ofList_cons, String.utf8ByteSize_append, String.utf8ByteSize_singleton]

theorem lastBoundary_eq (text : String) (bytes : Nat) :
    lastBoundary text bytes =
      Nat.findGreatest (fun offset => String.Pos.Raw.IsValid text ⟨offset⟩) bytes := by
  induction bytes with
  | zero => rfl
  | succ bytes ih => rw [lastBoundary, Nat.findGreatest_succ, ih]

/-- The search ends at a boundary, if only at the start of the text. -/
theorem isValid_lastBoundary (text : String) (bytes : Nat) :
    String.Pos.Raw.IsValid text ⟨lastBoundary text bytes⟩ := by
  rw [lastBoundary_eq]
  exact Nat.findGreatest_spec (P := fun offset => String.Pos.Raw.IsValid text ⟨offset⟩)
    (Nat.zero_le bytes) String.Pos.Raw.isValid_zero

theorem lastBoundary_le (text : String) (bytes : Nat) : lastBoundary text bytes ≤ bytes := by
  rw [lastBoundary_eq]
  exact Nat.findGreatest_le bytes

theorem le_lastBoundary {offset : Nat} (le : offset ≤ bytes)
    (boundary : String.Pos.Raw.IsValid text ⟨offset⟩) : offset ≤ lastBoundary text bytes := by
  rw [lastBoundary_eq]
  exact Nat.le_findGreatest le boundary

theorem beginning?_of_isValid (boundary : String.Pos.Raw.IsValid text ⟨bytes⟩) :
    ∃ kept rest, beginning? text bytes = some kept ∧ text = kept ++ rest ∧
      kept.utf8ByteSize = bytes := by
  have splits := String.Pos.splits (⟨⟨bytes⟩, boundary⟩ : text.Pos)
  have size := congrArg String.Pos.Raw.byteIdx splits.offset_eq_rawEndPos
  exact ⟨_, _, dif_pos boundary, splits.eq_append, size.symm⟩

/-- What stands before the last boundary is all that fits. -/
theorem exists_longestBeginning (text : String) (bytes : Nat) :
    ∃ kept, beginning? text (lastBoundary text bytes) = some kept ∧
      IsLongestBeginning bytes text kept := by
  obtain ⟨kept, rest, found, split, size⟩ :=
    beginning?_of_isValid (isValid_lastBoundary text bytes)
  refine ⟨kept, found, ⟨rest, split⟩, ?_, ?_⟩
  · rw [size]
    exact lastBoundary_le text bytes
  · intro other behind begins fits
    rw [size]
    apply le_lastBoundary fits
    exact String.Pos.Raw.isValid_iff_exists_append.mpr ⟨other, behind, begins, rfl⟩

theorem IsLongestBeginning.unique {first second : String}
    (one : IsLongestBeginning bytes text first) (two : IsLongestBeginning bytes text second) :
    first = second := by
  obtain ⟨afterFirst, split⟩ := one.begins
  obtain ⟨afterSecond, splitToo⟩ := two.begins
  have size : first.utf8ByteSize = second.utf8ByteSize := by
    apply Nat.le_antisymm
    · exact two.longest first afterFirst split one.fits
    · exact one.longest second afterSecond splitToo two.fits
  -- Beginnings of one size are the same bytes.
  have same := congrArg String.toByteArray (split.symm.trans splitToo)
  rw [String.toByteArray_append, String.toByteArray_append] at same
  exact String.toByteArray_inj.mp (ByteArray.append_inj_left same size)

end Text

/-! ## What is kept of a payload -/

namespace LogEvent

variable {limit : Nat} {payload : Json}

theorem fitting_prefix (bytes : Nat) (characters : List Char) :
    fitting bytes characters <+: characters := by
  induction characters generalizing bytes with
  | nil => exact List.prefix_rfl
  | cons character rest ih =>
      rw [fitting]
      split
      · exact (List.prefix_cons_inj character).mpr (ih _)
      · exact List.nil_prefix

theorem utf8ByteSize_fitting_le (bytes : Nat) (characters : List Char) :
    (String.ofList (fitting bytes characters)).utf8ByteSize ≤ bytes := by
  induction characters generalizing bytes with
  | nil => simp [fitting]
  | cons character rest ih =>
      rw [fitting]
      split
      · have behind := ih (bytes - character.utf8Size)
        rw [Text.utf8ByteSize_cons]
        omega
      · simp

theorem utf8ByteSize_le_fitting {bytes : Nat} {front : List Char}
    (fits : (String.ofList front).utf8ByteSize ≤ bytes) (rest : List Char) :
    (String.ofList front).utf8ByteSize ≤
      (String.ofList (fitting bytes (front ++ rest))).utf8ByteSize := by
  -- Where a whole beginning fits, so does each of its characters when its turn comes.
  induction front generalizing bytes with
  | nil => simp
  | cons character front ih =>
      rw [Text.utf8ByteSize_cons] at fits
      have behind : (String.ofList front).utf8ByteSize ≤ (String.ofList
          (fitting (bytes - character.utf8Size) (front ++ rest))).utf8ByteSize := ih (by omega)
      rw [List.cons_append, fitting, if_pos (by omega), Text.utf8ByteSize_cons,
        Text.utf8ByteSize_cons]
      omega

theorem isLongestBeginning_fitting (bytes : Nat) (text : String) :
    Text.IsLongestBeginning bytes text (String.ofList (fitting bytes text.toList)) where
  begins := by
    obtain ⟨rest, split⟩ := fitting_prefix bytes text.toList
    refine ⟨String.ofList rest, ?_⟩
    rw [← String.ofList_append, split, String.ofList_toList]
  fits := utf8ByteSize_fitting_le bytes text.toList
  longest := by
    rintro other rest rfl fits
    rw [← String.ofList_toList (s := other)] at fits
    have least := utf8ByteSize_le_fitting fits rest.toList
    rwa [String.ofList_toList, ← String.toList_append] at least

theorem truncatePayload_short (short : payload.compact.utf8ByteSize ≤ limit) :
    truncatePayload limit payload = payload :=
  if_pos short

/-- The search for a boundary finds what is kept of a payload that is too long. -/
theorem truncatePayload_long (long : limit < payload.compact.utf8ByteSize) :
    ∃ kept, Text.beginning? payload.compact (Text.lastBoundary payload.compact (limit - 3)) =
        some kept ∧
      Text.IsLongestBeginning (limit - 3) payload.compact kept ∧
      truncatePayload limit payload = .string (kept ++ "...") := by
  obtain ⟨kept, found, longest⟩ := Text.exists_longestBeginning payload.compact (limit - 3)
  have same := longest.unique (isLongestBeginning_fitting (limit - 3) payload.compact)
  refine ⟨kept, found, longest, ?_⟩
  rw [truncatePayload, if_neg (Nat.not_le.mpr long), String.ofList_append, ← same]

/-- Where there is no room for more than three dots, they are all that is logged. -/
example : truncatePayload 2 (.bool true) = .string "..." := rfl

theorem readsBack_truncatePayload {depth : Nat}
    (readable : payload.ReadsBack depth ∨ limit < payload.compact.utf8ByteSize) :
    (truncatePayload limit payload).ReadsBack depth := by
  rcases Nat.lt_or_ge limit payload.compact.utf8ByteSize with long | short
  · obtain ⟨kept, -, -, cut⟩ := truncatePayload_long long
    rw [cut]
    exact Json.readsBack_string _ depth
  · rw [truncatePayload_short short]
    exact readable.resolve_right (Nat.not_lt.mpr short)

/-! ## The line of an event -/

theorem exists_parse_toJson (event : LogEvent) (back : event.payload.ReadsBack 126) :
    ∃ value, Json.parse event.toJson.compact = .ok value ∧
      value.get? "level" = some (.string event.level.name) ∧
      value.get? "event_type" = some (.string event.type) ∧
      value.get? "payload" = some event.payload := by
  refine ⟨_, Json.parse_compact_object (by simpa using back), ?_, ?_, ?_⟩
  all_goals simp [Json.get?_ofMembers, List.lookup_cons]

end LogEvent

/-! ## The log -/

namespace RunLogger

open LogEvent

variable {logger : RunLogger} {store : FileStore} {event : LogEvent} {modified : Nat}

/-- The line of an event is written behind what the log held. -/
theorem contents?_of_written? {written : FileStore} (tree : store.kind = .tree)
    (ordinary : System.isDevice (Path.key logger.path) = false)
    (writes : logger.written? store event modified = some written) :
    written.contents? logger.path =
      some (((store.file? (Path.key logger.path)).map StoredFile.text).getD "" ++
        event.line logger.payloadLimit) := by
  obtain ⟨-, found, device | ⟨-, files⟩⟩ := written?_cases tree writes
  · simp [ordinary] at device
  · rw [FileStore.contents?, FileStore.fileAt?, found]
    dsimp only
    rw [FileStore.file?, files, FileStore.lookup_putFile]
    rfl

/-- A payload whose text is short enough is logged as it is.  Of a longer one the text is kept as
far as it fits together with three dots; that is up to a boundary between characters, which the
search from the limit finds.  The line of an event holds no line feed, and if the payload is cut, or
is nested no deeper than can be read within the line and its numbers are read back, the level, the
type and the logged payload are read back from it.  An append puts that line and a line feed behind what the log held. -/
theorem payloads_are_cut_between_characters (logger : RunLogger) (event : LogEvent) :
    let limit := logger.payloadLimit
    let text := event.payload.compact
    let logged := truncatePayload limit event.payload
    (text.utf8ByteSize ≤ limit → logged = event.payload) ∧
      (limit < text.utf8ByteSize →
        ∃ kept, Text.beginning? text (Text.lastBoundary text (limit - 3)) = some kept ∧
          Text.IsLongestBeginning (limit - 3) text kept ∧ logged = .string (kept ++ "...") ∧
          (kept ++ "...").utf8ByteSize ≤ max limit 3) ∧
      (∃ line, event.line limit = line ++ "\n" ∧ '\n' ∉ line.toList ∧
        (event.payload.ReadsBack 126 ∨ limit < text.utf8ByteSize →
          ∃ value, Json.parse line = .ok value ∧
            value.get? "level" = some (.string event.level.name) ∧
            value.get? "event_type" = some (.string event.type) ∧
            value.get? "payload" = some logged)) ∧
      ∀ store after modified stamp, store.kind = .tree →
        System.isDevice (Path.key logger.path) = false →
        logger.append store event modified stamp = (.ok (), after) →
          ∃ written, logger.rotateIfGrown written stamp = (.ok (), after) ∧
            written.contents? logger.path =
              some (((store.file? (Path.key logger.path)).map StoredFile.text).getD "" ++
                event.line limit) := by
  intro limit text logged
  refine ⟨truncatePayload_short, fun long => ?_, ?_, ?_⟩
  · obtain ⟨kept, found, longest, cut⟩ := truncatePayload_long long
    refine ⟨kept, found, longest, cut, ?_⟩
    have fits := longest.fits
    have dots : "...".utf8ByteSize = 3 := rfl
    rw [String.utf8ByteSize_append, dots]
    omega
  · refine ⟨(event.truncate limit).toJson.compact, rfl, ?_, fun readable => ?_⟩
    · exact (Json.isUncontrolled_compact _).not_mem (by decide)
    · exact exists_parse_toJson (event.truncate limit) (readsBack_truncatePayload readable)
  · intro store after modified stamp tree ordinary done
    obtain ⟨written, writes, rotates⟩ := exists_written_of_append done
    exact ⟨written, rotates, contents?_of_written? tree ordinary writes⟩

/-- A log with little room for payloads. -/
def narrowLogger : RunLogger where
  path := "run.jsonl"
  payloadLimit := 10

/-- An event whose payload is written in characters of one to four bytes. -/
def wideEvent : LogEvent := ⟨.warning, "child.stderr", .string "é€😀"⟩

theorem narrowLogger_append :
    narrowLogger.append { kind := .tree } wideEvent 5 5 =
      (.ok (), { kind := .tree, files := [(["run.jsonl"], ⟨wideEvent.line 10, 5⟩)] }) := by
  have place (store : FileStore) :
      store.placeOf narrowLogger.path = .ok (.within [] "run.jsonl" false) := placeOf_smallLog store
  unfold append FileStore.append FileStore.rewriteFile FileStore.placeForFile rotateIfGrown
    FileStore.sizeAt FileStore.find
  simp only [place]
  rfl

/-- Seven bytes of the text end inside a character, of which nothing is kept; in a log with room for
one byte more the payload stays as it is. -/
theorem wide_character_is_left_out :
    let text := wideEvent.payload.compact
    text = "\"é€😀\"" ∧ wideEvent.payload.ReadsBack 126 ∧
      truncatePayload 11 wideEvent.payload = wideEvent.payload ∧
      ¬String.Pos.Raw.IsValid text ⟨7⟩ ∧ Text.IsLongestBeginning 7 text "\"é€" ∧
      ∃ line value, '\n' ∉ line.toList ∧ Json.parse line = .ok value ∧
        value.get? "payload" = some (.string "\"é€...") ∧
        ∃ written : FileStore, written.contents? "run.jsonl" = some (line ++ "\n") := by
  have long : narrowLogger.payloadLimit < wideEvent.payload.compact.utf8ByteSize := by decide
  have back : wideEvent.payload.ReadsBack 126 := Json.readsBack_string _ 126
  have logged : truncatePayload 10 wideEvent.payload = .string "\"é€..." := rfl
  have search : Text.beginning? wideEvent.payload.compact
      (Text.lastBoundary wideEvent.payload.compact 7) = some "\"é€" := by decide
  obtain ⟨short, -⟩ :=
    payloads_are_cut_between_characters { narrowLogger with payloadLimit := 11 } wideEvent
  obtain ⟨-, cuts, ⟨line, spelled, unbroken, reads⟩, adds⟩ :=
    payloads_are_cut_between_characters narrowLogger wideEvent
  obtain ⟨kept, found, longest, -, -⟩ := cuts long
  obtain rfl : kept = "\"é€" := Option.some.inj (found.symm.trans search)
  obtain ⟨value, read, -, -, payload⟩ := reads (.inl back)
  obtain ⟨written, -, held⟩ := adds _ _ 5 5 rfl (by decide) narrowLogger_append
  refine ⟨by decide, back, short (by decide), by decide, longest, line, value, unbroken, read,
    payload.trans (congrArg some logged), written, ?_⟩
  rw [← spelled]
  exact held

end RunLogger

end BrowserRelay
