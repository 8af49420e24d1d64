import BrowserRelay.Proofs.CompactText
import BrowserRelay.Recording.Script
import Mathlib.Data.List.TakeWhile

/-!
# Comments in replay scripts

A comment in a script reaches to the next line terminator.  The texts of skipped steps have none,
and the quoted address of the page has two at most: the separators U+2028 and U+2029, which are
quoted as they are.  All comments end with their lines if and only if the address has neither.
-/

namespace BrowserRelay.Script

/-! ## Lines of a script -/

/-- The characters that end a comment of one line. -/
def isLineTerminator (character : Char) : Bool :=
  character ∈ ['\n', '\r', '\u2028', '\u2029']

/-- A line of nothing but a comment. -/
def isComment (line : String) : Bool :=
  (line.toList.dropWhile (· = ' ')).take 2 = ['/', '/']

/-- Lines one after the other, each with the line feed behind it. -/
def textOf (lines : List String) : List Char :=
  lines.flatMap fun line => line.toList ++ ['\n']

/-- The text up to where a comment at its start ends. -/
def commentReach (text : List Char) : List Char :=
  text.takeWhile fun character => !isLineTerminator character

theorem textOf_append (first second : List String) :
    textOf (first ++ second) = textOf first ++ textOf second :=
  List.flatMap_append

theorem intercalate_newline {lines : List String} (some : lines ≠ []) :
    ("\n".intercalate lines ++ "\n").toList = textOf lines := by
  induction lines with
  | nil => exact absurd rfl some
  | cons line rest ih =>
      cases rest with
      | nil => simp [textOf]
      | cons second rest =>
          rw [String.intercalate_cons_of_ne_nil (List.cons_ne_nil second rest), String.append_assoc,
            String.toList_append, ih (List.cons_ne_nil second rest)]
          simp [textOf]

theorem render_toList (launch : LaunchRequest) (pageUrl : String)
    (actions : List RecordedAction) :
    (render launch pageUrl actions).toList = textOf (lines launch pageUrl actions) :=
  intercalate_newline (by simp [lines, header])

/-- A comment reaches to the end of its line if there is no terminator in it. -/
theorem commentReach_line_iff (comment : String) (after : List String) :
    commentReach (textOf (comment :: after)) = comment.toList ↔
      ∀ character ∈ comment.toList, isLineTerminator character = false := by
  have split : textOf (comment :: after) = comment.toList ++ '\n' :: textOf after := by
    simp [textOf]
  rw [split, commentReach]
  constructor
  · intro whole character listed
    rw [← whole] at listed
    simpa using List.mem_takeWhile_imp listed
  · intro plain
    rw [List.takeWhile_append_of_pos (by simpa using plain)]
    simp [isLineTerminator]

/-! ## Comments -/

/-- Whether a line is a comment shows in its first characters that are no blanks. -/
theorem isComment_append {front : String} {first second : Char} {rest : List Char}
    (begins : front.toList.dropWhile (· = ' ') = first :: second :: rest) (text : String) :
    isComment (front ++ text) = isComment front := by
  have behind : (front ++ text).toList.dropWhile (· = ' ') =
      front.toList.dropWhile (· = ' ') ++ text.toList := by
    rw [String.toList_append, List.dropWhile_append, if_neg (by simp [begins])]
  rw [isComment, isComment, behind, begins]
  rfl

/-- A line of code in front of others. -/
theorem not_isComment_cons {text : List Char} {rest : List String}
    (code : (text.dropWhile (· = ' ')).take 2 ≠ ['/', '/'])
    (others : ∀ line ∈ rest, isComment line = false) :
    ∀ line ∈ String.ofList text :: rest, isComment line = false := by
  refine List.forall_mem_cons.mpr ⟨?_, others⟩
  rw [isComment, String.toList_ofList]
  exact decide_eq_false code

theorem not_isComment_prelude : ∀ line ∈ prelude, isComment line = false := by
  unfold prelude
  repeat refine not_isComment_cons (by decide) ?_
  exact List.forall_mem_nil _

theorem not_isComment_epilogue : ∀ line ∈ epilogue, isComment line = false := by
  unfold epilogue
  repeat refine not_isComment_cons (by decide) ?_
  exact List.forall_mem_nil _

/-- The comments of a step say why it is skipped. -/
theorem isComment_stepLines {step : ReplayStep} {line : String} (listed : line ∈ stepLines step)
    (comment : isComment line = true) :
    ∃ reason, step = .skipped reason ∧ line = "    // skipped: " ++ onOneLine reason := by
  cases step with
  | call method params =>
      have await (text : String) : isComment ("    await call(" ++ text) = false :=
        isComment_append rfl text
      have log (text : String) : isComment ("    console.log(" ++ text) = false :=
        isComment_append rfl text
      simp only [stepLines, List.mem_cons, List.not_mem_nil, or_false] at listed
      rcases listed with rfl | rfl
      · simp [String.append_assoc, await] at comment
      · simp [String.append_assoc, log] at comment
  | pause milliseconds =>
      have await (text : String) : isComment ("    await pause(" ++ text) = false :=
        isComment_append rfl text
      simp only [stepLines, List.mem_cons, List.not_mem_nil, or_false] at listed
      subst listed
      simp [String.append_assoc, await] at comment
  | skipped reason => exact ⟨reason, rfl, by simpa [stepLines] using listed⟩

theorem replayStep_skipped {action : RecordedAction} {reason : String}
    (skipped : action.replayStep = .skipped reason) :
    reason = "tool call without a tool name" ∨
      reason = "browser operation without a method" := by
  unfold RecordedAction.replayStep at skipped
  dsimp only at skipped
  split at skipped <;> try simp at skipped
  · split at skipped
    · exact .inl (ReplayStep.skipped.inj skipped).symm
    · simp at skipped
  · split at skipped
    · exact .inr (ReplayStep.skipped.inj skipped).symm
    · simp at skipped

/-- The comment that names the page. -/
def pageComment (pageUrl : String) : String :=
  "// Page when generated: " ++ literal (.string pageUrl)

theorem pageComment_toList (pageUrl : String) :
    (pageComment pageUrl).toList =
      "// Page when generated: ".toList ++ Json.quoted pageUrl := by
  have address : (literal (.string pageUrl)).toList = Json.quoted pageUrl := by
    rw [literal, Json.compact, String.toList_ofList, Json.compactChars]
  unfold pageComment
  rw [String.toList_append, address]

theorem pageComment_mem (launch : LaunchRequest) (pageUrl : String)
    (actions : List RecordedAction) : pageComment pageUrl ∈ lines launch pageUrl actions := by
  have second : pageComment pageUrl ∈ header launch pageUrl :=
    List.mem_cons_of_mem _ List.mem_cons_self
  have first := List.mem_append_left prelude second
  exact List.mem_append_left _ (List.mem_append_left _ first)

theorem isComment_pageComment (pageUrl : String) : isComment (pageComment pageUrl) = true := by
  have front : isComment "// Page when generated: " = true := by decide
  have same : isComment (pageComment pageUrl) = isComment "// Page when generated: " :=
    isComment_append rfl (literal (.string pageUrl))
  exact same.trans front

theorem isComment_header {launch : LaunchRequest} {pageUrl line : String}
    (listed : line ∈ header launch pageUrl) (comment : isComment line = true) :
    line = "// Replay script generated by scriptgen." ∨ line = pageComment pageUrl := by
  have command (text : String) : isComment ("const SERVICE_COMMAND = " ++ text) = false :=
    isComment_append rfl text
  have arguments (text : String) : isComment ("const SERVICE_ARGS = " ++ text) = false :=
    isComment_append rfl text
  have timeout (text : String) : isComment ("const CALL_TIMEOUT_MS = " ++ text) = false :=
    isComment_append rfl text
  simp only [header, List.mem_cons, List.not_mem_nil, or_false] at listed
  rcases listed with rfl | rfl | rfl | rfl | rfl | rfl | rfl | rfl
  · exact .inl rfl
  · exact .inr rfl
  · exact absurd comment (by decide)
  · exact absurd comment (by decide)
  · simp [String.append_assoc, command] at comment
  · simp [String.append_assoc, arguments] at comment
  · simp [String.append_assoc, timeout] at comment
  · exact absurd comment (by decide)

theorem not_isLineTerminator_of_all {text : List Char}
    (plain : (text.all fun character => !isLineTerminator character) = true) :
    ∀ character ∈ text, isLineTerminator character = false := by
  intro character listed
  simpa using List.all_eq_true.mp plain character listed

/-- The comments of a script are that of the page and others without terminators. -/
theorem comment_cases {launch : LaunchRequest} {pageUrl : String}
    {actions : List RecordedAction} {line : String}
    (listed : line ∈ lines launch pageUrl actions) (comment : isComment line = true) :
    line = pageComment pageUrl ∨
      ∀ character ∈ line.toList, isLineTerminator character = false := by
  simp only [lines, List.mem_append, List.mem_flatMap] at listed
  rcases listed with ((inHeader | inPrelude) | ⟨action, -, inStep⟩) | inEpilogue
  · rcases isComment_header inHeader comment with rfl | page
    · exact .inr (not_isLineTerminator_of_all (by decide))
    · exact .inl page
  · simp [not_isComment_prelude line inPrelude] at comment
  · obtain ⟨reason, skipped, rfl⟩ := isComment_stepLines inStep comment
    rcases replayStep_skipped skipped with rfl | rfl
    · exact .inr (not_isLineTerminator_of_all (by decide))
    · exact .inr (not_isLineTerminator_of_all (by decide))
  · simp [not_isComment_epilogue line inEpilogue] at comment

/-- What could end the comment of the page are separators in the address. -/
theorem isLineTerminator_pageComment {pageUrl : String} {character : Char}
    (listed : character ∈ (pageComment pageUrl).toList)
    (ends : isLineTerminator character = true) :
    (character = '\u2028' ∨ character = '\u2029') ∧ character ∈ pageUrl.toList := by
  rw [pageComment_toList, List.mem_append] at listed
  rcases listed with inFront | quoted
  · have plain : ∀ character ∈ "// Page when generated: ".toList,
        isLineTerminator character = false := not_isLineTerminator_of_all (by decide)
    simp [plain character inFront] at ends
  · have solid := Json.isUncontrolled_quoted pageUrl character quoted
    simp only [isLineTerminator, List.mem_cons, List.not_mem_nil, or_false,
      decide_eq_true_eq] at ends
    rcases ends with rfl | rfl | separator
    · exact absurd solid (by decide)
    · exact absurd solid (by decide)
    · refine ⟨separator, (Json.mem_quoted_iff ?_).mp quoted⟩
      rcases separator with rfl | rfl <;> decide

theorem pageComment_plain_iff (pageUrl : String) :
    (∀ character ∈ (pageComment pageUrl).toList, isLineTerminator character = false) ↔
      '\u2028' ∉ pageUrl.toList ∧ '\u2029' ∉ pageUrl.toList := by
  have quotedAsIs {separator : Char} (beyond : 0x80 ≤ separator.toNat)
      (present : separator ∈ pageUrl.toList) : separator ∈ (pageComment pageUrl).toList := by
    rw [pageComment_toList]
    exact List.mem_append_right _ ((Json.mem_quoted_iff beyond).mpr present)
  constructor
  · intro plain
    constructor
    · intro present
      exact absurd (plain _ (quotedAsIs (by decide) present)) (by decide)
    · intro present
      exact absurd (plain _ (quotedAsIs (by decide) present)) (by decide)
  · rintro ⟨noLine, noParagraph⟩ character listed
    by_contra ends
    obtain ⟨rfl | rfl, present⟩ :=
      isLineTerminator_pageComment listed (Bool.not_eq_false _ ▸ ends)
    · exact noLine present
    · exact noParagraph present

/-- Whatever was recorded, and from whatever page, no comment has a line break in it.  All
comments of the script reach to the ends of their lines if and only if the address of the page
has none of the separators U+2028 and U+2029. -/
theorem comments_end_with_their_lines_iff (launch : LaunchRequest) (pageUrl : String)
    (actions : List RecordedAction) :
    (∀ comment ∈ lines launch pageUrl actions, isComment comment = true →
      '\n' ∉ comment.toList ∧ '\r' ∉ comment.toList) ∧
    ((∀ before comment after, lines launch pageUrl actions = before ++ comment :: after →
        isComment comment = true →
        commentReach ((render launch pageUrl actions).toList.drop (textOf before).length) =
          comment.toList) ↔
      '\u2028' ∉ pageUrl.toList ∧ '\u2029' ∉ pageUrl.toList) := by
  have reaches {before after : List String} {comment : String}
      (split : lines launch pageUrl actions = before ++ comment :: after) :
      commentReach ((render launch pageUrl actions).toList.drop (textOf before).length) =
          comment.toList ↔
        ∀ character ∈ comment.toList, isLineTerminator character = false := by
    rw [render_toList, split, textOf_append, List.drop_left]
    exact commentReach_line_iff comment after
  refine ⟨fun comment listed isOne => ?_, ?_⟩
  · rcases comment_cases listed isOne with rfl | plain
    · have breaks {character : Char} (ends : isLineTerminator character = true)
          (other : character ≠ '\u2028' ∧ character ≠ '\u2029') :
          character ∉ (pageComment pageUrl).toList := fun listed =>
        (isLineTerminator_pageComment listed ends).1.elim other.1 other.2
      exact ⟨breaks (by decide) (by decide), breaks (by decide) (by decide)⟩
    · exact ⟨fun feed => absurd (plain _ feed) (by decide),
        fun carriage => absurd (plain _ carriage) (by decide)⟩
  · rw [← pageComment_plain_iff]
    constructor
    · intro whole
      obtain ⟨before, after, split⟩ :=
        List.append_of_mem (pageComment_mem launch pageUrl actions)
      exact (reaches split).mp (whole before _ after split (isComment_pageComment pageUrl))
    · intro plain before comment after split isOne
      refine (reaches split).mpr ?_
      have listed : comment ∈ lines launch pageUrl actions := by simp [split]
      rcases comment_cases listed isOne with rfl | others
      · exact plain
      · exact others

end BrowserRelay.Script
