import BrowserRelay.Proofs.Comments
import BrowserRelay.Proofs.ReadBack
import BrowserRelay.Proofs.Replaying

/-!
# What a script tells

Every value that stands in a script is a literal on one line, so the lines of a script are those
of its parts.  Where a literal ends is seen from the text itself.  Hence a script tells apart all
services, pages and sequences of steps.
-/

namespace BrowserRelay

/-! ## Steps and their values -/

/-- The values of a step are proper, and the reason why it is skipped is one line. -/
def ReplayStep.IsProper : ReplayStep → Prop
  | call _ params => params.IsProper
  | pause _ => True
  | skipped reason => '\n' ∉ reason.toList

theorem RecordedAction.isProper_replayStep {action : RecordedAction}
    (proper : ∀ payload ∈ action.payload, payload.IsProper) : action.replayStep.IsProper := by
  obtain ⟨kind, target, payload⟩ := action
  have given (otherwise : Json) (fine : otherwise.IsProper) : (payload.getD otherwise).IsProper :=
    Json.proper_getD proper fine
  have members (one other : String × Json) (first : one.2.IsProper) (second : other.2.IsProper) :
      (Json.ofMembers [one, other]).IsProper :=
    Json.isProper_ofMembers (by simp [first, second])
  cases kind with
  | navigate | screenshot => exact Json.isProper_ofMembers (by simpa using given _ .null)
  | fill | press => exact members _ _ (.string _) (given _ .null)
  | click | text | getElements | hover => exact Json.isProper_ofMembers (by simpa using .string _)
  | wait => trivial
  | snapshot => exact .object .nil (List.forall_mem_nil _)
  | toolCall =>
      cases target with
      | none => exact (by decide : '\n' ∉ "tool call without a tool name".toList)
      | some name => exact members _ _ (.string _) (given _ (.object .nil (List.forall_mem_nil _)))
  | passthrough =>
      cases target with
      | none => exact (by decide : '\n' ∉ "browser operation without a method".toList)
      | some method =>
          have params := given .null .null
          cases payload with
          | none => exact .object .nil (List.forall_mem_nil _)
          | some payload =>
              cases payload with
              | null => exact .object .nil (List.forall_mem_nil _)
              | _ => exact params

namespace Script

/-! ## Lines -/

theorem textOf_eq_intercalate (lines : List String) :
    textOf lines = ['\n'].intercalate (lines.map String.toList ++ [[]]) := by
  induction lines with
  | nil => rfl
  | cons line lines ih =>
      rw [List.map_cons, List.cons_append, List.intercalate_cons_of_ne_nil (by simp), ← ih]
      rfl

theorem splitOn_textOf {lines : List String} (whole : ∀ line ∈ lines, '\n' ∉ line.toList) :
    (textOf lines).splitOn '\n' = lines.map String.toList ++ [[]] := by
  rw [textOf_eq_intercalate]
  refine List.splitOn_intercalate _ ?_ (by simp)
  simpa [or_imp, forall_and] using whole

theorem textOf_inj {lines others : List String} (whole : ∀ line ∈ lines, '\n' ∉ line.toList)
    (otherWhole : ∀ line ∈ others, '\n' ∉ line.toList) (same : textOf lines = textOf others) :
    lines = others := by
  have split := congrArg (List.splitOn '\n') same
  rw [splitOn_textOf whole, splitOn_textOf otherWhole, List.append_cancel_right_eq] at split
  exact List.map_injective_iff.mpr (fun _ _ => String.toList_inj.mp) split

theorem newline_not_mem_literal (value : Json) : '\n' ∉ (literal value).toList :=
  (Json.isUncontrolled_compact value).not_mem (by decide)

theorem newline_not_mem_digits (value : Nat) : '\n' ∉ Nat.toDigits 10 value :=
  (Json.allDigits_natText value).isUncontrolled.not_mem (by decide)

theorem newline_not_mem_onOneLine (text : String) : '\n' ∉ (onOneLine text).toList := by
  rw [onOneLine, String.toList_ofList, List.mem_map]
  rintro ⟨character, -, newline⟩
  split at newline
  · exact absurd newline (by decide)
  · contradiction

theorem newline_not_mem_header {launch : LaunchRequest} {pageUrl line : String}
    (listed : line ∈ header launch pageUrl) : '\n' ∉ line.toList := by
  simp only [header, List.mem_cons, List.not_mem_nil, or_false] at listed
  rcases listed with rfl | rfl | rfl | rfl | rfl | rfl | rfl | rfl <;>
    simp [newline_not_mem_literal, newline_not_mem_digits]

theorem newline_not_mem_stepLines {step : ReplayStep} {line : String}
    (listed : line ∈ stepLines step) : '\n' ∉ line.toList := by
  cases step with
  | call method params =>
      simp only [stepLines, List.mem_cons, List.not_mem_nil, or_false] at listed
      rcases listed with rfl | rfl <;> simp [newline_not_mem_literal]
  | pause milliseconds =>
      obtain rfl := List.mem_singleton.mp listed
      simp [newline_not_mem_digits]
  | skipped reason =>
      obtain rfl := List.mem_singleton.mp listed
      simp [newline_not_mem_onOneLine]

theorem newline_not_mem_cons {text : List Char} {rest : List String} (own : '\n' ∉ text)
    (others : ∀ line ∈ rest, '\n' ∉ line.toList) :
    ∀ line ∈ String.ofList text :: rest, '\n' ∉ line.toList := by
  refine List.forall_mem_cons.mpr ⟨?_, others⟩
  rwa [String.toList_ofList]

theorem newline_not_mem_prelude : ∀ line ∈ prelude, '\n' ∉ line.toList := by
  unfold prelude
  repeat refine newline_not_mem_cons (by decide) ?_
  exact List.forall_mem_nil _

theorem newline_not_mem_epilogue : ∀ line ∈ epilogue, '\n' ∉ line.toList := by
  unfold epilogue
  repeat refine newline_not_mem_cons (by decide) ?_
  exact List.forall_mem_nil _

/-- No line of a script is broken by what stands in it. -/
theorem newline_not_mem_lines {launch : LaunchRequest} {pageUrl : String}
    {actions : List RecordedAction} :
    ∀ line ∈ lines launch pageUrl actions, '\n' ∉ line.toList := by
  intro line listed
  simp only [lines, List.mem_append, List.mem_flatMap] at listed
  rcases listed with ((inHeader | inPrelude) | ⟨action, -, inStep⟩) | inEpilogue
  · exact newline_not_mem_header inHeader
  · exact newline_not_mem_prelude line inPrelude
  · exact newline_not_mem_stepLines inStep
  · exact newline_not_mem_epilogue line inEpilogue

/-! ## What the lines tell -/

theorem literal_append_inj {value other : Json} {text otherText : String}
    (proper : value.IsProper) (otherProper : other.IsProper)
    (ends : Json.EndsNumber text.toList) (otherEnds : Json.EndsNumber otherText.toList)
    (same : literal value ++ text = literal other ++ otherText) :
    value = other ∧ text = otherText := by
  have characters := congrArg String.toList same
  simp only [String.toList_append, literal, Json.compact, String.toList_ofList] at characters
  obtain ⟨values, rests⟩ :=
    Json.compactChars_append_inj proper otherProper ends otherEnds characters
  exact ⟨values, String.toList_inj.mp rests⟩

theorem literal_inj {value other : Json} (proper : value.IsProper) (otherProper : other.IsProper)
    (same : literal value = literal other) : value = other :=
  have none : Json.EndsNumber "".toList := fun _ first => nomatch (first : none = some _)
  (literal_append_inj proper otherProper none none (congrArg (· ++ "") same)).1

theorem length_header (launch : LaunchRequest) (pageUrl : String) :
    (header launch pageUrl).length = 8 :=
  rfl

theorem header_inj {launch other : LaunchRequest} {pageUrl otherUrl : String}
    (same : header launch pageUrl = header other otherUrl) :
    launch.program = other.program ∧ launch.arguments = other.arguments ∧ pageUrl = otherUrl := by
  have strings (texts : List String) : (Json.ofStrings texts).IsProper := by
    refine .array fun item listed => ?_
    obtain ⟨text, -, rfl⟩ := List.mem_map.mp listed
    exact .string text
  simp only [header, List.cons.injEq, String.append_left_inj, String.append_right_inj, and_true,
    true_and] at same
  obtain ⟨page, program, arguments⟩ := same
  have listed := Json.array.inj (literal_inj (strings _) (strings _) arguments)
  exact ⟨Json.string.inj (literal_inj (.string _) (.string _) program),
    List.map_injective_iff.mpr (fun _ _ => Json.string.inj) listed,
    Json.string.inj (literal_inj (.string _) (.string _) page)⟩

/-- A character by which the first lines of steps are told apart. -/
def mark : ReplayStep → Char
  | .call _ _ => 'l'
  | .pause _ => 'u'
  | .skipped _ => 'e'

theorem exists_first_line (step : ReplayStep) :
    ∃ line more, stepLines step = line :: more ∧ line.toList[12]? = some (mark step) := by
  have marked {front : String} {found : Char} (text : String)
      (stands : front.toList[12]? = some found) : (front ++ text).toList[12]? = some found := by
    rw [String.toList_append, List.getElem?_append_left (List.getElem?_eq_some_iff.mp stands).1,
      stands]
  cases step with
  | call method params =>
      refine ⟨_, _, rfl, ?_⟩
      simp only [String.append_assoc]
      exact marked _ rfl
  | pause duration =>
      refine ⟨_, _, rfl, ?_⟩
      rw [String.append_assoc]
      exact marked _ rfl
  | skipped reason => exact ⟨_, _, rfl, marked _ rfl⟩

theorem call_line_inj {method other : String} {params otherParams : Json}
    (proper : params.IsProper) (otherProper : otherParams.IsProper)
    (same : "    await call(" ++ literal (.string method) ++ ", " ++ literal params ++ ");" =
      "    await call(" ++ literal (.string other) ++ ", " ++ literal otherParams ++ ");") :
    method = other ∧ params = otherParams := by
  simp only [String.append_assoc, String.append_right_inj] at same
  have comma (text : String) : Json.EndsNumber (", " ++ text).toList := by
    rw [String.toList_append]
    rintro _ ⟨rfl⟩
    decide
  obtain ⟨methods, rests⟩ :=
    literal_append_inj (.string _) (.string _) (comma _) (comma _) same
  simp only [String.append_right_inj, String.append_left_inj] at rests
  exact ⟨Json.string.inj methods, literal_inj proper otherProper rests⟩

theorem onOneLine_of_proper {text : String} (oneLine : '\n' ∉ text.toList) :
    onOneLine text = text := by
  have kept : text.toList.map (fun character => if character = '\n' then ' ' else character) =
      text.toList := by
    refine (List.map_congr_left fun character listed => if_neg ?_).trans (List.map_id _)
    rintro rfl
    exact oneLine listed
  rw [onOneLine, kept, String.ofList_toList]

/-- The first line of a step tells which step it is. -/
theorem stepLines_append_inj {step other : ReplayStep} (proper : step.IsProper)
    (otherProper : other.IsProper) {rest otherRest : List String}
    (same : stepLines step ++ rest = stepLines other ++ otherRest) :
    step = other ∧ rest = otherRest := by
  have heads := congrArg List.head? same
  have marks : mark step = mark other := by
    obtain ⟨line, _, lines, marked⟩ := exists_first_line step
    obtain ⟨otherLine, _, otherLines, otherMarked⟩ := exists_first_line other
    rw [lines, otherLines] at heads
    obtain rfl := Option.some.inj heads
    exact Option.some.inj (marked.symm.trans otherMarked)
  have first : step = other := by
    cases step with
    | call method params =>
        cases other with
        | call otherMethod otherParams =>
            obtain ⟨rfl, rfl⟩ := call_line_inj proper otherProper (Option.some.inj heads)
            rfl
        | _ => simp [mark] at marks
    | pause duration =>
        cases other with
        | pause otherDuration =>
            have line := Option.some.inj heads
            simp only [String.append_left_inj, String.append_right_inj] at line
            exact congrArg ReplayStep.pause (Json.toString_injective line)
        | _ => simp [mark] at marks
    | skipped reason =>
        cases other with
        | skipped otherReason =>
            have line := Option.some.inj heads
            rw [String.append_right_inj, onOneLine_of_proper proper,
              onOneLine_of_proper otherProper] at line
            exact congrArg ReplayStep.skipped line
        | _ => simp [mark] at marks
  subst first
  exact ⟨rfl, List.append_cancel_left same⟩

theorem flatMap_stepLines_inj {steps others : List ReplayStep}
    (proper : ∀ step ∈ steps, step.IsProper) (otherProper : ∀ step ∈ others, step.IsProper)
    (same : steps.flatMap stepLines = others.flatMap stepLines) : steps = others := by
  induction steps generalizing others with
  | nil =>
      cases others with
      | nil => rfl
      | cons other others =>
          obtain ⟨line, more, lines, -⟩ := exists_first_line other
          simp [lines] at same
  | cons step steps ih =>
      cases others with
      | nil =>
          obtain ⟨line, more, lines, -⟩ := exists_first_line step
          simp [lines] at same
      | cons other others =>
          obtain ⟨own, later⟩ := List.forall_mem_cons.mp proper
          obtain ⟨otherOwn, otherLater⟩ := List.forall_mem_cons.mp otherProper
          rw [List.flatMap_cons, List.flatMap_cons] at same
          obtain ⟨rfl, rests⟩ := stepLines_append_inj own otherOwn same
          rw [ih later otherLater rests]

theorem lines_eq (launch : LaunchRequest) (pageUrl : String) (actions : List RecordedAction) :
    lines launch pageUrl actions =
      header launch pageUrl ++ prelude ++
        (actions.map RecordedAction.replayStep).flatMap stepLines ++ epilogue := by
  rw [lines, List.flatMap_map]

/-- Between its line feeds a script has eight lines in front that name the page and the service,
the prelude, two lines for each call and one for each pause or skipped step in the order of the
actions, the epilogue, and nothing behind its last line feed.  Of serializable values, two scripts
are equal only if they start the same program with the same arguments, name the same page and
perform the same steps. -/
theorem script_determines_replay (launch : LaunchRequest) (pageUrl : String)
    (actions : List RecordedAction) :
    let steps := actions.map RecordedAction.replayStep
    (render launch pageUrl actions).toList.splitOn '\n' =
        (header launch pageUrl ++ prelude ++ steps.flatMap stepLines ++ epilogue).map
          String.toList ++ [[]] ∧
      (header launch pageUrl).length = 8 ∧
      (∀ step ∈ steps, (stepLines step).length = if step.isCall then 2 else 1) ∧
      ∀ (other : LaunchRequest) (otherUrl : String) (others : List RecordedAction),
        (∀ action ∈ actions ++ others, ∀ payload ∈ action.payload, payload.IsProper) →
        render launch pageUrl actions = render other otherUrl others →
          launch.program = other.program ∧ launch.arguments = other.arguments ∧
            pageUrl = otherUrl ∧ steps = others.map RecordedAction.replayStep := by
  intro steps
  refine ⟨?_, length_header launch pageUrl, fun step _ => ?_,
    fun other otherUrl others proper same => ?_⟩
  · rw [render_toList, splitOn_textOf newline_not_mem_lines, lines_eq]
  · cases step <;> rfl
  · have text := congrArg String.toList same
    rw [render_toList, render_toList] at text
    have whole := textOf_inj newline_not_mem_lines newline_not_mem_lines text
    rw [lines_eq, lines_eq] at whole
    simp only [List.append_assoc] at whole
    obtain ⟨headers, rest⟩ := List.append_inj whole
      ((length_header launch pageUrl).trans (length_header other otherUrl).symm)
    have middle := List.append_cancel_right (List.append_cancel_left rest)
    obtain ⟨programs, arguments, pages⟩ := header_inj headers
    have properSteps (listed : List RecordedAction)
        (payloads : ∀ action ∈ listed, ∀ payload ∈ action.payload, payload.IsProper) :
        ∀ step ∈ listed.map RecordedAction.replayStep, step.IsProper := by
      intro step taken
      obtain ⟨action, found, rfl⟩ := List.mem_map.mp taken
      exact RecordedAction.isProper_replayStep (payloads action found)
    obtain ⟨own, othersOwn⟩ := List.forall_mem_append.mp proper
    exact ⟨programs, arguments, pages,
      flatMap_stepLines_inj (properSteps _ own) (properSteps _ othersOwn) middle⟩

/-- Parameters that are null and missing ones are performed by the same step and make the same
script.  A method that is written like the end of a call and another line makes a script that
does not pass for one of two steps. -/
theorem scripts_of_one_step :
    let launch : LaunchRequest := ⟨"npx", [], none⟩
    let missing : RecordedAction := ⟨.passthrough, "page/a", none⟩
    let null : RecordedAction := ⟨.passthrough, "page/a", some .null⟩
    let spliced : RecordedAction := ⟨.passthrough, "page/a\", null);\n    await pause(5", none⟩
    let wait : RecordedAction := ⟨.wait, none, some (.ofNat 5)⟩
    render launch "" [missing] = render launch "" [null] ∧
      [missing].map RecordedAction.replayStep = [null].map RecordedAction.replayStep ∧
      render launch "" [spliced] ≠ render launch "" [missing, wait] := by
  intro launch missing null spliced wait
  have proper : (Json.ofNat 5).IsProper := .number ⟨by decide, by decide⟩
  have same : render launch "" [missing] = render launch "" [null] := by
    unfold render
    rw [lines_eq, lines_eq]
    rfl
  obtain ⟨-, -, -, told⟩ := script_determines_replay launch "" [missing]
  obtain ⟨-, -, -, steps⟩ :=
    told launch "" [null] (by simp [missing, null, Json.IsProper.null]) same
  refine ⟨same, steps, fun alike => ?_⟩
  obtain ⟨-, -, -, toldSpliced⟩ := script_determines_replay launch "" [spliced]
  obtain ⟨-, -, -, others⟩ :=
    toldSpliced launch "" [missing, wait] (by simp [spliced, missing, wait, proper]) alike
  exact absurd (congrArg List.length others) (by decide)

end Script

end BrowserRelay
