import BrowserRelay.Proofs.History
import BrowserRelay.Proofs.NumberText

/-!
# The files of the scripts

The file of a script is named after the reading of the clock in milliseconds.  Scripts that are
saved at different readings are saved in different files, and scripts that are saved at the same
reading in the same.
-/

namespace BrowserRelay

/-! ## Last parts of paths -/

namespace Path

theorem pieces_of_no_slash {characters : List Char} (plain : '/' ∉ characters) :
    pieces characters = [characters] := by
  induction characters with
  | nil => rfl
  | cons character rest ih =>
      obtain ⟨other, plainRest⟩ := not_or.mp (mt List.mem_cons.mpr plain)
      have noSlash : character ≠ '/' := Ne.symm other
      rw [pieces, if_neg noSlash, ih plainRest]

/-- What follows without a slash belongs to the last piece. -/
theorem exists_pieces_append (first : List Char) :
    ∃ above last, ∀ rest, '/' ∉ rest → pieces (first ++ rest) = above ++ [last ++ rest] := by
  induction first with
  | nil => exact ⟨[], [], fun rest plain => pieces_of_no_slash plain⟩
  | cons character first ih =>
      obtain ⟨above, last, split⟩ := ih
      by_cases slash : character = '/'
      · refine ⟨[] :: above, last, fun rest plain => ?_⟩
        rw [List.cons_append, pieces, if_pos slash, split rest plain, List.cons_append]
      · cases above with
        | nil =>
            refine ⟨[], character :: last, fun rest plain => ?_⟩
            rw [List.cons_append, pieces, if_neg slash, split rest plain]
            rfl
        | cons piece above =>
            refine ⟨(character :: piece) :: above, last, fun rest plain => ?_⟩
            rw [List.cons_append, pieces, if_neg slash, split rest plain]
            rfl

theorem leadLength_cons_cons (first second : Char) (rest : List Char) :
    leadLength (first :: second :: rest) =
      if first = '/' ∨ first = '.' ∧ second = '/' then 1 else 0 := by
  unfold leadLength
  split <;> simp_all

/-- Whether a path starts at the root or at a dot does not depend on what follows a dash. -/
theorem exists_leadLength_append (first : List Char) :
    ∃ lead, lead ≤ first.length ∧ ∀ rest, leadLength (first ++ '-' :: rest) = lead := by
  rcases first with _ | ⟨character, _ | ⟨next, first⟩⟩
  · exact ⟨0, Nat.le_refl 0, fun rest => rfl⟩
  · exact ⟨_, by split <;> simp, fun rest => leadLength_cons_cons character '-' rest⟩
  · exact ⟨_, by split <;> simp, fun rest => leadLength_cons_cons character next _⟩

/-- What follows a dash, without a slash, is the end of the last part of a path. -/
theorem exists_getLast?_components (first : List Char) :
    ∃ last : List Char, ∀ rest, rest ≠ [] → '/' ∉ rest →
      (components (String.ofList (first ++ '-' :: rest))).getLast? =
        some (String.ofList (last ++ '-' :: rest)) := by
  obtain ⟨lead, short, leads⟩ := exists_leadLength_append first
  obtain ⟨above, last, split⟩ := exists_pieces_append (first.drop lead)
  refine ⟨last, fun rest nonempty plain => ?_⟩
  have plainTail : '/' ∉ '-' :: rest := by simpa using plain
  have parts : pieces ((first ++ '-' :: rest).drop lead) = above ++ [last ++ '-' :: rest] := by
    rw [List.drop_append_of_le_length short]
    exact split _ plainTail
  have isPart : last ++ '-' :: rest ≠ [] ∧ last ++ '-' :: rest ≠ ['.'] := by
    refine ⟨by simp, fun same => ?_⟩
    have length := congrArg List.length same
    have long := List.length_pos_iff.mpr nonempty
    simp at length
    omega
  have kept : [last ++ '-' :: rest].filter (fun piece => piece ≠ [] ∧ piece ≠ ['.']) =
      [last ++ '-' :: rest] := List.filter_eq_self.mpr (by simpa using isPart.2)
  have atEnd (front : List (List Char)) :
      ((front ++ [last ++ '-' :: rest]).filter (· ≠ [])).getLast? =
        some (last ++ '-' :: rest) := by
    rw [List.filter_append, List.filter_cons_of_pos (by simp)]
    simp
  unfold components
  simp only [String.toList_ofList, leads, parts]
  rw [List.filter_append, kept, ← List.cons_append, List.getLast?_map, atEnd]
  rfl

/-- What a path becomes behind a directory does not depend on what follows a dash in it. -/
theorem exists_join_eq (base : String) (first : List Char) :
    ∃ front : List Char, ∀ rest, join base (String.ofList (first ++ '-' :: rest)) =
      String.ofList (front ++ '-' :: rest) := by
  have begins (rest : List Char) : isAbsolute (String.ofList (first ++ '-' :: rest)) =
      decide (first.head? = some '/') := by
    unfold isAbsolute
    rw [String.toList_ofList]
    cases first <;> simp
  unfold join
  simp only [begins, decide_eq_true_eq]
  split
  · exact ⟨first, fun rest => rfl⟩
  · split
    · exact ⟨first, fun rest => rfl⟩
    · exact ⟨base.toList ++ first, fun rest => String.toList_injective (by simp)⟩
    · exact ⟨base.toList ++ '/' :: first, fun rest => String.toList_injective (by simp)⟩

end Path

/-! ## The files of scripts -/

/-- The file of a script that is generated at a reading of the clock. -/
def Setup.scriptTarget (setup : Setup) (reading : Nat) : String :=
  Path.join setup.settings.script.outputDirectory
    (setup.settings.script.fileStem ++ "-" ++ toString reading ++ ".js")

namespace Setup

theorem exists_scriptTarget_eq (setup : Setup) :
    ∃ first : List Char, ∀ reading, setup.scriptTarget reading =
      String.ofList (first ++ '-' :: ((toString reading).toList ++ ".js".toList)) := by
  obtain ⟨first, joined⟩ := Path.exists_join_eq setup.settings.script.outputDirectory
    setup.settings.script.fileStem.toList
  refine ⟨first, fun reading => ?_⟩
  rw [← joined]
  refine congrArg (Path.join _) (String.toList_injective ?_)
  simp

/-- There is no slash behind the dash in the name of a script. -/
theorem slash_not_mem_ending (number : Nat) :
    '/' ∉ (toString number).toList ++ ".js".toList := by
  have noDigit : '/'.isDigit = false := rfl
  intro listed
  rcases List.mem_append.mp listed with digit | ending
  · rw [Nat.toString_eq_ofList_toDigits, String.toList_ofList] at digit
    have isDigit := Nat.isDigit_of_mem_toDigits (by decide) (by decide) digit
    simp [noDigit] at isDigit
  · simp at ending

/-- Only scripts of the same reading have the same file. -/
theorem scriptTarget_eq_iff (setup : Setup) (reading other : Nat) :
    Path.components (setup.scriptTarget reading) = Path.components (setup.scriptTarget other) ↔
      reading = other := by
  refine ⟨fun same => ?_, fun same => by rw [same]⟩
  obtain ⟨first, target⟩ := setup.exists_scriptTarget_eq
  obtain ⟨last, ends⟩ := Path.exists_getLast?_components first
  have lasts := congrArg List.getLast? same
  rw [target, target, ends _ (by simp) (slash_not_mem_ending reading),
    ends _ (by simp) (slash_not_mem_ending other)] at lasts
  have lists := String.ofList_injective (Option.some.inj lasts)
  have digits : (toString reading).toList = (toString other).toList := by
    simpa using lists
  exact Json.toString_injective (String.toList_inj.mp digits)

end Setup

/-! ## The scripts of a run -/

namespace Gateway

variable {setup : Setup} {gateway : Gateway}

/-- The script that is saved in a step, if one is, and the reading of the clock. -/
def savedScript? (setup : Setup) (gateway : Gateway) (step : Step) : Option (Nat × Emission) :=
  if (gateway.ownCall? setup step).isSome ∧ (gateway.emissionReport setup).isSuccess then
    some (gateway.outside.nowMillis, gateway.emission setup)
  else none

/-- The scripts that are saved in the course of steps, and the readings of the clock. -/
def savedScripts (setup : Setup) : Gateway → List Step → List (Nat × Emission)
  | _, [] => []
  | gateway, first :: steps =>
      (gateway.savedScript? setup first).toList ++
        savedScripts setup (gateway.step setup first) steps

/-- In no step is the clock set back. -/
def ClockGoesOn (setup : Setup) : Gateway → List Step → Prop
  | _, [] => True
  | gateway, first :: steps =>
      gateway.outside.clock ≤ (gateway.step setup first).outside.clock ∧
        ClockGoesOn setup (gateway.step setup first) steps

theorem clock_step (setup : Setup) (gateway : Gateway) (step : Step) :
    (gateway.step setup step).outside.clock = gateway.clockAfter step :=
  congrArg Memory.clock (memory_step setup gateway step)

/-- The clock stands still until it becomes another. -/
theorem clockGoesOn_of_untouched {steps : List Step}
    (untouched : ∀ other, .meanwhile other ∉ steps) : ClockGoesOn setup gateway steps := by
  induction steps generalizing gateway with
  | nil => trivial
  | cons first steps ih =>
      refine ⟨?_, ih fun other listed => untouched other (List.mem_cons_of_mem first listed)⟩
      rw [clock_step]
      cases first with
      | meanwhile other => exact absurd List.mem_cons_self (untouched other)
      | _ => exact Int.le_refl _

theorem savedScript?_eq_some {step : Step} {script : Nat × Emission}
    (saved : gateway.savedScript? setup step = some script) :
    script.1 = gateway.outside.nowMillis ∧ script.2.target = setup.scriptTarget script.1 := by
  unfold savedScript? at saved
  split at saved
  · obtain rfl := Option.some.inj saved
    exact ⟨rfl, rfl⟩
  · simp at saved

theorem target_of_saved {steps : List Step} {script : Nat × Emission}
    (saved : script ∈ savedScripts setup gateway steps) :
    script.2.target = setup.scriptTarget script.1 := by
  induction steps generalizing gateway with
  | nil => simp [savedScripts] at saved
  | cons first steps ih =>
      rcases List.mem_append.mp saved with now | later
      · exact (savedScript?_eq_some (Option.mem_toList.mp now)).2
      · exact ih later

/-- As long as the clock is not set back, scripts are saved at readings that follow one
another. -/
theorem readings_of_saved {steps : List Step} (forward : ClockGoesOn setup gateway steps) :
    (∀ script ∈ savedScripts setup gateway steps, gateway.outside.nowMillis ≤ script.1) ∧
      ((savedScripts setup gateway steps).map Prod.fst).Pairwise (· ≤ ·) := by
  induction steps generalizing gateway with
  | nil => simp [savedScripts]
  | cons first steps ih =>
      obtain ⟨after, sorted⟩ := ih forward.2
      have reading : gateway.outside.nowMillis ≤ (gateway.step setup first).outside.nowMillis :=
        Int.toNat_le_toNat forward.1
      have laterReadings : ∀ script ∈ savedScripts setup (gateway.step setup first) steps,
          gateway.outside.nowMillis ≤ script.1 :=
        fun script saved => Nat.le_trans reading (after script saved)
      cases saved : gateway.savedScript? setup first with
      | none =>
          simp only [savedScripts, saved, Option.toList_none, List.nil_append]
          exact ⟨laterReadings, sorted⟩
      | some script =>
          have now : script.1 = gateway.outside.nowMillis := (savedScript?_eq_some saved).1
          simp only [savedScripts, saved, Option.toList_some, List.singleton_append,
            List.forall_mem_cons, List.map_cons, List.pairwise_cons, List.forall_mem_map]
          have earlier : ∀ other ∈ savedScripts setup (gateway.step setup first) steps,
              script.1 ≤ other.1 := now ▸ laterReadings
          exact ⟨⟨Nat.le_of_eq now.symm, laterReadings⟩, earlier, sorted⟩

/-- As long as the clock is not set back, no two scripts of a run are saved in the same file if
and only if the clock has moved on by a millisecond between any two of them. -/
theorem scripts_are_kept_iff_clock_moves_on (setup : Setup) (outside : Outside)
    (steps : List Step) (forward : ClockGoesOn setup (initial setup outside) steps) :
    let scripts := savedScripts setup (initial setup outside) steps
    scripts.Pairwise (fun first second =>
        Path.components first.2.target ≠ Path.components second.2.target) ↔
      scripts.Pairwise fun first second => first.1 < second.1 := by
  intro scripts
  have apart (first second : Nat × Emission) (saved : first ∈ scripts)
      (savedToo : second ∈ scripts) :
      Path.components first.2.target ≠ Path.components second.2.target ↔
        first.1 ≠ second.1 := by
    rw [target_of_saved saved, target_of_saved savedToo]
    exact not_congr (setup.scriptTarget_eq_iff first.1 second.1)
  have sorted : scripts.Pairwise fun first second => first.1 ≤ second.1 :=
    List.pairwise_map.mp (readings_of_saved forward).2
  rw [List.Pairwise.iff_of_mem fun saved savedToo => apart _ _ saved savedToo]
  constructor
  · intro differ
    exact sorted.imp₂ (fun _ _ le ne => Nat.lt_of_le_of_ne le ne) differ
  · intro increase
    exact increase.imp fun lt => Nat.ne_of_lt lt

/-- While the clock stands still, the second script is saved in the file of the first. -/
theorem scripts_are_lost_while_clock_stands :
    let setup : Setup :=
      { settings := { tool := { name := "script" } }, launch := ⟨"npx", [], none⟩ }
    let call := Step.event (.clientLine
      "\x7b\"id\":1,\"method\":\"tools/call\",\"params\":\x7b\"name\":\"script\"\x7d\x7d")
    let scripts := savedScripts setup (initial setup {}) [call, call]
    (scripts.map fun script => script.2.target) =
        ["generated-scripts/test-1700000000000.js", "generated-scripts/test-1700000000000.js"] ∧
      ¬scripts.Pairwise fun first second =>
        Path.components first.2.target ≠ Path.components second.2.target := by
  intro setup call scripts
  have readings : scripts.map Prod.fst = [1700000000000, 1700000000000] := by
    decide +kernel
  have stands : ¬scripts.Pairwise fun first second => first.1 < second.1 := by
    rw [← List.pairwise_map (f := Prod.fst), readings]
    decide
  have forward : ClockGoesOn setup (initial setup {}) [call, call] :=
    clockGoesOn_of_untouched (by simp [call])
  exact ⟨by decide +kernel,
    mt (scripts_are_kept_iff_clock_moves_on setup {} [call, call] forward).mp stands⟩

end Gateway

end BrowserRelay
