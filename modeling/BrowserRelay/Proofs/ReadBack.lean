import BrowserRelay.Proofs.JsonText

/-!
# Values that are read back from their text

A value that is nested no deeper than the reader allows, with numbers that are read as they were,
is what its text is parsed as.  Whether or not it is read back, a proper value is determined by its
text, since its numbers are found again by exact conversion.
-/

namespace BrowserRelay.Json

/-! ## Which values are read back -/

/-- A value that is read back from its text: it is nested no deeper than a limit, and so is each of
its numbers, as every whole number is. -/
structure ReadsBack (limit : Nat) (value : Json) : Prop extends value.Fits limit where
  reread : ∀ number ∈ value.numbers, number.IsReread

@[simp]
theorem readsBack_null (limit : Nat) : Json.null.ReadsBack limit :=
  ⟨⟨.null, Nat.zero_le limit⟩, List.forall_mem_nil _⟩

@[simp]
theorem readsBack_bool (value : Bool) (limit : Nat) : (Json.bool value).ReadsBack limit :=
  ⟨⟨.bool value, Nat.zero_le limit⟩, List.forall_mem_nil _⟩

@[simp]
theorem readsBack_string (text : String) (limit : Nat) : (Json.string text).ReadsBack limit :=
  ⟨⟨.string text, Nat.zero_le limit⟩, List.forall_mem_nil _⟩

theorem readsBack_integer {value : Int} (low : -2 ^ 63 ≤ value) (high : value < 2 ^ 64)
    (limit : Nat) : (Json.number (.integer value)).ReadsBack limit :=
  ⟨⟨.number ⟨low, high⟩, Nat.zero_le limit⟩, List.forall_mem_singleton.mpr trivial⟩

theorem readsBack_array_iff {items : List Json} {limit : Nat} :
    (Json.array items).ReadsBack (limit + 1) ↔ ∀ item ∈ items, item.ReadsBack limit := by
  constructor
  · rintro ⟨fits, reread⟩ item listed
    exact ⟨fits_array_iff.mp fits item listed, fun number inside =>
      reread number (mem_numbers_array.mpr ⟨item, listed, inside⟩)⟩
  · refine fun back => ⟨fits_array_iff.mpr fun item listed => (back item listed).toFits, ?_⟩
    intro number inside
    obtain ⟨item, listed, inside⟩ := mem_numbers_array.mp inside
    exact (back item listed).reread number inside

theorem readsBack_object_iff {members : List (String × Json)} {limit : Nat} :
    (Json.object members).ReadsBack (limit + 1) ↔
      members.Pairwise (fun first second => first.1 < second.1) ∧
        ∀ member ∈ members, member.2.ReadsBack limit := by
  constructor
  · rintro ⟨fits, reread⟩
    obtain ⟨sorted, fits⟩ := fits_object_iff.mp fits
    exact ⟨sorted, fun member listed => ⟨fits member listed, fun number inside =>
      reread number (mem_numbers_object.mpr ⟨member, listed, inside⟩)⟩⟩
  · rintro ⟨sorted, back⟩
    refine ⟨fits_object_iff.mpr ⟨sorted, fun member listed => (back member listed).toFits⟩, ?_⟩
    intro number inside
    obtain ⟨member, listed, inside⟩ := mem_numbers_object.mp inside
    exact (back member listed).reread number inside

theorem readsBack_ofMembers {members : List (String × Json)} {limit : Nat}
    (back : ∀ member ∈ members, member.2.ReadsBack limit) :
    (ofMembers members).ReadsBack (limit + 1) := by
  obtain ⟨held, made, among⟩ := mem_ofMembers members
  have fits := fits_ofMembers fun member listed => (back member listed).toFits
  rw [made] at fits ⊢
  exact readsBack_object_iff.mpr ⟨(fits_object_iff.mp fits).1, fun member listed =>
    back member (among member listed)⟩

/-! ## Reading a text on one line -/

theorem ReadsBack.converts {value : Json} {limit : Nat} (back : value.ReadsBack limit) :
    ∀ number ∈ value.numbers, Numeral.number? (numeralOf number) = some (id number) :=
  fun number inside =>
    (Number.isReread_iff (back.proper.numbers number inside)).mp (back.reread number inside)

theorem endsNumber_nil : EndsNumber [] := by rintro _ ⟨⟩

theorem parse_compact_of_reads {value shown : Json}
    (reads : Reads Numeral.number? depthLimit (compactChars value) shown) :
    parse (compact value) = .ok shown := by
  have read : readValue depthLimit (compactChars value) = .ok (shown, []) := by
    have whole := reads (2 * (compactChars value).length + 2) [] (Nat.le_add_right _ _)
      endsNumber_nil
    rwa [List.append_nil] at whole
  rw [parse, compact, String.toList_ofList, parseChars, read]
  rfl

/-- What is printed in compact form is parsed as the value that it shows. -/
theorem parse_compact {value : Json} (back : value.ReadsBack depthLimit) :
    parse (compact value) = .ok value := by
  have reads := reads_compactChars back.toFits back.converts
  rw [mapNumbers_id] at reads
  exact parse_compact_of_reads reads

/-- An object whose members stand in any order is parsed as the object made of them. -/
theorem parse_compact_object {members : List (String × Json)}
    (back : ∀ member ∈ members, member.2.ReadsBack 126) :
    parse (Json.object members).compact = .ok (ofMembers members) := by
  have reads := reads_compactMembers fun member listed =>
    reads_compactChars (back member listed).toFits (back member listed).converts
  simp only [mapNumbers_id, List.map_id'] at reads
  exact parse_compact_of_reads reads

/-! ## Texts tell values apart -/

/-- Where the compact text of a proper value ends is seen from what follows it. -/
theorem compactChars_append_inj {value other : Json} {rest otherRest : List Char}
    (proper : value.IsProper) (otherProper : other.IsProper) (ends : EndsNumber rest)
    (otherEnds : EndsNumber otherRest)
    (same : compactChars value ++ rest = compactChars other ++ otherRest) :
    value = other ∧ rest = otherRest := by
  let depth := max value.depth other.depth
  let fuel := 2 * (compactChars value).length + 2 * (compactChars other).length
  -- Exact conversion finds every number again.
  have exact {value : Json} (proper : value.IsProper) :
      ∀ number ∈ value.numbers, nearest? (numeralOf number) = some (id number) :=
    fun number inside => nearest?_numeralOf (proper.numbers number inside)
  have read := reads_compactChars (⟨proper, Nat.le_max_left _ _⟩ : value.Fits depth)
    (exact proper) fuel rest (Nat.le_add_right _ _) ends
  have otherRead := reads_compactChars (⟨otherProper, Nat.le_max_right _ _⟩ : other.Fits depth)
    (exact otherProper) fuel otherRest (Nat.le_add_left _ _) otherEnds
  rw [same, otherRead, mapNumbers_id, mapNumbers_id] at read
  obtain ⟨rfl, rfl⟩ := Prod.mk.inj (Except.ok.inj read)
  exact ⟨rfl, rfl⟩

theorem compact_inj {value other : Json} (proper : value.IsProper) (otherProper : other.IsProper)
    (same : value.compact = other.compact) : value = other := by
  have characters : compactChars value ++ [] = compactChars other ++ [] := by
    simpa [compact] using congrArg String.toList same
  exact (compactChars_append_inj proper otherProper endsNumber_nil endsNumber_nil characters).1

end BrowserRelay.Json
