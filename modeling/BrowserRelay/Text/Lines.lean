import BrowserRelay.Text.Utf8

/-!
# Lines in a stream of bytes

A line ends with a line feed, or with the end of the stream if bytes remain
there.  The line feed is not part of the line, and neither is one carriage
return right before it.
-/

namespace BrowserRelay.Text

/-- The byte that ends a line. -/
def lineFeed : UInt8 := 0x0A

/-- The byte that is dropped right before a line feed. -/
def carriageReturn : UInt8 := 0x0D

/-- A line's bytes without a carriage return at their end. -/
def dropCarriageReturn (bytes : List UInt8) : List UInt8 :=
  if bytes.getLast? = some carriageReturn then bytes.dropLast else bytes

/-- Split off the bytes before the first line feed.  The second part is `none`
when there is no line feed. -/
def splitAtLineFeed : List UInt8 → List UInt8 × Option (List UInt8)
  | [] => ([], none)
  | byte :: rest =>
      if byte = lineFeed then ([], some rest)
      else
        let (line, after) := splitAtLineFeed rest
        (byte :: line, after)

/-- Take one line from a stream that will grow no more: its text and the bytes
after it, or `none` at the end of the stream. -/
def nextLine (bytes : List UInt8) : Option (String × List UInt8) :=
  match bytes with
  | [] => none
  | _ :: _ =>
      match splitAtLineFeed bytes with
      | (line, some after) => some (decodeLossy (dropCarriageReturn line), after)
      | (line, none) => some (decodeLossy line, [])

theorem length_of_splitAtLineFeed {bytes line after : List UInt8}
    (split : splitAtLineFeed bytes = (line, some after)) :
    after.length < bytes.length := by
  induction bytes generalizing line with
  | nil => simp [splitAtLineFeed] at split
  | cons byte rest ih =>
      unfold splitAtLineFeed at split
      split at split
      · simp only [Prod.mk.injEq, Option.some.injEq] at split
        simp [split.2]
      · simp only [Prod.mk.injEq] at split
        have taken : splitAtLineFeed rest = ((splitAtLineFeed rest).1, some after) := by
          rw [← split.2]
        have shorter := ih taken
        simp only [List.length_cons]
        omega

/-- A line that was taken leaves fewer bytes behind. -/
theorem length_of_nextLine {bytes after : List UInt8} {line : String}
    (taken : nextLine bytes = some (line, after)) : after.length < bytes.length := by
  unfold nextLine at taken
  split at taken
  · simp at taken
  · split at taken
    · rename_i split
      simp only [Option.some.injEq, Prod.mk.injEq] at taken
      exact taken.2 ▸ length_of_splitAtLineFeed split
    · simp only [Option.some.injEq, Prod.mk.injEq] at taken
      simp [← taken.2]

def linesOf (bytes : List UInt8) : List String :=
  match _taken : nextLine bytes with
  | none => []
  | some (line, after) => line :: linesOf after
termination_by bytes.length
decreasing_by exact length_of_nextLine _taken

/-- The lines of a stream that may still grow, which are those already ended by
a line feed. -/
def endedLinesOf (bytes : List UInt8) : List String :=
  match _split : splitAtLineFeed bytes with
  | (_, none) => []
  | (line, some after) => decodeLossy (dropCarriageReturn line) :: endedLinesOf after
termination_by bytes.length
decreasing_by exact length_of_splitAtLineFeed _split

end BrowserRelay.Text
