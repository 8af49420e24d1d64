import BrowserRelay.Failure

/-!
# Outcomes still to come

Whether an operation at the edge of the program succeeds is not decided by the
program.  The outcomes of the coming operations of one kind are given as a list;
once it is used up, they succeed.
-/

namespace BrowserRelay

/-- The outcomes of the coming operations of one kind; `none` is a success. -/
abbrev Outcomes := List (Option Failure)

namespace Outcomes

def next (outcomes : Outcomes) : Option Failure :=
  outcomes.head?.join

/-- The outcomes of the operations after the next one. -/
def later (outcomes : Outcomes) : Outcomes :=
  outcomes.tail

/-- The next operations, as many as given, fail alike. -/
def failing (count : Nat) (failure : Failure) : Outcomes :=
  List.replicate count (some failure)

end Outcomes

end BrowserRelay
