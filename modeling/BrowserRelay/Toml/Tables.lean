import BrowserRelay.Toml.Value

/-!
# Building the tables of TOML

A table comes into being by a header of its own, because a header passes through
it, or because a dotted key does.  How it came into being decides who may still
add to it: a header may open a table once, and a dotted key adds only to tables that
dotted keys made.
-/

namespace BrowserRelay.Toml

/-- How a table came into being. -/
inductive TableOrigin where
  | header
  | passedThrough
  | dottedKey
  deriving DecidableEq

/-- What a key stands for while tables are built: a value, a table, or the tables of
headers in double brackets, of which the newest is still added to. -/
inductive Entry where
  | value (value : Toml)
  | table (origin : TableOrigin) (members : List (String × Entry))
  | tables (newest : List (String × Entry)) (older : List (List (String × Entry)))

/-- The members of a table that is being built. -/
abbrev Entries := List (String × Entry)

namespace Entries

/-- Put an entry at a key, in place of what was there. -/
def put (key : String) (entry : Entry) : Entries → Entries
  | [] => [(key, entry)]
  | (other, present) :: rest =>
      if other = key then (key, entry) :: rest else (other, present) :: put key entry rest

/-- Change the table at the end of a path, making the tables that are missing on
the way.  A dotted key does not pass through tables with a header of their own. -/
def changeAt (made : TableOrigin)
    (change : TableOrigin → Entries → Except ReadFault Entries) :
    TableOrigin → List String → Entries → Except ReadFault Entries
  | origin, [], entries => change origin entries
  | _, key :: path, entries =>
      match entries.lookup key with
      | none => do
          let inner ← changeAt made change made path []
          .ok (put key (.table made inner) entries)
      | some (.value _) => .error (.notTable key)
      | some (.tables newest older) => do
          let newest ← changeAt made change .header path newest
          .ok (put key (.tables newest older) entries)
      | some (.table origin inner) =>
          if made = .dottedKey ∧ origin = .header then .error (.duplicateKey key)
          else do
            let inner ← changeAt made change origin path inner
            .ok (put key (.table origin inner) entries)

/-- Add a value under a dotted key, of which `path` are the parts before the
last. -/
def addValue (path : List String) (key : String) (value : Toml) (entries : Entries) :
    Except ReadFault Entries :=
  changeAt .dottedKey
    (fun origin inner =>
      if (origin = .dottedKey) ≠ (path ≠ []) then .error (.duplicateKey key)
      else if (inner.lookup key).isSome then .error (.duplicateKey key)
      else .ok (put key (.value value) inner))
    .header path entries

/-- Open the table of a header, of which `path` are the parts before the last. -/
def openTable (path : List String) (key : String) (entries : Entries) :
    Except ReadFault Entries :=
  changeAt .passedThrough
    (fun _ inner =>
      match inner.lookup key with
      | none => .ok (put key (.table .header []) inner)
      | some (.table .passedThrough members) => .ok (put key (.table .header members) inner)
      | some _ => .error (.duplicateKey key))
    .header path entries

/-- Open one more table of a header in double brackets. -/
def openNextTable (path : List String) (key : String) (entries : Entries) :
    Except ReadFault Entries :=
  changeAt .passedThrough
    (fun _ inner =>
      match inner.lookup key with
      | none => .ok (put key (.tables [] []) inner)
      | some (.tables newest older) => .ok (put key (.tables [] (newest :: older)) inner)
      | some _ => .error (.duplicateKey key))
    .header path entries

/-- Add a value under a dotted key to the table that was opened last. -/
def addValueTo (opened path : List String) (key : String) (value : Toml) (entries : Entries) :
    Except ReadFault Entries :=
  changeAt .passedThrough (fun _ inner => addValue path key value inner) .header opened entries

end Entries

mutual

def Entry.toValue : Entry → Toml
  | .value held => held
  | .table _ members => .table (Entry.membersToValues members)
  | .tables newest older =>
      .array (Entry.tablesToValues older ++ [.table (Entry.membersToValues newest)])

/-- The values that the members of a table amount to. -/
def Entry.membersToValues : List (String × Entry) → List (String × Toml)
  | [] => []
  | (key, entry) :: rest => (key, entry.toValue) :: Entry.membersToValues rest

/-- The values that tables amount to, the newest of them first, in the order in
which they were opened. -/
def Entry.tablesToValues : List (List (String × Entry)) → List Toml
  | [] => []
  | members :: older => Entry.tablesToValues older ++ [.table (Entry.membersToValues members)]

end

end BrowserRelay.Toml
