import SampledMetrics.Failure
/-!
The tables of a TOML document while it is read.  A header declares a table, or appends one to an array
of tables; a dotted key makes the tables on its way.  A table may be declared once, and a dotted key
may reach only tables that were implied before or that were made by dotted keys under the same header.
A value is never opened again.
-/

set_option autoImplicit false
set_option relaxedAutoImplicit false

namespace SampledMetrics.Toml

/-- How a table came to be: implied by the path of a header, made by a dotted key under the header
with a number, or declared by a header of its own. -/
inductive Standing
  | implied
  | dotted (heading : Nat)
  | declared
  deriving DecidableEq, Repr

/-- What stands under a key; the earlier tables of an array of tables are finished. -/
inductive Node
  | value (value : Value)
  | table (standing : Standing) (entries : List (String × Node))
  | tables (earlier : List Value) (last : List (String × Node))

abbrev Entries : Type :=
  List (String × Node)

mutual

def Node.toValue : Node → Value
  | .value value => value
  | .table _ entries => .dict (entryValues entries)
  | .tables earlier last => .list (earlier ++ [.dict (entryValues last)])

def entryValues : List (String × Node) → List (String × Value)
  | [] => []
  | (key, node) :: rest => (key, node.toValue) :: entryValues rest

end

namespace Entries

def refuse {α : Type} : Except Failure α :=
  .error .malformedDocument

def put (entries : Entries) (key : String) (node : Node) : Entries :=
  Value.putEntry key node entries

/-- Change the table under a key on the path of a header; a missing one is implied, and of an array
of tables the last one is meant. -/
def within (entries : Entries) (key : String) (change : Entries → Except Failure Entries) :
    Except Failure Entries :=
  match entries.lookup key with
  | none => do return entries.put key (.table .implied (← change []))
  | some (.table standing inner) => do return entries.put key (.table standing (← change inner))
  | some (.tables earlier last) => do return entries.put key (.tables earlier (← change last))
  | some (.value _) => refuse

def along (change : Entries → Except Failure Entries) :
    List String → Entries → Except Failure Entries
  | [], entries => change entries
  | key :: path, entries => entries.within key (along change path)

def declareKey (key : String) (entries : Entries) : Except Failure Entries :=
  match entries.lookup key with
  | none => .ok (entries.put key (.table .declared []))
  | some (.table .implied inner) => .ok (entries.put key (.table .declared inner))
  | some _ => refuse

def appendKey (key : String) (entries : Entries) : Except Failure Entries :=
  match entries.lookup key with
  | none => .ok (entries.put key (.tables [] []))
  | some (.tables earlier last) =>
      .ok (entries.put key (.tables (earlier ++ [.dict (entryValues last)]) []))
  | some _ => refuse

/-- Apply a change for the last key of a path to the table at the keys before it. -/
def atLast (change : String → Entries → Except Failure Entries) :
    List String → Entries → Except Failure Entries
  | [], _ => refuse
  | [key], entries => change key entries
  | key :: path, entries => entries.within key (atLast change path)

def declare (path : List String) (entries : Entries) : Except Failure Entries :=
  atLast declareKey path entries

def append (path : List String) (entries : Entries) : Except Failure Entries :=
  atLast appendKey path entries

/-- Set a value under a dotted key that stands under the header with a number. -/
def assign (heading : Nat) (value : Value) : List String → Entries → Except Failure Entries
  | [], _ => refuse
  | [key], entries =>
      match entries.lookup key with
      | none => .ok (entries.put key (.value value))
      | some _ => refuse
  | key :: path, entries =>
      match entries.lookup key with
      | none => do return entries.put key (.table (.dotted heading) (← assign heading value path []))
      | some (.table .implied inner) => do
          return entries.put key (.table (.dotted heading) (← assign heading value path inner))
      | some (.table (.dotted made) inner) =>
          if made = heading then do
            return entries.put key (.table (.dotted heading) (← assign heading value path inner))
          else refuse
      | some _ => refuse

end Entries

end SampledMetrics.Toml
