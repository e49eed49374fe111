import SampledMetrics.Number
/-!
Unchecked input: what a configuration document, a caller or a log record may hold before it has been
checked.  Dictionaries keep their entries in the order in which the keys first came.
-/

set_option autoImplicit false
set_option relaxedAutoImplicit false

namespace SampledMetrics

/-- A day of the calendar. -/
structure Date where
  year : Nat
  month : Nat
  day : Nat
  deriving DecidableEq, Repr

/-- A time of day, to the microsecond. -/
structure Time where
  hour : Nat
  minute : Nat
  second : Nat
  microsecond : Nat
  deriving DecidableEq, Repr

/-- A value of any kind; a moment has the minutes by which its zone is ahead, if it has a zone.  A
lone not-a-number is no other one: reading the same bits again gives another. -/
inductive Value
  | null
  | bool (value : Bool)
  | number (value : Number)
  | loneNaN
  | text (value : String)
  | list (items : List Value)
  | dict (entries : List (String × Value))
  | date (value : Date)
  | time (value : Time)
  | moment (date : Date) (time : Time) (offset : Option Int)

namespace Value

instance : Inhabited Value := ⟨.null⟩

def int (value : Int) : Value :=
  .number (.int value)

def float (value : Binary64) : Value :=
  .number (.float value)

def kindName : Value → String
  | .null => "NoneType"
  | .bool _ => "bool"
  | .number (.int _) => "int"
  | .number (.float _) => "float"
  | .loneNaN => "float"
  | .text _ => "str"
  | .list _ => "list"
  | .dict _ => "dict"
  | .date _ => "date"
  | .time _ => "time"
  | .moment _ _ _ => "datetime"

def number? : Value → Option Number
  | .number value => some value
  | .loneNaN => some (.float .nan)
  | _ => none

/-- The number that a value counts as in arithmetic: truth values count as one and zero. -/
def asNumber? : Value → Option Number
  | .bool value => some (.int (if value then 1 else 0))
  | value => value.number?

/-- Whether a condition holds of the value: not of nothing, zero, or an empty text or collection. -/
def isTrue : Value → Bool
  | .null => false
  | .bool value => value
  | .number value => value.isNonzero
  | .text value => value ≠ ""
  | .list items => !items.isEmpty
  | .dict entries => !entries.isEmpty
  | _ => true

/-- An entry added to a dictionary: a key that is there already keeps its place and gets the new
value. -/
def putEntry {α : Type} (key : String) (value : α) : List (String × α) → List (String × α)
  | [] => [(key, value)]
  | (k, v) :: rest => if k = key then (k, value) :: rest else (k, v) :: putEntry key value rest

def ofEntries (entries : List (String × Value)) : Value :=
  .dict (entries.foldl (fun known entry => putEntry entry.1 entry.2 known) [])

/-- The items that iteration over the value gives: the items of a list, the characters of a text,
the keys of a dictionary. -/
def items? : Value → Option (List Value)
  | .list items => some items
  | .text value => some (value.toList.map fun c => .text (String.singleton c))
  | .dict entries => some (entries.map fun entry => .text entry.1)
  | _ => none

def isKey : Value → Bool
  | .list _ => false
  | .dict _ => false
  | _ => true

end Value

end SampledMetrics
