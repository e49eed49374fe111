import SampledMetrics.Decimal
import SampledMetrics.Decimal.Reading
import SampledMetrics.Text.Quoted
import SampledMetrics.Value.Basic
/-!
The text of a value.  Integers beyond the digit limit have none, and neither has a value that holds
one or is nested too deep; `render` shows them all the same, and `obstacle?` tells what is in the way.
-/

set_option autoImplicit false
set_option relaxedAutoImplicit false

namespace SampledMetrics

namespace Number

def render : Number → String
  | .int value => toString value
  | .float value => value.text

/-- Whether the number has at most as many digits as are converted. -/
def isShowable : Number → Bool
  | .int value => value.natAbs < Nat.pow 10 Numeral.digitLimit
  | .float _ => true

end Number

/-- Numbers separated by commas, after a name, in parentheses. -/
private def applied (name : String) (arguments : List String) : String :=
  name ++ "(" ++ ", ".intercalate arguments ++ ")"

/-- The seconds and microseconds of a time, left out from the end while they are zero. -/
private def Time.arguments (t : Time) : List String :=
  let tail :=
    if t.microsecond ≠ 0 then [t.second, t.microsecond]
    else if t.second ≠ 0 then [t.second]
    else []
  (t.hour :: t.minute :: tail).map toString

private def Date.arguments (d : Date) : List String :=
  [d.year, d.month, d.day].map toString

/-- A zone that is ahead by some minutes; a day is borrowed for one that is behind. -/
private def zoneText (offset : Int) : String :=
  if offset = 0 then "datetime.timezone.utc"
  else
    let seconds := offset * 60
    let arguments :=
      if seconds < 0 then ["days=-1", "seconds=" ++ toString (seconds + 86400)]
      else ["seconds=" ++ toString seconds]
    applied "datetime.timezone" [applied "datetime.timedelta" arguments]

namespace Value

mutual

def render : Value → String
  | .null => "None"
  | .bool value => if value then "True" else "False"
  | .number value => value.render
  | .loneNaN => (Number.float .nan).render
  | .text value => Text.quote value
  | .list items => "[" ++ ", ".intercalate (renderItems items) ++ "]"
  | .dict entries => "\x7b" ++ ", ".intercalate (renderEntries entries) ++ "\x7d"
  | .date value => applied "datetime.date" value.arguments
  | .time value => applied "datetime.time" value.arguments
  | .moment day clock offset =>
      let zone := match offset with
        | none => []
        | some minutes => ["tzinfo=" ++ zoneText minutes]
      applied "datetime.datetime" (day.arguments ++ clock.arguments ++ zone)

def renderItems : List Value → List String
  | [] => []
  | item :: rest => item.render :: renderItems rest

def renderEntries : List (String × Value) → List String
  | [] => []
  | (key, value) :: rest => (Text.quote key ++ ": " ++ value.render) :: renderEntries rest

end

/-- What can keep a value from having a text: an integer with too many digits, or its depth. -/
inductive Obstacle
  | digits
  | depth
  deriving DecidableEq, Repr

mutual

/-- The first obstacle to the text of a value in so much room, where each level of nesting takes one. -/
def obstacleIn : (room : Nat) → Value → Option Obstacle
  | 0, _ => some .depth
  | _ + 1, .number value => if value.isShowable then none else some .digits
  | room + 1, .list items => obstacleInItems room items
  | room + 1, .dict entries => obstacleInEntries room entries
  | _ + 1, _ => none

def obstacleInItems : (room : Nat) → List Value → Option Obstacle
  | _, [] => none
  | room, item :: rest =>
      match item.obstacleIn room with
      | some obstacle => some obstacle
      | none => obstacleInItems room rest

def obstacleInEntries : (room : Nat) → List (String × Value) → Option Obstacle
  | _, [] => none
  | room, (_, value) :: rest =>
      match value.obstacleIn room with
      | some obstacle => some obstacle
      | none => obstacleInEntries room rest

end

def textRoom : Nat := 988

/-- What keeps the value from having a text. -/
def obstacle? (value : Value) : Option Obstacle :=
  value.obstacleIn textRoom

def isShowable (value : Value) : Bool :=
  value.obstacle?.isNone

/-- A number has a text as a value exactly when it has one by itself. -/
@[simp] theorem isShowable_number (x : Number) : (number x).isShowable = x.isShowable := by
  unfold isShowable obstacle? textRoom
  rw [obstacleIn]
  cases x.isShowable <;> rfl

/-- The text of a value inside running text: a text stands for itself. -/
def display : Value → String
  | .text value => value
  | value => value.render

end Value

end SampledMetrics
