import SampledMetrics.Failure
import SampledMetrics.Json.Value
import SampledMetrics.Value.Printer
/-!
Events and log records.  An event is what the library tells about its own work, and a computation that
tells it has the events that happened, in order, beside its result; an error keeps the events before it.
A level is a number, or a truth value that counts as one; some numbers have names.  A record may say which
histogram it is about, and of which group.  Its text form is one line, with the metric in brackets after
the logger's name; the JSON form is one object.
-/

set_option autoImplicit false
set_option relaxedAutoImplicit false

namespace SampledMetrics

/-- Something worth a line in the log. -/
inductive Event
  | percentileNotNumeric (raw : Value)
  | percentileOutside (raw : Number)
  | duplicatesDefault (name : String)
  | built (name : String) (metricNames : List String) (reservoir : Option String)
  | registered (name group : Value)

/-- A result that may be an error, and the events on the way to it. -/
structure Logged (ε α : Type) where
  events : List Event
  result : Except ε α

namespace Logged

variable {ε α β : Type}

def ofExcept (result : Except ε α) : Logged ε α :=
  ⟨[], result⟩

def tell (event : Event) : Logged ε Unit :=
  ⟨[event], .ok ()⟩

def tellAll (events : List Event) : Logged ε Unit :=
  ⟨events, .ok ()⟩

/-- The first computation and, if it succeeds, the second. -/
def andThen (first : Logged ε α) (next : α → Logged ε β) : Logged ε β :=
  match first.result with
  | .ok value => ⟨first.events ++ (next value).events, (next value).result⟩
  | .error failure => ⟨first.events, .error failure⟩

instance : Monad (Logged ε) where
  pure value := ⟨[], .ok value⟩
  bind := andThen

instance : MonadLift (Except ε) (Logged ε) := ⟨ofExcept⟩

@[simp] theorem events_pure (value : α) : (pure value : Logged ε α).events = [] := rfl

@[simp] theorem result_pure (value : α) : (pure value : Logged ε α).result = .ok value := rfl

@[simp] theorem result_ofExcept (result : Except ε α) : (ofExcept result).result = result := rfl

theorem events_bind (first : Logged ε α) (next : α → Logged ε β) :
    (first >>= next).events = first.events ++
      (match first.result with
        | .ok value => (next value).events
        | .error _ => []) := by
  change (andThen first next).events = _
  unfold andThen
  split <;> simp

theorem result_bind (first : Logged ε α) (next : α → Logged ε β) :
    (first >>= next).result = first.result.bind fun value => (next value).result := by
  change (andThen first next).result = _
  unfold andThen
  split <;> rename_i found <;> simp [found, Except.bind]

/-- Computations in turn succeed exactly when both do. -/
theorem result_bind_eq_ok_iff {first : Logged ε α} {next : α → Logged ε β} {out : β} :
    (first >>= next).result = .ok out ↔
      ∃ value, first.result = .ok value ∧ (next value).result = .ok out := by
  rw [result_bind]
  cases first.result <;> simp [Except.bind]

end Logged

namespace Log

/-- A level as it was given: a number, or a truth value that counts as one. -/
inductive Level
  | number (value : Int)
  | flag (value : Bool)
  deriving DecidableEq, Repr

namespace Level

def toInt : Level → Int
  | .number value => value
  | .flag value => if value then 1 else 0

def toValue : Level → Value
  | .number value => .int value
  | .flag value => .bool value

def debug : Level := .number 10

def info : Level := .number 20

def names : List (String × Int) :=
  [("CRITICAL", 50), ("FATAL", 50), ("ERROR", 40), ("WARNING", 30), ("WARN", 30), ("INFO", 20),
    ("DEBUG", 10), ("NOTSET", 0)]

/-- A level as a record shows it. -/
def text (level : Level) : String :=
  match names.find? fun entry => entry.2 = level.toInt with
  | some (name, _) => name
  | none => "Level " ++ level.toValue.display

/-- The level that a value is: an integer or a truth value. -/
def ofNumber? : Value → Option Level
  | .number (.int value) => some (.number value)
  | .bool value => some (.flag value)
  | _ => none

/-- The level that a value stands for: it is one, or the name of one. -/
def ofValue (value : Value) : Except Failure Level :=
  match ofNumber? value, value with
  | some level, _ => .ok level
  | none, .text name =>
      match names.lookup name with
      | some level => .ok (.number level)
      | none => .error (.unknownLevel name)
  | none, value => Failure.showing value (.levelKind value)

/-- The level of a record, which is a level itself and no name of one. -/
def ofRecord (value : Value) : Except Failure Level :=
  match ofNumber? value with
  | some level => .ok level
  | none => .error .recordLevelKind

end Level

end Log

/-- A message with its level and origin, the metric it is about, and the text of an error. -/
structure Record where
  logger : String
  level : Log.Level
  message : String
  histogram : Value
  group : Value
  error : Option String

namespace Record

def metricText (r : Record) : String :=
  if r.histogram.isTrue then
    if r.group.isTrue then " [" ++ r.group.display ++ "/" ++ r.histogram.display ++ "]"
    else " [" ++ r.histogram.display ++ "]"
  else ""

/-- The text of an error: the name of its class and, if there is one, its message. -/
def errorText (name message : String) : String :=
  if message = "" then name else name ++ ": " ++ message

def withError (message : String) : Option String → String
  | none => message
  | some error => if message.endsWith "\n" then message ++ error else message ++ "\n" ++ error

/-- The text form without its time stamp, with the words for the metric in their place. -/
def unstampedText (metric : String) (r : Record) : String :=
  withError ("[" ++ r.level.text ++ "] " ++ r.logger ++ metric ++ ": " ++ r.message) r.error

def textWith (metric stamp : String) (r : Record) : String :=
  stamp ++ " " ++ r.unstampedText metric

def toText (stamp : String) (r : Record) : String :=
  r.textWith r.metricText stamp

def dropStamp (stamp line : String) : String :=
  let mark := (stamp ++ " ").toList
  if mark.isPrefixOf line.toList then String.ofList (line.toList.drop mark.length) else line

/-- The lines of text forms, each without a stamp: not only a first line can begin with it. -/
def unstampedLines (stamp written : String) : List String :=
  (written.splitOn "\n").map (dropStamp stamp)

end Record

def percentileLogger : String := "histometrics.metrics.extractors"

def histogramLogger : String := "histometrics.metrics.histogram"

def registryLogger : String := "histometrics.metrics.registry"

def Event.logger : Event → String
  | .percentileNotNumeric _ | .percentileOutside _ | .duplicatesDefault _ => percentileLogger
  | .built _ _ _ => histogramLogger
  | .registered _ _ => registryLogger

/-- The message of an event, unless it shows a value that cannot be shown. -/
def Event.message? : Event → Option String
  | .percentileNotNumeric raw =>
      if raw.isShowable then some ("Ignoring non-numeric percentile: " ++ raw.render) else none
  | .percentileOutside raw =>
      if raw.isShowable then some ("Ignoring percentile outside [0, 100]: " ++ raw.render) else none
  | .duplicatesDefault name =>
      some ("Percentile " ++ name ++ " duplicates a default metric; keeping the default")
  | .built _ metricNames reservoir =>
      reservoir.map fun reservoir =>
        "Built with metrics " ++ (Value.list (metricNames.map .text)).render ++ " on " ++ reservoir
  | .registered _ _ => some "Registered"

def Event.histogram : Event → Value
  | .built name _ _ => .text name
  | .registered name _ => name
  | _ => .null

def Event.group : Event → Value
  | .registered _ group => group
  | _ => .null

def Event.record? (event : Event) : Option Record :=
  event.message?.map fun message =>
    ⟨event.logger, Log.Level.debug, message, event.histogram, event.group, none⟩

namespace Record

/-- A member that is left out when there is nothing to say. -/
def jsonMember (name : String) (value : Value) : List (String × String) :=
  match value with
  | .null => []
  | value => [(name, value.toJson)]

def toJson (stamp : String) (r : Record) : String :=
  Json.object <|
    [("ts", Json.quote stamp), ("level", Json.quote r.level.text),
      ("logger", Json.quote r.logger), ("msg", Json.quote r.message)]
    ++ jsonMember "histogram" r.histogram ++ jsonMember "group" r.group
    ++ (r.error.map fun error => ("exc_info", Json.quote error)).toList

end Record

end SampledMetrics
