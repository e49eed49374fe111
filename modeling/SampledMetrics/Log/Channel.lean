import SampledMetrics.Log.Record
/-!
The channel of the library's log: a level, the handlers attached, and whether records also go to the
application's own handlers.  Loggers are known by dotted names, and each hands its records on to the
nearest logger above it of those that have been used.  Configuring takes away the handlers before, equips
a new one, attaches it, and only then looks at the level; a level that is refused leaves the new handler
attached and the rest as it was.
-/

set_option autoImplicit false
set_option relaxedAutoImplicit false

namespace SampledMetrics

namespace Log.Logger

/-- The beginnings of a name that lie above it, all read backwards.  The name is cut at its dots, from
the last one on, but not at a dot right before the one where it was cut last. -/
def cuts : List Char → List (List Char)
  | '.' :: c :: rest => (c :: rest) :: cuts rest
  | _ :: rest => cuts rest
  | [] => []

def above (name : String) : List String :=
  (cuts name.toList.reverse).map fun cut => String.ofList cut.reverse

/-- The logger that takes over the records of a logger. -/
def next? (used : List String) (name : String) : Option String :=
  (above name).find? used.contains

/-- Whether the records of a logger come to another one in so many hands. -/
def reaches (used : List String) (target : String) : (hands : Nat) → String → Bool
  | 0, name => name = target
  | hands + 1, name =>
      name = target ||
        match next? used name with
        | some next => reaches used target hands next
        | none => false

end Log.Logger

namespace Log

/-- The form of the lines that a handler writes. -/
inductive Form
  | text
  | json
  deriving DecidableEq, Repr

/-- Where a handler writes: to a stream with a name, or aside from all of these; or nowhere, so that all
that comes to it is lost. -/
inductive Outlet
  | stream (name : String)
  | aside
  | nowhere
  deriving DecidableEq, Repr

/-- A handler writes records to its outlet, from a level of its own on.  Its filters find out which metric a
record is about.  Some handlers still write when they are closed. -/
structure Handler where
  outlet : Outlet
  least : Int := 0
  writesClosed : Bool := true
  form : Form := .text
  filters : Nat := 0
  closed : Bool := false
  deriving DecidableEq, Repr

/-- A record in the hands of a handler, with the words for its metric once a filter has noted them. -/
structure Handed where
  record : Record
  metric : Option String := none

/-- A filter notes the words for the metric, whether they have been noted before or not. -/
def Handed.note (h : Handed) : Handed :=
  { h with metric := some h.record.metricText }

namespace Handler

def filter (h : Handler) (r : Record) : Handed :=
  Nat.repeat Handed.note h.filters { record := r }

/-- Whether a record that is handed over comes to be written. -/
def emits (h : Handler) (r : Record) : Bool :=
  h.least ≤ r.level.toInt && (h.writesClosed || !h.closed)

/-- What a handler writes for a record; the text form needs the words for the metric. -/
def line? (h : Handler) (stamp : String) (r : Record) : Option String :=
  let handed := h.filter r
  if h.emits r then
    match h.form with
    | .text => handed.metric.map fun metric => handed.record.textWith metric stamp
    | .json => some (handed.record.toJson stamp)
  else none

def equip (h : Handler) (form : Form) : Handler :=
  { h with form, filters := h.filters + 1 }

/-- The handler when it is done with; one that writes nowhere stays as it is. -/
def close (h : Handler) : Handler :=
  if h.outlet = .nowhere then h else { h with closed := true }

end Handler

abbrev HandlerId : Type :=
  Nat

/-- All handlers, the places of the attached ones, the level, whether records go on to the application's
own handlers, and the loggers that have been used. -/
structure Channel where
  handlers : Array Handler
  attached : List HandlerId
  level : Level
  propagates : Bool
  loggers : List String

namespace Channel

/-- The logger whose records, and those of the loggers below it, reach the channel. -/
def loggerName : String := "histometrics"

/-- The channel before it is configured: its one handler writes nowhere, and the library's own loggers are
in use. -/
def initial : Channel :=
  ⟨#[{ outlet := .nowhere }], [0], .number 0, true,
    [loggerName, percentileLogger, histogramLogger, registryLogger]⟩

def use (c : Channel) (logger : String) : Channel :=
  { c with loggers := logger :: c.loggers }

/-- The level that counts when the channel has none: that of warnings. -/
def fallbackLevel : Int := 30

def threshold (c : Channel) : Int :=
  if c.level.toInt = 0 then fallbackLevel else c.level.toInt

/-- Whether the records of a logger come to the channel.  From hand to hand names get shorter. -/
def covers (c : Channel) (logger : String) : Bool :=
  Logger.reaches c.loggers loggerName logger.length logger

/-- Whether a record is written; one without a positive level never is. -/
def accepts (c : Channel) (r : Record) : Bool :=
  c.covers r.logger && 0 < r.level.toInt && c.threshold ≤ r.level.toInt

def handler? (c : Channel) (id : HandlerId) : Option Handler :=
  c.handlers[id]?

/-- The attached handlers that write somewhere. -/
def installed (c : Channel) : List HandlerId :=
  c.attached.filter fun id => (c.handler? id).any (·.outlet ≠ .nowhere)

/-- Whether a record goes on to the application's own handlers. -/
def passesOn (c : Channel) (r : Record) : Bool :=
  c.accepts r && c.propagates

/-- What a record makes the attached handlers write, and where. -/
def write (c : Channel) (stamp : String) (r : Record) : List (Outlet × String) :=
  if c.accepts r then
    c.attached.filterMap fun id => do
      let h ← c.handler? id
      return (h.outlet, ← h.line? stamp r)
  else []

/-- A further handler, at the place that is given with the channel. -/
def addHandler (c : Channel) (h : Handler) : HandlerId × Channel :=
  (c.handlers.size, { c with handlers := c.handlers.push h })

def clear (c : Channel) : Channel :=
  { c with
    handlers := c.attached.foldl (fun hs id => hs.modify id Handler.close) c.handlers
    attached := [] }

def attach (c : Channel) (id : HandlerId) (form : Form) : Channel :=
  { c with
    handlers := c.handlers.modify id (·.equip form)
    attached := c.attached ++ [id] }

@[simp] theorem attached_clear (c : Channel) : c.clear.attached = [] := rfl

@[simp] theorem attached_attach (c : Channel) (id : HandlerId) (form : Form) :
    (c.attach id form).attached = c.attached ++ [id] := rfl

def configure (c : Channel) (level : Value) (form : Form) (id : HandlerId) :
    Except Failure Unit × Channel :=
  let equipped := c.clear.attach id form
  match Level.ofValue level with
  | .ok level => (.ok (), { equipped with level, propagates := false })
  | .error failure => (.error failure, equipped)

/-- The channel that is configured to write all details aside. -/
def observed : Channel :=
  let (id, channel) := initial.addHandler { outlet := .aside }
  (channel.configure Level.debug.toValue .text id).2

end Channel

end Log

end SampledMetrics
