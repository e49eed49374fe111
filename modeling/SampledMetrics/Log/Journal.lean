import SampledMetrics.Log.Channel
import SampledMetrics.Session
/-!
Journals: a session whose events are written through a channel, and records from elsewhere beside
them.  Every step tells what it wrote to each of the streams that there are.
-/

set_option autoImplicit false
set_option relaxedAutoImplicit false

namespace SampledMetrics.Log

/-- The operation that gives a context, by its name in messages. -/
def contextName : String := "metric_context"

def contextFullName : String := "histometrics.log." ++ contextName

/-- The metric that values tell: a histogram and, if there are two, its group. -/
def context (values : Value) : Except Failure (Value × Value) :=
  match values.items? with
  | none => .error (.arguments contextFullName (.notIterable values.kindName))
  | some [histogram] => .ok (histogram, .null)
  | some [histogram, group] => .ok (histogram, group)
  | some [] => .error (.arguments contextName (.missing ["histogram"]))
  | some items => .error (.arguments contextName (.tooMany 1 2 items.length))

/-- A record as it is asked for, before anything of it is checked. -/
structure RecordRequest where
  logger : Value
  level : Value
  message : Value
  histogram : Value
  group : Value
  context : Value
  error : Option String

namespace RecordRequest

/-- The metric that the record is about, which a context tells if there is one. -/
def metric (r : RecordRequest) : Except Failure (Value × Value) :=
  if r.context.isTrue then Log.context r.context else .ok (r.histogram, r.group)

/-- The logger of the record: a text, or what is false for the root of all loggers. -/
def loggerName (r : RecordRequest) : Except Failure String :=
  match r.logger with
  | .text name => .ok name
  | name => if name.isTrue then .error .loggerKind else .ok ""

end RecordRequest

inductive Entry
  | configure (level : Value) (form : Form) (stream : String)
  | log (request : RecordRequest)
  | context (values : Value)
  | run (step : Step)

/-- What an entry leads to, beside the lines. -/
inductive Reply
  | done
  | refused (failure : Failure)
  | context (members : List (String × Value))
  | answer (answer : Answer)

structure Journal where
  session : Session
  channel : Channel
  streams : List String

namespace Journal

def start (session : Session) (channel : Channel) : Journal :=
  ⟨session, channel, []⟩

def written (j : Journal) (stamp : String) (records : List Record) : List (Outlet × String) :=
  records.flatMap (j.channel.write stamp)

def withStream (j : Journal) (stream : String) : Journal :=
  if j.streams.contains stream then j else { j with streams := j.streams ++ [stream] }

/-- A record from elsewhere, of a metric.  Its logger is used by it even if its level is refused. -/
def log (j : Journal) (stamp : String) (r : RecordRequest) :
    Reply × List (Outlet × String) × Journal :=
  match r.metric, r.loggerName, Level.ofRecord r.level with
  | .error failure, _, _ => (.refused failure, [], j)
  | .ok _, .error failure, _ => (.refused failure, [], j)
  | .ok _, .ok logger, .error failure =>
      (.refused failure, [], { j with channel := j.channel.use logger })
  | .ok (histogram, group), .ok logger, .ok level =>
      let j := { j with channel := j.channel.use logger }
      let record : Record := ⟨logger, level, r.message.display, histogram, group, r.error⟩
      (.done, j.written stamp [record], j)

/-- One entry: its reply, what was written to which stream, and the journal after it. -/
def enter (j : Journal) (stamp : String) : Entry → Reply × List (Outlet × String) × Journal
  | .configure level form stream =>
      let (id, channel) := j.channel.addHandler { outlet := .stream stream }
      let (result, channel) := channel.configure level form id
      let reply := match result with
        | .ok () => Reply.done
        | .error failure => .refused failure
      (reply, [], { j.withStream stream with channel })
  | .log request => j.log stamp request
  | .context values =>
      match context values with
      | .ok (histogram, group) => (.context [("histogram", histogram), ("group", group)], [], j)
      | .error failure => (.refused failure, [], j)
  | .run step =>
      let (answer, session) := j.session.run step
      let news := session.world.events.toList.drop j.session.world.events.size
      (.answer answer, j.written stamp (news.filterMap Event.record?), { j with session })

/-- Entries in order: the reply to each with what was written and the journal after it. -/
def enterAll (j : Journal) (stamp : String) :
    List Entry → List (Reply × List (Outlet × String) × Journal)
  | [] => []
  | entry :: rest =>
      let (reply, written, after) := j.enter stamp entry
      (reply, written, after) :: after.enterAll stamp rest

def textsOf (outlet : Outlet) (written : List (Outlet × String)) : List String :=
  (written.filter fun entry => entry.1 = outlet).map Prod.snd

def linesOf (stream : String) (written : List (Outlet × String)) : List String :=
  (textsOf (.stream stream) written).flatMap (·.splitOn "\n")

end Journal

end SampledMetrics.Log
