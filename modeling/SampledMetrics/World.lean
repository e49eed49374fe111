import SampledMetrics.Histogram
import SampledMetrics.Log.Record
import SampledMetrics.Registry
import SampledMetrics.Snapshot
import SampledMetrics.Value.Order
/-!
All objects that exist, the registry that names some of them, and the events so far.  Objects are what a
caller holds and hands over, known by their place, so that two histograms can share a reservoir and a
metric can be found under several names.  Any of them can be handed over where a reservoir or a metric is
wanted; what it lacks is found out when it is asked for.  A histogram may stand on another one, and hands
on to it what it is asked.  An operation that fails gives the world it leaves behind.
-/

set_option autoImplicit false
set_option relaxedAutoImplicit false

namespace SampledMetrics

/-- An object; of a gauge, a metric that is no histogram, only the name is known. -/
inductive Object
  | reservoir (value : Reservoir)
  | snapshot (value : Snapshot)
  | histogram (value : Histogram)
  | gauge (name : Value)
  | draft (value : HistogramDraft)

namespace Object

instance : Inhabited Object := ⟨.gauge .null⟩

def kindName : Object → String
  | .reservoir r => r.kindName
  | .snapshot _ => "Snapshot"
  | .histogram _ => "Histogram"
  | .gauge _ => "Gauge"
  | .draft _ => "HistogramBuilder"

/-- The text of an object; those that have none of their own show their kind. -/
def describe : Object → String
  | .reservoir r => r.describe
  | .snapshot s => s.describe
  | .histogram h => h.describe
  | object => "<" ++ object.kindName ++ ">"

/-- Whether the numbers in the description are within the digit limit. -/
def isShowable : Object → Bool
  | .reservoir r => r.isShowable
  | _ => true

/-- Refuse because the object does not have what it is asked for. -/
def lacking {α : Type} (object : Object) (part : String) : Except Failure α :=
  .error (.lacks object.kindName part)

def isObserver : Object → Bool
  | .reservoir _ => true
  | .histogram _ => true
  | _ => false

/-- One more observation for the samples of the object; a histogram has none of its own. -/
def update (object : Object) (value : Value) : Except Failure Unit × Object :=
  match object with
  | .reservoir r =>
      let (result, r) := r.update value
      (result, .reservoir r)
  | object => (object.lacking "update", object)

/-- The name that the object is registered under; a draft is registered, but under no name that could
be asked for. -/
def ownName : Object → Except Failure (Option Value)
  | .histogram h => .ok (some (.text h.name))
  | .gauge name => .ok (some name)
  | .draft _ => .ok none
  | object => object.lacking "name"

def size : Object → Except Failure Nat
  | .reservoir r => .ok r.size
  | .snapshot s => .ok s.size
  | object => object.lacking "size"

/-- The answer to a question by name: only snapshots know them all, reservoirs tell their size, and every
object its text. -/
def answer (object : Object) (c : Snapshot.Call) : Except Failure Value :=
  match object, c.name with
  | .snapshot s, _ => s.answer c
  | object, "repr" => .ok (.text object.describe)
  | object, "len" => .error (.noLength object.kindName)
  | .reservoir r, "size" =>
      if c.arguments.isEmpty then .ok (.int r.size)
      else .error (.arguments r.sizeName (.tooMany 1 1 (c.arguments.length + 1)))
  | object, name => object.lacking name

end Object

/-- The metrics of a histogram by name, in the order of its table. -/
abbrev Report : Type :=
  List (String × Value)

/-- The objects, the registry, the events so far, and the system's words for each reservoir without a
seed. -/
structure World where
  objects : Array Object
  registry : Registry
  events : Array Event
  systemWords : ObjectId → Nat → UInt64

namespace World

def empty (systemWords : ObjectId → Nat → UInt64) : World :=
  ⟨#[], .empty, #[], systemWords⟩

def tell (w : World) (events : List Event) : World :=
  { w with events := w.events ++ events.toArray }

def object (w : World) (id : ObjectId) : Object :=
  w.objects.getD id default

/-- A further object, at the place that is given with the world. -/
def add (w : World) (object : Object) : ObjectId × World :=
  (w.objects.size, { w with objects := w.objects.push object })

def put (w : World) (id : ObjectId) (object : Object) : World :=
  { w with objects := w.objects.setIfInBounds id object }

@[simp] theorem object_add_self (w : World) (object : Object) :
    (w.add object).2.object (w.add object).1 = object := by
  simp [World.object, add]

theorem object_add_of_lt {w : World} {id : ObjectId} (present : id < w.objects.size) (object : Object) :
    (w.add object).2.object id = w.object id := by
  simp [World.object, add, Array.getElem?_push_lt present, present]

@[simp] theorem object_put_self {w : World} {id : ObjectId} (present : id < w.objects.size)
    (object : Object) : (w.put id object).object id = object := by
  simp [World.object, put, present]

@[simp] theorem object_put_of_ne {w : World} {id other : ObjectId} (different : id ≠ other)
    (object : Object) : (w.put id object).object other = w.object other := by
  simp [World.object, put, Array.getElem?_setIfInBounds_ne different]

/-- The object at a place, and the world in which the place is free. -/
@[noinline] def take (w : World) (id : ObjectId) : Object × World :=
  (w.object id, w.put id default)

@[simp] theorem put_take (w : World) (id : ObjectId) :
    (w.take id).2.put id (w.take id).1 = w := by
  cases w with
  | mk objects registry events systemWords =>
    by_cases present : id < objects.size
    · simp [take, World.object, put, present, Array.setIfInBounds]
    · simp [take, put, Array.setIfInBounds, present]

/-- How many histograms may stand on each other. -/
def chainRoom : Nat := 989

/-- The first object that is no histogram, going down from one to its reservoir, in so many steps. -/
def groundIn : (steps : Nat) → World → ObjectId → Option ObjectId
  | 0, _, _ => none
  | steps + 1, w, id =>
      match w.object id with
      | .histogram h => groundIn steps w h.reservoir
      | _ => some id

/-- What a histogram stands on in the end, unless the chain is too long. -/
def ground? (w : World) (h : Histogram) : Option ObjectId :=
  groundIn chainRoom w h.reservoir

/-- One more observation for the object at a place that is no histogram; the place is free in the
meantime, so that the samples need not be copied. -/
def updateSamples (w : World) (id : ObjectId) (value : Value) : Except Failure Unit × World :=
  let (object, w) := w.take id
  let (result, object) := object.update value
  (result, w.put id object)

/-- One more observation for what a histogram stands on. -/
def updateGround (w : World) (h : Histogram) (observation : Number) : Except Failure Unit × World :=
  match w.ground? h with
  | none => (.error .chainTooLong, w)
  | some id => w.updateSamples id (.number observation)

/-- One more observation for a histogram, which checks it whatever its reservoir does, provided that
the reservoir takes observations at all. -/
def updateHistogram (w : World) (h : Histogram) (value : Value) : Except Failure Unit × World :=
  if (w.object h.reservoir).isObserver then
    match observationOf value with
    | .ok observation => w.updateGround h observation
    | .error failure => (.error failure, w)
  else ((w.object h.reservoir).lacking "update", w)

def update (w : World) (id : ObjectId) (value : Value) : Except Failure Unit × World :=
  match w.object id with
  | .histogram h => w.updateHistogram h value
  | _ => w.updateSamples id value

/-- A snapshot of what an object that is no histogram holds. -/
def snapshotOfGround (object : Object) : Except Failure Snapshot :=
  match object with
  | .reservoir r => r.snapshot
  | object => object.lacking "snapshot"

/-- A snapshot of what an object holds; a histogram holds what it stands on. -/
def snapshotOf (w : World) (object : Object) : Except Failure Snapshot :=
  match object with
  | .histogram h =>
      match w.ground? h with
      | none => .error .nestedTooDeep
      | some id => snapshotOfGround (w.object id)
  | object => snapshotOfGround object

/-- Every metric of a histogram, all from one snapshot. -/
def reportOf (w : World) (h : Histogram) : Except Failure Report := do
  h.report (← w.snapshotOf (.histogram h))

/-- The observations of a histogram, as far as what it stands on tells them. -/
def countOf (w : World) (h : Histogram) : Except Failure Value :=
  match w.ground? h with
  | none => .error .nestedTooDeep
  | some id =>
      match w.object id with
      | .reservoir r => .ok (Histogram.count r)
      | .snapshot s => .ok (.int s.size)
      | _ => (w.object h.reservoir).lacking "size"

/-- The histogram of a plan on a reservoir, and the event of its building. -/
def finishBuild (w : World) (plan : HistogramPlan) (id : ObjectId) : Histogram × World :=
  let reservoir := w.object id
  let reservoirText := if reservoir.isShowable then some reservoir.describe else none
  let names := Text.sorted plan.extractors.names
  (⟨plan.name, id, plan.extractors⟩, w.tell [.built plan.name names reservoirText])

/-- Build a histogram; without a reservoir of its own it gets a new uniform one. -/
def build (w : World) (recipe : Recipe) (defaults : Defaults) :
    Except Failure Histogram × World :=
  let plan := recipe.plan defaults
  let w := w.tell plan.events
  match plan.result, recipe.reservoir with
  | .error failure, _ => (.error failure, w)
  | .ok plan, some id =>
      let (histogram, w) := w.finishBuild plan id
      (.ok histogram, w)
  | .ok plan, none =>
      match Reservoir.makeUniform defaults.reservoirSize defaults.reservoirSeed
          (w.systemWords w.objects.size) with
      | .error failure => (.error failure, w)
      | .ok r =>
          let (id, w) := w.add (.reservoir r)
          let (histogram, w) := w.finishBuild plan id
          (.ok histogram, w)

/-- Bind an object in a group under its own name, which must not be bound there.  The group is made
first, and stays also if the object has no such name. -/
def register (w : World) (group : Value) (id : ObjectId) : Except Failure Unit × World :=
  match checkKey group with
  | .error failure => (.error failure, w)
  | .ok () =>
      let grouped := { w with registry := w.registry.withGroup group }
      match (w.object id).ownName with
      | .error failure => (.error failure, grouped)
      | .ok none => (.ok (), { w with registry := w.registry.bind group none id })
      | .ok (some name) =>
          match checkKey name, w.registry.find? group name with
          | .error failure, _ => (.error failure, grouped)
          | .ok (), some _ => (.error (.alreadyRegistered name group), grouped)
          | .ok (), none =>
              let bound := { w with registry := w.registry.bind group (some name) id }
              (.ok (), bound.tell [.registered name group])

/-- A metric that is found where a histogram is wanted. -/
def wantHistogram (w : World) (group name : Value) (id : ObjectId) : Except Failure ObjectId :=
  match w.object id with
  | .histogram _ => .ok id
  | object => .error (.otherMetricKind name group object.kindName)

def findHistogram (w : World) (group name : Value) : Except Failure (Option ObjectId) := do
  checkKey group
  checkKey name
  match w.registry.find? group name with
  | none => return none
  | some id => return some (← w.wantHistogram group name id)

/-- Build a histogram and bind it, unless its name has been bound in the meantime; then the metric
bound is given, if it is a histogram. -/
def buildAndBind (w : World) (group : Value) (recipe : Recipe) (defaults : Defaults) :
    Except Failure ObjectId × World :=
  match w.build recipe defaults with
  | (.error failure, w) => (.error failure, w)
  | (.ok histogram, w) =>
      match w.registry.find? group recipe.name with
      | some id => (w.wantHistogram group recipe.name id, w)
      | none =>
          let (id, w) := w.add (.histogram histogram)
          let w := { w with registry := w.registry.bind group (some recipe.name) id }
          (.ok id, w.tell [.registered recipe.name group])

def listed (recipe : Recipe) : Except Failure Recipe :=
  match recipe.percentiles with
  | .null => .ok recipe
  | percentiles => do return { recipe with percentiles := .list (← Table.itemsOf percentiles) }

def listBuildAndBind (w : World) (group : Value) (recipe : Recipe) (defaults : Defaults) :
    Except Failure ObjectId × World :=
  match listed recipe with
  | .error failure => (.error failure, w)
  | .ok recipe => w.buildAndBind group recipe defaults

/-- The histogram under a name in a group, built and bound if there is none.  Between looking and
building the percentiles are listed, which may change the world by `interlude`. -/
def findOrBuild (w : World) (group : Value) (recipe : Recipe) (defaults : Defaults)
    (interlude : World → World) : Except Failure ObjectId × World :=
  match w.findHistogram group recipe.name with
  | .error failure => (.error failure, w)
  | .ok (some id) => (.ok id, w)
  | .ok none => (interlude w).listBuildAndBind group recipe defaults

/-- The name of the histogram at a place, and its metrics. -/
def reportAt (w : World) (id : ObjectId) : Except Failure (String × Report) :=
  match w.object id with
  | .histogram h => do return (h.name, ← w.reportOf h)
  | object => object.lacking "compute_metrics"

/-- Show objects to a visitor, one after the other, up to the first failure.  A histogram calls the hook of
the visitor, which may change the state that the world is a part of; a gauge calls nothing. -/
def walk {σ : Type} (world : σ → World) (hook : ObjectId → σ → Except Failure Unit × σ) :
    List ObjectId → σ → Except Failure Unit × σ
  | [], state => (.ok (), state)
  | id :: rest, state =>
      match (world state).object id with
      | .histogram _ =>
          match hook id state with
          | (.ok (), state) => walk world hook rest state
          | (.error failure, state) => (.error failure, state)
      | .gauge _ => walk world hook rest state
      | object => (object.lacking "visit", state)

/-- What a collector does with a histogram: its report comes to the others, if it collects them. -/
def gather (collecting : Bool) (id : ObjectId) (state : World × List (String × Report)) :
    Except Failure Unit × World × List (String × Report) :=
  if collecting then
    match state.1.reportAt id with
    | .ok entry => (.ok (), state.1, state.2 ++ [entry])
    | .error failure => (.error failure, state)
  else (.ok (), state)

/-- What a collector gathers from objects, one after the other. -/
def collect (w : World) (collecting : Bool) (ids : List ObjectId) :
    Except Failure (List (String × Report)) :=
  match walk Prod.fst (gather collecting) ids (w, []) with
  | (.ok (), _, reports) => .ok reports
  | (.error failure, _) => .error failure

end World

end SampledMetrics
