import SampledMetrics.World
/-!
Sessions: steps over named objects.  A step makes an object and names it, changes one, or asks about
one; naming again replaces.  The percentiles of a new histogram may be an iterable that runs steps of
its own each time it is iterated.  A visitor has a state of its own and a hook for histograms, which can
fail, and which can do with the session what steps can do: observe, ask, build and register further
metrics.
-/

set_option autoImplicit false
set_option relaxedAutoImplicit false

namespace SampledMetrics

/-- The reservoirs that a step can make. -/
inductive ReservoirRequest
  | uniform (size seed : Value)
  | sliding (size : Value)
  | keeping (claimedCount : Option Value)

/-- What is measured on a histogram: an extractor by kind, one at a percentile, or any question. -/
inductive Measure
  | kind (kind percentile : Value)
  | atPercentile (p : Value)
  | call (call : Snapshot.Call)

/-- How a measure is taken; an extractor must be made before. -/
def Measure.prepare : Measure → Except Failure (Snapshot → Except Failure Value)
  | .call c => .ok fun s => s.answer c
  | .atPercentile p => do return (← Extractor.atPercentile p).apply
  | .kind label percentile => do return (← Extractor.make (← MetricKind.ofLabel label) percentile).apply

/-- The choices for a histogram in one step; the reservoir is given by its name. -/
structure HistogramRequest where
  name : Value
  reservoir : Option String
  percentiles : Value
  skipDefaults : Value

/-- A step; one that could not be read is refused. -/
inductive Step
  | unreadable (failure : Failure)
  | reservoir (as : String) (request : ReservoirRequest)
  | draft (as : String)
  | setName (on : String) (name : Value)
  | setPercentiles (on : String) (percentiles : Value)
  | setReservoir (on : String) (reservoir : Option String)
  | setSkipDefaults (on : String) (skipDefaults : Value)
  | recipe (on : String)
  | build (on as : String)
  | buildRecipe (as : String) (request : HistogramRequest)
  | update (on : String) (value : Value)
  | updateMany (on : String) (values : Value)
  | updateRange (on : String) (start step count : Value)
  | metrics (on : String)
  | measure (on : String) (measure : Measure)
  | info (on : String)
  | extractors (on : String)
  | defaultNames
  | state (on : String)
  | take (on as : String)
  | ask (on : String) (call : Snapshot.Call)
  | visitAll (collecting : Bool)
  | visit (on : String) (collecting : Bool)
  | gauge (as : String) (name : Value)
  | findOrBuild (as : Option String) (group : Value) (request : HistogramRequest)
  | findOrBuildDuring (as : Option String) (group : Value) (request : HistogramRequest)
      (during : List Step)
  | register (group : Value) (on : String)
  | groups
  | group (group : Value)

/-- What a step answers. -/
inductive Answer
  | refused (failure : Failure)
  | done
  | accepted
  | value (value : Value)
  | recipe (recipe : Recipe) (reservoir : Option String)
  | report (report : Report)
  | reports (reports : List (String × Report))
  | info (name : String) (count : Value) (size : Nat) (reservoir : String) (reservoirNames : List String)
      (metricNames : List String)
  | state (description : String) (count : Value) (capacity size : Nat) (values : List Value)
  | table (table : Table)
  | names (names : List String)
  | histogram (description : String) (sameAs : List String)
  | histogramDuring (description : String) (sameAs : List String) (during : List Answer)
  | refusedDuring (failure : Failure) (during : List Answer)
  | groups (groups : List Value)
  | bindings (bindings : List (Option Value × String × List String))

namespace Answer

def values : Answer → List Value
  | .value v => [v]
  | .recipe r _ => [r.name, r.percentiles, r.skipDefaults]
  | .report entries => entries.map Prod.snd
  | .reports entries => entries.flatMap fun entry => entry.2.map Prod.snd
  | .info _ count _ _ _ _ => [count]
  | .state _ count _ _ kept => count :: kept
  | .groups listed => listed
  | .bindings found => found.filterMap Prod.fst
  | _ => []

/-- The answer, unless it would show a number with too many digits. -/
def shown (answer : Answer) : Answer :=
  if answer.values.all Value.isShowable then answer else .refused .digitLimit

end Answer

/-- The world, the names, and what histograms are built with. -/
structure Session where
  world : World
  names : List (String × ObjectId)
  defaults : Defaults

namespace Session

def start (systemWords : ObjectId → Nat → UInt64) (defaults : Defaults) : Session :=
  ⟨.empty systemWords, [], defaults⟩

def name (s : Session) (name : String) (id : ObjectId) : Session :=
  { s with names := Value.putEntry name id s.names }

def nameIf (s : Session) (name : Option String) (id : ObjectId) : Session :=
  match name with
  | some name => s.name name id
  | none => s

/-- The session with a further object, and a name for it. -/
def addNamed (s : Session) (as : String) (object : Object) : Session :=
  let (id, world) := s.world.add object
  { s with world }.name as id

def place (s : Session) (name : String) : Except Failure ObjectId :=
  match s.names.lookup name with
  | some id => .ok id
  | none => .error (.noSuchObject name)

/-- The place of the object of a name that may be left out. -/
def placeIf (s : Session) (name : Option String) : Except Failure (Option ObjectId) :=
  match name with
  | none => .ok none
  | some name => do return some (← s.place name)

def object (s : Session) (name : String) : Except Failure Object := do
  return s.world.object (← s.place name)

/-- The draft of a name, of which some part is asked for. -/
def draftWith (s : Session) (part name : String) : Except Failure HistogramDraft := do
  match ← s.object name with
  | .draft b => return b
  | object => object.lacking part

/-- The histogram of a name, of which some part is asked for. -/
def histogramWith (s : Session) (part name : String) : Except Failure Histogram := do
  match ← s.object name with
  | .histogram h => return h
  | object => object.lacking part

def namesOf (s : Session) (id : ObjectId) : List String :=
  Text.sorted <| s.names.filterMap fun entry => if entry.2 = id then some entry.1 else none

def reading (s : Session) (answer : Except Failure Answer) : Answer × Session :=
  match answer with
  | .ok answer => (answer.shown, s)
  | .error failure => (.refused failure, s)

/-- A change of the session, or a refusal that leaves it as it is. -/
def changing (s : Session) (change : Except Failure (Answer × Session)) : Answer × Session :=
  match change with
  | .ok result => result
  | .error failure => (.refused failure, s)

def makeReservoir (s : Session) (request : ReservoirRequest) : Except Failure Reservoir :=
  match request with
  | .uniform size seed =>
      Reservoir.makeUniform size seed (s.world.systemWords s.world.objects.size)
  | .sliding size => Reservoir.makeSliding size
  | .keeping claimedCount => .ok (Reservoir.makeKeeping claimedCount)

/-- The kind of a part that an object has where a draft has a choice to be made. -/
def partKind? (s : Session) (object : Object) (part : String) : Option String :=
  match object, part with
  | .histogram h, "name" => some (Value.text h.name).kindName
  | .histogram h, "reservoir" => some (s.world.object h.reservoir).kindName
  | .gauge name, "name" => some name.kindName
  | _, _ => none

/-- Make a choice, which is looked up first, for the draft of a name.  Other objects have no choices: they
lack the part, or have another one that no choice can be made with. -/
def choose {α : Type} (s : Session) (part on : String) (choice : Except Failure α)
    (change : HistogramDraft → α → Except Failure HistogramDraft) : Answer × Session :=
  s.changing do
    let id ← s.place on
    let choice ← choice
    match s.world.object id with
    | .draft b =>
        let b ← change b choice
        return (.accepted, { s with world := s.world.put id (.draft b) })
    | object =>
        match s.partKind? object part with
        | none => object.lacking part
        | some kind => throw (.notCallable kind)

def buildNamed (s : Session) (as : String) (recipe : Recipe) : Answer × Session :=
  match s.world.build recipe s.defaults with
  | (.error failure, world) => (.refused failure, { s with world })
  | (.ok h, world) => (.value (.text h.describe), { s with world }.addNamed as (.histogram h))

/-- Observations one by one for the object at a place, up to the first that is refused or cannot even
be made. -/
def updateEach (w : World) (id : ObjectId) :
    List (Except Failure Value) → Except Failure Unit × World
  | [] => (.ok (), w)
  | .error failure :: _ => (.error failure, w)
  | .ok value :: rest =>
      match w.update id value with
      | (.ok (), w) => updateEach w id rest
      | (.error failure, w) => (.error failure, w)

/-- The value after `k` steps. -/
def rangeValue (start step : Value) (k : Nat) : Except Failure Value := do
  start.add (← step.times k)

/-- The values after no step, one, and so on. -/
def rangeValues (start step count : Value) : Except Failure (List (Except Failure Value)) := do
  return (List.range (← count.toCount)).map (rangeValue start step)

/-- Observations for the object of a name, which must take observations, unless there are none. -/
def observe (s : Session) (on : String) (values : Except Failure (List (Except Failure Value))) :
    Answer × Session :=
  s.changing do
    let id ← s.place on
    let values ← values
    if values.isEmpty then return (.done, s)
    let object := s.world.object id
    if !object.isObserver then object.lacking "update"
    match updateEach s.world id values with
    | (.ok (), world) => return (.done, { s with world })
    | (.error failure, world) => return (.refused failure, { s with world })

/-- The histogram of a name, to tell all about it: first its name, then its count. -/
def infoNamed (s : Session) (on : String) : Except Failure Histogram := do
  match ← s.object on with
  | .histogram h => return h
  | object =>
      let _ ← object.ownName
      object.lacking "count"

def infoOf (s : Session) (h : Histogram) : Except Failure Answer := do
  let count ← s.world.countOf h
  let reservoir := s.world.object h.reservoir
  return .info h.name count (← reservoir.size) reservoir.describe (s.namesOf h.reservoir)
    (Text.sorted h.metricNames)

/-- The state of a reservoir, which must tell a count and a capacity. -/
def stateOf (r : Reservoir) : Except Failure Answer :=
  match r.count?, r.capacity? with
  | none, _ => .error (.lacks r.kindName "count")
  | _, none => .error (.lacks r.kindName "capacity")
  | some count, some capacity => do
      return .state r.describe count capacity r.size (← r.snapshot).values

/-- The state of the object of a name; a histogram tells a count, but no capacity. -/
def stateNamed (s : Session) (on : String) : Except Failure Answer := do
  match ← s.object on with
  | .reservoir r => stateOf r
  | .histogram h =>
      let _ ← s.world.countOf h
      (Object.histogram h).lacking "capacity"
  | object => object.lacking "count"

/-- The answer of a visitor to objects; one that does not collect gives nothing. -/
def visitEach (s : Session) (collecting : Bool) (ids : List ObjectId) : Except Failure Answer := do
  let reports ← s.world.collect collecting ids
  return if collecting then .reports reports else .done

def recipeOf (s : Session) (request : HistogramRequest) : Except Failure Recipe := do
  return ⟨request.name, ← s.placeIf request.reservoir, request.percentiles, request.skipDefaults⟩

/-- The answer of finding or building: the histogram, and the names that it had already. -/
def describeMetric (s : Session) (id : ObjectId) : String × List String :=
  ((s.world.object id).describe, s.namesOf id)

/-- The bindings of a group with the kinds and the names of their metrics. -/
def describeBindings (s : Session) (group : Value) : Answer :=
  .bindings <| (s.world.registry.metrics group).map fun binding =>
    (binding.1, (s.world.object binding.2).kindName, s.namesOf binding.2)

mutual

def run (s : Session) : Step → Answer × Session
  | .unreadable failure => (.refused failure, s)
  | .reservoir as request => s.changing do
      let r ← s.makeReservoir request
      return (.value (.text r.describe), s.addNamed as (.reservoir r))
  | .draft as => (.done, s.addNamed as (.draft {}))
  | .setName on name => s.choose "name" on (.ok name) fun b name => .ok (b.setName name)
  | .setPercentiles on percentiles =>
      s.choose "percentiles" on (.ok percentiles) fun b percentiles => b.setPercentiles percentiles
  | .setReservoir on reservoir =>
      s.choose "reservoir" on (s.placeIf reservoir) fun b id => .ok (b.setReservoir id)
  | .setSkipDefaults on skipDefaults =>
      s.choose "skip_default_metrics" on (.ok skipDefaults) fun b skipDefaults =>
        .ok (b.setSkipDefaults skipDefaults)
  | .recipe on => s.reading do
      let recipe := (← s.draftWith "spec" on).recipe
      return .recipe recipe (recipe.reservoir.map fun id => (s.world.object id).describe)
  | .build on as => s.changing do return s.buildNamed as (← s.draftWith "build" on).recipe
  | .buildRecipe as request => s.changing do return s.buildNamed as (← s.recipeOf request)
  | .update on value => s.observe on (.ok [.ok value])
  | .updateMany on values => s.observe on do return (← Table.itemsOf values).map .ok
  | .updateRange on start step count => s.observe on (rangeValues start step count)
  | .metrics on => s.reading do
      return .report (← s.world.reportOf (← s.histogramWith "compute_metrics" on))
  | .measure on measure => s.reading do
      let h ← s.histogramWith "get_metric" on
      let take ← measure.prepare
      return .value (← take (← s.world.snapshotOf (.histogram h)))
  | .info on => s.reading do s.infoOf (← s.infoNamed on)
  | .extractors on => s.reading do
      return .table (← s.histogramWith "extractors" on).extractors
  | .defaultNames => (.names (Text.sorted Table.defaults.names), s)
  | .state on => s.reading (s.stateNamed on)
  | .take on as => s.changing do
      let snapshot ← s.world.snapshotOf (← s.object on)
      return (.value (.text snapshot.describe), s.addNamed as (.snapshot snapshot))
  | .ask on call => s.reading do return .value (← (← s.object on).answer call)
  | .visitAll collecting => s.reading (s.visitEach collecting s.world.registry.all)
  | .visit on collecting => s.reading do s.visitEach collecting [← s.place on]
  | .gauge as name => (.done, s.addNamed as (.gauge name))
  | .findOrBuild as group request => s.changing do
      let recipe ← s.recipeOf request
      match s.world.findOrBuild group recipe s.defaults id with
      | (.error failure, world) => return (.refused failure, { s with world })
      | (.ok metric, world) =>
          let s := { s with world }
          let (description, sameAs) := s.describeMetric metric
          return (.histogram description sameAs, s.nameIf as metric)
  | .findOrBuildDuring as group request during =>
      match s.recipeOf request with
      | .error failure => (.refused failure, s)
      | .ok recipe =>
          match s.world.findHistogram group recipe.name with
          | .error failure => (.refusedDuring failure [], s)
          | .ok (some metric) =>
              let (description, sameAs) := s.describeMetric metric
              (.histogramDuring description sameAs [], s.nameIf as metric)
          | .ok none =>
              let (answers, s) := runAll s during
              match Table.itemsOf recipe.percentiles with
              | .error failure => (.refusedDuring failure answers, s)
              | .ok items =>
                  let recipe := { recipe with percentiles := .list items }
                  match s.world.buildAndBind group recipe s.defaults with
                  | (.error failure, world) => (.refusedDuring failure answers, { s with world })
                  | (.ok metric, world) =>
                      let s := { s with world }
                      let (description, sameAs) := s.describeMetric metric
                      (.histogramDuring description sameAs answers, s.nameIf as metric)
  | .register group on => s.changing do
      match s.world.register group (← s.place on) with
      | (.error failure, world) => return (.refused failure, { s with world })
      | (.ok (), world) => return (.accepted, { s with world })
  | .groups => s.reading do return .groups (← Value.sort s.world.registry.groupNames)
  | .group group => s.reading do
      checkKey group
      return s.describeBindings group

/-- Steps in order: their answers, and the session after them. -/
def runAll (s : Session) : List Step → List Answer × Session
  | [] => ([], s)
  | step :: rest =>
      let (answer, s) := run s step
      let (answers, s) := runAll s rest
      (answer :: answers, s)

end

end Session

/-- A visitor with its state: what the hook does to a session could also be done by steps. -/
structure Visitor (μ : Type) where
  hook : ObjectId → μ × Session → Except Failure Unit × μ × Session
  bySteps : ∀ id state, ∃ steps, (hook id state).2.2 = (Session.runAll state.2 steps).2

namespace Visitor

/-- The visitor that notes something at each call before it does what it does. -/
def noting {α μ : Type} (note : ObjectId → Session → α) (v : Visitor μ) : Visitor (List α × μ) where
  hook id state :=
    let (result, own, s) := v.hook id (state.1.2, state.2)
    (result, (state.1.1 ++ [note id state.2], own), s)
  bySteps id state := v.bySteps id (state.1.2, state.2)

/-- The visitor that collects the metrics of each histogram before it does what it does. -/
def collecting {μ : Type} (v : Visitor μ) : Visitor (List (Except Failure (String × Report)) × μ) :=
  v.noting fun id s => s.world.reportAt id

end Visitor

/-- Show all metrics of the registry to a visitor: those that are registered when the visit begins. -/
def Session.visitWith {μ : Type} (s : Session) (v : Visitor μ) (own : μ) :
    Except Failure Unit × μ × Session :=
  World.walk (fun state : μ × Session => state.2.world) v.hook s.world.registry.all (own, s)

end SampledMetrics
