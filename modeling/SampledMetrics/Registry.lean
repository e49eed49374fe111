import SampledMetrics.Value.Order
/-!
The registry: groups of named metrics.  Groups and the names in a group keep the order in which they
first came, and a name that is bound stays bound to the same metric.  Objects are known by their place
among all objects, so that several others can share one.
-/

set_option autoImplicit false
set_option relaxedAutoImplicit false

namespace SampledMetrics

abbrev ObjectId : Type :=
  Nat

/-- The metrics of a group, in order, each under its name; what has no name that could be asked for is
there all the same. -/
abbrev Bindings : Type :=
  List (Option Value × ObjectId)

/-- The groups by name, in order. -/
structure Registry where
  groups : List (Value × Bindings)

namespace Registry

def empty : Registry :=
  ⟨[]⟩

/-- The metrics of a group, if the group exists. -/
def group? (r : Registry) (group : Value) : Option Bindings :=
  (r.groups.find? fun entry => entry.1.same group).map Prod.snd

/-- The metrics of a group; a group that does not exist has none. -/
def metrics (r : Registry) (group : Value) : Bindings :=
  (r.group? group).getD []

/-- The metric with a name in a group. -/
def find? (r : Registry) (group name : Value) : Option ObjectId :=
  ((r.metrics group).find? fun binding => binding.1.any (·.same name)).map Prod.snd

/-- Change the metrics of a group, which comes to the end, without any, if it is new. -/
def changeGroup (group : Value) (change : Bindings → Bindings) :
    List (Value × Bindings) → List (Value × Bindings)
  | [] => [(group, change [])]
  | (name, bindings) :: rest =>
      if name.same group then (name, change bindings) :: rest
      else (name, bindings) :: changeGroup group change rest

/-- The registry with a group, which is empty if it is new. -/
def withGroup (r : Registry) (group : Value) : Registry :=
  ⟨changeGroup group id r.groups⟩

/-- The registry with a further binding at the end of a group. -/
def bind (r : Registry) (group : Value) (name : Option Value) (metric : ObjectId) : Registry :=
  ⟨changeGroup group (· ++ [(name, metric)]) r.groups⟩

def groupNames (r : Registry) : List Value :=
  r.groups.map Prod.fst

/-- All metrics, group by group. -/
def all (r : Registry) : List ObjectId :=
  r.groups.flatMap fun group => group.2.map Prod.snd

end Registry

def checkKey (key : Value) : Except Failure Unit :=
  if key.isKey then .ok () else .error (.notKey key.kindName)

end SampledMetrics
