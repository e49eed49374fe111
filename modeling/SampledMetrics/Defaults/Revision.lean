import SampledMetrics.Defaults.Environment
import SampledMetrics.Defaults.Load
import SampledMetrics.World
/-!
Revisions of defaults: they are replaced, overridden, loaded or checked, or a histogram is built with
them on trial.  New defaults take the place of the old ones only if they can be made; overriding
changes the ones that are there.
-/

set_option autoImplicit false
set_option relaxedAutoImplicit false

namespace SampledMetrics

/-- A revision; one that could not be read is refused. -/
inductive Revision
  | unreadable (failure : Failure)
  | reset
  | ofDocument (document : Value)
  | replace (fields : Value)
  | override (assignments : Value)
  | validate
  | load (files : Files) (path assignments : Value)
  | trial (percentiles skipDefaults count : Value)

/-- A histogram that was built on trial: its metrics, and its reservoir after some observations. -/
structure Trial where
  metricNames : List String
  reservoir : String
  values : List Value

/-- What a revision leads to, beside the defaults after it. -/
inductive Revision.Outcome
  | settled
  | refused (failure : Failure)
  | tried (trial : Trial)

namespace Defaults

/-- The natural numbers below `count` observed one after the other. -/
def observeRange (h : Histogram) : (count : Nat) → World → Except Failure World
  | 0, w => .ok w
  | count + 1, w => do
      let w ← observeRange h count w
      match w.updateHistogram h (.int count) with
      | (.ok (), w) => return w
      | (.error failure, _) => throw failure

/-- Build a histogram with the defaults and let it observe the first natural numbers. -/
def tryOut (d : Defaults) (percentiles skipDefaults count : Value) : Logged Failure Trial :=
  let recipe : Recipe := { name := .text "h", percentiles, skipDefaults }
  match (World.empty fun _ _ => 0).build recipe d with
  | (.error failure, w) => ⟨w.events.toList, .error failure⟩
  | (.ok h, w) => ⟨w.events.toList, do
      let w ← observeRange h (← count.toCount) w
      let samples := (← w.snapshotOf (.histogram h)).values
      return ⟨h.metricNames, (w.object h.reservoir).describe, samples⟩⟩

def revise (d : Defaults) (revision : Revision) : Revision.Outcome × Defaults :=
  let renew (made : Except Failure Defaults) : Revision.Outcome × Defaults :=
    match made with
    | .ok renewed => (.settled, renewed)
    | .error failure => (.refused failure, d)
  match revision with
  | .unreadable failure => (.refused failure, d)
  | .reset => (.settled, {})
  | .ofDocument (.dict entries) => renew (ofDocument entries)
  | .ofDocument document => renew (.error (.lacks document.kindName "get"))
  | .replace fields => renew (ofFields fields)
  | .override assignments =>
      match Environment.overrideGiven assignments d with
      | (.ok (), overridden) => (.settled, overridden)
      | (.error failure, overridden) => (.refused failure, overridden)
  | .validate => renew (d.validate.map fun _ => d)
  | .load files path assignments => renew do load files path (← Environment.ofSystem assignments)
  | .trial percentiles skipDefaults count =>
      match (d.tryOut percentiles skipDefaults count).result with
      | .ok trial => (.tried trial, d)
      | .error failure => (.refused failure, d)

def news (d : Defaults) : Revision → List Event
  | .trial percentiles skipDefaults count => (d.tryOut percentiles skipDefaults count).events
  | _ => []

def isShowable (d : Defaults) : Bool :=
  d.reservoirSize.isShowable && d.reservoirSeed.isShowable && d.percentiles.isShowable

/-- Revisions in order: what each leads to, with the defaults after it, which must be such that they
can be shown. -/
def reviseAll (d : Defaults) :
    List Revision → Logged Failure (List (Revision.Outcome × Defaults))
  | [] => pure []
  | revision :: rest => do
      let (outcome, after) := d.revise revision
      Logged.tellAll (d.news revision)
      if after.isShowable then
        let others ← after.reviseAll rest
        return (outcome, after) :: others
      else Logged.ofExcept (.error .digitLimit)

end Defaults

end SampledMetrics
