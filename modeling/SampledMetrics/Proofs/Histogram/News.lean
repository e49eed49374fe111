import SampledMetrics.Log.Record
import SampledMetrics.Proofs.Extractor.News
import SampledMetrics.Proofs.Histogram.Spelling
/-!
What is told while a histogram is built.  After the events of its table comes the event that it was built, and
this one comes exactly when there is a histogram in the end.  Main statement: the events of a building account
for every value of its list of percentiles, whether it succeeds or not.
-/

set_option autoImplicit false
set_option relaxedAutoImplicit false

namespace SampledMetrics

private theorem Event.exists_record? {event : Event} (shown : event.message?.isSome) :
    ∃ record, event.record? = some record ∧ record.level = .debug := by
  obtain ⟨message, shown⟩ := Option.isSome_iff_exists.mp shown
  exact ⟨_, congrArg (Option.map _) shown, rfl⟩

private theorem Table.isSome_message?_leftOut? {raw : Value} {event : Event} (showable : raw.isShowable)
    (out : leftOut? raw = some event) : event.message?.isSome := by
  unfold leftOut? at out
  split at out
  · obtain rfl := Option.some.inj out
    simp [Event.message?, showable]
  · rename_i x number
    split at out
    · contradiction
    · obtain rfl := Option.some.inj out
      have short : x.isShowable := by
        cases raw with
        | number y =>
          obtain rfl : y = x := Option.some.inj number
          rwa [Value.isShowable_number] at showable
        | loneNaN =>
          obtain rfl : .float .nan = x := Option.some.inj number
          rfl
        | _ => contradiction
      simp [Event.message?, short]

private theorem Table.isSome_message?_news {skip : Bool} {raws : List Value} (showable : ∀ raw ∈ raws, raw.isShowable) :
    ∀ event ∈ news skip raws, event.message?.isSome := by
  intro event told
  rcases List.mem_append.mp told with left | kept
  · obtain ⟨raw, present, out⟩ := List.mem_filterMap.mp left
    exact isSome_message?_leftOut? (showable raw present) out
  · unfold keptDefaults at kept
    split at kept
    · contradiction
    · obtain ⟨name, -, rfl⟩ := List.mem_map.mp kept
      rfl

namespace Recipe

variable {recipe : Recipe} {d : Defaults} {name : String}

private theorem events_plan (named : recipe.name = .text name) (filled : Text.isBlankText name = false) :
    (recipe.plan d).events = (Table.build (recipe.effectivePercentiles d) recipe.skipDefaults).events := by
  have checked : checkName recipe.name = .ok name := named ▸ checkName_text filled
  unfold plan
  simp only [checked, Logged.events_bind, Logged.ofExcept, List.nil_append]
  cases (Table.build (recipe.effectivePercentiles d) recipe.skipDefaults).result with
  | error failure => exact List.append_nil _
  | ok table =>
    dsimp only
    split <;> exact List.append_nil _

end Recipe

namespace World

/-- The event that a histogram was built, if there is one. -/
def builtNews (w : World) : Except Failure Histogram → List Event
  | .ok h => [builtEvent ⟨h.name, h.extractors⟩ (w.object h.reservoir)]
  | .error _ => []

theorem events_build (w : World) (recipe : Recipe) (d : Defaults) :
    (w.build recipe d).2.events.toList =
      w.events.toList ++ ((recipe.plan d).events ++ (w.build recipe d).2.builtNews (w.build recipe d).1) := by
  rw [build_eq_make]
  cases planned : (recipe.plan d).result with
  | error failure => simp [make, planned, builtNews, tell]
  | ok plan =>
    cases given : recipe.reservoir with
    | some id => simp [make, settle, planned, given, builtNews, tell, World.object]
    | none =>
      cases made : Reservoir.makeUniform d.reservoirSize d.reservoirSeed (w.systemWords w.objects.size) with
      | error failure => simp [make, planned, given, made, builtNews, tell]
      | ok r => simp [make, settle, planned, given, made, builtNews, add, tell, World.object]

/-- What is told while a histogram is built from listed values.  The events are those of the values, and then the
one of the histogram; each value is accounted for by them and by the table, also if nothing is built in the end;
and where the values and the reservoir have texts, every event has a record. -/
structure BuildNews (w : World) (recipe : Recipe) (d : Defaults) (items : List Value) : Prop where
  events : (w.build recipe d).2.events.toList = w.events.toList ++
    (Table.news recipe.skipDefaults.isTrue items ++ (w.build recipe d).2.builtNews (w.build recipe d).1)
  accounted : ∃ table, (Table.build (recipe.effectivePercentiles d) recipe.skipDefaults).result = .ok table ∧
    (∀ h, (w.build recipe d).1 = .ok h → h.extractors = table) ∧
    ∀ before raw after, items = before ++ raw :: after →
      Table.Accounted (Table.news recipe.skipDefaults.isTrue items) table before raw
  shown : (∀ raw ∈ items, raw.isShowable) →
    (∀ h, (w.build recipe d).1 = .ok h → ((w.build recipe d).2.object h.reservoir).isShowable) →
    ∀ event ∈ Table.news recipe.skipDefaults.isTrue items ++ (w.build recipe d).2.builtNews (w.build recipe d).1,
      ∃ record, event.record? = some record ∧ record.level = .debug

private theorem isSome_message?_builtNews {w : World} {result : Except Failure Histogram}
    (showable : ∀ h, result = .ok h → (w.object h.reservoir).isShowable) :
    ∀ event ∈ w.builtNews result, event.message?.isSome := by
  intro event told
  cases result with
  | error failure => contradiction
  | ok h =>
    obtain rfl := List.mem_singleton.mp told
    simp [builtEvent, Event.message?, showable h rfl]

/-- The building of a histogram with a usable name tells of its list of percentiles, and then of itself. -/
theorem buildNews {recipe : Recipe} {d : Defaults} {name : String} {items : List Value}
    (named : recipe.name = .text name) (filled : Text.isBlankText name = false)
    (listed : (recipe.effectivePercentiles d).items? = some items) (near : ∀ raw ∈ items, raw.isConvertible)
    (w : World) : BuildNews w recipe d items where
  events := by
    rw [events_build, Recipe.events_plan named filled, Table.events_build recipe.skipDefaults listed near]
  accounted := by
    obtain ⟨entries, made, -⟩ := Table.exists_build recipe.skipDefaults listed near
    refine ⟨_, made, fun h built => ?_, fun before raw after split => ?_⟩
    · exact Except.ok.inj ((extractors_of_build built).symm.trans made)
    · exact Table.accounted_build listed near made split
  shown := by
    intro values ground event told
    refine Event.exists_record? ?_
    rcases List.mem_append.mp told with early | last
    · exact Table.isSome_message?_news values event early
    · exact isSome_message?_builtNews ground event last

end World

end SampledMetrics
