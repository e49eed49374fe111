import SampledMetrics.Proofs.Histogram.News
import SampledMetrics.Proofs.World.Growth
/-!
Registrations among the events.  A building tells of none, and a call that binds a metric of exactly one.
Main statement: whatever comes of a call on the registry, it binds a metric and tells of that, each under the
group and the name that it was called with, or it does neither.
-/

set_option autoImplicit false
set_option relaxedAutoImplicit false

namespace SampledMetrics

def Event.registration? : Event → Option (Value × Value)
  | .registered name group => some (group, name)
  | _ => none

def registrations (events : List Event) : List (Value × Value) :=
  events.filterMap Event.registration?

theorem registrations_append (first second : List Event) :
    registrations (first ++ second) = registrations first ++ registrations second :=
  List.filterMap_append

def Record.registration (key : Value × Value) : Record where
  logger := registryLogger
  level := .debug
  message := "Registered"
  histogram := key.2
  group := key.1
  error := none

private theorem Event.record?_of_registryLogger (event : Event) :
    event.record?.filter (fun r => r.logger = registryLogger) = event.registration?.map Record.registration := by
  have apart : percentileLogger ≠ registryLogger ∧ histogramLogger ≠ registryLogger := by decide
  cases event with
  | registered name group =>
    simp [record?, message?, logger, registration?, Record.registration, Event.histogram, Event.group]
  | _ =>
    refine Option.filter_eq_none_iff.mpr fun r made => ?_
    obtain ⟨message, -, rfl⟩ := Option.map_eq_some_iff.mp made
    simp [logger, apart]

theorem records_of_registryLogger (events : List Event) :
    (events.filterMap Event.record?).filter (fun r => r.logger = registryLogger) =
      (registrations events).map Record.registration := by
  rw [registrations, List.filter_filterMap, List.map_filterMap]
  exact List.filterMap_congr fun event _ => event.record?_of_registryLogger

namespace Logged

variable {ε α β : Type}

def IsSilent (x : Logged ε α) : Prop :=
  registrations x.events = []

private theorem isSilent_pure (value : α) : (pure value : Logged ε α).IsSilent := rfl

private theorem isSilent_ofExcept (result : Except ε α) : (ofExcept result).IsSilent := rfl

private theorem isSilent_tell {event : Event} (other : event.registration? = none) :
    (tell event : Logged ε Unit).IsSilent :=
  List.filterMap_cons_none other

theorem IsSilent.bind {first : Logged ε α} {next : α → Logged ε β} (silent : first.IsSilent)
    (silents : ∀ value, (next value).IsSilent) : (first >>= next).IsSilent := by
  unfold IsSilent
  rw [events_bind, registrations_append, silent, List.nil_append]
  split
  · exact silents _
  · rfl

end Logged

open Logged (isSilent_pure isSilent_ofExcept isSilent_tell)

namespace Table

private theorem registration?_of_screen {raw : Value} {event : Event} (dropped : screen raw = .drop event) :
    event.registration? = none := by
  unfold screen at dropped
  split at dropped
  · obtain rfl := Screening.drop.inj dropped
    rfl
  · split at dropped
    · contradiction
    · split at dropped
      · contradiction
      · obtain rfl := Screening.drop.inj dropped
        rfl

private theorem isSilent_addPercentiles (raws : List Value) (table : Table) : (addPercentiles raws table).IsSilent := by
  induction raws generalizing table with
  | nil => exact isSilent_pure table
  | cons raw rest ih =>
    unfold addPercentiles
    split
    · exact isSilent_ofExcept _
    · rename_i event dropped
      exact (isSilent_tell (registration?_of_screen dropped)).bind fun _ => ih table
    · exact (isSilent_ofExcept _).bind fun entry => ih _

private theorem isSilent_addCustom (custom table : Table) : (addCustom custom table).IsSilent := by
  induction custom generalizing table with
  | nil => exact isSilent_pure table
  | cons entry rest ih =>
    unfold addCustom
    split
    · exact (isSilent_tell rfl).bind fun _ => ih table
    · exact ih _

private theorem isSilent_build (percentiles skip : Value) : (build percentiles skip).IsSilent := by
  have listed : (ofPercentiles percentiles).IsSilent :=
    (isSilent_ofExcept _).bind fun items => isSilent_addPercentiles items []
  refine listed.bind fun custom => ?_
  split
  · exact isSilent_pure custom
  · exact isSilent_addCustom custom defaults

end Table

private theorem Recipe.isSilent_plan (recipe : Recipe) (d : Defaults) : (recipe.plan d).IsSilent := by
  refine (isSilent_ofExcept _).bind fun name => (Table.isSilent_build _ _).bind fun table => ?_
  split
  · exact isSilent_ofExcept _
  · exact isSilent_pure _

/-- At most this is bound from one registry to the next, under a name that was not bound before. -/
def Registry.Gains (r r' : Registry) : Option (Value × Value) → Prop
  | none => r' = r
  | some (group, name) => r.find? group name = none ∧ ∃ id, r' = r.bind group (some name) id

namespace World

/-- What a call binds under a name in a group: nothing if it is refused, or if the name is bound already. -/
def due? (w : World) (group name : Value) (accepted : Bool) : Option (Value × Value) :=
  if accepted && (w.registry.find? group name).isNone then some (group, name) else none

/-- From one world to a later one at most this is bound, and the events in between tell of this registration and
of no other. -/
structure Announces (w w' : World) (due : Option (Value × Value)) : Prop where
  told : ∃ news, w'.events.toList = w.events.toList ++ news ∧ registrations news = due.toList
  bound : w.registry.Gains w'.registry due

variable {w w' w'' : World} {due : Option (Value × Value)} {group name : Value}

theorem due?_of_bound {id : ObjectId} (bound : w.registry.find? group name = some id) (accepted : Bool) :
    w.due? group name accepted = none := by
  simp [due?, bound]

private theorem due?_of_unbound (unbound : w.registry.find? group name = none) :
    w.due? group name true = some (group, name) := by
  simp [due?, unbound]

theorem announces_of_eq (events : w'.events = w.events) (registry : w'.registry = w.registry) :
    w.Announces w' none :=
  ⟨⟨[], by simp [events], rfl⟩, registry⟩

theorem Announces.trans (first : w.Announces w' none) (second : w'.Announces w'' due) :
    w.Announces w'' due where
  told := by
    obtain ⟨news, told, silent⟩ := first.told
    obtain ⟨news', told', own⟩ := second.told
    refine ⟨news ++ news', ?_, ?_⟩
    · rw [told', told, List.append_assoc]
    · rw [registrations_append, silent, own]
      rfl
  bound := by
    have same : w'.registry = w.registry := first.bound
    rw [← same]
    exact second.bound

private theorem announces_build (w : World) (recipe : Recipe) (d : Defaults) :
    w.Announces (w.build recipe d).2 none where
  told := by
    refine ⟨_, events_build w recipe d, ?_⟩
    have silent : registrations ((w.build recipe d).2.builtNews (w.build recipe d).1) = [] := by
      cases (w.build recipe d).1 <;> rfl
    rw [registrations_append, recipe.isSilent_plan d, silent]
    rfl
  bound := (quiet_build w recipe d).registry

private theorem announces_updateSamples (w : World) (id : ObjectId) (value : Value) :
    w.Announces (w.updateSamples id value).2 none := by
  rw [updateSamples_eq]
  exact announces_of_eq rfl rfl

private theorem announces_update (w : World) (id : ObjectId) (value : Value) : w.Announces (w.update id value).2 none := by
  unfold update
  split
  · unfold updateHistogram
    split
    · split
      · unfold updateGround
        split
        · exact announces_of_eq rfl rfl
        · exact announces_updateSamples w _ _
      · exact announces_of_eq rfl rfl
    · exact announces_of_eq rfl rfl
  · exact announces_updateSamples w id value

/-- Without the registry nothing is bound, and no registration is told of. -/
theorem kept_announces : Kept fun w w' => w.Announces w' none where
  refl _ := announces_of_eq rfl rfl
  trans := Announces.trans
  add _ _ := announces_of_eq rfl rfl
  choose _ _ := announces_of_eq rfl rfl
  update := announces_update
  build := announces_build

private theorem announces_bind (unbound : w.registry.find? group name = none) (id : ObjectId) :
    w.Announces (World.tell { w with registry := w.registry.bind group (some name) id } [.registered name group])
      (some (group, name)) :=
  ⟨⟨[.registered name group], by simp [tell], rfl⟩, unbound, id, rfl⟩

theorem announces_register {g n : String} {id : ObjectId} (named : (w.object id).ownName = .ok (some (.text n))) :
    w.Announces (w.register (.text g) id).2 (w.due? (.text g) (.text n) (w.register (.text g) id).1.isOk) := by
  cases bound : w.registry.find? (.text g) (.text n) with
  | some other =>
    rw [due?_of_bound bound]
    simp only [register, checkKey_text, named, bound]
    exact announces_of_eq rfl (Registry.withGroup_of_find? bound)
  | none =>
    have ran : w.register (.text g) id = (.ok (), World.tell
        { w with registry := w.registry.bind (.text g) (some (.text n)) id } [.registered (.text n) (.text g)]) := by
      simp only [register, checkKey_text, named, bound]
    rw [ran]
    exact due?_of_unbound bound ▸ announces_bind bound id

theorem announces_buildAndBind (w : World) (group : Value) (recipe : Recipe) (d : Defaults) :
    w.Announces (w.buildAndBind group recipe d).2
      (w.due? group recipe.name (w.buildAndBind group recipe d).1.isOk) := by
  have built := announces_build w recipe d
  unfold buildAndBind
  rcases done : w.build recipe d with ⟨failure | h, w'⟩
  · rw [done] at built
    exact built
  · rw [done] at built
    have registry : w'.registry = w.registry := built.bound
    dsimp only
    cases bound : w'.registry.find? group recipe.name with
    | some id =>
      rw [due?_of_bound (registry ▸ bound)]
      exact built
    | none =>
      have bound_later : (w'.add (.histogram h)).2.registry.find? group recipe.name = none := bound
      have stored := (kept_announces.add w' (.histogram h)).trans (announces_bind bound_later w'.objects.size)
      exact due?_of_unbound (registry ▸ bound) ▸ built.trans stored

theorem announces_findOrBuild (w : World) (group : Value) (recipe : Recipe) (d : Defaults) :
    w.Announces (w.findOrBuild group recipe d id).2
      (w.due? group recipe.name (w.findOrBuild group recipe d id).1.isOk) := by
  rcases findOrBuild_cases w group recipe d with ⟨failure, same⟩ | ⟨metric, found, same⟩ | ⟨plain, asList, same⟩
  · rw [same]
    exact announces_of_eq rfl rfl
  · rw [same, due?_of_bound (bound_of_findHistogram found).1]
    exact announces_of_eq rfl rfl
  · rw [same, ← (listed_spec asList).1]
    exact announces_buildAndBind w group plain d

end World

end SampledMetrics
