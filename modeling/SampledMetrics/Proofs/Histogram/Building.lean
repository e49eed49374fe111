import SampledMetrics.Proofs.Extractor.Screening
import SampledMetrics.Proofs.Registry.Binding
import SampledMetrics.Proofs.Histogram.Making
/-!
What building a histogram comes to.  A recipe is documented to be refused for its name or for the lack of
percentiles, and for nothing else.  Main statement: directly, through a draft or through the registry,
building does what is documented exactly when no integer beyond binary64 is among the percentiles of a
recipe with a name, the seed of a new reservoir has a text, and the registry can use the name as a key.
-/

set_option autoImplicit false
set_option relaxedAutoImplicit false

namespace SampledMetrics

namespace Recipe

def entries (recipe : Recipe) (defaults : Defaults) : List Value :=
  ((recipe.effectivePercentiles defaults).items?).getD []

/-- The class of error that a recipe is documented to be refused with. -/
def refusal? (recipe : Recipe) (defaults : Defaults) : Option ErrorClass :=
  match recipe.name with
  | .null => some .missingName
  | .text name =>
      if Text.strip Text.isBlank name.toList = [] then some .missingName
      else if recipe.skipDefaults.isTrue && !(recipe.entries defaults).any Value.isPercentile then
        some .invalidPercentileConfiguration
      else none
  | _ => some .configuration

/-- Whether a recipe is refused for its name, or else its percentiles can all be judged and the reservoir
that it may need can be made. -/
def IsServed (recipe : Recipe) (defaults : Defaults) : Prop :=
  recipe.refusal? defaults = some .configuration ∨ recipe.refusal? defaults = some .missingName ∨
    (∀ v ∈ recipe.entries defaults, v.isConvertible) ∧
      (recipe.refusal? defaults = none → recipe.reservoir = none → defaults.reservoirSeed.isShowable)

end Recipe

/-- Whether a result is what is documented: a refusal of that class, or none at all. -/
def Documented {α : Type} (refusal : Option ErrorClass) : Except Failure α → Prop
  | .ok _ => refusal = none
  | .error failure => ∃ c, failure.kind = .own c ∧ refusal = some c

private theorem documented_ok {α : Type} {refusal : Option ErrorClass} {x : α} :
    Documented refusal (.ok x) ↔ refusal = none := Iff.rfl

private theorem documented_error {α : Type} {refusal : Option ErrorClass} {failure : Failure} :
    Documented (α := α) refusal (.error failure) ↔ ∃ c, failure.kind = .own c ∧ refusal = some c :=
  Iff.rfl

namespace Recipe

variable {recipe : Recipe} {defaults : Defaults}

private theorem checkName_error {failure : Failure} (defaults : Defaults)
    (refused : checkName recipe.name = .error failure) :
    ∃ c, failure.kind = .own c ∧ recipe.refusal? defaults = some c ∧
      (c = .configuration ∨ c = .missingName) := by
  unfold refusal?
  unfold checkName at refused
  split at refused
  · rename_i name named
    split at refused
    · rename_i blank
      obtain rfl := Except.error.inj refused
      refine ⟨.missingName, rfl, ?_, .inr rfl⟩
      simp [named, (Text.strip_eq_nil_iff _ _).mpr blank]
    · contradiction
  · rename_i named
    obtain rfl := Except.error.inj refused
    exact ⟨.missingName, rfl, by simp [named], .inr rfl⟩
  · rename_i other text null
    obtain rfl := Except.error.inj refused
    refine ⟨.configuration, rfl, ?_, .inl rfl⟩
    split <;> simp_all

theorem checkName_text {name : String} (filled : Text.isBlankText name = false) :
    checkName (.text name) = .ok name := by
  simp [checkName, filled]

private theorem name_of_checkName {name : String} (checked : checkName recipe.name = .ok name) :
    recipe.name = .text name ∧ Text.strip Text.isBlank name.toList ≠ [] := by
  unfold checkName at checked
  split at checked
  · rename_i given named
    split at checked
    · contradiction
    · rename_i solid
      obtain rfl := Except.ok.inj checked
      exact ⟨named, fun empty => solid ((Text.strip_eq_nil_iff _ _).mp empty)⟩
  · contradiction
  · contradiction

private theorem plan_of_checkName_error {failure : Failure} (refused : checkName recipe.name = .error failure) :
    (recipe.plan defaults).result = .error failure := by
  simp [plan, Logged.result_bind, refused, Except.bind]

theorem plan_of_checkName {name : String} (checked : checkName recipe.name = .ok name) :
    (recipe.plan defaults).result =
      (Table.build (recipe.effectivePercentiles defaults) recipe.skipDefaults).result.bind fun table =>
        if recipe.skipDefaults.isTrue && table.isEmpty then .error .noPercentiles
        else .ok ⟨name, table⟩ := by
  simp only [plan, Logged.result_bind, Logged.result_ofExcept, checked, Except.bind]
  cases (Table.build (recipe.effectivePercentiles defaults) recipe.skipDefaults).result with
  | error failure => rfl
  | ok table =>
    dsimp only
    split <;> rfl

theorem name_of_plan {p : HistogramPlan} (planned : (recipe.plan defaults).result = .ok p) :
    recipe.name = .text p.name := by
  cases checked : checkName recipe.name with
  | error failure =>
    rw [plan_of_checkName_error checked] at planned
    contradiction
  | ok name =>
    rw [plan_of_checkName checked] at planned
    obtain ⟨table, -, finished⟩ := Failure.bind_eq_ok_iff.mp planned
    split at finished
    · contradiction
    · obtain rfl := Except.ok.inj finished
      exact (name_of_checkName checked).1

section Table

variable {name : String} {items : List Value}

private theorem entries_eq (listed : (recipe.effectivePercentiles defaults).items? = some items) :
    recipe.entries defaults = items := by
  simp [entries, listed]

private theorem refusal?_of_checkName (checked : checkName recipe.name = .ok name) :
    recipe.refusal? defaults =
      if recipe.skipDefaults.isTrue && !(recipe.entries defaults).any Value.isPercentile then
        some .invalidPercentileConfiguration
      else none := by
  obtain ⟨named, solid⟩ := name_of_checkName checked
  simp only [refusal?, named, if_neg solid]

private theorem plan_of_not_convertible (checked : checkName recipe.name = .ok name)
    (listed : (recipe.effectivePercentiles defaults).items? = some items)
    (far : ∃ v ∈ items, v.isConvertible = false) :
    (recipe.plan defaults).result = .error .integerTooLarge := by
  rw [plan_of_checkName checked, Table.build_of_not_convertible _ listed far]
  rfl

/-- A recipe with a usable name and percentiles that can all be judged is planned, unless it has no
percentiles where it needs some. -/
private theorem plan_of_convertible (checked : checkName recipe.name = .ok name)
    (listed : (recipe.effectivePercentiles defaults).items? = some items)
    (near : ∀ v ∈ items, v.isConvertible) :
    (recipe.refusal? defaults = some .invalidPercentileConfiguration ∧
        (recipe.plan defaults).result = .error .noPercentiles) ∨
      recipe.refusal? defaults = none ∧ ∃ plan, (recipe.plan defaults).result = .ok plan := by
  obtain ⟨table, built, empty_iff⟩ :=
    Table.build_of_convertible recipe.skipDefaults listed near
  rw [refusal?_of_checkName checked, plan_of_checkName checked, built, entries_eq listed]
  cases skip : recipe.skipDefaults.isTrue with
  | false => exact .inr ⟨rfl, _, rfl⟩
  | true =>
    have empty_iff := empty_iff skip
    cases any : items.any Value.isPercentile with
    | true =>
      obtain ⟨v, present, wanted⟩ := List.any_eq_true.mp any
      have nonempty : table ≠ [] := by
        intro empty
        rw [empty_iff.mp empty v present] at wanted
        contradiction
      exact .inr ⟨rfl, ⟨name, table⟩, by simp [Except.bind, nonempty]⟩
    | false =>
      have empty : table = [] := empty_iff.mpr (by simpa using any)
      exact .inl ⟨rfl, by simp [Except.bind, empty]⟩

end Table

end Recipe

namespace Defaults

variable {d : Defaults}

theorem exists_capacity (valid : d.validate = .ok ()) :
    ∃ capacity, checkCapacity d.reservoirSize = .ok capacity := by
  obtain ⟨_, sized, _⟩ := Failure.bind_eq_ok_iff.mp valid
  unfold checkSize at sized
  split at sized
  · rename_i size given
    split at sized
    · contradiction
    · rename_i positive
      exact ⟨size.toNat, by simp [checkCapacity, given, positive]⟩
  · contradiction

private theorem exists_items (valid : d.validate = .ok ()) : ∃ items, d.percentiles.items? = some items := by
  obtain ⟨_, _, valid⟩ := Failure.bind_eq_ok_iff.mp valid
  obtain ⟨_, _, valid⟩ := Failure.bind_eq_ok_iff.mp valid
  split at valid
  · contradiction
  · rename_i items listed
    exact ⟨items, listed⟩

theorem makeUniform_cases (valid : d.validate = .ok ()) (words : Nat → UInt64) :
    (d.reservoirSeed.isShowable ∧
        ∃ r, Reservoir.makeUniform d.reservoirSize d.reservoirSeed words = .ok r) ∨
      d.reservoirSeed.isShowable = false ∧
        Reservoir.makeUniform d.reservoirSize d.reservoirSeed words = .error .digitLimit := by
  obtain ⟨capacity, sized⟩ := exists_capacity valid
  simp only [Reservoir.makeUniform, sized, bind, Except.bind]
  rcases WordStream.ofSeed_cases d.reservoirSeed words with ⟨showable, stream, made⟩ | ⟨long, refused⟩
  · exact .inl ⟨showable, _, by rw [made]; rfl⟩
  · exact .inr ⟨long, by rw [refused]⟩

end Defaults

namespace World

variable {w : World} {recipe : Recipe} {defaults : Defaults}

private theorem documented_build_iff_make {refusal : Option ErrorClass} :
    Documented refusal (w.build recipe defaults).1 ↔ Documented refusal (w.make recipe defaults).1 := by
  rw [build_eq_make]
  rcases w.make recipe defaults with ⟨_ | u, events⟩ <;> exact Iff.rfl

private theorem build_of_plan_error {failure : Failure}
    (refused : (recipe.plan defaults).result = .error failure) :
    (w.build recipe defaults).1 = .error failure := by
  simp only [build, refused]

private theorem documented_build {items : List Value}
    (listed : (recipe.effectivePercentiles defaults).items? = some items)
    (valid : defaults.validate = .ok ()) :
    Documented (recipe.refusal? defaults) (w.build recipe defaults).1 ↔ recipe.IsServed defaults := by
  rw [documented_build_iff_make, result_make]
  unfold Recipe.IsServed
  -- The cases come in the order of the checks: name, percentiles, the need of percentiles, reservoir.
  cases checked : Recipe.checkName recipe.name with
  | error failure =>
    obtain ⟨c, own, refusal, named⟩ := Recipe.checkName_error defaults checked
    rw [Recipe.plan_of_checkName_error checked, refusal]
    refine iff_of_true ⟨c, own, rfl⟩ ?_
    rcases named with rfl | rfl
    · exact .inl rfl
    · exact .inr (.inl rfl)
  | ok name =>
    rw [Recipe.entries_eq listed]
    by_cases far : ∃ v ∈ items, v.isConvertible = false
    · rw [Recipe.plan_of_not_convertible checked listed far]
      refine iff_of_false (fun ⟨c, own, _⟩ => by simp [Failure.kind] at own) ?_
      obtain ⟨v, present, beyond⟩ := far
      rw [Recipe.refusal?_of_checkName checked]
      rintro (wrong | wrong | ⟨near, -⟩)
      · split at wrong <;> simp at wrong
      · split at wrong <;> simp at wrong
      · simp [near v present] at beyond
    · have near : ∀ v ∈ items, v.isConvertible := fun v present =>
        Bool.of_not_eq_false fun beyond => far ⟨v, present, beyond⟩
      rcases Recipe.plan_of_convertible checked listed near with ⟨refusal, refused⟩ | ⟨refusal, plan, planned⟩
      · rw [refused, refusal]
        exact iff_of_true ⟨_, rfl, rfl⟩ (.inr (.inr ⟨near, fun none => by contradiction⟩))
      · rw [planned, refusal]
        dsimp only [Except.bind]
        cases chosen : recipe.reservoir with
        | some id => exact iff_of_true rfl (.inr (.inr ⟨near, fun _ none => by contradiction⟩))
        | none =>
          rcases Defaults.makeUniform_cases valid (w.systemWords w.objects.size) with
            ⟨showable, r, made⟩ | ⟨long, refused⟩
          · simp only [made, Except.map]
            exact iff_of_true rfl (.inr (.inr ⟨near, fun _ _ => showable⟩))
          · simp only [refused, Except.map]
            refine iff_of_false (fun ⟨c, own, _⟩ => by simp [Failure.kind] at own) ?_
            simp [long]

private theorem registry_build (w : World) (recipe : Recipe) (defaults : Defaults) :
    (w.build recipe defaults).2.registry = w.registry := by
  unfold build
  dsimp only
  split
  · rfl
  · rfl
  · split <;> rfl

theorem listed_of_list {items : List Value} (given : recipe.percentiles = .list items) :
    listed recipe = .ok recipe := by
  obtain ⟨name, reservoir, percentiles, skipDefaults⟩ := recipe
  obtain rfl : percentiles = .list items := given
  rfl

theorem listed_of_null (given : recipe.percentiles = .null) : listed recipe = .ok recipe := by
  unfold listed
  rw [given]

theorem findHistogram_of_unbound {group : String} {name : Value} (usable : name.isKey)
    (unbound : w.registry.find? (.text group) name = none) :
    w.findHistogram (.text group) name = .ok none := by
  simp [findHistogram, checkKey_of_isKey usable, unbound, bind, Except.bind, pure, Except.pure]

theorem findOrBuild_of_unbound {group : String} (defaults : Defaults) (listed' : listed recipe = .ok recipe)
    (usable : recipe.name.isKey) (unbound : w.registry.find? (.text group) recipe.name = none) :
    w.findOrBuild (.text group) recipe defaults id = w.buildAndBind (.text group) recipe defaults := by
  simp only [findOrBuild, findHistogram_of_unbound usable unbound, listBuildAndBind, id_eq, listed']

private theorem findOrBuild_of_not_isKey (w : World) (group : String) (defaults : Defaults)
    (unusable : recipe.name.isKey = false) :
    (w.findOrBuild (.text group) recipe defaults id).1 = .error (.notKey recipe.name.kindName) := by
  have refused : w.findHistogram (.text group) recipe.name = .error (.notKey recipe.name.kindName) := by
    simp [findHistogram, checkKey_of_not_isKey unusable, bind, Except.bind]
  simp only [findOrBuild, refused]

private theorem buildAndBind_of_unbound {group : Value} (defaults : Defaults)
    (unbound : w.registry.find? group recipe.name = none) :
    (∃ failure, (w.build recipe defaults).1 = .error failure ∧
        (w.buildAndBind group recipe defaults).1 = .error failure) ∨
      ∃ h id, (w.build recipe defaults).1 = .ok h ∧
        (w.buildAndBind group recipe defaults).1 = .ok id ∧
        (w.buildAndBind group recipe defaults).2.object id = .histogram h := by
  unfold buildAndBind
  rcases built : w.build recipe defaults with ⟨_ | h, w'⟩
  · exact .inl ⟨_, rfl, rfl⟩
  · have unbound' : w'.registry.find? group recipe.name = none := by
      rw [← unbound, ← registry_build w recipe defaults, built]
    simp only [unbound']
    exact .inr ⟨h, _, rfl, rfl, object_add_self w' (.histogram h)⟩

/-- The three ways to a histogram: of a recipe, of a draft with the same choices, and through the
registry under a name that is not bound in a group.  Percentiles are any list of values, or left to the
defaults. -/
theorem building_documented_iff (w : World) (recipe : Recipe) (defaults : Defaults)
    (asked : recipe.percentiles = .null ∨ ∃ items, recipe.percentiles = .list items)
    (valid : defaults.validate = .ok ()) :
    (Documented (recipe.refusal? defaults) (w.build recipe defaults).1 ↔ recipe.IsServed defaults) ∧
      (∃ draft, HistogramDraft.setPercentiles
          ((({} : HistogramDraft).setName recipe.name).setReservoir recipe.reservoir
            |>.setSkipDefaults recipe.skipDefaults) recipe.percentiles = .ok draft ∧
        (Documented (recipe.refusal? defaults) (w.build draft.recipe defaults).1 ↔
          recipe.IsServed defaults)) ∧
      ∀ group : String, w.registry.find? (.text group) recipe.name = none →
        (Documented (recipe.refusal? defaults) (w.findOrBuild (.text group) recipe defaults id).1 ↔
            recipe.name.isKey ∧ recipe.IsServed defaults) ∧
          ∀ metric, (w.findOrBuild (.text group) recipe defaults id).1 = .ok metric →
            ∃ h, (w.findOrBuild (.text group) recipe defaults id).2.object metric = .histogram h := by
  have listed' : listed recipe = .ok recipe := by
    rcases asked with null | ⟨items, list⟩
    · exact listed_of_null null
    · exact listed_of_list list
  have effective : ∃ items, (recipe.effectivePercentiles defaults).items? = some items := by
    unfold Recipe.effectivePercentiles
    rcases asked with null | ⟨items, list⟩
    · rw [null]
      exact Defaults.exists_items valid
    · rw [list]
      exact ⟨items, rfl⟩
  obtain ⟨items, items_eq⟩ := effective
  have built : Documented (recipe.refusal? defaults) (w.build recipe defaults).1 ↔
      recipe.IsServed defaults := documented_build items_eq valid
  refine ⟨built, ?_, fun group unbound => ?_⟩
  · obtain ⟨name, reservoir, percentiles, skipDefaults⟩ := recipe
    rcases asked with rfl | ⟨items, rfl⟩
    · exact ⟨_, rfl, built⟩
    · exact ⟨_, rfl, built⟩
  · cases usable : recipe.name.isKey with
    | false =>
      rw [findOrBuild_of_not_isKey w group defaults usable]
      refine ⟨iff_of_false (fun ⟨c, own, _⟩ => by simp [Failure.kind] at own) (by simp), ?_⟩
      intro metric given
      simp at given
    | true =>
      rw [findOrBuild_of_unbound defaults listed' usable unbound]
      rcases buildAndBind_of_unbound defaults unbound with
        ⟨failure, refused, refused'⟩ | ⟨h, id, given, given', bound⟩
      · rw [refused, documented_error] at built
        rw [refused', documented_error]
        exact ⟨by simpa using built, fun metric wrong => by simp at wrong⟩
      · rw [given, documented_ok] at built
        rw [given', documented_ok]
        refine ⟨by simpa using built, fun metric same => ⟨h, ?_⟩⟩
        obtain rfl := Except.ok.inj same
        exact bound

/-- Of these three percentiles only the last one is a number from 0 to 100. -/
def mixedRecipe : Recipe where
  name := .text "h"
  percentiles := .list [.text "x", .int 101, .int 50]
  skipDefaults := .bool true

theorem building_documented_iff_mixed :
    mixedRecipe.refusal? {} = none ∧
      Documented (mixedRecipe.refusal? {}) ((World.empty fun _ _ => 0).build mixedRecipe {}).1 := by
  have served : mixedRecipe.IsServed {} :=
    .inr (.inr ⟨by decide +kernel, fun _ _ => by decide⟩)
  refine ⟨by decide +kernel, ?_⟩
  rw [(building_documented_iff (World.empty fun _ _ => 0) mixedRecipe {} (.inr ⟨_, rfl⟩) rfl).1]
  exact served

/-- A percentile far beyond 100 is documented to be left out. -/
def farRecipe : Recipe where
  name := .text "h"
  percentiles := .list [.int (Nat.pow 10 309 : Nat)]

/-- Building with it is refused all the same, and with no error of this library. -/
theorem build_far_refused :
    ({} : Defaults).validate = .ok () ∧ farRecipe.refusal? {} = none ∧
      ((World.empty fun _ _ => 0).build farRecipe {}).1 = .error .integerTooLarge ∧
      ¬ Documented (farRecipe.refusal? {}) ((World.empty fun _ _ => 0).build farRecipe {}).1 := by
  have unrefused : farRecipe.refusal? {} = none := rfl
  have far : ∃ v ∈ [Value.int (Nat.pow 10 309 : Nat)], v.isConvertible = false :=
    ⟨_, List.mem_singleton_self _, by decide +kernel⟩
  have planned : (farRecipe.plan {}).result = .error .integerTooLarge :=
    Recipe.plan_of_not_convertible (show Recipe.checkName farRecipe.name = .ok "h" from rfl) rfl far
  have refused : ((World.empty fun _ _ => 0).build farRecipe {}).1 = .error .integerTooLarge :=
    build_of_plan_error planned
  refine ⟨rfl, unrefused, refused, ?_⟩
  rw [refused, documented_error]
  rintro ⟨c, own, -⟩
  simp [Failure.kind] at own

end World

end SampledMetrics
