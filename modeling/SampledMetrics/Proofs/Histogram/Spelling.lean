import SampledMetrics.Proofs.Extractor.Asked
import SampledMetrics.Proofs.Histogram.Building
import SampledMetrics.Proofs.Histogram.Report
/-!
How the percentiles are written does not matter.  Lists that ask for the same numbers give tables with
the same names, and extractors of one name give the same result on every snapshot, also where one has
a zero with a sign and the other one without.  Main statement: histograms built from such lists report the
same value under each name, and without the defaults they report the same values as with them.
-/

set_option autoImplicit false
set_option relaxedAutoImplicit false

namespace SampledMetrics

open Binary64 (unitsPerOne)

namespace Snapshot

variable {p q : Binary64}

private theorem quantile_of_zero (s : Snapshot) (hp : p.place? = some (.whole (0 : Nat)))
    (hq : q.place? = some (.whole (0 : Nat))) : s.quantile (.float p) = s.quantile (.float q) := by
  by_cases empty : s.values = []
  · have none : s.values.isEmpty = true := List.isEmpty_iff.mpr empty
    rw [quantile_eq s hp (Nat.zero_le _), quantile_eq s hq (Nat.zero_le _), if_pos none, if_pos none]
  cases few : (Number.int ((s.size + 1 : Nat) : Int)).inRange with
  | true =>
    obtain ⟨x, at_x, x_place⟩ := quantile_eq_atPosition hp (Nat.zero_le _) empty few
    obtain ⟨y, at_y, y_place⟩ := quantile_eq_atPosition hq (Nat.zero_le _) empty few
    have zero : positionUnits 0 s.size = 0 := by
      unfold positionUnits
      rw [Nat.zero_mul, Binary64.roundUnits_zero]
    rw [zero] at x_place y_place
    have first : 0 / unitsPerOne < 1 := by
      rw [Nat.zero_div]
      exact Nat.one_pos
    rw [at_x, at_y, atPosition_before (truncate?_getD x_place) first,
      atPosition_before (truncate?_getD y_place) first]
  | false =>
    have far : (Number.int ((s.size + 1 : Nat) : Int)).toBinary64? = none := by
      rw [← Option.not_isSome_iff_eq_none, Number.isSome_toBinary64?, few]
      exact Bool.false_ne_true
    have unread (x : Binary64) : (Number.float x).mul (.int ((s.size + 1 : Nat) : Int)) = none := by
      rw [Number.mul, Number.combine_float_left, far, Option.map_none]
    rw [quantile_eq s hp (Nat.zero_le _), quantile_eq s hq (Nat.zero_le _), unread, unread]

private theorem valueAtPercentile_congr (s : Snapshot) (valid : Percentile.isValid (.float p))
    (same : p.place? = q.place?) : s.valueAtPercentile (.float p) = s.valueAtPercentile (.float q) := by
  obtain ⟨units, place, le⟩ := exists_place?_of_isValid valid
  have place' := same.symm.trans place
  rcases Nat.eq_zero_or_pos units with rfl | positive
  · obtain ⟨x, at_x, x_place⟩ := percentile_eq_quantile (s := s) place
    obtain ⟨y, at_y, y_place⟩ := percentile_eq_quantile (s := s) place'
    have zero : quantileUnits 0 = 0 := by
      unfold quantileUnits
      rw [Nat.zero_mul, Binary64.roundUnits_zero]
    rw [zero] at x_place y_place
    rw [at_x, at_y, quantile_of_zero s x_place y_place]
  · rw [Binary64.eq_of_place? place place' (by omega)]

end Snapshot

namespace Table

/-- Two lists of values have the same percentiles among them, in any order and form. -/
def SamePercentiles (raws raws' : List Value) : Prop :=
  (∀ x ∈ asked raws, ∃ y ∈ asked raws', x.same y) ∧ ∀ y ∈ asked raws', ∃ x ∈ asked raws, x.same y

def UserName (raws : List Value) (name : String) : Prop :=
  ∃ raw ∈ raws, raw.isPercentile ∧ Percentile.nameOf raw = .ok name

variable {raws raws' : List Value} {skip : Bool} {table : Table} {name : String}

private theorem userName_iff :
    UserName raws name ↔ ∃ x ∈ asked raws, ∃ entry, EntryAt x entry ∧ entry.1 = name := by
  constructor
  · rintro ⟨raw, present, percentile, named⟩
    rw [Value.isPercentile_eq] at percentile
    obtain ⟨x, found⟩ := Option.isSome_iff_exists.mp percentile
    obtain ⟨rfl, valid⟩ := Value.percentile?_eq_some_iff.mp found
    obtain ⟨entry, made⟩ := exists_entryAt valid
    refine ⟨x, List.mem_filterMap.mpr ⟨_, present, found⟩, entry, made, ?_⟩
    exact Except.ok.inj (made.nameOf_number.symm.trans named)
  · rintro ⟨x, among, entry, made, rfl⟩
    obtain ⟨raw, present, found⟩ := List.mem_filterMap.mp among
    obtain ⟨rfl, -⟩ := Value.percentile?_eq_some_iff.mp found
    refine ⟨_, present, ?_, made.nameOf_number⟩
    rw [Value.isPercentile_eq, found]
    rfl

theorem SamePercentiles.symm (same : SamePercentiles raws raws') : SamePercentiles raws' raws := by
  obtain ⟨left, right⟩ := same
  constructor
  · intro y among
    obtain ⟨x, found, equal⟩ := right y among
    exact ⟨x, found, (Number.same_comm ..).trans equal⟩
  · intro x among
    obtain ⟨y, found, equal⟩ := left x among
    exact ⟨y, found, (Number.same_comm ..).trans equal⟩

private theorem SamePercentiles.userName (same : SamePercentiles raws raws') (named : UserName raws name) :
    UserName raws' name := by
  obtain ⟨x, among, entry, made, rfl⟩ := userName_iff.mp named
  obtain ⟨y, among', equal⟩ := same.1 x among
  obtain ⟨other, made'⟩ := exists_entryAt (isValid_of_mem_asked among')
  exact userName_iff.mpr ⟨y, among', other, made', ((made.name_eq_iff made').mpr equal).symm⟩

theorem EntryAt.apply_eq {x y : Number} {entry other : String × Extractor} (made : EntryAt x entry)
    (made' : EntryAt y other) (named : entry.1 = other.1) (s : Snapshot) :
    entry.2.apply s = other.2.apply s := by
  obtain ⟨real, extractor, valid, itself⟩ := made.exists_percentile
  obtain ⟨real', extractor', -, itself'⟩ := made'.exists_percentile
  have equal := (made.name_eq_iff made').mp named
  rw [Number.same_comm] at itself'
  obtain ⟨place, here, there⟩ :=
    Number.same_iff.mp (Number.same_trans itself (Number.same_trans equal itself'))
  rw [extractor, extractor']
  exact congrArg (Except.map Value.number) (s.valueAtPercentile_congr valid (here.trans there.symm))

theorem Answers.kind {entry : String × Extractor} (answers : Answers skip raws table)
    (present : entry ∈ table) : entry ∈ plainMetrics ∨ ∃ x, EntryAt x entry := by
  rcases answers.sound entry present with default | ⟨x, -, made⟩
  · exact entryAt_of_mem_start default
  · exact .inr ⟨x, made⟩

private theorem Answers.mem_names_iff (answers : Answers skip raws table) :
    name ∈ table.names ↔ name ∈ (start skip).names ∨ UserName raws name := by
  constructor
  · intro present
    obtain ⟨entry, listed, rfl⟩ := List.mem_map.mp present
    refine (answers.sound entry listed).imp (fun default => List.mem_map_of_mem default) ?_
    rintro ⟨x, among, made⟩
    exact userName_iff.mpr ⟨x, among, entry, made, rfl⟩
  · rintro (default | named)
    · obtain ⟨entries, rfl, -⟩ := answers.listed
      rw [names, List.map_append]
      exact List.mem_append_left _ default
    · obtain ⟨x, among, other, made, rfl⟩ := userName_iff.mp named
      obtain ⟨entries, rfl, entered⟩ := answers.listed
      obtain ⟨entry, present, y, made', same⟩ := exists_entry_of_mem_asked entered among
      rw [(made.name_eq_iff made').mpr same]
      exact List.mem_map_of_mem present

private theorem eq_of_mem_plainMetrics {entry other : String × Extractor} (plain : entry ∈ plainMetrics)
    (plain' : other ∈ plainMetrics) (named : entry.1 = other.1) : entry = other := by
  simp only [plainMetrics, List.mem_cons, List.not_mem_nil, or_false] at plain plain'
  rcases plain with rfl | rfl | rfl | rfl <;> rcases plain' with rfl | rfl | rfl | rfl <;>
    first | rfl | simp at named

private theorem EntryAt.name_ne_plain {x : Number} {entry other : String × Extractor} (made : EntryAt x entry)
    (plain : other ∈ plainMetrics) : entry.1 ≠ other.1 := by
  intro named
  obtain ⟨magnitude, -, written⟩ := made.exists_magnitude
  have absent := has_plainMetrics_nameAt magnitude.units
  rw [← written, named, has_iff_mem_names.mpr (List.mem_map_of_mem plain)] at absent
  contradiction

theorem Answers.apply_eq {skip' : Bool} {table' : Table} {entry other : String × Extractor}
    (answers : Answers skip raws table) (answers' : Answers skip' raws' table') (present : entry ∈ table)
    (present' : other ∈ table') (named : entry.1 = other.1) (s : Snapshot) :
    entry.2.apply s = other.2.apply s := by
  rcases answers.kind present with plain | ⟨x, made⟩ <;>
    rcases answers'.kind present' with plain' | ⟨y, made'⟩
  · rw [eq_of_mem_plainMetrics plain plain' named]
  · exact absurd named.symm (made'.name_ne_plain plain)
  · exact absurd named (made.name_ne_plain plain')
  · exact made.apply_eq made' named s

end Table

namespace World

variable {w : World} {recipe : Recipe} {defaults : Defaults} {h : Histogram}

theorem extractors_of_plan {plan : HistogramPlan} (planned : (recipe.plan defaults).result = .ok plan) :
    (Table.build (recipe.effectivePercentiles defaults) recipe.skipDefaults).result = .ok plan.extractors := by
  obtain ⟨name, -, planned⟩ := Logged.result_bind_eq_ok_iff.mp planned
  obtain ⟨table, made, planned⟩ := Logged.result_bind_eq_ok_iff.mp planned
  split at planned
  · contradiction
  · obtain rfl := Except.ok.inj planned
    exact made

theorem extractors_of_build (built : (w.build recipe defaults).1 = .ok h) :
    (Table.build (recipe.effectivePercentiles defaults) recipe.skipDefaults).result = .ok h.extractors := by
  obtain ⟨u, events, made⟩ := make_of_build built
  obtain ⟨planned, -⟩ := make_cases made
  obtain ⟨settled, -⟩ := settle_of_make made w
  rw [build_eq_make, made] at built
  obtain rfl := settled.symm.trans (Except.ok.inj built)
  exact extractors_of_plan planned

end World

namespace Histogram

open Table (Answers SamePercentiles UserName)

variable {h h' : Histogram} {items items' : List Value} {skip : Bool} {s : Snapshot} {name : String}

/-- A histogram was built from these values, none of them an integer beyond binary64, with the defaults
or without them. -/
def BuiltFrom (h : Histogram) (items : List Value) (skip : Bool) : Prop :=
  (∀ raw ∈ items, raw.isConvertible) ∧ ∃ (w : World) (recipe : Recipe) (defaults : Defaults),
    (recipe.effectivePercentiles defaults).items? = some items ∧ recipe.skipDefaults.isTrue = skip ∧
      (w.build recipe defaults).1 = .ok h

theorem BuiltFrom.answers (built : h.BuiltFrom items skip) : Answers skip items h.extractors := by
  obtain ⟨near, w, recipe, defaults, listed, rfl, built⟩ := built
  obtain ⟨entries, made, entered, unique⟩ := Table.exists_build recipe.skipDefaults listed near
  rw [Except.ok.inj ((World.extractors_of_build built).symm.trans made)]
  exact .of_listed entered unique

theorem lookup_report {report : Report} (given : h.report s = .ok report) (name : String) :
    report.lookup name = (h.extractors.lookup name).bind fun e => (e.apply s).toOption := by
  obtain ⟨_, _, table⟩ := h
  unfold Histogram.report at given
  dsimp only at given ⊢
  induction table generalizing report with
  | nil =>
    obtain rfl := Except.ok.inj given
    rfl
  | cons entry rest ih =>
    rw [List.mapM_cons] at given
    obtain ⟨first, named, given⟩ := Failure.bind_eq_ok_iff.mp given
    obtain ⟨others, later, given⟩ := Failure.bind_eq_ok_iff.mp given
    obtain ⟨value, applied, paired⟩ := Failure.bind_eq_ok_iff.mp named
    obtain rfl := Except.ok.inj given
    obtain rfl := Except.ok.inj paired
    obtain ⟨key, extractor⟩ := entry
    rw [List.lookup_cons, List.lookup_cons]
    cases name == key with
    | true => simp [applied, Except.toOption]
    | false => exact ih later

def Restricts (report whole : Report) (kept : String → Prop) : Prop :=
  ∀ name, (kept name → ∃ value, report.lookup name = some value ∧ whole.lookup name = some value) ∧
    (¬ kept name → report.lookup name = none)

theorem exists_lookup {table : Table} (present : name ∈ table.names) :
    ∃ extractor, table.lookup name = some extractor ∧ (name, extractor) ∈ table := by
  obtain ⟨entry, listed, rfl⟩ := List.mem_map.mp present
  have found : (table.lookup entry.1).isSome :=
    List.lookup_isSome_iff.mpr ⟨entry, listed, beq_self_eq_true _⟩
  obtain ⟨extractor, found⟩ := Option.isSome_iff_exists.mp found
  obtain ⟨before, after, rfl, -⟩ := List.lookup_eq_some_iff.mp found
  exact ⟨extractor, found, List.mem_append_right _ List.mem_cons_self⟩

private theorem lookup_eq_none {table : Table} (absent : name ∉ table.names) : table.lookup name = none := by
  rw [List.lookup_eq_none_iff]
  intro entry listed
  simp only [bne_iff_ne, ne_eq]
  rintro rfl
  exact absent (List.mem_map_of_mem listed)

theorem Restricts.congr {report whole : Report} {kept kept' : String → Prop}
    (restricts : Restricts report whole kept) (same : ∀ name, kept name ↔ kept' name) :
    Restricts report whole kept' := by
  intro name
  rw [← same]
  exact restricts name

section Alike

variable (alike : ∀ entry ∈ h.extractors, ∀ other ∈ h'.extractors, entry.1 = other.1 →
  entry.2.apply s = other.2.apply s)
include alike

private theorem isOk_report_of_alike (among : ∀ name ∈ h.metricNames, name ∈ h'.metricNames)
    (given : (h'.report s).isOk) : (h.report s).isOk := by
  rw [isOk_report] at given ⊢
  intro entry present
  obtain ⟨other, present', named⟩ := List.mem_map.mp (among entry.1 (List.mem_map_of_mem present))
  rw [alike entry present other present' named.symm]
  exact given other present'

private theorem report_restricts {whole : Report} (among : ∀ name ∈ h.metricNames, name ∈ h'.metricNames)
    (given : h'.report s = .ok whole) :
    ∃ report, h.report s = .ok report ∧ Restricts report whole (· ∈ h.metricNames) := by
  have applied : (h.report s).isOk := isOk_report_of_alike alike among (by rw [given]; rfl)
  obtain ⟨report, made⟩ := exists_of_isOk applied
  refine ⟨report, made, fun name => ⟨fun kept => ?_, fun other => ?_⟩⟩
  · obtain ⟨extractor, found, present⟩ := exists_lookup kept
    obtain ⟨extractor', found', present'⟩ := exists_lookup (among name kept)
    obtain ⟨value, defined⟩ := exists_of_isOk (isOk_report.mp applied _ present)
    rw [lookup_report made, lookup_report given, found, found', Option.bind_some, Option.bind_some,
      ← alike _ present _ present' rfl, defined]
    exact ⟨value, rfl, rfl⟩
  · rw [lookup_report made, lookup_eq_none other, Option.bind_none]

end Alike

/-- Both histograms see the same samples, each in its world. -/
def SeeSame (v : World) (h : Histogram) (v' : World) (h' : Histogram) : Prop :=
  v.snapshotOf (.histogram h) = v'.snapshotOf (.histogram h')

theorem SeeSame.symm {v v' : World} (seen : SeeSame v h v' h') : SeeSame v' h' v h :=
  Eq.symm seen

private theorem seeSame_of_reservoir {v v' : World} {r : Reservoir} (stands : v.object h.reservoir = .reservoir r)
    (stands' : v'.object h'.reservoir = .reservoir r) : SeeSame v h v' h' := by
  unfold SeeSame World.snapshotOf
  simp only [World.ground?_eq stands, World.ground?_eq stands', stands, stands']

private theorem reportOf_restricts {v v' : World} {whole : Report} (answers : Answers skip items h.extractors)
    {skip' : Bool} (answers' : Answers skip' items' h'.extractors)
    (among : ∀ name ∈ h.metricNames, name ∈ h'.metricNames) (seen : SeeSame v h v' h')
    (given : v'.reportOf h' = .ok whole) :
    ∃ report, v.reportOf h = .ok report ∧ Restricts report whole (· ∈ h.metricNames) := by
  obtain ⟨s, snapshot, reported⟩ := Failure.bind_eq_ok_iff.mp given
  have alike : ∀ entry ∈ h.extractors, ∀ other ∈ h'.extractors, entry.1 = other.1 →
      entry.2.apply s = other.2.apply s := fun entry present other present' named =>
    answers.apply_eq answers' present present' named s
  obtain ⟨report, made, restricted⟩ := report_restricts alike among reported
  exact ⟨report, Failure.bind_eq_ok_iff.mpr ⟨s, seen.trans snapshot, made⟩, restricted⟩

private theorem BuiltFrom.metricNames_iff (built : h.BuiltFrom items skip) (built' : h'.BuiltFrom items' skip)
    (same : SamePercentiles items items') (name : String) :
    name ∈ h.metricNames ↔ name ∈ h'.metricNames := by
  refine built.answers.mem_names_iff.trans (Iff.trans ?_ built'.answers.mem_names_iff.symm)
  exact or_congr_right ⟨same.userName, same.symm.userName⟩

private theorem BuiltFrom.metricNames_iff_userName (built : h.BuiltFrom items true) (name : String) :
    name ∈ h.metricNames ↔ UserName items name := by
  refine built.answers.mem_names_iff.trans (or_iff_right ?_)
  exact List.not_mem_nil

/-- Values that have the same percentiles among them make histograms with the same metrics and, on the
same samples, the same report; and without the defaults the report is the part of the full one that the
values name. -/
theorem reports_of_samePercentiles (same : SamePercentiles items items') :
    (∀ skip h h', BuiltFrom h items skip → BuiltFrom h' items' skip →
      (∀ name, name ∈ h.metricNames ↔ name ∈ h'.metricNames) ∧
      ∀ v v' report, SeeSame v h v' h' → v.reportOf h = .ok report →
        ∃ report', v'.reportOf h' = .ok report' ∧ Restricts report' report (· ∈ h.metricNames)) ∧
    ∀ own full, BuiltFrom own items true → BuiltFrom full items' false →
      ∀ v v' whole, SeeSame v own v' full → v'.reportOf full = .ok whole →
        ∃ report, v.reportOf own = .ok report ∧ Restricts report whole (UserName items) := by
  constructor
  · intro skip h h' built built'
    have names := built.metricNames_iff built' same
    refine ⟨names, fun v v' report seen given => ?_⟩
    obtain ⟨report', made, restricted⟩ := reportOf_restricts built'.answers built.answers
      (fun name => (names name).mpr) (SeeSame.symm seen) given
    exact ⟨report', made, restricted.congr fun name => (names name).symm⟩
  · intro own full built built' v v' whole seen given
    have among : ∀ name ∈ own.metricNames, name ∈ full.metricNames := by
      intro name kept
      have named := same.userName ((built.metricNames_iff_userName name).mp kept)
      exact built'.answers.mem_names_iff.mpr (.inr named)
    obtain ⟨report, made, restricted⟩ := reportOf_restricts built.answers built'.answers among seen given
    exact ⟨report, made, restricted.congr built.metricNames_iff_userName⟩

def spelled : List Value :=
  [.int 10, .float (.ofBits 0x8000000000000000), .text "x"]

/-- The same percentiles the other way round, one of them twice, and a number that is none. -/
def respelled : List Value :=
  [.int 0, .float (.ofInt 10), .float (.ofInt 10), .int 101]

def sevenWorld : World :=
  ((World.empty fun _ _ => 0).add (.reservoir (.sliding ((SlidingWindow.empty 3).update (.int 7))))).2

def sevenRecipe (items : List Value) (skip : Bool) : Recipe where
  name := .text "h"
  reservoir := some 0
  percentiles := .list items
  skipDefaults := .bool skip

def sevenHistogram (items : List Value) (skip : Bool) : Histogram :=
  ⟨"h", 0, (Table.build (.list items) (.bool skip)).result.toOption.getD []⟩

private theorem builtFrom_seven (near : ∀ raw ∈ items, raw.isConvertible)
    (built : (sevenWorld.build (sevenRecipe items skip) {}).1.isOk) :
    (sevenHistogram items skip).BuiltFrom items skip := by
  refine ⟨near, sevenWorld, sevenRecipe items skip, {}, rfl, rfl, ?_⟩
  obtain ⟨h, made⟩ := exists_of_isOk built
  have table : (Table.build (.list items) (.bool skip)).result = .ok h.extractors :=
    World.extractors_of_build made
  obtain ⟨u, events, prepared⟩ := World.make_of_build made
  obtain ⟨planned, -⟩ := World.make_cases prepared
  obtain ⟨settled, -⟩ := World.settle_of_make prepared sevenWorld
  rw [made]
  rw [World.build_eq_make, prepared] at made
  obtain rfl := settled.symm.trans (Except.ok.inj made)
  have named : u.plan.name = "h" := (Value.text.inj (Recipe.name_of_plan planned)).symm
  unfold sevenHistogram
  rw [table, named]
  rfl

theorem reports_of_samePercentiles_seven :
    SamePercentiles spelled respelled ∧ ∃ h h' own, BuiltFrom h spelled false ∧
      BuiltFrom h' respelled false ∧ BuiltFrom own spelled true ∧ ∃ report report' part,
        sevenWorld.reportOf h = .ok report ∧ sevenWorld.reportOf h' = .ok report' ∧
          Restricts report' report (· ∈ h.metricNames) ∧
          sevenWorld.reportOf own = .ok part ∧ Restricts part report' (UserName spelled) := by
  have same : SamePercentiles spelled respelled := by
    unfold SamePercentiles
    decide +kernel
  have near : ∀ raw ∈ spelled, raw.isConvertible := by decide +kernel
  have near' : ∀ raw ∈ respelled, raw.isConvertible := by decide +kernel
  have built : BuiltFrom (sevenHistogram spelled false) spelled false :=
    builtFrom_seven near (by decide +kernel)
  have built' : BuiltFrom (sevenHistogram respelled false) respelled false :=
    builtFrom_seven near' (by decide +kernel)
  have alone : BuiltFrom (sevenHistogram spelled true) spelled true :=
    builtFrom_seven near (by decide +kernel)
  have stands (items : List Value) (skip : Bool) :
      sevenWorld.object (sevenHistogram items skip).reservoir =
        .reservoir (.sliding ((SlidingWindow.empty 3).update (.int 7))) := rfl
  have reported : (sevenWorld.reportOf (sevenHistogram spelled false)).isOk := by decide +kernel
  obtain ⟨report, given⟩ := exists_of_isOk reported
  obtain ⟨report', given', restricts⟩ :=
    ((reports_of_samePercentiles same).1 _ _ _ built built').2 _ _ _
      (seeSame_of_reservoir (stands _ _) (stands _ _)) given
  obtain ⟨part, given_part, restricts_part⟩ :=
    (reports_of_samePercentiles same).2 _ _ alone built' _ _ _
      (seeSame_of_reservoir (stands _ _) (stands _ _)) given'
  exact ⟨same, _, _, _, built, built', alone, report, report', part, given, given', restricts, given_part,
    restricts_part⟩

end Histogram

end SampledMetrics
