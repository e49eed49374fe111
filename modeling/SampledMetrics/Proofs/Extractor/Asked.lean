import SampledMetrics.Proofs.Correspondence
import SampledMetrics.Proofs.Extractor.Screening
import SampledMetrics.Proofs.Percentile.Name
/-!
What a table holds for the percentiles that are asked for.  The builder knows a repeated percentile by
its name; since names tell percentiles apart, it finds exactly the numerical repeats.  Main statement:
after the defaults a table has one entry for each number asked for that is no default, in the order in
which they first came.
-/

set_option autoImplicit false
set_option relaxedAutoImplicit false

namespace SampledMetrics

section Firsts

variable {α : Type} (r : α → α → Bool)

private theorem eraseDupsBy_sublist (xs : List α) : (xs.eraseDupsBy r).Sublist xs := by
  match xs with
  | [] => exact .slnil
  | x :: xs =>
    rw [List.eraseDupsBy_cons]
    exact .cons_cons x ((eraseDupsBy_sublist _).trans List.filter_sublist)
termination_by xs.length
decreasing_by exact Nat.lt_succ_of_le (List.length_filter_le _ _)

private theorem pairwise_eraseDupsBy (xs : List α) :
    (xs.eraseDupsBy r).Pairwise fun a b => r b a = false := by
  match xs with
  | [] => exact .nil
  | x :: xs =>
    rw [List.eraseDupsBy_cons]
    refine .cons (fun b present => ?_) (pairwise_eraseDupsBy _)
    simpa using (List.mem_filter.mp ((eraseDupsBy_sublist r _).subset present)).2
termination_by xs.length
decreasing_by exact Nat.lt_succ_of_le (List.length_filter_le _ _)

private theorem exists_mem_eraseDupsBy {x : α} (reflexive : r x x) (xs : List α) (present : x ∈ xs) :
    ∃ first ∈ xs.eraseDupsBy r, r x first := by
  match xs with
  | first :: rest =>
    rw [List.eraseDupsBy_cons]
    cases repeated : r x first with
    | true => exact ⟨first, List.mem_cons_self, repeated⟩
    | false =>
      have later : x ∈ rest := by
        rcases List.mem_cons.mp present with rfl | later
        · rw [reflexive] at repeated
          contradiction
        · exact later
      have kept : x ∈ rest.filter fun b => r b first = false :=
        List.mem_filter.mpr ⟨later, decide_eq_true repeated⟩
      obtain ⟨other, among, same⟩ := exists_mem_eraseDupsBy reflexive _ kept
      exact ⟨other, List.mem_cons_of_mem _ among, same⟩
termination_by xs.length
decreasing_by exact Nat.lt_succ_of_le (List.length_filter_le _ _)

theorem mem_eraseDupsBy_of_new {before after : List α} {x : α} (new : ∀ y ∈ before, r x y = false) :
    x ∈ (before ++ x :: after).eraseDupsBy r := by
  match before with
  | [] =>
    rw [List.nil_append, List.eraseDupsBy_cons]
    exact List.mem_cons_self
  | y :: rest =>
    have kept : decide (r x y = false) = true := decide_eq_true (new y List.mem_cons_self)
    rw [List.cons_append, List.eraseDupsBy_cons, List.filter_append, List.filter_cons, if_pos kept]
    refine List.mem_cons_of_mem _ (mem_eraseDupsBy_of_new fun z present => ?_)
    exact new z (List.mem_cons_of_mem _ (List.mem_filter.mp present).1)
termination_by before.length
decreasing_by exact Nat.lt_succ_of_le (List.length_filter_le _ _)

end Firsts

def Value.percentile? (v : Value) : Option Number :=
  v.number?.filter Percentile.isValid

theorem Value.percentile?_eq_some_iff {v : Value} {x : Number} :
    v.percentile? = some x ↔ v = .number x ∧ Percentile.isValid x := by
  have nan : Percentile.isValid (.float .nan) = false := rfl
  unfold Value.percentile?
  rw [Option.filter_eq_some_iff]
  refine and_congr_left fun valid => ?_
  cases v <;> simp [Value.number?]
  rintro rfl
  rw [nan] at valid
  contradiction

theorem Value.isPercentile_eq (v : Value) : v.isPercentile = v.percentile?.isSome := by
  unfold Value.isPercentile Value.percentile?
  cases v.number? with
  | none => rfl
  | some x => cases valid : Percentile.isValid x <;> simp [Option.filter, valid]

namespace Percentile

private theorem fits_of_isValid {x : Number} (valid : isValid x) : x.fits := by
  cases x with
  | float p =>
    obtain ⟨units, place, -⟩ := Snapshot.exists_place?_of_isValid valid
    exact Binary64.isFinite_iff.mpr ⟨_, place⟩
  | int value =>
    have place : (Number.int value).place? = some (.whole (value * Binary64.unitsPerOne)) := rfl
    obtain ⟨nonneg, bounded⟩ := (isValid_iff_of_place? place).mp valid
    have positive : (0 : Int) < Binary64.unitsPerOne := Int.natCast_pos.mpr Binary64.unitsPerOne_pos
    have low : 0 ≤ value := Int.le_of_mul_le_mul_right ((Int.zero_mul _).symm ▸ nonneg) positive
    have high : value ≤ 100 := Int.le_of_mul_le_mul_right bounded positive
    have few : value.natAbs ≤ 100 := by omega
    exact decide_eq_true (Nat.le_trans few (by decide))

/-- A percentile of either kind becomes the binary64 number at its place, and that has the name at this
place. -/
private theorem exists_real_of_isValid {x : Number} (valid : isValid x) :
    ∃ (real : Binary64) (magnitude : Magnitude), x.toBinary64? = some real ∧
      x.place? = some (.whole magnitude.units) ∧ real.place? = x.place? ∧
      name real = .ok (nameAt magnitude.units) := by
  have fits := fits_of_isValid valid
  obtain ⟨real, converted, place⟩ := Number.toBinary64?_of_fits fits
  have same : real.place? = x.place? := place.trans (Number.place?_of_fits fits).symm
  obtain ⟨magnitude, place, named⟩ :=
    exists_magnitude_of_isValid ((isValid_of_toBinary64? converted).trans valid)
  exact ⟨real, magnitude, converted, same.symm.trans place, same, named⟩

end Percentile

namespace Table

/-- The percentiles among the values, with their repeats. -/
def asked (raws : List Value) : List Number :=
  raws.filterMap Value.percentile?

/-- The entry of a table for a percentile. -/
def EntryAt (x : Number) (entry : String × Extractor) : Prop :=
  Percentile.isValid x ∧ ∃ real, x.toBinary64? = some real ∧ Percentile.name real = .ok entry.1 ∧
    entry.2 = .percentile (.float real)

section EntryAt

variable {x y : Number} {entry other : String × Extractor}

theorem exists_entryAt (valid : Percentile.isValid x) : ∃ entry, EntryAt x entry := by
  obtain ⟨real, magnitude, converted, -, -, named⟩ := Percentile.exists_real_of_isValid valid
  exact ⟨(Percentile.nameAt magnitude.units, .percentile (.float real)), valid, real, converted, named, rfl⟩

theorem EntryAt.exists_magnitude (made : EntryAt x entry) :
    ∃ magnitude : Magnitude, x.place? = some (.whole magnitude.units) ∧
      entry.1 = Percentile.nameAt magnitude.units := by
  obtain ⟨valid, real, converted, named, -⟩ := made
  obtain ⟨real', magnitude, converted', place, -, named'⟩ := Percentile.exists_real_of_isValid valid
  obtain rfl := Option.some.inj (converted.symm.trans converted')
  exact ⟨magnitude, place, Except.ok.inj (named.symm.trans named')⟩

theorem EntryAt.name_eq_iff (made : EntryAt x entry) (made' : EntryAt y other) :
    entry.1 = other.1 ↔ x.same y := by
  obtain ⟨a, place, named⟩ := made.exists_magnitude
  obtain ⟨b, place', named'⟩ := made'.exists_magnitude
  rw [named, named', Number.same_iff, place, place']
  constructor
  · intro same
    rw [Percentile.nameAt_injective same]
    exact ⟨_, rfl, rfl⟩
  · rintro ⟨_, first, second⟩
    have same := first.trans second.symm
    simp only [Option.some.injEq, Place.whole.injEq, Int.ofNat_inj] at same
    rw [same]

private theorem EntryAt.has_iff {seen : List Number} {table : Table} (entered : List.Forall₂ EntryAt seen table)
    (made : EntryAt x entry) : table.has entry.1 = seen.any x.same := by
  induction entered with
  | nil => rfl
  | @cons y other seen table made' _ ih =>
    have shared : decide (other.1 = entry.1) = x.same y := by
      rw [Bool.eq_iff_iff, decide_eq_true_iff, made'.name_eq_iff made, Number.same_comm]
    rw [List.any_cons, ← ih, ← shared]
    rfl

end EntryAt

private theorem asked_cons_some {raw : Value} {x : Number} (found : raw.percentile? = some x) (rest : List Value) :
    asked (raw :: rest) = x :: asked rest :=
  List.filterMap_cons_some found

private theorem asked_cons_none {raw : Value} (missing : raw.percentile? = none) (rest : List Value) :
    asked (raw :: rest) = asked rest :=
  List.filterMap_cons_none missing

theorem isValid_of_mem_asked {raws : List Value} {x : Number} (present : x ∈ asked raws) :
    Percentile.isValid x := by
  obtain ⟨raw, -, found⟩ := List.mem_filterMap.mp present
  exact (Value.percentile?_eq_some_iff.mp found).2

theorem addPercentiles_some {raw : Value} {x : Number} (found : raw.percentile? = some x)
    (rest : List Value) (table : Table) :
    ∃ entry, EntryAt x entry ∧
      addPercentiles (raw :: rest) table = addPercentiles rest (table.putNew entry.1 entry.2) := by
  obtain ⟨rfl, valid⟩ := Value.percentile?_eq_some_iff.mp found
  obtain ⟨⟨text, _⟩, valid, real, converted, named, rfl⟩ := exists_entryAt valid
  have kept : screen (.number x) = .keep real := by
    unfold screen
    simp only [Value.number?, converted, Percentile.isValid_of_toBinary64? converted, valid, if_true]
  exact ⟨(text, .percentile (.float real)), ⟨valid, real, converted, named, rfl⟩,
    addPercentiles_keep rest table kept named⟩

private theorem addPercentiles_none {raw : Value} (near : raw.isConvertible) (missing : raw.percentile? = none)
    (rest : List Value) (table : Table) :
    (addPercentiles (raw :: rest) table).result = (addPercentiles rest table).result := by
  rcases screen_of_convertible near with ⟨p, -, -, wanted⟩ | ⟨event, dropped, -⟩
  · rw [Value.isPercentile_eq, missing] at wanted
    contradiction
  · exact addPercentiles_drop rest table dropped

private theorem exists_addPercentiles {raws : List Value} (near : ∀ raw ∈ raws, raw.isConvertible)
    {seen : List Number} {table : Table} (entered : List.Forall₂ EntryAt seen table) :
    ∃ later, (addPercentiles raws table).result = .ok (table ++ later) ∧
      List.Forall₂ EntryAt (((asked raws).filter fun x => !seen.any x.same).eraseDupsBy Number.same)
        later := by
  -- the table always holds what was seen, so a name is in it exactly when its number was seen
  induction raws generalizing seen table with
  | nil => exact ⟨[], by rw [List.append_nil]; rfl, .nil⟩
  | cons raw rest ih =>
    obtain ⟨near_raw, near_rest⟩ := List.forall_mem_cons.mp near
    cases found : raw.percentile? with
    | none =>
      rw [addPercentiles_none near_raw found, asked_cons_none found]
      exact ih near_rest entered
    | some x =>
      obtain ⟨entry, made, added⟩ := addPercentiles_some found rest table
      rw [added, asked_cons_some found]
      have known := EntryAt.has_iff entered made
      unfold putNew
      cases repeated : seen.any x.same with
      | true =>
        rw [known, repeated, if_pos rfl, List.filter_cons_of_neg (by simp [repeated])]
        exact ih near_rest entered
      | false =>
        rw [known, repeated, if_neg Bool.false_ne_true, List.filter_cons_of_pos (by simp [repeated]),
          List.eraseDupsBy_cons, List.filter_filter]
        have entered_last := List.rel_append entered (List.Forall₂.cons made .nil)
        obtain ⟨later, built, rest_made⟩ := ih near_rest entered_last
        refine ⟨entry :: later, by simpa using built, .cons made ?_⟩
        convert rest_made using 4
        simp [Bool.and_comm]

private theorem has_append (table other : Table) (name : String) :
    (table ++ other).has name = (table.has name || other.has name) :=
  List.any_append

theorem has_iff_mem_names {table : Table} {name : String} : table.has name ↔ name ∈ table.names := by
  simp [has, names]

theorem has_concat_of_not_mem {rest : Table} {name : String} (fresh : name ∉ rest.names) (table : Table)
    (extractor : Extractor) {entry : String × Extractor} (present : entry ∈ rest) :
    (table ++ [(name, extractor)]).has entry.1 = table.has entry.1 := by
  have other : name ≠ entry.1 := by
    intro same
    exact fresh (same ▸ List.mem_map.mpr ⟨entry, present, rfl⟩)
  simp [has, other]

private theorem result_addCustom {custom : Table} (unique : custom.names.Nodup) (table : Table) :
    (addCustom custom table).result = .ok (table ++ custom.filter fun entry => !table.has entry.1) := by
  induction custom generalizing table with
  | nil => exact congrArg Except.ok (List.append_nil table).symm
  | cons entry rest ih =>
    obtain ⟨name, extractor⟩ := entry
    obtain ⟨fresh, unique_rest⟩ := List.nodup_cons.mp unique
    unfold addCustom
    cases known : table.has name with
    | true =>
      rw [if_pos rfl, List.filter_cons_of_neg (by simp [known])]
      simpa [Logged.result_bind, Logged.tell, Except.bind] using ih unique_rest table
    | false =>
      rw [if_neg Bool.false_ne_true, List.filter_cons_of_pos (by simp [known]), ih unique_rest,
        List.append_assoc]
      have others : ∀ entry ∈ rest, (!(table ++ [(name, extractor)]).has entry.1) = !table.has entry.1 :=
        fun entry present => congrArg not (has_concat_of_not_mem fresh table extractor present)
      rw [List.filter_congr others]
      rfl

private theorem nodup_names_beside {table custom : Table} (unique : table.names.Nodup)
    (unique_custom : custom.names.Nodup) :
    (table ++ custom.filter fun entry => !table.has entry.1).names.Nodup := by
  rw [names, List.map_append]
  refine List.nodup_append.mpr ⟨unique, unique_custom.sublist (List.filter_sublist.map _), ?_⟩
  rintro name known _ present rfl
  obtain ⟨entry, kept, rfl⟩ := List.mem_map.mp present
  have fresh := (List.mem_filter.mp kept).2
  rw [has_iff_mem_names.mpr known] at fresh
  contradiction

private theorem nodup_names {xs : List Number} {entries : Table} (made : List.Forall₂ EntryAt xs entries)
    (distinct : xs.Pairwise fun x y => y.same x = false) : entries.names.Nodup := by
  induction made with
  | nil => exact .nil
  | @cons x entry xs entries first rest ih =>
    obtain ⟨new, distinct_rest⟩ := List.pairwise_cons.mp distinct
    refine List.nodup_cons.mpr ⟨fun present => ?_, ih distinct_rest⟩
    have known := has_iff_mem_names.mpr present
    rw [EntryAt.has_iff rest first] at known
    obtain ⟨y, among, same⟩ := List.any_eq_true.mp known
    rw [Number.same_comm, new y among] at same
    contradiction

def defaultPercentiles : List (String × Binary64) :=
  [("P50", .ofInt 50), ("P75", .ofInt 75), ("P95", .ofInt 95), ("P98", .ofInt 98), ("P99", .ofInt 99),
    ("P99_9", .ofRatio false 999 10)]

def plainMetrics : Table :=
  [("Min", .min), ("Max", .max), ("Mean", .mean), ("StdDev", .stddev)]

def defaultMetrics : Table :=
  plainMetrics ++ defaultPercentiles.map fun entry => (entry.1, .percentile (.float entry.2))

private theorem defaultPercentiles_computed :
    (∀ entry ∈ defaultPercentiles, (Percentile.name entry.2).toOption = some entry.1 ∧
      Percentile.isValid (.float entry.2)) ∧
    defaultTenths.map (fun tenths => Binary64.ofRatio false tenths 10) = defaultPercentiles.map Prod.snd := by
  decide +kernel

private theorem name_of_mem_defaultPercentiles {entry : String × Binary64} (present : entry ∈ defaultPercentiles) :
    Percentile.name entry.2 = .ok entry.1 :=
  Failure.eq_ok_of_toOption (defaultPercentiles_computed.1 entry present).1

theorem entryAt_of_mem_defaultPercentiles {entry : String × Binary64} (present : entry ∈ defaultPercentiles) :
    EntryAt (.float entry.2) (entry.1, .percentile (.float entry.2)) :=
  ⟨(defaultPercentiles_computed.1 entry present).2, entry.2, rfl, name_of_mem_defaultPercentiles present, rfl⟩

private theorem entryAt_defaultPercentiles :
    List.Forall₂ EntryAt (defaultPercentiles.map fun entry => .float entry.2)
      (defaultPercentiles.map fun entry => (entry.1, .percentile (.float entry.2))) := by
  rw [List.forall₂_map_left_iff, List.forall₂_map_right_iff, List.forall₂_same]
  exact fun entry present => entryAt_of_mem_defaultPercentiles present

private theorem filterMap_defaultPercentiles :
    defaultPercentiles.filterMap (fun entry => (percentileEntry entry.2).toOption) =
      defaultPercentiles.map fun entry => (entry.1, .percentile (.float entry.2)) := by
  rw [← List.filterMap_eq_map]
  refine List.filterMap_congr fun entry present => ?_
  rw [percentileEntry_of_name (name_of_mem_defaultPercentiles present)]
  rfl

private theorem filterMap_defaultTenths (entryOf : Binary64 → Option (String × Extractor)) :
    defaultTenths.filterMap (fun tenths => entryOf (.ofRatio false tenths 10)) =
      defaultPercentiles.filterMap fun entry => entryOf entry.2 := by
  have mapped := congrArg (List.filterMap entryOf) defaultPercentiles_computed.2
  rw [List.filterMap_map, List.filterMap_map] at mapped
  exact mapped

private theorem defaults_eq : defaults = defaultMetrics := by
  have tenths := filterMap_defaultTenths fun real => (percentileEntry real).toOption
  rw [filterMap_defaultPercentiles] at tenths
  unfold defaults defaultMetrics plainMetrics
  rw [tenths]

def isDefault (x : Number) : Bool :=
  defaultPercentiles.any fun entry => x.same (.float entry.2)

theorem has_plainMetrics_nameAt (units : Nat) : plainMetrics.has (Percentile.nameAt units) = false := by
  have letter : (Percentile.nameAt units).toList.head? = some 'P' := by
    unfold Percentile.nameAt
    rw [String.toList_ofList, List.head?_cons]
  have others : ∀ text ∈ plainMetrics.names, text.toList.head? ≠ some 'P' := by decide +kernel
  rw [Bool.eq_false_iff]
  intro present
  exact others _ (has_iff_mem_names.mp present) letter

theorem EntryAt.has_defaults {x : Number} {entry : String × Extractor} (made : EntryAt x entry) :
    defaults.has entry.1 = isDefault x := by
  obtain ⟨magnitude, -, named⟩ := made.exists_magnitude
  have plain : plainMetrics.has entry.1 = false := by
    rw [named]
    exact has_plainMetrics_nameAt _
  rw [defaults_eq, defaultMetrics, has_append, plain, Bool.false_or,
    EntryAt.has_iff entryAt_defaultPercentiles made, List.any_map]
  rfl

private theorem nodup_names_defaults : defaults.names.Nodup := by
  have written : defaults.names =
      ["Min", "Max", "Mean", "StdDev", "P50", "P75", "P95", "P98", "P99", "P99_9"] := by
    rw [defaults_eq]
    rfl
  rw [written]
  decide

def wanted (skip : Bool) (raws : List Value) : List Number :=
  ((asked raws).eraseDupsBy Number.same).filter fun x => skip || !isDefault x

def start (skip : Bool) : Table :=
  if skip then [] else defaultMetrics

theorem exists_ofPercentiles {percentiles : Value} {items : List Value} (listed : percentiles.items? = some items)
    (near : ∀ raw ∈ items, raw.isConvertible) :
    ∃ custom, (ofPercentiles percentiles).result = .ok custom ∧
      List.Forall₂ EntryAt ((asked items).eraseDupsBy Number.same) custom ∧ custom.names.Nodup := by
  obtain ⟨custom, added, made⟩ := exists_addPercentiles near List.Forall₂.nil
  have all : (asked items).filter (fun x => !([] : List Number).any x.same) = asked items :=
    List.filter_eq_self.mpr fun _ _ => rfl
  rw [all] at made
  exact ⟨custom, (result_ofPercentiles listed).trans added, made,
    nodup_names made (pairwise_eraseDupsBy _ _)⟩

theorem exists_build {percentiles : Value} {items : List Value} (skip : Value)
    (listed : percentiles.items? = some items) (near : ∀ raw ∈ items, raw.isConvertible) :
    ∃ entries, (build percentiles skip).result = .ok (start skip.isTrue ++ entries) ∧
      List.Forall₂ EntryAt (wanted skip.isTrue items) entries ∧
      (start skip.isTrue ++ entries).names.Nodup := by
  obtain ⟨custom, given, made, unique⟩ := exists_ofPercentiles listed near
  unfold wanted start
  cases skipped : skip.isTrue with
  | true =>
    refine ⟨custom, ?_, by simpa using made, unique⟩
    simp [build, Logged.result_bind, given, skipped, Except.bind]
  | false =>
    refine ⟨custom.filter fun entry => !defaults.has entry.1, ?_, ?_, ?_⟩
    · rw [if_neg Bool.false_ne_true, ← defaults_eq, ← result_addCustom unique defaults]
      simp [build, Logged.result_bind, given, skipped, Except.bind]
    · refine List.rel_filter (fun x entry made => ?_) made
      simp [made.has_defaults]
    · rw [if_neg Bool.false_ne_true, ← defaults_eq]
      exact nodup_names_beside nodup_names_defaults unique

theorem entryAt_of_mem_start {skip : Bool} {entry : String × Extractor} (present : entry ∈ start skip) :
    entry ∈ plainMetrics ∨ ∃ x, EntryAt x entry := by
  unfold start at present
  split at present
  · contradiction
  · refine (List.mem_append.mp present).imp id fun listed => ?_
    obtain ⟨x, -, made⟩ := exists_left_of_mem entryAt_defaultPercentiles listed
    exact ⟨x, made⟩

private theorem exists_default_entry {x : Number} (default : isDefault x) :
    ∃ entry ∈ defaultMetrics, ∃ y, EntryAt y entry ∧ x.same y := by
  obtain ⟨known, among, same⟩ := List.any_eq_true.mp default
  have listed := List.mem_map_of_mem (f := fun entry => Number.float entry.2) among
  obtain ⟨entry, present, made⟩ := exists_right_of_mem entryAt_defaultPercentiles listed
  exact ⟨entry, List.mem_append_right _ present, _, made, same⟩

theorem EntryAt.nameOf_number {x : Number} {entry : String × Extractor} (made : EntryAt x entry) :
    Percentile.nameOf (.number x) = .ok entry.1 := by
  obtain ⟨-, real, converted, named, -⟩ := made
  unfold Percentile.nameOf
  rw [Value.toBinary64_number converted]
  exact named

theorem EntryAt.nameOf {x : Number} {entry : String × Extractor} {p : Value} (made : EntryAt x entry)
    (percentile : entry.2 = .percentile p) : Percentile.nameOf p = .ok entry.1 := by
  obtain ⟨-, real, -, named, extractor⟩ := made
  obtain rfl := Extractor.percentile.inj (percentile.symm.trans extractor)
  unfold Percentile.nameOf Value.float
  rw [Value.toBinary64_number (Number.toBinary64?_float real)]
  exact named

theorem EntryAt.exists_percentile {x : Number} {entry : String × Extractor} (made : EntryAt x entry) :
    ∃ real, entry.2 = .percentile (.float real) ∧ Percentile.isValid (.float real) ∧
      (Number.float real).same x := by
  obtain ⟨valid, real, converted, -, extractor⟩ := made
  obtain ⟨real', magnitude, converted', place, same, -⟩ := Percentile.exists_real_of_isValid valid
  obtain rfl := Option.some.inj (converted.symm.trans converted')
  exact ⟨real, extractor, (Percentile.isValid_of_toBinary64? converted).trans valid,
    Number.same_iff.mpr ⟨_, same.trans place, place⟩⟩

section Contents

variable {skip : Bool} {items : List Value} {entries : Table}

theorem exists_entry_of_mem_asked (made : List.Forall₂ EntryAt (wanted skip items) entries) {x : Number}
    (among : x ∈ asked items) : ∃ entry ∈ start skip ++ entries, ∃ y, EntryAt y entry ∧ x.same y := by
  have itself := Number.same_self (Percentile.fits_of_isValid (isValid_of_mem_asked among))
  obtain ⟨first, listed, same⟩ := exists_mem_eraseDupsBy Number.same itself _ among
  cases kept : skip || !isDefault first with
  | true =>
    have entered : first ∈ wanted skip items := List.mem_filter.mpr ⟨listed, kept⟩
    obtain ⟨entry, present, made⟩ := exists_right_of_mem made entered
    exact ⟨entry, List.mem_append_right _ present, first, made, same⟩
  | false =>
    obtain ⟨rfl, default⟩ : skip = false ∧ isDefault first = true := by simpa using kept
    obtain ⟨entry, present, y, made, same'⟩ := exists_default_entry default
    exact ⟨entry, List.mem_append_left _ present, y, made, Number.same_trans same same'⟩

private theorem mem_asked_of_mem_wanted {x : Number} (listed : x ∈ wanted skip items) : x ∈ asked items :=
  (eraseDupsBy_sublist _ _).subset (List.mem_filter.mp listed).1

end Contents

/-- What a table has for a list of values: the defaults unless they are skipped, then one entry for each
further number asked for, in the order in which they first came; names that are distinct and tell the
percentiles; all that was asked for, and nothing else. -/
structure Answers (skip : Bool) (raws : List Value) (table : Table) : Prop where
  listed : ∃ entries, table = start skip ++ entries ∧ List.Forall₂ EntryAt (wanted skip raws) entries
  unique : table.names.Nodup
  keyed : ∀ entry ∈ table, ∀ p, entry.2 = .percentile p → Percentile.nameOf p = .ok entry.1
  complete : ∀ x ∈ asked raws, ∃ entry ∈ table, ∃ real, entry.2 = .percentile (.float real) ∧
    (Number.float real).same x
  sound : ∀ entry ∈ table, entry ∈ start skip ∨ ∃ x ∈ asked raws, EntryAt x entry

theorem Answers.of_listed {skip : Bool} {raws : List Value} {entries : Table}
    (made : List.Forall₂ EntryAt (wanted skip raws) entries)
    (unique : (start skip ++ entries).names.Nodup) : Answers skip raws (start skip ++ entries) where
  listed := ⟨entries, rfl, made⟩
  unique := unique
  keyed := by
    intro entry present p percentile
    rcases List.mem_append.mp present with default | added
    · rcases entryAt_of_mem_start default with plain | ⟨x, made⟩
      · simp only [plainMetrics, List.mem_cons, List.not_mem_nil, or_false] at plain
        rcases plain with rfl | rfl | rfl | rfl <;> contradiction
      · exact made.nameOf percentile
    · obtain ⟨x, -, made⟩ := exists_left_of_mem made added
      exact made.nameOf percentile
  complete := by
    intro x among
    obtain ⟨entry, present, y, made, same⟩ := exists_entry_of_mem_asked made among
    obtain ⟨real, percentile, -, same'⟩ := made.exists_percentile
    rw [Number.same_comm] at same
    exact ⟨entry, present, real, percentile, Number.same_trans same' same⟩
  sound := by
    intro entry present
    refine (List.mem_append.mp present).imp id fun added => ?_
    obtain ⟨x, listed, made⟩ := exists_left_of_mem made added
    exact ⟨x, mem_asked_of_mem_wanted listed, made⟩

theorem exists_answers {percentiles skip : Value} {table : Table}
    (built : (build percentiles skip).result = .ok table) : ∃ items, Answers skip.isTrue items table := by
  obtain ⟨_, listed, -⟩ := Logged.result_bind_eq_ok_iff.mp built
  obtain ⟨items, iterated, -⟩ := Logged.result_bind_eq_ok_iff.mp listed
  have itemized : percentiles.items? = some items := by
    have given : itemsOf percentiles = .ok items := iterated
    unfold itemsOf at given
    split at given
    · rename_i raws found
      obtain rfl := Except.ok.inj given
      exact found
    · contradiction
  have near : ∀ raw ∈ items, raw.isConvertible := by
    intro raw present
    refine Bool.of_not_eq_false fun far => ?_
    rw [build_of_not_convertible skip itemized ⟨raw, present, far⟩] at built
    contradiction
  obtain ⟨entries, finished, made, unique⟩ := exists_build skip itemized near
  obtain rfl := Except.ok.inj (built.symm.trans finished)
  exact ⟨items, .of_listed made unique⟩

/-- A list without an integer beyond binary64 gives the table that it asks for. -/
theorem build_answers {items : List Value} (skip : Value) (near : ∀ raw ∈ items, raw.isConvertible) :
    ∃ table, (build (.list items) skip).result = .ok table ∧ Answers skip.isTrue items table := by
  have itemized : (Value.list items).items? = some items := rfl
  obtain ⟨entries, built, made, unique⟩ := exists_build skip itemized near
  exact ⟨_, built, .of_listed made unique⟩

/-- Ten in both forms, both zeros, a default, and values that are no percentiles. -/
def mixedValues : List Value :=
  [.int 10, .float (.ofInt 10), .float (.ofBits 0x8000000000000000), .int 0, .bool true, .text "x",
    .float .nan, .int 50, .int 101]

theorem build_answers_mixed :
    (∀ raw ∈ mixedValues, raw.isConvertible) ∧
      ∃ table, (build (.list mixedValues) (.bool false)).result = .ok table ∧
        Answers false mixedValues table := by
  have near : ∀ raw ∈ mixedValues, raw.isConvertible := by decide +kernel
  exact ⟨near, build_answers (.bool false) near⟩

example : (build (.list mixedValues) (.bool true)).result.toOption.map names =
    some ["P10", "P0", "P50"] := by decide +kernel

end Table

end SampledMetrics
