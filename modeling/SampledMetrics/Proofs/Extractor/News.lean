import SampledMetrics.Proofs.Extractor.Asked
/-!
What is told while a table is built.  First one event for each value that is left out, in the order of the
list; then, unless the defaults are skipped, one for each number asked for that is a default percentile, in
the order in which they first came.  Main statement: with these events every value of a list is accounted
for.  It has an entry, it is told of, or it repeats a percentile before it.
-/

set_option autoImplicit false
set_option relaxedAutoImplicit false

namespace SampledMetrics.Table

/-- The event for a value that is left out: no number, or one that does not lie between 0 and 100. -/
def leftOut? (raw : Value) : Option Event :=
  match raw.number? with
  | none => some (.percentileNotNumeric raw)
  | some x => if Percentile.isValid x then none else some (.percentileOutside x)

/-- The name of the default percentile that a number is. -/
def defaultName? (x : Number) : Option String :=
  (defaultPercentiles.find? fun entry => x.same (.float entry.2)).map Prod.fst

/-- The events for the numbers asked for that are default percentiles, each number once. -/
def keptDefaults (skip : Bool) (raws : List Value) : List Event :=
  if skip then [] else
    (((asked raws).eraseDupsBy Number.same).filterMap defaultName?).map .duplicatesDefault

/-- What is told of a list of values: first of those that are left out, then of the defaults among them. -/
def news (skip : Bool) (raws : List Value) : List Event :=
  raws.filterMap leftOut? ++ keptDefaults skip raws

/-- A value after others of a list is accounted for: it is told of, on its own or as a default, or it is the
same number as one before it, or it has an entry. -/
inductive Accounted (told : List Event) (table : Table) (before : List Value) (raw : Value) : Prop
  | leftOut (event : Event) (out : leftOut? raw = some event) (logged : event ∈ told)
  | default (x : Number) (found : raw.percentile? = some x) (name : String) (known : defaultName? x = some name)
      (logged : .duplicatesDefault name ∈ told)
  | repeated (x : Number) (found : raw.percentile? = some x) (earlier : Value) (present : earlier ∈ before)
      (y : Number) (found_earlier : earlier.percentile? = some y) (same : x.same y)
  | entered (x : Number) (found : raw.percentile? = some x) (entry : String × Extractor)
      (present : entry ∈ table) (made : EntryAt x entry)

section Value

variable {raw : Value} {event : Event}

private theorem leftOut?_eq_none_iff : leftOut? raw = none ↔ raw.percentile?.isSome := by
  unfold leftOut? Value.percentile?
  cases raw.number? with
  | none => simp
  | some x => cases valid : Percentile.isValid x <;> simp [Option.filter, valid]

private theorem screen_of_leftOut? (near : raw.isConvertible) (out : leftOut? raw = some event) :
    screen raw = .drop event := by
  unfold leftOut? at out
  unfold Value.isConvertible at near
  unfold screen
  cases number : raw.number? with
  | none =>
    rw [number] at out
    obtain rfl := Option.some.inj out
    rfl
  | some x =>
    rw [number] at out near
    obtain ⟨real, converted⟩ : ∃ real, x.toBinary64? = some real := by
      rw [← Option.isSome_iff_exists, Number.isSome_toBinary64?]
      exact near
    cases valid : Percentile.isValid x with
    | true => simp [valid] at out
    | false => simpa [valid, converted, Percentile.isValid_of_toBinary64? converted] using out

end Value

private theorem events_addPercentiles {raws : List Value} (near : ∀ raw ∈ raws, raw.isConvertible) (table : Table) :
    (addPercentiles raws table).events = raws.filterMap leftOut? := by
  induction raws generalizing table with
  | nil => rfl
  | cons raw rest ih =>
    obtain ⟨near_raw, near_rest⟩ := List.forall_mem_cons.mp near
    cases out : leftOut? raw with
    | some event =>
      rw [addPercentiles, List.filterMap_cons_some out]
      simp only [screen_of_leftOut? near_raw out, Logged.events_bind, Logged.tell, ih near_rest]
      rfl
    | none =>
      obtain ⟨x, found⟩ := Option.isSome_iff_exists.mp (leftOut?_eq_none_iff.mp out)
      obtain ⟨entry, -, added⟩ := addPercentiles_some found rest table
      rw [added, List.filterMap_cons_none out]
      exact ih near_rest _

private theorem events_addCustom {custom : Table} (unique : custom.names.Nodup) (table : Table) :
    (addCustom custom table).events =
      ((custom.filter fun entry => table.has entry.1).map Prod.fst).map .duplicatesDefault := by
  induction custom generalizing table with
  | nil => rfl
  | cons entry rest ih =>
    obtain ⟨name, extractor⟩ := entry
    obtain ⟨fresh, unique_rest⟩ := List.nodup_cons.mp unique
    unfold addCustom
    cases known : table.has name with
    | true =>
      rw [if_pos rfl, List.filter_cons_of_pos (by simp [known]), Logged.events_bind]
      simp only [Logged.tell, ih unique_rest table, List.map_cons, List.singleton_append]
    | false =>
      have others : ∀ entry ∈ rest, (table ++ [(name, extractor)]).has entry.1 = table.has entry.1 :=
        fun entry present => has_concat_of_not_mem fresh table extractor present
      rw [if_neg Bool.false_ne_true, List.filter_cons_of_neg (by simp [known]), ih unique_rest,
        List.filter_congr others]

private theorem isSome_defaultName? (x : Number) : (defaultName? x).isSome = isDefault x := by
  rw [Bool.eq_iff_iff, defaultName?, Option.isSome_map, List.find?_isSome, isDefault, List.any_eq_true]

private theorem EntryAt.defaultName?_eq {x : Number} {entry : String × Extractor} (made : EntryAt x entry) :
    defaultName? x = if defaults.has entry.1 then some entry.1 else none := by
  rw [made.has_defaults, ← isSome_defaultName?]
  cases known : defaultName? x with
  | none => rfl
  | some name =>
    obtain ⟨default, first, rfl⟩ := Option.map_eq_some_iff.mp known
    have same := List.find?_some first
    have entered := entryAt_of_mem_defaultPercentiles (List.mem_of_find?_eq_some first)
    rw [Option.isSome_some, if_pos rfl, (made.name_eq_iff entered).mpr same]

private theorem filterMap_defaultName? {xs : List Number} {custom : Table} (made : List.Forall₂ EntryAt xs custom) :
    xs.filterMap defaultName? = (custom.filter fun entry => defaults.has entry.1).map Prod.fst := by
  induction made with
  | nil => rfl
  | @cons x entry xs custom first _ ih =>
    have named := first.defaultName?_eq
    cases known : defaults.has entry.1 with
    | true =>
      rw [known, if_pos rfl] at named
      rw [List.filterMap_cons_some named, List.filter_cons_of_pos (by simp [known]), List.map_cons, ih]
    | false =>
      rw [known, if_neg Bool.false_ne_true] at named
      rw [List.filterMap_cons_none named, List.filter_cons_of_neg (by simp [known]), ih]

section Build

variable {percentiles skip : Value} {items : List Value}

private theorem events_ofPercentiles (listed : percentiles.items? = some items) (near : ∀ raw ∈ items, raw.isConvertible) :
    (ofPercentiles percentiles).events = items.filterMap leftOut? := by
  rw [← events_addPercentiles near []]
  simp [ofPercentiles, itemsOf, listed, Logged.events_bind, Logged.ofExcept]

theorem events_build (skip : Value) (listed : percentiles.items? = some items)
    (near : ∀ raw ∈ items, raw.isConvertible) :
    (build percentiles skip).events = news skip.isTrue items := by
  obtain ⟨custom, given, made, unique⟩ := exists_ofPercentiles listed near
  unfold build news keptDefaults
  rw [Logged.events_bind, given, events_ofPercentiles listed near]
  dsimp only
  cases skip.isTrue with
  | true => rfl
  | false => rw [if_neg Bool.false_ne_true, if_neg Bool.false_ne_true, events_addCustom unique,
      filterMap_defaultName? made]

/-- Every value of a list is accounted for by the table and the events, at the place where it stands. -/
theorem accounted_build {table : Table} (listed : percentiles.items? = some items)
    (near : ∀ raw ∈ items, raw.isConvertible) (built : (build percentiles skip).result = .ok table)
    {before after : List Value} {raw : Value} (split : items = before ++ raw :: after) :
    Accounted (news skip.isTrue items) table before raw := by
  cases out : leftOut? raw with
  | some event =>
    have present : raw ∈ items := by simp [split]
    exact .leftOut event out (List.mem_append_left _ (List.mem_filterMap.mpr ⟨raw, present, out⟩))
  | none =>
    obtain ⟨x, found⟩ := Option.isSome_iff_exists.mp (leftOut?_eq_none_iff.mp out)
    cases seen : (asked before).any x.same with
    | true =>
      obtain ⟨y, among, same⟩ := List.any_eq_true.mp seen
      obtain ⟨earlier, present, found_earlier⟩ := List.mem_filterMap.mp among
      exact .repeated x found earlier present y found_earlier same
    | false =>
      have first : x ∈ (asked items).eraseDupsBy Number.same := by
        have new : ∀ y ∈ asked before, x.same y = false := by simpa using seen
        rw [split, asked, List.filterMap_append, List.filterMap_cons_some found]
        exact mem_eraseDupsBy_of_new _ new
      obtain ⟨entries, made, entered, -⟩ := exists_build skip listed near
      obtain rfl := Except.ok.inj (made.symm.trans built)
      cases own : skip.isTrue || !isDefault x with
      | true =>
        have wanted : x ∈ wanted skip.isTrue items := List.mem_filter.mpr ⟨first, own⟩
        obtain ⟨entry, present, made⟩ := exists_right_of_mem entered wanted
        exact .entered x found entry (List.mem_append_right _ present) made
      | false =>
        obtain ⟨all, default⟩ : skip.isTrue = false ∧ isDefault x = true := by simpa using own
        obtain ⟨name, known⟩ := Option.isSome_iff_exists.mp ((isSome_defaultName? x).trans default)
        refine .default x found name known (List.mem_append_right _ ?_)
        rw [keptDefaults, all, if_neg Bool.false_ne_true]
        exact List.mem_map_of_mem (List.mem_filterMap.mpr ⟨x, first, known⟩)

end Build

end SampledMetrics.Table
