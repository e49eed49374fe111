import SampledMetrics.Extractor.Table
import SampledMetrics.Proofs.Number
/-!
Which of the percentiles asked for come into a table.  Main statement: a list of any values gives a table
exactly when it has no integer beyond binary64, and the table is empty exactly when none of the values
is a number from 0 to 100.
-/

set_option autoImplicit false
set_option relaxedAutoImplicit false

namespace SampledMetrics

open Binary64 (unitsPerOne roundSigned)

/-- A number from 0 to 100, compared exactly. -/
def Value.isPercentile (v : Value) : Bool :=
  (v.number?.map Percentile.isValid).getD false

def Value.isConvertible (v : Value) : Bool :=
  (v.number?.map Number.inRange).getD true

namespace Percentile

theorem isValid_iff_of_place? {x : Number} {units : Int} (place : x.place? = some (.whole units)) :
    isValid x ↔ 0 ≤ units ∧ units ≤ 100 * unitsPerOne := by
  have zero : (Number.int 0).place? = some (.whole (0 * unitsPerOne)) := rfl
  have hundred : (Number.int 100).place? = some (.whole (100 * unitsPerOne)) := rfl
  simp only [isValid, Number.le, place, zero, hundred, Place.before, Bool.and_eq_true,
    Bool.not_eq_true', decide_eq_false_iff_not, Int.not_lt, Int.zero_mul]

private theorem roundSigned_whole {whole : Int} (few : whole.natAbs ≤ Nat.pow 2 53) :
    roundSigned (whole * unitsPerOne) 1 = whole * unitsPerOne :=
  Binary64.roundSigned_one (Binary64.onGrid_of_natAbs_le few)

private theorem rounded_mono {whole whole' : Int} (le : whole ≤ whole') :
    roundSigned (whole * unitsPerOne) 1 ≤ roundSigned (whole' * unitsPerOne) 1 :=
  Binary64.roundSigned_mono Nat.one_pos
    (Int.mul_le_mul_of_nonneg_right le (Int.natCast_nonneg unitsPerOne))

private theorem rounded_in_range_iff (value : Int) :
    (0 ≤ roundSigned (value * unitsPerOne) 1
        ∧ roundSigned (value * unitsPerOne) 1 ≤ 100 * unitsPerOne)
      ↔ 0 ≤ value * unitsPerOne ∧ value * unitsPerOne ≤ 100 * unitsPerOne := by
  have positive : (0 : Int) < unitsPerOne := Int.natCast_pos.mpr Binary64.unitsPerOne_pos
  rcases Int.lt_or_le value 0 with below | above
  · have rounded := rounded_mono (by omega : value ≤ -1)
    rw [roundSigned_whole (by decide : (-1 : Int).natAbs ≤ Nat.pow 2 53)] at rounded
    have exact := Int.mul_neg_of_neg_of_pos below positive
    omega
  · rcases Int.lt_or_le 100 value with beyond | inside
    · have rounded := rounded_mono (by omega : 101 ≤ value)
      rw [roundSigned_whole (by decide : (101 : Int).natAbs ≤ Nat.pow 2 53)] at rounded
      have exact := Int.mul_lt_mul_of_pos_right beyond positive
      omega
    · have few : value.natAbs ≤ 100 := by omega
      rw [roundSigned_whole (Nat.le_trans few (by decide))]

/-- A number may be converted to binary64 before it is judged. -/
theorem isValid_of_toBinary64? {x : Number} {p : Binary64} (converted : x.toBinary64? = some p) :
    isValid (.float p) = isValid x := by
  cases x with
  | float value =>
    obtain rfl := Option.some.inj converted
    rfl
  | int value =>
    rw [Number.toBinary64?_int] at converted
    split at converted
    · rename_i finite
      obtain rfl := Option.some.inj converted
      have place : (Number.float (Binary64.ofInt value)).place?
          = some (.whole (roundSigned (value * unitsPerOne) 1)) := by
        rw [Number.place?, Binary64.place?_ofInt finite]
      have place' : (Number.int value).place? = some (.whole (value * unitsPerOne)) := by
        rw [Number.place?]
      rw [Bool.eq_iff_iff, isValid_iff_of_place? place, isValid_iff_of_place? place']
      exact rounded_in_range_iff value
    · simp at converted

private theorem exists_name {p : Binary64} (valid : isValid (.float p)) : ∃ text, name p = .ok text := by
  cases p with
  | nan =>
    have invalid : isValid (.float .nan) = false := rfl
    rw [invalid] at valid
    contradiction
  | infinity negative =>
    have invalid : isValid (.float (.infinity negative)) = false := by cases negative <;> rfl
    rw [invalid] at valid
    contradiction
  | finite negative magnitude =>
    unfold name
    dsimp only [Binary64.truncate?, Binary64.fixedPoint?]
    split <;> exact ⟨_, rfl⟩

end Percentile

namespace Table

private theorem screen_of_not_convertible {raw : Value} (far : raw.isConvertible = false) :
    screen raw = .fail .integerTooLarge := by
  unfold Value.isConvertible at far
  unfold screen
  cases number : raw.number? with
  | none => simp [number] at far
  | some x =>
    have none : x.toBinary64? = none := by
      rw [← Option.not_isSome_iff_eq_none, Number.isSome_toBinary64?]
      simpa [number] using far
    simp [none]

theorem screen_of_convertible {raw : Value} (near : raw.isConvertible) :
    (∃ p, screen raw = .keep p ∧ Percentile.isValid (.float p) ∧ raw.isPercentile) ∨
      ∃ event, screen raw = .drop event ∧ raw.isPercentile = false := by
  unfold Value.isConvertible at near
  unfold screen Value.isPercentile
  cases number : raw.number? with
  | none => exact .inr ⟨_, rfl, rfl⟩
  | some x =>
    have range : x.toBinary64?.isSome := by
      rw [Number.isSome_toBinary64?]
      simpa [number] using near
    obtain ⟨p, converted⟩ := Option.isSome_iff_exists.mp range
    have judged := Percentile.isValid_of_toBinary64? converted
    simp only [converted, Option.map_some, Option.getD_some]
    cases valid : Percentile.isValid (.float p) with
    | true => exact .inl ⟨p, by simp, valid, judged.symm.trans valid⟩
    | false => exact .inr ⟨_, by simp; rfl, judged.symm.trans valid⟩

private theorem putNew_ne_nil (table : Table) (name : String) (extractor : Extractor) :
    table.putNew name extractor ≠ [] := by
  unfold putNew
  split
  · rename_i present
    rintro rfl
    simp [has] at present
  · simp

theorem percentileEntry_of_name {p : Binary64} {text : String} (named : Percentile.name p = .ok text) :
    percentileEntry p = .ok (text, .percentile (.float p)) := by
  simp [percentileEntry, named, bind, Except.bind, pure, Except.pure]

theorem addPercentiles_keep {raw : Value} {p : Binary64} {text : String} (rest : List Value)
    (table : Table) (kept : screen raw = .keep p) (named : Percentile.name p = .ok text) :
    addPercentiles (raw :: rest) table = addPercentiles rest (table.putNew text (.percentile (.float p))) := by
  rw [addPercentiles]
  simp only [kept, percentileEntry_of_name named]
  rfl

theorem addPercentiles_drop {raw : Value} {event : Event} (rest : List Value) (table : Table)
    (dropped : screen raw = .drop event) :
    (addPercentiles (raw :: rest) table).result = (addPercentiles rest table).result := by
  rw [addPercentiles]
  simp [dropped, Logged.result_bind, Logged.tell, Except.bind]

private theorem addPercentiles_of_convertible {raws : List Value} (near : ∀ raw ∈ raws, raw.isConvertible)
    (table : Table) :
    ∃ built, (addPercentiles raws table).result = .ok built ∧
      (built = [] ↔ table = [] ∧ ∀ raw ∈ raws, raw.isPercentile = false) := by
  induction raws generalizing table with
  | nil => exact ⟨table, rfl, by simp⟩
  | cons raw rest ih =>
    obtain ⟨near_raw, near_rest⟩ := List.forall_mem_cons.mp near
    rcases screen_of_convertible near_raw with ⟨p, kept, valid, wanted⟩ | ⟨event, dropped, unwanted⟩
    · obtain ⟨text, named⟩ := Percentile.exists_name valid
      have nonempty := putNew_ne_nil table text (.percentile (.float p))
      obtain ⟨built, added, empty_iff⟩ := ih near_rest (table.putNew text (.percentile (.float p)))
      refine ⟨built, (congrArg Logged.result (addPercentiles_keep rest table kept named)).trans added, ?_⟩
      simp [empty_iff, nonempty, wanted]
    · obtain ⟨built, added, empty_iff⟩ := ih near_rest table
      refine ⟨built, (addPercentiles_drop rest table dropped).trans added, ?_⟩
      simp [empty_iff, unwanted]

private theorem addPercentiles_of_not_convertible {raws : List Value}
    (far : ∃ raw ∈ raws, raw.isConvertible = false) (table : Table) :
    (addPercentiles raws table).result = .error .integerTooLarge := by
  induction raws generalizing table with
  | nil => simp at far
  | cons raw rest ih =>
    cases near : raw.isConvertible with
    | false =>
      rw [addPercentiles]
      simp [screen_of_not_convertible near]
    | true =>
      have far_rest : ∃ raw ∈ rest, raw.isConvertible = false := by
        simpa [near] using far
      rcases screen_of_convertible near with ⟨p, kept, valid, -⟩ | ⟨event, dropped, -⟩
      · obtain ⟨text, named⟩ := Percentile.exists_name valid
        exact (congrArg Logged.result (addPercentiles_keep rest table kept named)).trans (ih far_rest _)
      · exact (addPercentiles_drop rest table dropped).trans (ih far_rest table)

private theorem exists_addCustom (custom table : Table) :
    ∃ built, (addCustom custom table).result = .ok built := by
  induction custom generalizing table with
  | nil => exact ⟨table, rfl⟩
  | cons entry rest ih =>
    obtain ⟨name, extractor⟩ := entry
    unfold addCustom
    split
    · obtain ⟨built, added⟩ := ih table
      exact ⟨built, by simp [Logged.result_bind, Logged.tell, Except.bind, added]⟩
    · exact ih _

section Build

variable {percentiles : Value} {items : List Value}

theorem result_ofPercentiles (listed : percentiles.items? = some items) :
    (ofPercentiles percentiles).result = (addPercentiles items []).result := by
  simp [ofPercentiles, itemsOf, listed, Logged.result_bind, Except.bind]

theorem build_of_convertible (skipDefaults : Value) (listed : percentiles.items? = some items)
    (near : ∀ raw ∈ items, raw.isConvertible) :
    ∃ table, (build percentiles skipDefaults).result = .ok table ∧
      (skipDefaults.isTrue → (table = [] ↔ ∀ raw ∈ items, raw.isPercentile = false)) := by
  obtain ⟨custom, added, empty_iff⟩ := addPercentiles_of_convertible near []
  have given : (ofPercentiles percentiles).result = .ok custom :=
    (result_ofPercentiles listed).trans added
  cases skip : skipDefaults.isTrue with
  | true =>
    refine ⟨custom, ?_, fun _ => by simpa using empty_iff⟩
    simp [build, Logged.result_bind, given, skip, Except.bind]
  | false =>
    obtain ⟨table, finished⟩ := exists_addCustom custom defaults
    refine ⟨table, ?_, fun impossible => by contradiction⟩
    simp [build, Logged.result_bind, given, skip, Except.bind, finished]

theorem build_of_not_convertible (skipDefaults : Value) (listed : percentiles.items? = some items)
    (far : ∃ raw ∈ items, raw.isConvertible = false) :
    (build percentiles skipDefaults).result = .error .integerTooLarge := by
  have refused := (result_ofPercentiles listed).trans (addPercentiles_of_not_convertible far [])
  simp [build, Logged.result_bind, refused, Except.bind]

end Build

end Table

end SampledMetrics
