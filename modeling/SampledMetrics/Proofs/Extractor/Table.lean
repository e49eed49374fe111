import SampledMetrics.Extractor.Table
import SampledMetrics.Proofs.Snapshot.Definedness
/-!
What stands in a table.  Whatever is asked for, every percentile of a table that is built is a binary64
number between 0 and 100.
-/

set_option autoImplicit false
set_option relaxedAutoImplicit false

namespace SampledMetrics.Table

/-- Every extractor of the table is checked. -/
def Checked (table : Table) : Prop :=
  ∀ entry ∈ table, entry.2.IsChecked

variable {table built : Table}

theorem Checked.append {other : Table} (checked : table.Checked) (others : other.Checked) :
    Checked (table ++ other) := by
  intro entry present
  rcases List.mem_append.mp present with left | right
  · exact checked entry left
  · exact others entry right

private theorem checked_percentileEntry {p : Binary64} {entry : String × Extractor}
    (valid : Percentile.isValid (.float p)) (made : percentileEntry p = .ok entry) :
    entry.2.IsChecked := by
  obtain ⟨name, -, paired⟩ := Failure.bind_eq_ok_iff.mp made
  obtain rfl := Except.ok.inj paired
  exact ⟨p, rfl, valid⟩

theorem Checked.putNew {name : String} {extractor : Extractor} (checked : table.Checked)
    (valid : extractor.IsChecked) : (table.putNew name extractor).Checked := by
  unfold Table.putNew
  split
  · exact checked
  · refine checked.append ?_
    intro entry present
    obtain rfl := List.mem_singleton.mp present
    exact valid

private theorem valid_defaultTenths :
    ∀ tenths ∈ defaultTenths, Percentile.isValid (.float (Binary64.ofRatio false tenths 10)) := by
  decide +kernel

private theorem checked_defaults : defaults.Checked := by
  refine Checked.append ?_ ?_
  · intro entry present
    simp only [List.mem_cons, List.not_mem_nil, or_false] at present
    rcases present with rfl | rfl | rfl | rfl <;> trivial
  · intro entry present
    obtain ⟨tenths, default, made⟩ := List.mem_filterMap.mp present
    cases entered : percentileEntry (Binary64.ofRatio false tenths 10) with
    | error failure =>
      rw [entered] at made
      exact (Option.some_ne_none entry made.symm).elim
    | ok other =>
      rw [entered] at made
      obtain rfl := Option.some.inj made
      exact checked_percentileEntry (valid_defaultTenths tenths default) entered

private theorem valid_of_screen {raw : Value} {p : Binary64} (kept : screen raw = .keep p) :
    Percentile.isValid (.float p) := by
  unfold screen at kept
  split at kept
  · contradiction
  · split at kept
    · contradiction
    · split at kept
      · rename_i valid
        obtain rfl := Screening.keep.inj kept
        exact valid
      · contradiction

theorem Checked.addPercentiles {raws : List Value} (checked : table.Checked)
    (added : (Table.addPercentiles raws table).result = .ok built) : built.Checked := by
  induction raws generalizing table with
  | nil =>
    obtain rfl := Except.ok.inj added
    exact checked
  | cons raw rest ih =>
    unfold Table.addPercentiles at added
    split at added
    · contradiction
    · exact ih checked added
    · rename_i p kept
      obtain ⟨entry, entered, added⟩ := Logged.result_bind_eq_ok_iff.mp added
      exact ih (checked.putNew (checked_percentileEntry (valid_of_screen kept) entered)) added

theorem Checked.addCustom {custom : Table} (checked : table.Checked) (customs : custom.Checked)
    (added : (Table.addCustom custom table).result = .ok built) : built.Checked := by
  induction custom generalizing table with
  | nil =>
    obtain rfl := Except.ok.inj added
    exact checked
  | cons entry rest ih =>
    obtain ⟨name, extractor⟩ := entry
    have customs_rest : Checked rest := fun other present =>
      customs other (List.mem_cons_of_mem _ present)
    unfold Table.addCustom at added
    split at added
    · exact ih checked customs_rest added
    · refine ih (checked.append ?_) customs_rest added
      intro other present
      obtain rfl := List.mem_singleton.mp present
      exact customs _ List.mem_cons_self

private theorem checked_of_ofPercentiles {percentiles : Value}
    (listed : (ofPercentiles percentiles).result = .ok built) : built.Checked := by
  obtain ⟨raws, -, added⟩ := Logged.result_bind_eq_ok_iff.mp listed
  have empty : Checked [] := fun entry present => absurd present List.not_mem_nil
  exact empty.addPercentiles added

/-- Every table that is built is checked. -/
theorem checked_of_build {percentiles skipDefaults : Value}
    (made : (Table.build percentiles skipDefaults).result = .ok built) : built.Checked := by
  obtain ⟨custom, listed, finished⟩ := Logged.result_bind_eq_ok_iff.mp made
  have customs := checked_of_ofPercentiles listed
  split at finished
  · obtain rfl := Except.ok.inj finished
    exact customs
  · exact checked_defaults.addCustom customs finished

end SampledMetrics.Table
