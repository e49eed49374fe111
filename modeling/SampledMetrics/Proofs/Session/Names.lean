import SampledMetrics.Session
/-!
The names of a session: what naming changes, and what a name stands for.
-/

set_option autoImplicit false
set_option relaxedAutoImplicit false

namespace SampledMetrics.Session

@[simp] theorem world_nameIf (s : Session) (as : Option String) (id : ObjectId) :
    (s.nameIf as id).world = s.world := by
  cases as <;> rfl

@[simp] theorem defaults_nameIf (s : Session) (as : Option String) (id : ObjectId) :
    (s.nameIf as id).defaults = s.defaults := by
  cases as <;> rfl

theorem lookup_putEntry {α : Type} (key : String) (value : α) (entries : List (String × α)) :
    (Value.putEntry key value entries).lookup key = some value := by
  induction entries with
  | nil => simp [Value.putEntry]
  | cons entry rest ih =>
    obtain ⟨k, v⟩ := entry
    unfold Value.putEntry
    split
    · rename_i same
      simp [same]
    · rename_i other
      rw [List.lookup_cons, beq_false_of_ne (Ne.symm other), ih]

theorem lookup_putEntry_of_ne {α : Type} {key other : String} (different : other ≠ key) (value : α)
    (entries : List (String × α)) :
    (Value.putEntry key value entries).lookup other = entries.lookup other := by
  induction entries with
  | nil => simp [Value.putEntry, List.lookup_cons, beq_false_of_ne different]
  | cons entry rest ih =>
    obtain ⟨k, v⟩ := entry
    unfold Value.putEntry
    split
    · rename_i same
      subst same
      simp [List.lookup_cons, beq_false_of_ne different]
    · simp [List.lookup_cons, ih]

theorem mem_putEntry {α : Type} {key : String} {value : α} {entries : List (String × α)}
    {entry : String × α} (member : entry ∈ Value.putEntry key value entries) :
    entry ∈ entries ∨ entry = (key, value) := by
  induction entries with
  | nil => exact .inr (List.mem_singleton.mp member)
  | cons first rest ih =>
    obtain ⟨k, v⟩ := first
    unfold Value.putEntry at member
    split at member
    · rename_i same
      rcases List.mem_cons.mp member with rfl | later
      · exact .inr (by rw [same])
      · exact .inl (List.mem_cons_of_mem _ later)
    · rcases List.mem_cons.mp member with rfl | later
      · exact .inl List.mem_cons_self
      · exact (ih later).imp_left (List.mem_cons_of_mem _)

theorem mem_of_lookup {names : List (String × ObjectId)} {label : String} {id : ObjectId}
    (found : names.lookup label = some id) : ∃ entry ∈ names, entry.2 = id := by
  obtain ⟨before, after, rfl, -⟩ := List.lookup_eq_some_iff.mp found
  exact ⟨(label, id), by simp, rfl⟩

theorem place_eq_ok_iff {s : Session} {on : String} {id : ObjectId} :
    s.place on = .ok id ↔ s.names.lookup on = some id := by
  unfold place
  cases s.names.lookup on <;> simp

end SampledMetrics.Session
