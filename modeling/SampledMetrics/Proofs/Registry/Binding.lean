import SampledMetrics.Registry
/-!
Groups and bindings under texts.  A text is the same as itself and as no other value, so that a group
changes alone, and a further binding is found exactly when its name was not bound before.
-/

set_option autoImplicit false
set_option relaxedAutoImplicit false

namespace SampledMetrics

theorem Value.same_text_iff {key : Value} {n : String} : key.same (.text n) ↔ key = .text n := by
  cases key with
  | text a => simp [Value.same]
  | number x => rcases x with _ | _ | _ | _ <;> exact iff_of_false Bool.false_ne_true (by simp)
  | _ => exact iff_of_false Bool.false_ne_true (by simp)

@[simp] theorem checkKey_text (n : String) : checkKey (.text n) = .ok () := rfl

theorem checkKey_of_isKey {key : Value} (usable : key.isKey) : checkKey key = .ok () := by
  simp [checkKey, usable]

theorem checkKey_of_not_isKey {key : Value} (unusable : key.isKey = false) :
    checkKey key = .error (.notKey key.kindName) := by
  simp [checkKey, unusable]

namespace Registry

variable {r : Registry} {groups : List (Value × Bindings)} {change : Bindings → Bindings}

private theorem group?_changeGroup (g h : String) :
    group? ⟨changeGroup (.text g) change groups⟩ (.text h) =
      if h = g then some (change (metrics ⟨groups⟩ (.text g))) else group? ⟨groups⟩ (.text h) := by
  induction groups with
  | nil =>
    by_cases here : h = g
    · simp [changeGroup, group?, metrics, Value.same_text_iff, here]
    · simp [changeGroup, group?, Value.same_text_iff, here, Ne.symm here]
  | cons entry rest ih =>
    obtain ⟨key, bindings⟩ := entry
    simp only [group?, metrics] at ih ⊢
    by_cases found : key = .text g
    · subst found
      by_cases here : h = g
      · simp [changeGroup, Value.same_text_iff, here]
      · simp [changeGroup, Value.same_text_iff, here, Ne.symm here]
    · by_cases found' : key = .text h
      · have here : h ≠ g := fun same => found (same ▸ found')
        simp [changeGroup, Value.same_text_iff, found', here]
      · simpa [changeGroup, Value.same_text_iff, found, found'] using ih

private theorem metrics_bind (r : Registry) (g h : String) (name : Option Value) (metric : ObjectId) :
    (r.bind (.text g) name metric).metrics (.text h) =
      if h = g then r.metrics (.text g) ++ [(name, metric)] else r.metrics (.text h) := by
  rw [bind, metrics, group?_changeGroup]
  split <;> rfl

private theorem metrics_bind_self (r : Registry) (g : String) (name : Option Value) (metric : ObjectId) :
    (r.bind (.text g) name metric).metrics (.text g) = r.metrics (.text g) ++ [(name, metric)] := by
  rw [metrics_bind, if_pos rfl]

theorem metrics_bind_prefix (r : Registry) (g h : String) (name : Option Value) (metric : ObjectId) :
    r.metrics (.text h) <+: (r.bind (.text g) name metric).metrics (.text h) := by
  rw [metrics_bind]
  split
  · rename_i here
    rw [here]
    exact List.prefix_append _ _
  · exact List.prefix_refl _

theorem find?_of_prefix {r r' : Registry} {g : String} {name : Value} {metric : ObjectId}
    (longer : r.metrics (.text g) <+: r'.metrics (.text g))
    (found : r.find? (.text g) name = some metric) : r'.find? (.text g) name = some metric := by
  obtain ⟨more, appended⟩ := longer
  obtain ⟨binding, first, rfl⟩ := Option.map_eq_some_iff.mp found
  rw [find?, ← appended, List.find?_append, first]
  rfl

theorem find?_bind_self {g n : String} (unbound : r.find? (.text g) (.text n) = none)
    (metric : ObjectId) :
    (r.bind (.text g) (some (.text n)) metric).find? (.text g) (.text n) = some metric := by
  have absent := Option.map_eq_none_iff.mp unbound
  rw [find?, metrics_bind_self, List.find?_append, absent]
  simp [Value.same_text_iff]

private theorem withGroup_of_group? {r : Registry} {group : Value} (present : (r.group? group).isSome) :
    r.withGroup group = r := by
  obtain ⟨groups⟩ := r
  simp only [withGroup, mk.injEq]
  induction groups with
  | nil => simp [group?] at present
  | cons entry rest ih =>
    obtain ⟨key, bindings⟩ := entry
    cases found : key.same group with
    | true => simp [changeGroup, found]
    | false =>
      have present' : (group? ⟨rest⟩ group).isSome := by simpa [group?, found] using present
      simp [changeGroup, found, ih present']

theorem withGroup_of_mem {r : Registry} {g : String} (present : .text g ∈ r.groupNames) :
    r.withGroup (.text g) = r := by
  refine withGroup_of_group? ?_
  obtain ⟨entry, member, named⟩ := List.mem_map.mp present
  rw [group?, Option.isSome_map, List.find?_isSome]
  exact ⟨entry, member, Value.same_text_iff.mpr named⟩

theorem withGroup_of_find? {group name : Value} {metric : ObjectId} (found : r.find? group name = some metric) :
    r.withGroup group = r := by
  refine withGroup_of_group? ?_
  cases present : r.group? group with
  | some bindings => rfl
  | none => simp [find?, metrics, present] at found

theorem mem_groupNames_of_find? {g : String} {name : Value} {metric : ObjectId}
    (found : r.find? (.text g) name = some metric) : .text g ∈ r.groupNames := by
  obtain ⟨groups⟩ := r
  refine Classical.byContradiction fun absent => ?_
  have missing : group? ⟨groups⟩ (.text g) = none := by
    rw [group?, Option.map_eq_none_iff, List.find?_eq_none]
    intro entry member same
    rw [Value.same_text_iff] at same
    exact absent (same ▸ List.mem_map_of_mem member)
  simp [find?, metrics, missing] at found

theorem exists_group_of_mem_metrics {group : Value} {binding : Option Value × ObjectId}
    (present : binding ∈ r.metrics group) : ∃ entry ∈ r.groups, binding ∈ entry.2 := by
  unfold metrics group? at present
  cases found : r.groups.find? fun entry => entry.1.same group with
  | none => simp [found] at present
  | some entry => exact ⟨entry, List.mem_of_find?_eq_some found, by simpa [found] using present⟩

/-- A changed group has the metrics of an old group, if there is one, or of none, changed. -/
theorem mem_changeGroup {group : Value} {entry : Value × Bindings}
    (member : entry ∈ changeGroup group change groups) :
    entry ∈ groups ∨ ∃ old, entry.2 = change old ∧ (old = [] ∨ ∃ key, (key, old) ∈ groups) := by
  induction groups with
  | nil =>
    obtain rfl := List.mem_singleton.mp member
    exact .inr ⟨[], rfl, .inl rfl⟩
  | cons first rest ih =>
    obtain ⟨key, bindings⟩ := first
    unfold changeGroup at member
    split at member
    · rcases List.mem_cons.mp member with rfl | later
      · exact .inr ⟨bindings, rfl, .inr ⟨key, List.mem_cons_self⟩⟩
      · exact .inl (List.mem_cons_of_mem _ later)
    · rcases List.mem_cons.mp member with rfl | later
      · exact .inl List.mem_cons_self
      · rcases ih later with old | ⟨old, changed, nothing | ⟨key', within⟩⟩
        · exact .inl (List.mem_cons_of_mem _ old)
        · exact .inr ⟨old, changed, .inl nothing⟩
        · exact .inr ⟨old, changed, .inr ⟨key', List.mem_cons_of_mem _ within⟩⟩

end Registry

end SampledMetrics
