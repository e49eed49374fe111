import SampledMetrics.Proofs.Registry.Chronicle
import SampledMetrics.Proofs.Session.History
/-!
The bindings that a session makes, one after the other, also in the steps that are run in the course of
others.  Main statement: with texts for groups and names, the registry after a run holds these bindings and
no others, each in its place.
-/

set_option autoImplicit false
set_option relaxedAutoImplicit false

namespace SampledMetrics

namespace Registry

def entries (r : Registry) : List Binding :=
  r.groups.flatMap fun group => group.2.filterMap fun binding =>
    match group.1, binding.1 with
    | .text g, some (.text n) => some ⟨g, n, binding.2⟩
    | _, _ => none

/-- What is bound in the second registry under names that are not bound in the first. -/
def added (r r' : Registry) : List Binding :=
  r'.entries.filter fun b => (r.find? (.text b.group) (.text b.name)).isNone

/-- What is added from one registry to the next, in order. -/
def additions : Registry → List Registry → List Binding
  | _, [] => []
  | r, next :: later => r.added next ++ additions next later

private theorem entries_ofBindings (bs : List Binding) : (ofBindings bs).entries = Binding.arrange bs := by
  simp only [entries, ofBindings, List.flatMap_map, Binding.arrange]
  refine List.flatMap_congr fun g _ => ?_
  have same : ∀ b ∈ Binding.ofGroup bs g, (⟨g, b.name, b.metric⟩ : Binding) = b := by
    intro b present
    obtain rfl := of_decide_eq_true (List.mem_filter.mp present).2
    rfl
  rw [List.filterMap_map]
  simp only [Function.comp_def, Binding.entry, List.filterMap_eq_map', List.map_congr_left same, List.map_id']

namespace Chronicle

variable {bs : List Binding} {r : Registry}

private theorem added_ofBindings (chronicle : Chronicle bs r) (more : List Binding)
    (new : ∀ b ∈ more, b.key ∉ bs.map Binding.key) :
    (r.added (ofBindings (bs ++ more))).Perm more := by
  have old : bs.filter (fun b => (r.find? (.text b.group) (.text b.name)).isNone) = [] := by
    refine List.filter_eq_nil_iff.mpr fun b present unbound => ?_
    exact (chronicle.find?_eq_none_iff b.group b.name).mp (Option.isNone_iff_eq_none.mp unbound)
      (List.mem_map_of_mem present)
  have kept : more.filter (fun b => (r.find? (.text b.group) (.text b.name)).isNone) = more := by
    refine List.filter_eq_self.mpr fun b present => ?_
    exact Option.isNone_iff_eq_none.mpr ((chronicle.find?_eq_none_iff b.group b.name).mpr (new b present))
  have perm := (Binding.arrange_perm (bs ++ more)).filter
    fun b => (r.find? (.text b.group) (.text b.name)).isNone
  rwa [List.filter_append, old, kept, List.nil_append, ← entries_ofBindings] at perm

theorem added_self (chronicle : Chronicle bs r) : r.added r = [] := by
  have added := chronicle.added_ofBindings [] fun b present => by contradiction
  rw [List.append_nil, ← chronicle.registry] at added
  exact added.eq_nil

theorem added_bind (chronicle : Chronicle bs r) {g n : String} (unbound : r.find? (.text g) (.text n) = none)
    (id : ObjectId) : r.added (r.bind (.text g) (some (.text n)) id) = [⟨g, n, id⟩] := by
  have added := chronicle.added_ofBindings [⟨g, n, id⟩] fun b present => by
    obtain rfl := List.mem_singleton.mp present
    exact (chronicle.find?_eq_none_iff g n).mp unbound
  rw [← (chronicle.bind unbound id).registry] at added
  exact List.perm_singleton.mp added

end Chronicle

end Registry

namespace Session

/-- What is bound in the course of a run, in order. -/
def bindings (s : Session) (steps : List Step) : List Binding :=
  s.world.registry.additions ((s.turns steps).map fun t => t.after.world.registry)

/-- What is added from session to session continues a chronicle. -/
theorem Leads.chronicle {s s' : Session} {later : List Session} (leads : Leads s later s') {bs : List Binding}
    (chronicle : Registry.Chronicle bs s.world.registry) :
    Registry.Chronicle (bs ++ s.world.registry.additions (later.map fun m => m.world.registry))
      s'.world.registry := by
  induction later generalizing s bs with
  | nil =>
    obtain rfl : s = s' := leads
    rw [List.map_nil, Registry.additions, List.append_nil]
    exact chronicle
  | cons next later ih =>
    obtain ⟨⟨-, binds, -⟩, leads⟩ := leads
    rw [List.map_cons, Registry.additions, ← List.append_assoc]
    refine ih leads ?_
    rcases binds with same | ⟨g, n, id, unbound, bound, -⟩
    · rw [same, chronicle.added_self, List.append_nil]
      exact chronicle
    · rw [bound, chronicle.added_bind unbound]
      exact chronicle.bind unbound id

theorem chronicle_runAll (words : ObjectId → Nat → UInt64) (defaults : Defaults) (steps : List Step)
    (plain : ∀ t ∈ (start words defaults).turns steps, t.isPlain) :
    Registry.Chronicle ((start words defaults).bindings steps)
      (runAll (start words defaults) steps).2.world.registry := by
  have chronicle := (leads_turns _ steps plain).chronicle Registry.Chronicle.empty
  rw [List.map_map] at chronicle
  exact chronicle

end Session

end SampledMetrics
