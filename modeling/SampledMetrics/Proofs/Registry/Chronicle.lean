import Mathlib.Data.List.Induction
import Mathlib.Data.List.Nodup
import SampledMetrics.Proofs.Registry.Binding
/-!
Registries as what became of bindings that came one after the other.  Main statements: groups stand in the
order in which they first came, with their bindings in the order in which these came; under names that are
not bound before, what is found under a name is the binding that came with it.
-/

set_option autoImplicit false
set_option relaxedAutoImplicit false

namespace SampledMetrics

/-- A metric that is bound under texts. -/
structure Binding where
  group : String
  name : String
  metric : ObjectId
  deriving DecidableEq, Repr

namespace Binding

def key (b : Binding) : String × String :=
  (b.group, b.name)

def entry (b : Binding) : Option Value × ObjectId :=
  (some (.text b.name), b.metric)

/-- The groups of bindings, in the order in which they first came. -/
def groupOrder (bs : List Binding) : List String :=
  (bs.map group).eraseDups

/-- The bindings in a group, in the order in which they came. -/
def ofGroup (bs : List Binding) (g : String) : List Binding :=
  bs.filter (·.group = g)

def arrange (bs : List Binding) : List Binding :=
  (groupOrder bs).flatMap (ofGroup bs)

variable {bs : List Binding} {b : Binding} {g : String}

private theorem mem_groupOrder : g ∈ groupOrder bs ↔ ∃ b ∈ bs, b.group = g := by
  simp [groupOrder]

private theorem groupOrder_concat (bs : List Binding) (b : Binding) :
    groupOrder (bs ++ [b]) = if b.group ∈ groupOrder bs then groupOrder bs else groupOrder bs ++ [b.group] := by
  simp only [groupOrder, List.map_append, List.map_singleton, List.eraseDups_append, List.mem_eraseDups,
    List.removeAll, List.filter_singleton]
  by_cases present : b.group ∈ bs.map group
  · simp only [List.elem_eq_true_of_mem present, present, if_true]
    simp
  · simp [present, List.eraseDups_cons]

private theorem nodup_groupOrder (bs : List Binding) : (groupOrder bs).Nodup := by
  induction bs using List.reverseRecOn with
  | nil => exact List.nodup_nil
  | append_singleton bs b ih =>
    rw [groupOrder_concat]
    split
    · exact ih
    · rename_i absent
      exact List.nodup_append.mpr ⟨ih, List.pairwise_singleton _ _, by
        intro g present h single same
        exact absent (List.mem_singleton.mp single ▸ same ▸ present)⟩

private theorem ofGroup_concat (bs : List Binding) (b : Binding) (g : String) :
    ofGroup (bs ++ [b]) g = ofGroup bs g ++ if b.group = g then [b] else [] := by
  simp only [ofGroup, List.filter_append, List.filter_singleton]
  split <;> simp_all

private theorem ofGroup_eq_nil (absent : g ∉ groupOrder bs) : ofGroup bs g = [] :=
  List.filter_eq_nil_iff.mpr fun b present same =>
    absent (mem_groupOrder.mpr ⟨b, present, of_decide_eq_true same⟩)

private theorem perm_flatMap_filter {α κ : Type} [DecidableEq κ] (key : α → κ) {keys : List κ} (once : keys.Nodup)
    (values : List α) (covered : ∀ v ∈ values, key v ∈ keys) :
    (keys.flatMap fun k => values.filter (key · = k)).Perm values := by
  induction keys generalizing values with
  | nil =>
    have none : values = [] := List.eq_nil_iff_forall_not_mem.mpr fun v present => by
      simpa using covered v present
    subst none
    exact .nil
  | cons k keys ih =>
    obtain ⟨new, once⟩ := List.nodup_cons.mp once
    have others : (keys.flatMap fun k' => values.filter (key · = k')) =
        keys.flatMap fun k' => (values.filter (key · ≠ k)).filter (key · = k') := by
      refine List.flatMap_congr fun k' present => ?_
      rw [List.filter_filter]
      refine List.filter_congr fun v _ => ?_
      have different : k' ≠ k := fun same => new (same ▸ present)
      by_cases here : key v = k' <;> simp [here, different]
    rw [List.flatMap_cons, others]
    refine ((ih once _ ?_).append_left _).trans ?_
    · intro v present
      obtain ⟨present, other⟩ := List.mem_filter.mp present
      simpa [of_decide_eq_true other] using covered v present
    · simpa using List.filter_append_perm (fun v => decide (key v = k)) values

theorem arrange_perm (bs : List Binding) : (arrange bs).Perm bs :=
  perm_flatMap_filter group (nodup_groupOrder bs) bs fun b present => mem_groupOrder.mpr ⟨b, present, rfl⟩

end Binding

namespace Registry

open Binding

/-- The registry in which metrics were bound one after the other. -/
def ofBindings (bs : List Binding) : Registry :=
  ⟨(groupOrder bs).map fun g => (.text g, (ofGroup bs g).map entry)⟩

private theorem changeGroup_of_mem {g : String} {change : Bindings → Bindings} {names : List String}
    (once : names.Nodup) (present : g ∈ names) (content : String → Bindings) :
    changeGroup (.text g) change (names.map fun h => (.text h, content h)) =
      names.map fun h => (.text h, if h = g then change (content h) else content h) := by
  induction names with
  | nil => contradiction
  | cons h names ih =>
    obtain ⟨new, once⟩ := List.nodup_cons.mp once
    rw [List.map_cons, List.map_cons, changeGroup]
    by_cases here : h = g
    · subst here
      rw [if_pos (Value.same_text_iff.mpr rfl), if_pos rfl]
      congr 1
      refine List.map_congr_left fun h' later => ?_
      have different : h' ≠ h := fun same => new (same ▸ later)
      rw [if_neg different]
    · have elsewhere : g ∈ names := (List.mem_cons.mp present).resolve_left (Ne.symm here)
      rw [if_neg (by simpa [Value.same_text_iff] using here), if_neg here, ih once elsewhere]

private theorem changeGroup_of_not_mem {g : String} {change : Bindings → Bindings} {names : List String}
    (absent : g ∉ names) (content : String → Bindings) :
    changeGroup (.text g) change (names.map fun h => (.text h, content h)) =
      (names.map fun h => (.text h, content h)) ++ [(.text g, change [])] := by
  induction names with
  | nil => rfl
  | cons h names ih =>
    obtain ⟨here, later⟩ := not_or.mp fun present => absent (List.mem_cons.mpr present)
    rw [List.map_cons, changeGroup, if_neg (by simpa [Value.same_text_iff] using Ne.symm here), ih later]
    rfl

private theorem bind_ofBindings (bs : List Binding) (b : Binding) :
    (ofBindings bs).bind (.text b.group) (some (.text b.name)) b.metric = ofBindings (bs ++ [b]) := by
  simp only [ofBindings, bind, mk.injEq, groupOrder_concat]
  split
  · rename_i present
    rw [changeGroup_of_mem (nodup_groupOrder bs) present]
    refine List.map_congr_left fun h _ => ?_
    by_cases here : b.group = h
    · simp [ofGroup_concat, here, entry]
    · simp [ofGroup_concat, here, Ne.symm here]
  · rename_i absent
    rw [changeGroup_of_not_mem absent, List.map_append, List.map_singleton, ofGroup_concat, if_pos rfl,
      ofGroup_eq_nil absent]
    congr 1
    refine List.map_congr_left fun h present => ?_
    have elsewhere : b.group ≠ h := fun same => absent (same ▸ present)
    rw [ofGroup_concat, if_neg elsewhere, List.append_nil]

private theorem metrics_ofBindings (bs : List Binding) (g : String) :
    (ofBindings bs).metrics (.text g) = (ofGroup bs g).map entry := by
  have found : ∀ names : List String,
      ((names.map fun h => (Value.text h, (ofGroup bs h).map entry)).find? fun entry => entry.1.same (.text g)) =
        if g ∈ names then some (.text g, (ofGroup bs g).map entry) else none := by
    intro names
    induction names with
    | nil => rfl
    | cons h names ih =>
      by_cases here : h = g
      · simp [Value.same_text_iff, here]
      · simp [Value.same_text_iff, here, Ne.symm here, ih]
  rw [metrics, group?, ofBindings, found]
  split
  · rfl
  · rename_i absent
    rw [ofGroup_eq_nil absent]
    rfl

private theorem all_ofBindings (bs : List Binding) : (ofBindings bs).all = (arrange bs).map metric := by
  simp only [all, ofBindings, arrange, List.flatMap_map, List.map_flatMap, List.map_map]
  rfl

private theorem find?_ofBindings (bs : List Binding) (g n : String) :
    (ofBindings bs).find? (.text g) (.text n) = (bs.find? (·.key = (g, n))).map metric := by
  have looked : ∀ b : Binding, (decide (b.group = g) = true ∧ (entry b).1.any (·.same (.text n)) = true) ↔
      b.key = (g, n) := by
    intro b
    simp [entry, key, Value.same_text_iff]
  rw [find?, metrics_ofBindings, List.find?_map, Option.map_map, ofGroup, List.find?_filter]
  simp only [Function.comp_def, looked]
  rfl

/-- A registry that holds bindings in the order in which they came, of which no two are under one name in
one group. -/
structure Chronicle (bs : List Binding) (r : Registry) : Prop where
  registry : r = ofBindings bs
  once : (bs.map key).Nodup

namespace Chronicle

variable {bs : List Binding} {r : Registry}

theorem empty : Chronicle [] .empty :=
  ⟨rfl, List.nodup_nil⟩

/-- What is found under a name is the metric that came with it. -/
theorem find?_eq_some_iff (chronicle : Chronicle bs r) (g n : String) (id : ObjectId) :
    r.find? (.text g) (.text n) = some id ↔ ⟨g, n, id⟩ ∈ bs := by
  rw [chronicle.registry, find?_ofBindings, Option.map_eq_some_iff]
  constructor
  · rintro ⟨b, first, rfl⟩
    have same := List.find?_some first
    obtain ⟨rfl, rfl⟩ := Prod.mk.inj (of_decide_eq_true same)
    exact List.mem_of_find?_eq_some first
  · intro present
    cases first : bs.find? (·.key = (g, n)) with
    | none => exact absurd (decide_eq_true rfl) (List.find?_eq_none.mp first _ present)
    | some b =>
      have same := List.find?_some first
      have equal := List.inj_on_of_nodup_map chronicle.once (List.mem_of_find?_eq_some first) present
        (of_decide_eq_true same)
      exact ⟨b, rfl, congrArg metric equal⟩

theorem find?_eq_none_iff (chronicle : Chronicle bs r) (g n : String) :
    r.find? (.text g) (.text n) = none ↔ (g, n) ∉ bs.map key := by
  rw [chronicle.registry, find?_ofBindings, Option.map_eq_none_iff, List.find?_eq_none, List.mem_map]
  simp only [decide_eq_true_eq, not_exists, not_and]

theorem bind (chronicle : Chronicle bs r) {g n : String} (unbound : r.find? (.text g) (.text n) = none)
    (id : ObjectId) : Chronicle (bs ++ [⟨g, n, id⟩]) (r.bind (.text g) (some (.text n)) id) where
  registry := by
    rw [chronicle.registry]
    exact bind_ofBindings bs ⟨g, n, id⟩
  once := by
    have new := (chronicle.find?_eq_none_iff g n).mp unbound
    rw [List.map_append, List.nodup_append]
    refine ⟨chronicle.once, List.pairwise_singleton _ _, ?_⟩
    rintro key present other single rfl
    rw [List.map_singleton, List.mem_singleton] at single
    rw [single] at present
    exact new present

theorem all (chronicle : Chronicle bs r) : r.all = (arrange bs).map metric := by
  rw [chronicle.registry, all_ofBindings]

end Chronicle

end Registry

end SampledMetrics
