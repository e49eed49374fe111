import Mathlib.Data.List.Induction
import Mathlib.Data.List.Nodup
import Mathlib.Data.List.Perm.Subperm
import Mathlib.Data.Set.Function
import Mathlib.Logic.Function.Basic
import Mathlib.Order.Bounds.Basic
import SampledMetrics.Reservoir
/-!
A uniform sample over a whole run of observations.  After the filling every observation taken costs
one draw, and a slot holds the last arrival whose draw was the slot, or the arrival of its own number
if there is none.  The draws may come from any source; main statement: `Account` is kept by every
observation that is taken, and so by every run.
-/

set_option autoImplicit false
set_option relaxedAutoImplicit false

namespace SampledMetrics

variable {σ α : Type}

/-- The draws of a source below `bound`, `bound + 1` and so on, as many as asked for, and what is left
of the source. -/
def drawAll (draw : σ → Nat → Option (Nat × σ)) (bound : Nat) (start : σ) :
    Nat → Option (List Nat × σ)
  | 0 => some ([], start)
  | count + 1 =>
      (drawAll draw bound start count).bind fun drawn =>
        (draw drawn.2 (bound + count)).map fun next => (drawn.1 ++ [next.1], next.2)

private theorem drawAll_succ {draw : σ → Nat → Option (Nat × σ)} {bound count index : Nat}
    {start middle last : σ} {draws : List Nat}
    (drawn : drawAll draw bound start count = some (draws, middle))
    (next : draw middle (bound + count) = some (index, last)) :
    drawAll draw bound start (count + 1) = some (draws ++ [index], last) := by
  simp [drawAll, drawn, next]

theorem length_of_drawAll {draw : σ → Nat → Option (Nat × σ)} {bound count : Nat}
    {start last : σ} {draws : List Nat}
    (drawn : drawAll draw bound start count = some (draws, last)) : draws.length = count := by
  induction count generalizing draws last with
  | zero =>
    have nothing : [] = draws ∧ start = last := by simpa [drawAll] using drawn
    simp [← nothing.1]
  | succ count ih =>
    simp only [drawAll, Option.bind_eq_some_iff, Option.map_eq_some_iff] at drawn
    obtain ⟨⟨before, middle⟩, earlier, ⟨index, after⟩, _, same⟩ := drawn
    have length := ih earlier
    simp only [Prod.mk.injEq] at same
    simp [← same.1, length]

/-- A source of draws that also notes each bound it is asked for, with the index it answers. -/
def noting (draw : σ → Nat → Option (Nat × σ)) (source : σ × List (Nat × Nat)) (bound : Nat) :
    Option (Nat × σ × List (Nat × Nat)) :=
  (draw source.1 bound).map fun drawn => (drawn.1, drawn.2, source.2 ++ [(bound, drawn.1)])

theorem drawAll_noting {draw : σ → Nat → Option (Nat × σ)} {bound count : Nat} {start last : σ}
    {notes : List (Nat × Nat)} {draws : List Nat}
    (drawn : drawAll (noting draw) bound (start, []) count = some (draws, last, notes)) :
    drawAll draw bound start count = some (draws, last) ∧
      notes = (List.range' bound count).zip draws := by
  induction count generalizing last notes draws with
  | zero =>
    obtain ⟨rfl, rfl, rfl⟩ : [] = draws ∧ start = last ∧ [] = notes := by
      simpa [drawAll] using drawn
    simp [drawAll]
  | succ count ih =>
    simp only [drawAll, Option.bind_eq_some_iff, Option.map_eq_some_iff] at drawn
    obtain ⟨⟨before, middle, earlier⟩, first, ⟨index, after, later⟩, next, same⟩ := drawn
    obtain ⟨plain, rfl⟩ := ih first
    simp only [noting, Option.map_eq_some_iff, Prod.mk.injEq] at next same
    obtain ⟨⟨found, rest⟩, answer, rfl, rfl, rfl⟩ := next
    obtain ⟨rfl, rfl, rfl⟩ := same
    refine ⟨drawAll_succ plain answer, ?_⟩
    have length := length_of_drawAll plain
    rw [List.range'_concat, List.zip_append (by simp [length]), Nat.one_mul]
    rfl

private theorem eq_filterMap_range {values : List α} {count : Nat} {slot : Nat → Option α}
    (length : values.length = count) (slots : ∀ i < count, values[i]? = slot i) :
    values = (List.range count).filterMap slot := by
  have same : values.map some = (List.range count).map slot := by
    refine List.ext_getElem? fun i => ?_
    simp only [List.getElem?_map]
    by_cases inside : i < count
    · have present : i < values.length := length ▸ inside
      rw [List.getElem?_range inside, Option.map_some, ← slots i inside,
        List.getElem?_eq_getElem present]
      rfl
    · rw [List.getElem?_eq_none (by omega), List.getElem?_eq_none (by simpa using inside)]
      rfl
  have unwrapped := congrArg (List.filterMap id) same
  simpa [List.filterMap_map, Function.comp_def] using unwrapped

private theorem isSome_drawAll_of_le {draw : σ → Nat → Option (Nat × σ)} {bound count more : Nat} {start : σ}
    (fewer : count ≤ more) (drawn : (drawAll draw bound start more).isSome) :
    (drawAll draw bound start count).isSome := by
  induction more, fewer using Nat.le_induction with
  | base => exact drawn
  | succ more _ ih =>
    refine ih ?_
    simp only [drawAll, Option.isSome_bind, Option.any_eq_true] at drawn
    obtain ⟨found, present, _⟩ := drawn
    exact Option.isSome_of_mem present

namespace UniformSample

/-- Which arrival each slot holds when observation `capacity` is the first that draws: the last one
whose draw was the slot, or at first the one of the slot's own number. -/
def origin (capacity : Nat) (draws : List Nat) : Nat → Nat :=
  (draws.zipIdx capacity).foldl (fun arrival write => Function.update arrival write.1 write.2) id

@[simp] theorem origin_nil (capacity slot : Nat) : origin capacity [] slot = slot := rfl

theorem origin_append (capacity : Nat) (draws : List Nat) (index slot : Nat) :
    origin capacity (draws ++ [index]) slot =
      if slot = index then capacity + draws.length else origin capacity draws slot := by
  simp [origin, List.zipIdx_append, Function.update_apply]

/-- The arrivals in the slots after so many observations. -/
def held (capacity : Nat) (draws : List Nat) (count : Nat) : List Nat :=
  (List.range (min count capacity)).map (origin capacity draws)

/-- The arrival in a slot is the last writer of the slot, or the one that filled it. -/
def LastWriter (capacity : Nat) (draws : List Nat) (slot arrival : Nat) : Prop :=
  IsGreatest {k | capacity ≤ k ∧ draws[k - capacity]? = some slot} arrival ∨
    (∀ k, capacity ≤ k → draws[k - capacity]? ≠ some slot) ∧ arrival = slot

private theorem getElem?_append_of_ne {draws : List Nat} {index slot : Nat} (other : slot ≠ index)
    (k : Nat) : (draws ++ [index])[k]? = some slot ↔ draws[k]? = some slot := by
  rw [List.getElem?_append]
  split
  · rfl
  · rename_i beyond
    have none_before : draws[k]? = none := List.getElem?_eq_none (by omega)
    rw [none_before]
    constructor
    · intro found
      have same : index = slot := List.mem_singleton.mp (List.mem_of_getElem? found) |>.symm
      exact absurd same.symm other
    · intro impossible
      contradiction

theorem lastWriter_origin {capacity slot : Nat} (draws : List Nat) :
    LastWriter capacity draws slot (origin capacity draws slot) := by
  -- from the last draw backward: it is the greatest writer of its slot, and of no other
  induction draws using List.reverseRecOn with
  | nil => exact Or.inr ⟨by simp, rfl⟩
  | append_singleton draws index ih =>
    rw [origin_append]
    by_cases hit : slot = index
    · subst hit
      rw [if_pos rfl]
      refine Or.inl ⟨⟨by omega, by simp⟩, ?_⟩
      rintro k ⟨after, written⟩
      have inside := (List.getElem?_eq_some_iff.mp written).1
      simp only [List.length_append, List.length_singleton] at inside
      omega
    · rw [if_neg hit]
      simpa only [LastWriter, ne_eq, getElem?_append_of_ne hit] using ih

private theorem LastWriter.slot_unique {capacity slot other arrival : Nat} {draws : List Nat}
    (first : LastWriter capacity draws slot arrival)
    (second : LastWriter capacity draws other arrival)
    (slot_lt : slot < capacity) (other_lt : other < capacity) : slot = other := by
  rcases first with ⟨⟨late, written⟩, _⟩ | ⟨_, rfl⟩ <;>
    rcases second with ⟨⟨late', written'⟩, _⟩ | ⟨_, equal⟩
  · exact Option.some.inj (written.symm.trans written')
  · omega
  · omega
  · exact equal

theorem LastWriter.lt {capacity slot arrival count : Nat} {draws : List Nat}
    (writer : LastWriter capacity draws slot arrival) (length : draws.length = count - capacity)
    (slot_lt : slot < count) : arrival < count := by
  rcases writer with ⟨⟨late, written⟩, _⟩ | ⟨_, rfl⟩
  · have inside := (List.getElem?_eq_some_iff.mp written).1
    omega
  · exact slot_lt

theorem held_lt {capacity count arrival : Nat} {draws : List Nat}
    (length : draws.length = count - capacity) (present : arrival ∈ held capacity draws count) :
    arrival < count := by
  obtain ⟨slot, inside, rfl⟩ := List.mem_map.mp present
  have slot_lt := List.mem_range.mp inside
  exact (lastWriter_origin draws).lt length (by omega)

theorem origin_injOn {capacity : Nat} (draws : List Nat) :
    Set.InjOn (origin capacity draws) {slot | slot < capacity} := by
  intro slot inside other inside' same
  have writer : LastWriter capacity draws slot (origin capacity draws slot) :=
    lastWriter_origin draws
  rw [same] at writer
  exact writer.slot_unique (lastWriter_origin draws) inside inside'

private theorem held_nodup (capacity : Nat) (draws : List Nat) (count : Nat) :
    (held capacity draws count).Nodup := by
  refine List.Nodup.map_on ?_ List.nodup_range
  intro slot inside other inside' same
  have slot_lt := List.mem_range.mp inside
  have other_lt := List.mem_range.mp inside'
  exact origin_injOn draws (show slot < capacity by omega) (show other < capacity by omega) same

/-- Everything about an initially empty sample after the observations `taken`, with the draws that they
cost. -/
structure Account (draw : σ → Nat → Option (Nat × σ)) (capacity : Nat) (start : σ) (taken : List α)
    (draws : List Nat) (r : UniformSample σ α) : Prop where
  capacity_eq : r.capacity = capacity
  count_eq : r.count = taken.length
  size_eq : r.samples.size = min taken.length capacity
  drawn : drawAll draw (capacity + 1) start (taken.length - capacity) = some (draws, r.stream)
  slot_eq : ∀ slot < min taken.length capacity,
    r.samples[slot]? = taken[origin capacity draws slot]?

namespace Account

variable {draw : σ → Nat → Option (Nat × σ)} {capacity : Nat} {start : σ} {taken : List α}
  {draws : List Nat} {r : UniformSample σ α}

theorem ofEmpty (draw : σ → Nat → Option (Nat × σ)) (capacity : Nat) (start : σ) :
    Account draw capacity start ([] : List α) [] (.empty capacity start) := by
  constructor <;> simp [empty, drawAll]

theorem length_draws (account : Account draw capacity start taken draws r) :
    draws.length = taken.length - capacity :=
  length_of_drawAll account.drawn

private theorem hasRoom_iff (account : Account draw capacity start taken draws r) :
    r.hasRoom ↔ taken.length < capacity := by
  simp only [hasRoom, account.size_eq, account.capacity_eq, decide_eq_true_eq]
  omega

theorem origin_lt (account : Account draw capacity start taken draws r) {slot : Nat}
    (slot_lt : slot < taken.length) : origin capacity draws slot < taken.length :=
  (lastWriter_origin draws).lt account.length_draws slot_lt

theorem samples_eq (account : Account draw capacity start taken draws r) :
    r.samples.toList = (held capacity draws taken.length).filterMap (taken[·]?) := by
  rw [held, List.filterMap_map]
  refine eq_filterMap_range (by simp [account.size_eq]) fun slot inside => ?_
  rw [Array.getElem?_toList]
  exact account.slot_eq slot inside

theorem subperm (account : Account draw capacity start taken draws r) :
    r.samples.toList.Subperm taken := by
  have arrivals : (held capacity draws taken.length).Subperm (List.range taken.length) :=
    List.subperm_of_subset (held_nodup capacity draws taken.length) fun arrival present =>
      List.mem_range.mpr (held_lt account.length_draws present)
  obtain ⟨chosen, same, part⟩ := arrivals
  have pieces := part.filterMap (taken[·]?)
  rw [← eq_filterMap_range rfl fun _ _ => rfl] at pieces
  rw [account.samples_eq]
  exact ⟨_, same.filterMap _, pieces⟩

theorem keep (account : Account draw capacity start taken draws r) (room : taken.length < capacity)
    (value : α) : Account draw capacity start (taken ++ [value]) draws (r.keep value) := by
  have nothing : draws = [] := by
    have length := account.length_draws
    exact List.eq_nil_of_length_eq_zero (by omega)
  subst nothing
  have size : r.samples.size = taken.length := by
    rw [account.size_eq]
    omega
  constructor
  · exact account.capacity_eq
  · simp [UniformSample.keep, account.count_eq]
  · simp only [UniformSample.keep, Array.size_push, size, List.length_append, List.length_singleton]
    omega
  · have drawn := account.drawn
    rw [Nat.sub_eq_zero_of_le (by omega)] at drawn
    rw [Nat.sub_eq_zero_of_le (by simp; omega)]
    exact drawn
  · intro slot slot_lt
    simp only [List.length_append, List.length_singleton] at slot_lt
    simp only [UniformSample.keep, origin_nil, Array.getElem?_push, size, List.getElem?_append]
    by_cases last : slot = taken.length
    · simp [last]
    · have earlier : slot < taken.length := by omega
      have before := account.slot_eq slot (by omega)
      simp only [origin_nil] at before
      simp [last, earlier, before]

theorem replace (account : Account draw capacity start taken draws r)
    (full : capacity ≤ taken.length) {index : Nat} {stream : σ}
    (next : draw r.stream (r.count + 1) = some (index, stream)) (value : α) :
    Account draw capacity start (taken ++ [value]) (draws ++ [index])
      { r.replace index value with stream } := by
  have length := account.length_draws
  have size : r.samples.size = capacity := by
    rw [account.size_eq]
    omega
  constructor
  · exact account.capacity_eq
  · simp [UniformSample.replace, account.count_eq]
  · simp only [size_samples_replace, size, List.length_append, List.length_singleton]
    omega
  · have more : (taken ++ [value]).length - capacity = (taken.length - capacity) + 1 := by
      simp only [List.length_append, List.length_singleton]
      omega
    rw [more]
    refine drawAll_succ account.drawn ?_
    rw [account.count_eq] at next
    rwa [show capacity + 1 + (taken.length - capacity) = taken.length + 1 by omega]
  · intro slot slot_lt
    simp only [List.length_append, List.length_singleton] at slot_lt
    have inside : slot < capacity := by omega
    simp only [UniformSample.replace, origin_append]
    by_cases hit : slot = index
    · subst hit
      have arrival : capacity + draws.length = taken.length := by omega
      simp [arrival, size, inside]
    · have before := account.slot_eq slot (by omega)
      have earlier := account.origin_lt (show slot < taken.length by omega)
      rw [Array.getElem?_setIfInBounds_ne (Ne.symm hit), if_neg hit, before,
        List.getElem?_append_left earlier]

theorem update (account : Account draw capacity start taken draws r) {value : α}
    {after : UniformSample σ α} (done : r.update draw value = (.ok (), after)) :
    ∃ more, Account draw capacity start (taken ++ [value]) more after := by
  by_cases room : r.hasRoom
  · rw [update_of_hasRoom draw room, Prod.mk.injEq] at done
    exact ⟨draws, done.2 ▸ account.keep (account.hasRoom_iff.mp room) value⟩
  · simp only [UniformSample.update, room, Bool.false_eq_true, if_false] at done
    cases next : draw r.stream (r.count + 1) with
    | none => simp [next, WordStream.found] at done
    | some found =>
      simp only [next, WordStream.found, Prod.mk.injEq, true_and] at done
      have full : capacity ≤ taken.length := by
        rw [account.hasRoom_iff] at room
        omega
      exact ⟨draws ++ [found.1], done ▸ account.replace full next value⟩

end Account

/-- Observations offered one after the other: those that were taken, and the sample after them. -/
def offer (draw : σ → Nat → Option (Nat × σ)) (r : UniformSample σ α) :
    List α → List α × UniformSample σ α
  | [] => ([], r)
  | value :: rest =>
      match r.update draw value with
      | (.ok (), after) => (value :: (offer draw after rest).1, (offer draw after rest).2)
      | (.error _, after) => offer draw after rest

private theorem update_of_error {draw : σ → Nat → Option (Nat × σ)} {r after : UniformSample σ α} {value : α}
    {failure : Failure} (refused : r.update draw value = (.error failure, after)) :
    after = r ∧ ¬r.hasRoom ∧ draw r.stream (r.count + 1) = none := by
  unfold update at refused
  split at refused
  · simp at refused
  · rename_i full
    cases next : draw r.stream (r.count + 1) with
    | none =>
      simp only [next, WordStream.found, Prod.mk.injEq] at refused
      exact ⟨refused.2.symm, full, rfl⟩
    | some found => simp [next, WordStream.found] at refused

theorem Account.offer {draw : σ → Nat → Option (Nat × σ)} {capacity : Nat} {start : σ}
    {taken : List α} {draws : List Nat} {r : UniformSample σ α}
    (account : Account draw capacity start taken draws r) (values : List α) :
    ∃ more, Account draw capacity start (taken ++ (r.offer draw values).1) more
      (r.offer draw values).2 := by
  induction values generalizing taken draws r with
  | nil => exact ⟨draws, by simpa [UniformSample.offer] using account⟩
  | cons value rest ih =>
    rcases step : r.update draw value with ⟨_ | _, after⟩
    · obtain ⟨rfl, _⟩ := update_of_error step
      simpa only [UniformSample.offer, step] using ih account
    · obtain ⟨more, next⟩ := account.update step
      simpa only [UniformSample.offer, step, List.append_assoc, List.singleton_append]
        using ih next

private theorem offer_of_lacking {draw : σ → Nat → Option (Nat × σ)} {r : UniformSample σ α}
    (full : ¬r.hasRoom) (lacking : draw r.stream (r.count + 1) = none) (values : List α) :
    r.offer draw values = ([], r) := by
  induction values with
  | nil => rfl
  | cons value rest ih =>
    have refused : r.update draw value = (.error .drawsExhausted, r) := by
      simp [UniformSample.update, full, lacking, WordStream.found]
    simp only [offer, refused]
    exact ih

/-- Observations are taken from the first one on, and all of them unless a draw is lacking at the end. -/
theorem offer_begins (draw : σ → Nat → Option (Nat × σ)) (r : UniformSample σ α) (values : List α) :
    (r.offer draw values).1 <+: values ∧
      ((r.offer draw values).1 = values ∨ ¬(r.offer draw values).2.hasRoom ∧
        draw (r.offer draw values).2.stream ((r.offer draw values).2.count + 1) = none) := by
  induction values generalizing r with
  | nil => exact ⟨List.prefix_refl [], .inl rfl⟩
  | cons value rest ih =>
    rcases step : r.update draw value with ⟨_ | _, after⟩
    · obtain ⟨rfl, full, lacking⟩ := update_of_error step
      simp only [offer, step, offer_of_lacking full lacking]
      exact ⟨List.nil_prefix, .inr ⟨full, lacking⟩⟩
    · obtain ⟨begins, last⟩ := ih after
      simp only [offer, step]
      exact ⟨(List.prefix_cons_inj value).mpr begins, last.imp_left (congrArg (value :: ·))⟩

theorem Account.offer_of_isSome {draw : σ → Nat → Option (Nat × σ)} {capacity : Nat} {start : σ}
    {taken : List α} {draws : List Nat} {r : UniformSample σ α}
    (account : Account draw capacity start taken draws r) {values : List α}
    (enough : (drawAll draw (capacity + 1) start
      ((taken ++ values).length - capacity)).isSome) :
    (r.offer draw values).1 = values := by
  obtain ⟨begins, all | ⟨full, lacking⟩⟩ := offer_begins draw r values
  · exact all
  · obtain ⟨more, after⟩ := account.offer values
    rw [after.hasRoom_iff] at full
    refine begins.eq_of_length_le (Nat.le_of_not_lt fun fewer => ?_)
    simp only [List.length_append] at full enough
    have next : capacity + 1 + ((taken ++ (r.offer draw values).1).length - capacity) =
        (r.offer draw values).2.count + 1 := by
      rw [after.count_eq, List.length_append]
      omega
    have one_more : (drawAll draw (capacity + 1) start
        ((taken ++ (r.offer draw values).1).length - capacity + 1)).isSome :=
      isSome_drawAll_of_le (by rw [List.length_append]; omega) enough
    simp only [drawAll, after.drawn, Option.bind_some, next, lacking, Option.map_none,
      Option.isSome_none, Bool.false_eq_true] at one_more

/-- The sample with its source of draws seen through a function. -/
def mapStream {τ : Type} (view : σ → τ) (r : UniformSample σ α) : UniformSample τ α :=
  ⟨r.capacity, r.samples, r.count, view r.stream⟩

private theorem update_noting (draw : σ → Nat → Option (Nat × σ))
    (r : UniformSample (σ × List (Nat × Nat)) α) (value : α) :
    (r.mapStream Prod.fst).update draw value =
      ((r.update (noting draw) value).1, (r.update (noting draw) value).2.mapStream Prod.fst) := by
  by_cases room : r.hasRoom
  · have same : (r.mapStream Prod.fst).hasRoom := room
    rw [update_of_hasRoom _ same, update_of_hasRoom _ room]
    rfl
  · have same : ¬(r.mapStream Prod.fst).hasRoom := room
    simp only [update, room, same, Bool.false_eq_true, if_false]
    cases next : draw r.stream.1 (r.count + 1) with
    | none => simp [noting, mapStream, next, WordStream.found]
    | some found => simp [noting, mapStream, next, WordStream.found, replace]

theorem offer_noting (draw : σ → Nat → Option (Nat × σ))
    (r : UniformSample (σ × List (Nat × Nat)) α) (values : List α) :
    (r.mapStream Prod.fst).offer draw values =
      ((r.offer (noting draw) values).1, (r.offer (noting draw) values).2.mapStream Prod.fst) := by
  induction values generalizing r with
  | nil => rfl
  | cons value rest ih =>
    simp only [offer, update_noting]
    rcases r.update (noting draw) value with ⟨_ | _, after⟩
    · exact ih after
    · simp only [ih after]

end UniformSample

end SampledMetrics
