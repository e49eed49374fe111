import Mathlib.Data.List.Basic
import SampledMetrics.Proofs.Reservoir.BuiltIn
import SampledMetrics.Proofs.Reservoir.Run
import SampledMetrics.Proofs.WordStream.Draws
/-!
What a reservoir holds after any calls.  Calls that are refused change nothing; of those that are taken a
uniform reservoir with capacity `C` keeps the first `C`, and from then on overwrites the slots that it
draws.  Main statement: after `N` observations taken, `N - C` draws were made, with bounds `C + 1` to
`N`, and every slot holds its last writer.
-/

set_option autoImplicit false
set_option relaxedAutoImplicit false

namespace SampledMetrics

namespace Reservoir

theorem update_uniform (sample : UniformSample WordStream Number) (value : Value) :
    (uniform sample).update value =
      match observationOf value with
      | .ok x => ((sample.update WordStream.below x).1,
          uniform (sample.update WordStream.below x).2)
      | .error failure => (.error failure, uniform sample) := rfl

private theorem offer_uniform (sample : UniformSample WordStream Number) (calls : List Value) :
    (uniform sample).offer calls =
      ((sample.offer WordStream.below (calls.filterMap observation?)).1.map .number,
        uniform (sample.offer WordStream.below (calls.filterMap observation?)).2) := by
  induction calls generalizing sample with
  | nil => rfl
  | cons value rest ih =>
    cases accepted : observationOf value with
    | error failure =>
      have refused : observation? value = none := by simp [observation?, accepted, Except.toOption]
      simp only [offer, update_uniform, accepted, List.filterMap_cons, refused]
      exact ih sample
    | ok x =>
      have found : observation? value = some x := by simp [observation?, accepted, Except.toOption]
      obtain ⟨rfl, _⟩ := observationOf_eq_ok_iff.mp accepted
      simp only [offer, update_uniform, accepted, List.filterMap_cons, found, UniformSample.offer]
      rcases sample.update WordStream.below x with ⟨_ | _, after⟩
      · exact ih after
      · simp only [ih after, List.map_cons]

private theorem isNaN_of_mem_offer {σ : Type} {draw : σ → Nat → Option (Nat × σ)}
    {sample : UniformSample σ Number} {calls : List Value} {x : Number}
    (taken : x ∈ (sample.offer draw (calls.filterMap observation?)).1) : x.isNaN = false := by
  obtain ⟨value, _, accepted⟩ := List.mem_filterMap.mp
    ((UniformSample.offer_begins draw sample _).1.subset taken)
  exact (observation?_eq_some_iff.mp accepted).2

/-- After any calls, with `N` observations taken: these are all that were accepted while they find room
or the draws can be made, and if one is lacking, the stream that is left has no word for the next.  The
count is `N` and the size the lesser of `N` and the capacity `C`; the draws made are those noted, with
bounds `C + 1` to `N` in this order; each slot holds its last writer, no arrival is in two slots, and a
snapshot holds a part of what was taken. -/
theorem offer_uniform_lastWriters (capacity : Nat) (stream : WordStream) (calls : List Value) :
    ∃ (taken : List Number) (sample : UniformSample WordStream Number)
      (notes : List (Nat × Nat)) (arrival : Nat → Nat) (view : Snapshot),
      (uniform (.empty capacity stream)).offer calls = (taken.map .number, uniform sample) ∧
      taken <+: calls.filterMap observation? ∧
      ((calls.filterMap observation?).length ≤ capacity → taken = calls.filterMap observation?) ∧
      ((drawAll WordStream.below (capacity + 1) stream
          ((calls.filterMap observation?).length - capacity)).isSome →
        taken = calls.filterMap observation?) ∧
      (taken = calls.filterMap observation? ∨ sample.stream.Exhausts (taken.length + 1)) ∧
      (UniformSample.empty capacity (stream, [])).offer (noting WordStream.below)
          (calls.filterMap observation?) = (taken, sample.mapStream fun left => (left, notes)) ∧
      (uniform sample).count? = some (.int taken.length) ∧
      (uniform sample).size = min taken.length capacity ∧
      notes.map Prod.fst = List.range' (capacity + 1) (taken.length - capacity) ∧
      (∀ slot < min taken.length capacity,
        UniformSample.LastWriter capacity (notes.map Prod.snd) slot (arrival slot) ∧
          arrival slot < taken.length ∧ sample.samples[slot]? = taken[arrival slot]?) ∧
      Set.InjOn arrival {slot | slot < min taken.length capacity} ∧
      (uniform sample).snapshot = .ok view ∧
      view.values.Subperm (taken.map .number) := by
  have run := UniformSample.offer_noting WordStream.below
    (UniformSample.empty capacity (stream, [])) (calls.filterMap observation?)
  obtain ⟨draws, account⟩ := (UniformSample.Account.ofEmpty (noting WordStream.below) capacity
    (stream, []) (α := Number)).offer (calls.filterMap observation?)
  rw [List.nil_append] at account
  have measured : ∀ x ∈ ((UniformSample.empty capacity (stream, [])).offer
      (noting WordStream.below) (calls.filterMap observation?)).1, x.isNaN = false :=
    fun x present => isNaN_of_mem_offer present
  generalize (UniformSample.empty capacity (stream, [])).offer (noting WordStream.below)
    (calls.filterMap observation?) = offered at run account measured ⊢
  obtain ⟨taken, ⟨room, samples, count, left, notes⟩⟩ := offered
  dsimp only at account measured
  obtain ⟨_, rfl⟩ := drawAll_noting account.drawn
  have plain : (UniformSample.empty capacity stream).offer WordStream.below
      (calls.filterMap observation?) = (taken, ⟨room, samples, count, left⟩) := run
  have total : count = taken.length := account.count_eq
  have complete : (drawAll WordStream.below (capacity + 1) stream
      ((calls.filterMap observation?).length - capacity)).isSome →
      taken = calls.filterMap observation? := fun enough =>
    (congrArg Prod.fst plain).symm.trans
      ((UniformSample.Account.ofEmpty WordStream.below capacity stream).offer_of_isSome enough)
  obtain ⟨begins, last⟩ := UniformSample.offer_begins WordStream.below
    (UniformSample.empty capacity stream) (calls.filterMap observation?)
  rw [plain] at begins last
  have length := account.length_draws
  have part := account.subperm
  refine ⟨taken, ⟨room, samples, count, left⟩, _, UniformSample.origin capacity draws,
    ⟨(Number.sorted samples.toList).map .number⟩, ?_, begins, ?_, complete, ?_, rfl, ?_,
    account.size_eq, ?_, ?_, ?_, ?_, ?_⟩
  · rw [offer_uniform, plain]
  · intro small
    refine complete ?_
    rw [Nat.sub_eq_zero_of_le small]
    rfl
  · refine last.imp_right fun ⟨_, lacking⟩ => ?_
    rw [← total]
    exact WordStream.exhausts_of_below lacking
  · rw [count?, total]
  · exact List.map_fst_zip (by simp [length])
  · intro slot inside
    rw [List.map_snd_zip (by simp [length])]
    exact ⟨UniformSample.lastWriter_origin draws, account.origin_lt (by omega),
      account.slot_eq slot inside⟩
  · refine (UniformSample.origin_injOn draws).mono ?_
    intro slot inside
    exact lt_of_lt_of_le inside (Nat.min_le_right _ _)
  · exact (measured_uniform fun x present =>
      measured x (part.subset (Array.mem_toList_iff.mpr present))).snapshot_eq
  · exact ((Number.sorted_perm samples.toList).subperm.trans part).map fun _ _ => Value.number.inj

/-- Four calls on a sample of two slots, one of which is refused: the third number that is taken draws the
second slot, and is its last writer. -/
theorem offer_uniform_lastWriters_overwritten :
    ∃ (sample : UniformSample WordStream Number) (view : Snapshot),
      (uniform (.empty 2 ⟨.system fun _ => 4, 0⟩)).offer [.int 5, .int 3, .text "7", .int 9] =
        ([.int 5, .int 3, .int 9], uniform sample) ∧
      (uniform sample).count? = some (.int 3) ∧ (uniform sample).size = 2 ∧
      (∃ arrival, UniformSample.LastWriter 2 [1] 1 arrival ∧
        sample.samples[1]? = [Number.int 5, .int 3, .int 9][arrival]?) ∧
      sample.samples = #[.int 5, .int 9] ∧
      (uniform sample).snapshot = .ok view ∧ view.values.Subperm [.int 5, .int 3, .int 9] := by
  obtain ⟨taken, sample, notes, arrival, view, run, -, -, complete, -, noted, count, size, -, slots, -, shown,
    part⟩ := offer_uniform_lastWriters 2 ⟨.system fun _ => 4, 0⟩ [.int 5, .int 3, .text "7", .int 9]
  obtain rfl : taken = [.int 5, .int 3, .int 9] := complete (by decide +kernel)
  have held : sample.samples = #[.int 5, .int 9] :=
    (congrArg (fun result => result.2.samples) noted).symm.trans (by decide +kernel)
  have drawn : notes = [(3, 1)] :=
    (congrArg (fun result => result.2.stream.2) noted).symm.trans (by decide +kernel)
  obtain ⟨writer, -, stands⟩ := slots 1 (by decide)
  rw [drawn] at writer
  exact ⟨sample, view, run, count, size, ⟨arrival 1, writer, stands⟩, held, shown, part⟩

end Reservoir

end SampledMetrics
