import SampledMetrics.Proofs.Histogram.Report
import SampledMetrics.Proofs.Snapshot.Arrangement
/-!
Below capacity a histogram forgets the order of its observations.  While there is room, a reservoir of
either kind holds everything it was given.  Main statement: two histograms with one table, on reservoirs
of any kind with room enough, that were given the same numbers in different orders, report values that
agree under every name, or fail the same way.
-/

set_option autoImplicit false
set_option relaxedAutoImplicit false

namespace SampledMetrics

namespace Reservoir

/-- A reservoir of one of the two kinds that holds these numbers, in the order in which they came, and has
room for so many more. -/
inductive Filled : List Number → Nat → Reservoir → Prop
  | uniform {room : Nat} (sample : UniformSample WordStream Number)
      (enough : sample.samples.size + room ≤ sample.capacity) :
      Filled sample.samples.toList room (.uniform sample)
  | sliding {room : Nat} (window : SlidingWindow Number)
      (enough : window.samples.size + room ≤ window.capacity) :
      Filled window.samples.toList room (.sliding window)

/-- A new reservoir of either kind, with a capacity and any stream. -/
inductive New (capacity : Nat) : Reservoir → Prop
  | uniform (stream : WordStream) : New capacity (.uniform (.empty capacity stream))
  | sliding : New capacity (.sliding (.empty capacity))

variable {r : Reservoir} {held : List Number} {room capacity : Nat}

theorem new_of_makeUniform {size seed : Value} {words : Nat → UInt64}
    (sized : checkCapacity size = .ok capacity) (made : makeUniform size seed words = .ok r) :
    r.New capacity := by
  obtain ⟨capacity', sized', made⟩ := Failure.bind_eq_ok_iff.mp made
  obtain ⟨stream, -, made⟩ := Failure.bind_eq_ok_iff.mp made
  obtain rfl := Except.ok.inj (sized.symm.trans sized')
  obtain rfl := Except.ok.inj made
  exact .uniform stream

theorem new_of_makeSliding {size : Value} (sized : checkCapacity size = .ok capacity)
    (made : makeSliding size = .ok r) : r.New capacity := by
  obtain ⟨capacity', sized', made⟩ := Failure.bind_eq_ok_iff.mp made
  obtain rfl := Except.ok.inj (sized.symm.trans sized')
  obtain rfl := Except.ok.inj made
  exact .sliding

theorem New.filled (new : r.New capacity) (enough : room ≤ capacity) : Filled [] room r := by
  have free : 0 + room ≤ capacity := by omega
  cases new with
  | uniform stream => exact Filled.uniform (.empty capacity stream) free
  | sliding => exact Filled.sliding (.empty capacity) free

private theorem Filled.numbers_eq (filled : Filled held room r) : r.numbers = held := by
  cases filled <;> rfl

theorem Filled.measured (filled : Filled held room r) (numbers : ∀ x ∈ held, x.isNaN = false) :
    r.Measured := by
  cases filled with
  | uniform sample enough =>
    exact measured_uniform fun x present => numbers x (Array.mem_toList_iff.mpr present)
  | sliding window enough =>
    exact measured_sliding fun x present => numbers x (Array.mem_toList_iff.mpr present)

theorem Filled.update (filled : Filled held (room + 1) r) {x : Number} (number : x.isNaN = false) :
    Filled (held ++ [x]) room (r.update (.number x)).2 := by
  have accepted : observationOf (.number x) = .ok x := observationOf_eq_ok_iff.mpr ⟨rfl, number⟩
  cases filled with
  | uniform sample enough =>
    have free : sample.hasRoom := decide_eq_true (by omega)
    have kept : ((Reservoir.uniform sample).update (.number x)).2 = .uniform (sample.keep x) := by
      simp only [Reservoir.update, accepted, UniformSample.update_of_hasRoom WordStream.below free]
    have appended : (sample.keep x).samples.toList = sample.samples.toList ++ [x] := Array.toList_push
    have larger : (sample.keep x).samples.size = sample.samples.size + 1 := Array.size_push ..
    rw [kept, ← appended]
    refine .uniform _ ?_
    rw [larger, Nat.add_assoc, Nat.add_comm 1]
    exact enough
  | sliding window enough =>
    have free : window.samples.size < window.capacity := by omega
    have kept : ((Reservoir.sliding window).update (.number x)).2 = .sliding (window.update x) := by
      simp only [Reservoir.update, accepted]
    have samples : (window.update x).samples = window.samples.push x := if_pos free
    have appended : (window.update x).samples.toList = window.samples.toList ++ [x] := by
      rw [samples, Array.toList_push]
    rw [kept, ← appended]
    refine .sliding _ ?_
    rw [samples, Array.size_push, Nat.add_assoc, Nat.add_comm 1]
    exact enough

theorem Filled.offer {xs : List Number} (filled : Filled held xs.length r)
    (numbers : ∀ x ∈ xs, x.isNaN = false) : Filled (held ++ xs) 0 (r.offer (xs.map .number)).2 := by
  induction xs generalizing held r with
  | nil =>
    rw [List.append_nil]
    exact filled
  | cons x rest ih =>
    obtain ⟨first, others⟩ := List.forall_mem_cons.mp numbers
    rw [List.map_cons, offer_cons_snd, List.append_cons]
    exact ih (filled.update first) others

end Reservoir

namespace Histogram

/-- Entries of two reports: the same name, and values that agree. -/
def EntriesAgree (entry entry' : String × Value) : Prop :=
  entry.1 = entry'.1 ∧ entry.2.Agrees entry'.2

private theorem report_twins {h h' : Histogram} (table : h.extractors = h'.extractors) {xs ys : List Number}
    (twins : List.Forall₂ Number.Twin xs ys) :
    Both (List.Forall₂ EntriesAgree) (h.report ⟨xs.map .number⟩) (h'.report ⟨ys.map .number⟩) := by
  unfold Histogram.report
  rw [← table]
  refine Both.mapM fun entry _ => ?_
  exact (Extractor.apply_twins twins entry.2).bind fun v v' agrees => .ok ⟨rfl, agrees⟩

end Histogram

namespace World

variable {w w' : World} {r r' : Reservoir} {xs ys : List Number}

private theorem reportOf_of_new {h : Histogram} {capacity : Nat} (stands : w.object h.reservoir = .reservoir r)
    (new : r.New capacity) (enough : xs.length ≤ capacity) (numbers : ∀ x ∈ xs, x.isNaN = false) :
    (w.observeAll h (xs.map .number)).reportOf h = h.report ⟨(Number.sorted xs).map .number⟩ := by
  have none : ∀ x ∈ ([] : List Number), x.isNaN = false := fun x present => absurd present List.not_mem_nil
  have empty := new.filled enough
  have filled := empty.offer numbers
  rw [List.nil_append] at filled
  have after := object_observeAll stands (empty.measured none) (xs.map .number)
  rw [reportOf_eq after (filled.measured numbers), filled.numbers_eq]

/-- Numbers that fit binary64, in two orders and on two new reservoirs with room for all of them, make
reports that agree, each with exactly the names of the table, or the same failure. -/
theorem reportOf_arrangement (h h' : Histogram) {capacity capacity' : Nat}
    (table : h.extractors = h'.extractors) (stands : w.object h.reservoir = .reservoir r)
    (stands' : w'.object h'.reservoir = .reservoir r') (new : r.New capacity) (new' : r'.New capacity')
    (fits : ∀ x ∈ xs, x.fits) (perm : xs.Perm ys) (enough : xs.length ≤ capacity)
    (enough' : ys.length ≤ capacity') :
    Both (List.Forall₂ Histogram.EntriesAgree) ((w.observeAll h (xs.map .number)).reportOf h)
        ((w'.observeAll h' (ys.map .number)).reportOf h') ∧
      (∀ report, (w.observeAll h (xs.map .number)).reportOf h = .ok report →
        report.map Prod.fst = h.metricNames) ∧
      ∀ report, (w'.observeAll h' (ys.map .number)).reportOf h' = .ok report →
        report.map Prod.fst = h.metricNames := by
  have numbers : ∀ x ∈ xs, x.isNaN = false := fun x present => Number.isNaN_of_fits (fits x present)
  have numbers' : ∀ y ∈ ys, y.isNaN = false := fun y present => numbers y (perm.mem_iff.mpr present)
  rw [reportOf_of_new stands new enough numbers, reportOf_of_new stands' new' enough' numbers']
  have names : h'.metricNames = h.metricNames := by rw [Histogram.metricNames, ← table]; rfl
  refine ⟨Histogram.report_twins table (Number.twins_sorted fits perm),
    fun report given => Histogram.names_report given, fun report given => ?_⟩
  exact (Histogram.names_report given).trans names

/-- A negative zero, and one in both forms. -/
def oneTwice : List Number :=
  [.float (.ofBits 0x8000000000000000), .int 1, .float (.ofInt 1)]

def fourWorld : World :=
  ((World.empty fun _ _ => 0).add (.reservoir (.uniform (.empty 4 ⟨.system fun _ => 0, 0⟩)))).2

def onWindow : Histogram := ⟨"window", 0, Table.defaults⟩

def onFour : Histogram := ⟨"four", 0, Table.defaults⟩

theorem reportOf_arrangement_reversed :
    (∀ x ∈ oneTwice, x.fits) ∧ oneTwice.Perm oneTwice.reverse ∧
      ∃ report report',
        (windowWorld.observeAll onWindow (oneTwice.map .number)).reportOf onWindow = .ok report ∧
        (fourWorld.observeAll onFour (oneTwice.reverse.map .number)).reportOf onFour = .ok report' ∧
        List.Forall₂ Histogram.EntriesAgree report report' ∧
        report.map Prod.fst = onWindow.metricNames ∧ report'.map Prod.fst = onWindow.metricNames ∧
        (report.lookup "P50").bind Value.asNumber? = some (.float (.ofInt 1)) := by
  have fits : ∀ x ∈ oneTwice, x.fits := by decide +kernel
  have numbers : ∀ x ∈ oneTwice, x.isNaN = false := fun x present => Number.isNaN_of_fits (fits x present)
  have perm : oneTwice.Perm oneTwice.reverse := (List.reverse_perm oneTwice).symm
  have table : onWindow.extractors = onFour.extractors := rfl
  have stands : windowWorld.object onWindow.reservoir = .reservoir (.sliding (.empty 3)) := rfl
  have stands' : fourWorld.object onFour.reservoir =
      .reservoir (.uniform (.empty 4 ⟨.system fun _ => 0, 0⟩)) := rfl
  have new := @Reservoir.new_of_makeSliding (.sliding (.empty 3)) 3 (.int 3) rfl rfl
  have new' := @Reservoir.new_of_makeUniform (.uniform (.empty 4 ⟨.system fun _ => 0, 0⟩)) 4 (.int 4) .null
    (fun _ => 0) rfl rfl
  have enough : oneTwice.length ≤ 3 := by decide +kernel
  obtain ⟨agree, names, names'⟩ := reportOf_arrangement onWindow onFour table stands stands' new new' fits perm
    enough (by decide +kernel)
  have ordered : Number.sorted oneTwice = oneTwice := Number.sorted_of_pairwise (by decide +kernel)
  have shown := reportOf_of_new stands new enough numbers
  rw [ordered] at shown
  obtain ⟨report, given⟩ := exists_of_isOk
    (show (onWindow.report ⟨oneTwice.map .number⟩).isOk by decide +kernel)
  have median : ((onWindow.report ⟨oneTwice.map .number⟩).toOption.bind
      (·.lookup "P50")).bind Value.asNumber? = some (.float (.ofInt 1)) := by decide +kernel
  rw [given] at median shown
  rw [shown] at agree names
  cases given' : (fourWorld.observeAll onFour (oneTwice.reverse.map .number)).reportOf onFour with
  | error failure =>
    rw [given'] at agree
    cases agree
  | ok report' =>
    rw [given'] at agree
    cases agree with
    | ok agree =>
      exact ⟨fits, perm, report, report', shown, rfl, agree, names report rfl, names' report' given', median⟩

end World

end SampledMetrics
