import Mathlib.Data.List.Nodup
import Mathlib.SetTheory.Cardinal.Finite
import SampledMetrics.Proofs.Binary64.Arithmetic
import SampledMetrics.Proofs.Snapshot.Sorted
import SampledMetrics.WordStream
/-!
Draws from a word stream are fair, and no word serves two of them.  The words below the limit of a bound
fall into blocks as long as the bound, one residue each, so every index comes from equally many words; a
draw takes the first word below the limit and leaves the stream right after it.  Main statement: both, for
every bound that words can fill and for every sequence of such draws.
-/

set_option autoImplicit false
set_option relaxedAutoImplicit false

namespace SampledMetrics.WordStream

/-- The index that a word gives below `stop`; nothing for a word that is passed over. -/
def residue? (stop : Nat) (word : UInt64) : Option Nat :=
  if word.toNat < limit stop then some (word.toNat % stop) else none

section Words

variable {stop : Nat}

private theorem residue?_eq_none_iff {word : UInt64} : residue? stop word = none ↔ limit stop ≤ word.toNat := by
  simp [residue?]

private theorem residue?_eq_some_iff {word : UInt64} {index : Nat} :
    residue? stop word = some index ↔ word.toNat < limit stop ∧ word.toNat % stop = index := by
  simp [residue?]

private theorem lt_of_residue?_eq_some {word : UInt64} {index : Nat} (positive : 1 ≤ stop)
    (given : residue? stop word = some index) : index < stop := by
  obtain ⟨-, rfl⟩ := residue?_eq_some_iff.mp given
  exact Nat.mod_lt _ positive

private theorem dvd_limit (stop : Nat) : stop ∣ limit stop :=
  Nat.dvd_sub_mod wordCount

private theorem limit_le (stop : Nat) : limit stop ≤ wordCount :=
  Nat.sub_le _ _

private theorem half_lt_limit (positive : 1 ≤ stop) (fits : stop ≤ wordCount) : 2 ^ 63 < limit stop := by
  have count : wordCount = 2 ^ 63 + 2 ^ 63 := rfl
  have rest : wordCount % stop < stop := Nat.mod_lt _ positive
  have blocks : stop * (wordCount / stop) + wordCount % stop = wordCount := Nat.div_add_mod _ _
  have one : 1 ≤ wordCount / stop := Nat.div_pos fits positive
  have block : stop ≤ stop * (wordCount / stop) := Nat.le_mul_of_pos_right stop one
  unfold limit
  omega

private theorem div_lt_of_lt_limit {word : Nat} (below : word < limit stop) : word / stop < limit stop / stop :=
  Nat.div_lt_div_of_lt_of_dvd (dvd_limit stop) below

private theorem add_mul_lt_limit {index block : Nat} (inside : index < stop) (within : block < limit stop / stop) :
    index + stop * block < limit stop := by
  calc index + stop * block < stop + stop * block := Nat.add_lt_add_right inside _
    _ = stop * (block + 1) := by rw [Nat.mul_succ, Nat.add_comm]
    _ ≤ stop * (limit stop / stop) := Nat.mul_le_mul_left stop within
    _ = limit stop := Nat.mul_div_cancel' (dvd_limit stop)

/-- The words that give an index, by the block in which each lies. -/
def wordsGiving (index : Nat) (inside : index < stop) :
    {word : UInt64 // residue? stop word = some index} ≃ Fin (limit stop / stop) where
  toFun word := ⟨word.1.toNat / stop, div_lt_of_lt_limit (residue?_eq_some_iff.mp word.2).1⟩
  invFun block := ⟨UInt64.ofNat (index + stop * block), by
    have below := add_mul_lt_limit inside block.2
    have small : index + stop * block < UInt64.size := Nat.lt_of_lt_of_le below (limit_le stop)
    rw [residue?_eq_some_iff, UInt64.toNat_ofNat_of_lt' small]
    exact ⟨below, by rw [Nat.add_mul_mod_self_left, Nat.mod_eq_of_lt inside]⟩⟩
  left_inv word := by
    obtain ⟨-, residue⟩ := residue?_eq_some_iff.mp word.2
    apply Subtype.ext
    show UInt64.ofNat (index + stop * (word.1.toNat / stop)) = word.1
    have whole : index + stop * (word.1.toNat / stop) = word.1.toNat := by
      have divided := Nat.mod_add_div word.1.toNat stop
      omega
    rw [whole, UInt64.ofNat_toNat]
  right_inv block := by
    have below := add_mul_lt_limit inside block.2
    have small : index + stop * block < UInt64.size := Nat.lt_of_lt_of_le below (limit_le stop)
    apply Fin.ext
    show (UInt64.ofNat (index + stop * block)).toNat / stop = block
    rw [UInt64.toNat_ofNat_of_lt' small, Nat.add_mul_div_left _ _ (by omega),
      Nat.div_eq_of_lt inside, Nat.zero_add]

private theorem card_residue? {index : Nat} (inside : index < stop) :
    Nat.card {word : UInt64 // residue? stop word = some index} = limit stop / stop := by
  rw [Nat.card_congr (wordsGiving index inside), Nat.card_fin]

end Words

section FirstWord

variable {accepts : UInt64 → Bool} {fuel : Nat} {s : WordStream}

private theorem firstWord_eq_some {word : UInt64} {after : WordStream}
    (found : firstWord accepts fuel s = some (word, after)) :
    ∃ skipped < fuel, (∀ ahead < skipped, accepts (s.source.word (s.position + ahead)) = false) ∧
      word = s.source.word (s.position + skipped) ∧ accepts word = true ∧
      after = ⟨s.source, s.position + skipped + 1⟩ := by
  induction fuel generalizing s with
  | zero => cases found
  | succ fuel ih =>
    cases admitted : accepts (s.source.word s.position) with
    | true =>
      simp only [firstWord, nextWord, admitted, if_true, Option.some.injEq, Prod.mk.injEq] at found
      obtain ⟨rfl, rfl⟩ := found
      exact ⟨0, Nat.succ_pos fuel, fun _ earlier => absurd earlier (Nat.not_lt_zero _), rfl, admitted, rfl⟩
    | false =>
      simp only [firstWord, nextWord, admitted] at found
      obtain ⟨skipped, enough, before, taken, accepted, left⟩ := ih found
      refine ⟨skipped + 1, Nat.succ_lt_succ enough, ?_, ?_, accepted, ?_⟩
      · intro ahead earlier
        cases ahead with
        | zero => exact admitted
        | succ ahead =>
          have rejected := before ahead (Nat.lt_of_succ_lt_succ earlier)
          rwa [Nat.add_right_comm] at rejected
      · rwa [Nat.add_right_comm] at taken
      · rw [left]
        exact congrArg (WordStream.mk s.source ·) (by dsimp only; omega)

private theorem firstWord_eq_none (lacking : firstWord accepts fuel s = none) :
    ∀ ahead < fuel, accepts (s.source.word (s.position + ahead)) = false := by
  induction fuel generalizing s with
  | zero => intro ahead outside; exact absurd outside (Nat.not_lt_zero _)
  | succ fuel ih =>
    cases admitted : accepts (s.source.word s.position) with
    | true => simp [firstWord, nextWord, admitted] at lacking
    | false =>
      simp only [firstWord, nextWord, admitted] at lacking
      intro ahead inside
      cases ahead with
      | zero => exact admitted
      | succ ahead =>
        have rejected := ih lacking ahead (Nat.lt_of_succ_lt_succ inside)
        rwa [Nat.add_right_comm] at rejected

end FirstWord

/-- A draw that was made: its bound, the stream it was made from, the index and the stream it left. -/
structure Draw where
  stop : Nat
  before : WordStream
  index : Nat
  after : WordStream

namespace Draw

def consumed (d : Draw) : List Nat :=
  List.range' d.before.position (d.after.position - d.before.position)

/-- The draw is the residue of the first word below its limit, and used the words up to this one. -/
def UsesFirst (d : Draw) : Prop :=
  ∃ taken, d.before.position ≤ taken ∧
    (∀ position, d.before.position ≤ position → position < taken →
      residue? d.stop (d.before.source.word position) = none) ∧
    residue? d.stop (d.before.source.word taken) = some d.index ∧
    d.after = ⟨d.before.source, taken + 1⟩

private theorem UsesFirst.index_lt {d : Draw} (first : d.UsesFirst) (positive : 1 ≤ d.stop) : d.index < d.stop := by
  obtain ⟨taken, _, _, given, _⟩ := first
  exact lt_of_residue?_eq_some positive given

private theorem UsesFirst.source_eq {d : Draw} (first : d.UsesFirst) : d.after.source = d.before.source := by
  obtain ⟨taken, _, _, _, left⟩ := first
  rw [left]

theorem UsesFirst.position_lt {d : Draw} (first : d.UsesFirst) : d.before.position < d.after.position := by
  obtain ⟨taken, ahead, _, _, left⟩ := first
  rw [left]
  exact Nat.lt_succ_of_le ahead

end Draw

private theorem usesFirst_of_below {s after : WordStream} {stop index : Nat}
    (drawn : s.below stop = some (index, after)) : (Draw.mk stop s index after).UsesFirst := by
  obtain ⟨⟨word, left⟩, found, same⟩ := Option.map_eq_some_iff.mp drawn
  cases same
  obtain ⟨skipped, _, before, rfl, admitted, rfl⟩ := firstWord_eq_some found
  refine ⟨s.position + skipped, Nat.le_add_right _ _, ?_, ?_, rfl⟩
  · intro position onward earlier
    obtain ⟨ahead, rfl⟩ := Nat.exists_eq_add_of_le onward
    have passed := before ahead (Nat.lt_of_add_lt_add_left earlier)
    exact residue?_eq_none_iff.mpr (Nat.le_of_not_lt (of_decide_eq_false passed))
  · exact residue?_eq_some_iff.mpr ⟨of_decide_eq_true admitted, rfl⟩

/-- As many words as there are lie ahead, none of which a draw below `stop` takes. -/
def Exhausts (s : WordStream) (stop : Nat) : Prop :=
  ∀ ahead < wordCount, residue? stop (s.source.word (s.position + ahead)) = none

theorem exhausts_of_below {s : WordStream} {stop : Nat} (lacking : s.below stop = none) : s.Exhausts stop := by
  intro ahead inside
  have passed := firstWord_eq_none (Option.map_eq_none_iff.mp lacking) ahead inside
  exact residue?_eq_none_iff.mpr (Nat.le_of_not_lt (of_decide_eq_false passed))

private theorem draw_int (s : WordStream) {stop : Nat} (positive : 1 ≤ stop) :
    s.draw (.int stop) = (found (s.below stop)).map fun drawn => (.int drawn.1, drawn.2) := by
  have above : (Number.int stop).le (.int 0) = false := by
    have units : (0 : Int) < Binary64.unitsPerOne := Int.natCast_pos.mpr Binary64.unitsPerOne_pos
    have scaled : (0 : Int) < stop * Binary64.unitsPerOne := Int.mul_pos (by omega) units
    refine Bool.eq_false_iff.mpr fun le => ?_
    have reversed := (Number.le_iff_of_place? (x := .int stop) (y := .int 0) rfl rfl).mp le
    omega
  simp only [draw, Value.int, Value.asNumber?, Value.number?, above]
  cases s.source.isKeyed <;>
  · simp only [wholeBound, bind, Except.bind, Int.toNat_natCast]
    cases s.below stop <;> rfl

/-- Draws below the bounds in turn, up to the first that finds no word, and the stream that is left. -/
def drawEach : WordStream → List Nat → List Draw × WordStream
  | s, [] => ([], s)
  | s, stop :: stops =>
      match s.below stop with
      | some (index, after) =>
          (⟨stop, s, index, after⟩ :: (after.drawEach stops).1, (after.drawEach stops).2)
      | none => ([], s)

section Sequences

variable {s after : WordStream} {stop index : Nat} {stops : List Nat}

private theorem drawEach_cons_some (drawn : s.below stop = some (index, after)) :
    s.drawEach (stop :: stops) =
      (⟨stop, s, index, after⟩ :: (after.drawEach stops).1, (after.drawEach stops).2) := by
  simp only [drawEach, drawn]

private theorem drawEach_cons_none (lacking : s.below stop = none) : s.drawEach (stop :: stops) = ([], s) := by
  simp only [drawEach, lacking]

private theorem stops_drawEach (s : WordStream) (stops : List Nat) :
    (s.drawEach stops).1.map Draw.stop = stops ∨
      ∃ stop rest, stops = (s.drawEach stops).1.map Draw.stop ++ stop :: rest ∧
        (s.drawEach stops).2.Exhausts stop := by
  induction stops generalizing s with
  | nil => exact Or.inl rfl
  | cons stop stops ih =>
    cases drawn : s.below stop with
    | none =>
      rw [drawEach_cons_none drawn]
      exact Or.inr ⟨stop, stops, rfl, exhausts_of_below drawn⟩
    | some found =>
      rw [drawEach_cons_some drawn]
      rcases ih found.2 with all | ⟨next, rest, cut, lacking⟩
      · exact Or.inl (congrArg (stop :: ·) all)
      · exact Or.inr ⟨next, rest, congrArg (stop :: ·) cut, lacking⟩

private theorem usesFirst_of_mem_drawEach {d : Draw} (made : d ∈ (s.drawEach stops).1) :
    d.UsesFirst ∧ d.before.source = s.source := by
  induction stops generalizing s with
  | nil => cases made
  | cons stop stops ih =>
    cases drawn : s.below stop with
    | none =>
      rw [drawEach_cons_none drawn] at made
      cases made
    | some found =>
      have first := usesFirst_of_below drawn
      rw [drawEach_cons_some drawn, List.mem_cons] at made
      rcases made with rfl | later
      · exact ⟨first, rfl⟩
      · exact ⟨(ih later).1, (ih later).2.trans first.source_eq⟩

/-- The words used up by a sequence of draws follow one another, from where the stream stood to where it
stands. -/
private theorem consumed_drawEach (s : WordStream) (stops : List Nat) :
    (s.drawEach stops).2.source = s.source ∧ s.position ≤ (s.drawEach stops).2.position ∧
      (s.drawEach stops).1.flatMap Draw.consumed =
        List.range' s.position ((s.drawEach stops).2.position - s.position) := by
  induction stops generalizing s with
  | nil => exact ⟨rfl, Nat.le_refl _, by simp [drawEach]⟩
  | cons stop stops ih =>
    cases drawn : s.below stop with
    | none =>
      rw [drawEach_cons_none drawn]
      exact ⟨rfl, Nat.le_refl _, by simp⟩
    | some found =>
      have first := usesFirst_of_below drawn
      obtain ⟨source, onward, used⟩ := ih found.2
      have started : s.position ≤ found.2.position := Nat.le_of_lt first.position_lt
      rw [drawEach_cons_some drawn]
      refine ⟨source.trans first.source_eq, started.trans onward, ?_⟩
      rw [List.flatMap_cons, used, Draw.consumed]
      show List.range' s.position (found.2.position - s.position) ++ List.range' found.2.position _ = _
      generalize (found.2.drawEach stops).2.position = last at onward ⊢
      obtain ⟨own, reached⟩ := Nat.exists_eq_add_of_le started
      obtain ⟨others, ended⟩ := Nat.exists_eq_add_of_le onward
      rw [ended, reached, Nat.add_sub_cancel_left, Nat.add_sub_cancel_left, Nat.add_assoc,
        Nat.add_sub_cancel_left, List.range'_append_1]

private theorem pairwise_disjoint_drawEach (s : WordStream) (stops : List Nat) :
    (s.drawEach stops).1.Pairwise fun d e => d.consumed.Disjoint e.consumed := by
  have once : ((s.drawEach stops).1.flatMap Draw.consumed).Nodup := by
    rw [(consumed_drawEach s stops).2.2]
    exact List.nodup_range'
  exact (List.nodup_flatMap.mp once).2

end Sequences

/-- Draws are fair: below a bound that words can fill, the limit is a multiple of the bound and more than
half of all words, every index comes from equally many words, and the words from the limit on give
none.  And draws below such bounds, in turn, each take the first word below their limit that follows
those already used, up to a bound for which no word is found; no word is used twice. -/
theorem draws_fair (s : WordStream) {stops : List Nat}
    (fits : ∀ stop ∈ stops, 1 ≤ stop ∧ stop ≤ wordCount) :
    (∀ stop ∈ stops, stop ∣ limit stop ∧ 2 ^ 63 < limit stop ∧ limit stop ≤ 2 ^ 64 ∧
      (∀ index < stop, Nat.card {word : UInt64 // residue? stop word = some index} = limit stop / stop) ∧
      (∀ word, residue? stop word = none ↔ limit stop ≤ word.toNat) ∧
      ∀ t : WordStream, t.draw (.int stop) =
        (found (t.below stop)).map fun drawn => (.int drawn.1, drawn.2)) ∧
    ((s.drawEach stops).1.map Draw.stop = stops ∨
      ∃ stop rest, stops = (s.drawEach stops).1.map Draw.stop ++ stop :: rest ∧
        (s.drawEach stops).2.Exhausts stop) ∧
    (∀ d ∈ (s.drawEach stops).1, d.UsesFirst ∧ d.before.source = s.source ∧ d.index < d.stop) ∧
    (s.drawEach stops).1.flatMap Draw.consumed =
      List.range' s.position ((s.drawEach stops).2.position - s.position) ∧
    (s.drawEach stops).1.Pairwise fun d e => d.consumed.Disjoint e.consumed := by
  have answered := stops_drawEach s stops
  refine ⟨?_, answered, ?_, (consumed_drawEach s stops).2.2, pairwise_disjoint_drawEach s stops⟩
  · intro stop asked
    obtain ⟨positive, small⟩ := fits stop asked
    exact ⟨dvd_limit stop, half_lt_limit positive small, limit_le stop, fun _ => card_residue?,
      fun _ => residue?_eq_none_iff, fun t => t.draw_int positive⟩
  · intro d made
    obtain ⟨first, source⟩ := usesFirst_of_mem_drawEach made
    have asked : d.stop ∈ stops := by
      have among := List.mem_map_of_mem (f := Draw.stop) made
      rcases answered with all | ⟨stop, rest, cut, _⟩
      · rwa [all] at among
      · rw [cut]
        exact List.mem_append_left _ among
    exact ⟨first, source, first.index_lt (fits _ asked).1⟩

/-- Words that start with the greatest one, which no draw below three takes. -/
private def fromGreatest : WordStream :=
  ⟨.system fun position => UInt64.ofNat position - 1, 0⟩

theorem draws_fair_three :
    (∀ stop ∈ [3, 3], 1 ≤ stop ∧ stop ≤ wordCount) ∧
      Nat.card {word : UInt64 // residue? 3 word = some 2} = 6148914691236517205 ∧
      (fromGreatest.drawEach [3, 3]).1.flatMap Draw.consumed = [0, 1, 2] := by
  have fits : ∀ stop ∈ [3, 3], 1 ≤ stop ∧ stop ≤ wordCount := by decide
  obtain ⟨bounds, -, -, used, -⟩ := draws_fair fromGreatest fits
  refine ⟨fits, (bounds 3 (by decide)).2.2.2.1 2 (by decide), ?_⟩
  rw [used]
  rfl

end SampledMetrics.WordStream
