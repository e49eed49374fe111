import SampledMetrics.Log.Channel
/-!
Which loggers hand their records on to another one.  Main statement: every logger whose name goes on from
the other's by parts after dots, whichever loggers between the two have been used.
-/

set_option autoImplicit false
set_option relaxedAutoImplicit false

namespace SampledMetrics.Log.Logger

/-- A name that goes on from another one, each time after a dot, by parts that are not empty and hold no
dot. -/
inductive Below (root : String) : String → Prop
  | self : Below root root
  | child {name part : String} (below : Below root name) (nonempty : part ≠ "")
      (dotless : '.' ∉ part.toList) : Below root (name ++ "." ++ part)

def EndsPlain (name : String) : Prop :=
  ∃ c rest, name.toList.reverse = c :: rest ∧ c ≠ '.'

private theorem cuts_of_ne {c : Char} (plain : c ≠ '.') (rest : List Char) : cuts (c :: rest) = cuts rest := by
  rw [cuts.eq_def]
  split
  · rename_i same
    exact absurd (List.cons.inj same).1 plain
  · rename_i same
    rw [(List.cons.inj same).2]
  · contradiction

private theorem cuts_append_dot {part : List Char} (dotless : '.' ∉ part) (c : Char) (rest : List Char) :
    cuts (part ++ '.' :: c :: rest) = (c :: rest) :: cuts rest := by
  induction part with
  | nil => rfl
  | cons first part ih =>
    obtain ⟨plain, dotless⟩ := not_or.mp (mt List.mem_cons.mpr dotless)
    rw [List.cons_append, cuts_of_ne (Ne.symm plain), ih dotless]

private theorem above_child {name part : String} (plain : EndsPlain name) (dotless : '.' ∉ part.toList) :
    above (name ++ "." ++ part) = name :: above name := by
  obtain ⟨c, rest, reversed, other⟩ := plain
  have backwards : (name ++ "." ++ part).toList.reverse = part.toList.reverse ++ '.' :: c :: rest := by
    simp [reversed]
  have last : String.ofList (c :: rest).reverse = name := by
    rw [← reversed, List.reverse_reverse, String.ofList_toList]
  have dotless' : '.' ∉ part.toList.reverse := by simpa using dotless
  rw [above, above, backwards, reversed, cuts_append_dot dotless', cuts_of_ne other, List.map_cons, last]

private theorem endsPlain_child (name : String) {part : String} (nonempty : part ≠ "") (dotless : '.' ∉ part.toList) :
    EndsPlain (name ++ "." ++ part) := by
  cases backwards : part.toList.reverse with
  | nil =>
    rw [List.reverse_eq_nil_iff] at backwards
    exact absurd (String.toList_eq_nil_iff.mp backwards) nonempty
  | cons c rest =>
    refine ⟨c, rest ++ '.' :: name.toList.reverse, by simp [backwards], ?_⟩
    rintro rfl
    exact dotless (List.mem_reverse.mp (backwards ▸ List.mem_cons_self))

private theorem Below.endsPlain {root name : String} (below : Below root name) (plain : EndsPlain root) :
    EndsPlain name := by
  cases below with
  | self => exact plain
  | child below nonempty dotless => exact endsPlain_child _ nonempty dotless

private theorem Below.length_le {root name : String} (below : Below root name) : root.length ≤ name.length := by
  induction below with
  | self => exact Nat.le_refl _
  | child below nonempty dotless ih =>
    rw [String.length_append, String.length_append]
    omega

/-- The records of a logger below come to the one above, in as many hands as its name is longer. -/
theorem reaches_of_below {used : List String} {root name : String} (known : used.contains root)
    (plain : EndsPlain root) (below : Below root name) (hands : Nat)
    (enough : name.length ≤ hands + root.length) : reaches used root hands name := by
  induction below generalizing hands with
  | self => cases hands <;> simp [reaches]
  | @child name part below nonempty dotless ih =>
    have longer := below.length_le
    have dotted : (name ++ "." ++ part).length = name.length + 1 + part.length := by
      rw [String.length_append, String.length_append]
      rfl
    obtain ⟨hands, rfl⟩ : ∃ k, hands = k + 1 := ⟨hands - 1, by omega⟩
    have fewer := ih hands (by omega)
    have again := ih (hands + 1) (by omega)
    rw [reaches, next?, above_child (below.endsPlain plain) dotless, List.find?_cons]
    cases found : used.contains name with
    | true => simp only [fewer, Bool.or_true]
    | false =>
      have other : name ≠ root := by
        rintro rfl
        rw [known] at found
        contradiction
      rw [reaches, decide_eq_false other, Bool.false_or, next?] at again
      rw [again, Bool.or_true]

end SampledMetrics.Log.Logger
