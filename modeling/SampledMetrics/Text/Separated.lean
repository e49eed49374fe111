/-!
Texts of parts that a mark separates.
-/

set_option autoImplicit false
set_option relaxedAutoImplicit false

namespace SampledMetrics.Text

/-- The parts of a text between the marks; without a mark the whole text is the only part. -/
def separate (mark : Char) : List Char → List (List Char)
  | [] => [[]]
  | c :: rest =>
      if c = mark then [] :: separate mark rest
      else match separate mark rest with
        | [] => [[c]]
        | part :: parts => (c :: part) :: parts

private theorem separate_ne_nil (mark : Char) (cs : List Char) : separate mark cs ≠ [] := by
  cases cs with
  | nil => simp [separate]
  | cons c rest =>
    unfold separate
    split
    · simp
    · split <;> simp

theorem separate_append (mark : Char) (front back : List Char) :
    separate mark (front ++ mark :: back) = separate mark front ++ separate mark back := by
  induction front with
  | nil => simp [separate]
  | cons c rest ih =>
    by_cases same : c = mark
    · simp [separate, same, ih]
    · cases parts : separate mark rest with
      | nil => exact absurd parts (separate_ne_nil mark rest)
      | cons part others => simp [separate, same, ih, parts]

theorem separate_of_not_mem {mark : Char} {cs : List Char} (absent : mark ∉ cs) :
    separate mark cs = [cs] := by
  induction cs with
  | nil => rfl
  | cons c rest ih =>
    simp only [List.mem_cons, not_or] at absent
    simp [separate, ih absent.2, Ne.symm absent.1]

/-- Parts joined by the mark are separated again, if there are any and none has the mark. -/
theorem separate_intercalate {mark : Char} {parts : List (List Char)} (some_part : parts ≠ [])
    (clean : ∀ part ∈ parts, mark ∉ part) : separate mark ([mark].intercalate parts) = parts := by
  induction parts with
  | nil => exact absurd rfl some_part
  | cons part rest ih =>
    have alone : separate mark part = [part] := separate_of_not_mem (clean part List.mem_cons_self)
    cases rest with
    | nil => rw [List.intercalate_singleton, alone]
    | cons next others =>
      have later := ih (List.cons_ne_nil next others) fun p present =>
        clean p (List.mem_cons_of_mem part present)
      rw [List.intercalate_cons_cons, List.append_assoc, List.singleton_append, separate_append, alone,
        later, List.singleton_append]

end SampledMetrics.Text
