import SampledMetrics.Defaults.Environment
/-!
What overriding leaves behind when it is refused.  The variables are taken in turn, and each is read before
anything is changed for it.  Main statement: a refusal leaves the defaults as the variables before the one
that could not be read lead to them; so the percentiles are never changed, and the size may be.
-/

set_option autoImplicit false
set_option relaxedAutoImplicit false

namespace SampledMetrics.Environment

/-- A field after its variable has been taken: as it was if the variable is not set, and otherwise what the
variable is read as. -/
def Said {α : Type} (raw : Option String) (read : String → Except Failure α) (value : α → Value)
    (before after : Value) : Prop :=
  match raw with
  | none => after = before
  | some text => ∃ x, read text = .ok x ∧ after = value x

/-- The variables of an environment can all be read, and lead from some defaults to others. -/
structure LeadsTo (e : Environment) (d after : Defaults) : Prop where
  size : Said e.size (readInteger sizeVariable) .int d.reservoirSize after.reservoirSize
  seed : Said e.seed readSeed seedValue d.reservoirSeed after.reservoirSeed
  percentiles : Said e.percentiles readPercentiles (fun values => .list (values.map .float))
    d.percentiles after.percentiles

section InTurn

variable {changes : List (Defaults → Except Failure Defaults)} {d after : Defaults} {failure : Failure}

private theorem inTurn_eq_error (refused : inTurn changes d = (.error failure, after)) :
    ∃ before change later, changes = before ++ change :: later ∧
      inTurn before d = (.ok (), after) ∧ change after = .error failure := by
  induction changes generalizing d with
  | nil => cases refused
  | cons change rest ih =>
    unfold inTurn at refused
    cases made : change d with
    | error other =>
      rw [made] at refused
      cases refused
      exact ⟨[], change, rest, rfl, rfl, made⟩
    | ok changed =>
      rw [made] at refused
      obtain ⟨before, last, later, rfl, done, stopped⟩ := ih refused
      refine ⟨change :: before, last, later, rfl, ?_, stopped⟩
      rw [inTurn, made]
      exact done

private theorem inTurn_cons_eq_ok {change : Defaults → Except Failure Defaults}
    (done : inTurn (change :: changes) d = (.ok (), after)) :
    ∃ changed, change d = .ok changed ∧ inTurn changes changed = (.ok (), after) := by
  unfold inTurn at done
  cases made : change d with
  | error other =>
    rw [made] at done
    cases done
  | ok changed =>
    rw [made] at done
    exact ⟨changed, rfl, done⟩

private theorem inTurn_nil_eq_ok (done : inTurn [] d = (.ok (), after)) : after = d := by
  cases done
  rfl

end InTurn

section Taking

variable {e : Environment} {d after : Defaults} {failure : Failure}

private theorem take_eq_ok {α : Type} {raw : Option String} {read : String → Except Failure α}
    {set : Defaults → α → Defaults} (taken : take raw read set d = .ok after) :
    (raw = none ∧ after = d) ∨ ∃ text x, raw = some text ∧ read text = .ok x ∧ after = set d x := by
  cases raw with
  | none =>
    cases taken
    exact Or.inl ⟨rfl, rfl⟩
  | some text =>
    cases found : read text with
    | error other => simp [take, found, Except.map] at taken
    | ok x =>
      simp only [take, found, Except.map, Except.ok.injEq] at taken
      exact Or.inr ⟨text, x, rfl, found, taken.symm⟩

theorem take_eq_error {α : Type} {raw : Option String} {read : String → Except Failure α}
    {set : Defaults → α → Defaults} (refused : take raw read set d = .error failure) :
    ∃ text, raw = some text ∧ read text = .error failure := by
  cases raw with
  | none => cases refused
  | some text =>
    cases found : read text with
    | error other =>
      simp only [take, found, Except.map, Except.error.injEq] at refused
      exact ⟨text, rfl, found.trans (congrArg Except.error refused)⟩
    | ok x => simp [take, found, Except.map] at refused

private theorem takeSize_eq_ok (taken : e.takeSize d = .ok after) :
    Said e.size (readInteger sizeVariable) .int d.reservoirSize after.reservoirSize ∧
      after.reservoirSeed = d.reservoirSeed ∧ after.percentiles = d.percentiles := by
  rcases take_eq_ok taken with ⟨unset, rfl⟩ | ⟨text, size, set, read, rfl⟩
  · rw [unset]
    exact ⟨rfl, rfl, rfl⟩
  · rw [set]
    exact ⟨⟨size, read, rfl⟩, rfl, rfl⟩

private theorem takeSeed_eq_ok (taken : e.takeSeed d = .ok after) :
    after.reservoirSize = d.reservoirSize ∧
      Said e.seed readSeed seedValue d.reservoirSeed after.reservoirSeed ∧
      after.percentiles = d.percentiles := by
  rcases take_eq_ok taken with ⟨unset, rfl⟩ | ⟨text, seed, set, read, rfl⟩
  · rw [unset]
    exact ⟨rfl, rfl, rfl⟩
  · rw [set]
    exact ⟨rfl, ⟨seed, read, rfl⟩, rfl⟩

private theorem takePercentiles_eq_ok (taken : e.takePercentiles d = .ok after) :
    after.reservoirSize = d.reservoirSize ∧ after.reservoirSeed = d.reservoirSeed ∧
      Said e.percentiles readPercentiles (fun values => .list (values.map .float)) d.percentiles
        after.percentiles := by
  rcases take_eq_ok taken with ⟨unset, rfl⟩ | ⟨text, values, set, read, rfl⟩
  · rw [unset]
    exact ⟨rfl, rfl, rfl⟩
  · rw [set]
    exact ⟨rfl, rfl, values, read, rfl⟩

theorem leadsTo_of_override (done : e.override d = (.ok (), after)) : e.LeadsTo d after := by
  obtain ⟨first, sized, done⟩ := inTurn_cons_eq_ok done
  obtain ⟨second, seeded, done⟩ := inTurn_cons_eq_ok done
  obtain ⟨third, listed, done⟩ := inTurn_cons_eq_ok done
  obtain rfl := inTurn_nil_eq_ok done
  obtain ⟨size, seed_kept, percentiles_kept⟩ := takeSize_eq_ok sized
  obtain ⟨size_kept, seed, percentiles_kept'⟩ := takeSeed_eq_ok seeded
  obtain ⟨size_kept', seed_kept', percentiles⟩ := takePercentiles_eq_ok listed
  rw [percentiles_kept', percentiles_kept] at percentiles
  rw [seed_kept] at seed
  constructor
  · rw [size_kept', size_kept]
    exact size
  · rw [seed_kept']
    exact seed
  · exact percentiles

theorem override_eq_error (refused : e.override d = (.error failure, after)) :
    (∃ raw, e.size = some raw ∧ readInteger sizeVariable raw = .error failure ∧ after = d) ∨
      (∃ raw, e.seed = some raw ∧ readSeed raw = .error failure ∧
        ({ size := e.size } : Environment).LeadsTo d after) ∨
      ∃ raw, e.percentiles = some raw ∧ readPercentiles raw = .error failure ∧
        ({ size := e.size, seed := e.seed } : Environment).LeadsTo d after := by
  obtain ⟨before, change, later, split, done, stopped⟩ := inTurn_eq_error refused
  rcases before with _ | ⟨first, _ | ⟨second, _ | ⟨third, more⟩⟩⟩
  · simp only [List.nil_append, List.cons.injEq] at split
    obtain ⟨rfl, -⟩ := split
    obtain ⟨raw, set, unread⟩ := take_eq_error stopped
    exact Or.inl ⟨raw, set, unread, inTurn_nil_eq_ok done⟩
  · simp only [List.cons_append, List.nil_append, List.cons.injEq] at split
    obtain ⟨rfl, rfl, -⟩ := split
    obtain ⟨raw, set, unread⟩ := take_eq_error stopped
    have alone : ({ size := e.size } : Environment).override d = inTurn [e.takeSize] d := rfl
    exact Or.inr (Or.inl ⟨raw, set, unread, leadsTo_of_override (alone.trans done)⟩)
  · simp only [List.cons_append, List.nil_append, List.cons.injEq] at split
    obtain ⟨rfl, rfl, rfl, -⟩ := split
    obtain ⟨raw, set, unread⟩ := take_eq_error stopped
    have both : ({ size := e.size, seed := e.seed } : Environment).override d =
        inTurn [e.takeSize, e.takeSeed] d := rfl
    exact Or.inr (Or.inr ⟨raw, set, unread, leadsTo_of_override (both.trans done)⟩)
  · exact absurd (congrArg List.length split) (by simp)

end Taking

theorem kind_of_wholeText {value : Value} {failure : Failure} (odd : wholeText value = .error failure) :
    failure.kind = .wrongType := by
  unfold wholeText at odd
  split at odd
  all_goals cases odd
  rfl

theorem kind_of_textWith {part : String} {value : Value} {failure : Failure}
    (odd : textWith part value = .error failure) : failure.kind = .missingAttribute := by
  unfold textWith at odd
  split at odd
  all_goals cases odd
  rfl

private theorem kind_of_ofGiven {assignments : List (String × Value)} {e : Environment} {failure : Failure}
    (odd : ofGiven assignments = (e, some failure)) : failure.kind ≠ .own .badInput := by
  unfold ofGiven at odd
  split at odd
  · rename_i sized
    obtain ⟨-, rfl⟩ : _ ∧ _ = failure := by simpa using odd
    simp [kind_of_wholeText sized]
  · split at odd
    · rename_i seeded
      obtain ⟨-, rfl⟩ : _ ∧ _ = failure := by simpa using odd
      simp [kind_of_textWith seeded]
    · split at odd
      · rename_i listed
        obtain ⟨-, rfl⟩ : _ ∧ _ = failure := by simpa using odd
        simp [kind_of_textWith listed]
      · simp at odd

/-- When overriding by a caller's variables is refused for a text that cannot be read, it is the first one;
the variables before it have all been taken, each field of theirs holding what its variable says, and the
other fields are as they were.  So the percentiles always are. -/
theorem overrideGiven_refused {assignments : List (String × Value)} {d after : Defaults} {failure : Failure}
    (refused : overrideGiven (.dict assignments) d = (.error failure, after))
    (unread : failure.kind = .own .badInput) :
    ∃ e, e = (ofGiven assignments).1 ∧ after.percentiles = d.percentiles ∧
      ((∃ raw, e.size = some raw ∧ readInteger sizeVariable raw = .error failure ∧ after = d) ∨
        (∃ raw, e.seed = some raw ∧ readSeed raw = .error failure ∧
          ({ size := e.size } : Environment).LeadsTo d after) ∨
        ∃ raw, e.percentiles = some raw ∧ readPercentiles raw = .error failure ∧
          ({ size := e.size, seed := e.seed } : Environment).LeadsTo d after) := by
  rcases texts : ofGiven assignments with ⟨e, odd⟩
  have overridden : e.override d = (.error failure, after) := by
    unfold overrideGiven at refused
    simp only [texts] at refused
    split at refused
    · cases refused
      exact absurd unread (kind_of_ofGiven texts)
    · exact refused
  have cause := override_eq_error overridden
  refine ⟨e, rfl, ?_, cause⟩
  rcases cause with ⟨_, _, _, rfl⟩ | ⟨_, _, _, before⟩ | ⟨_, _, _, before⟩
  · rfl
  · exact before.percentiles
  · exact before.percentiles

/-- Variables of which only the last one cannot be read. -/
def lastUnread : List (String × Value) :=
  [(sizeVariable, .text "64"), (seedVariable, .text "Random"), (percentilesVariable, .text "90,high")]

theorem overrideGiven_refused_last :
    overrideGiven (.dict lastUnread) { reservoirSeed := .int 7 } =
        (.error (.environmentPercentiles "90,high"), { reservoirSize := .int 64 }) ∧
      (Failure.environmentPercentiles "90,high").kind = .own .badInput ∧
      ∃ raw, raw = "90,high" ∧ readPercentiles raw = .error (.environmentPercentiles "90,high") ∧
        ({ size := some "64", seed := some "Random" } : Environment).LeadsTo { reservoirSeed := .int 7 }
          { reservoirSize := .int 64 } := by
  have refused : overrideGiven (.dict lastUnread) { reservoirSeed := .int 7 } =
      (.error (.environmentPercentiles "90,high"), { reservoirSize := .int 64 }) := rfl
  obtain ⟨e, rfl, _, ⟨raw, set, unread, _⟩ | ⟨raw, set, unread, _⟩ | ⟨raw, set, unread, before⟩⟩ :=
    overrideGiven_refused refused rfl
  · obtain rfl := Option.some.inj set
    contradiction
  · obtain rfl := Option.some.inj set
    contradiction
  · exact ⟨refused, rfl, raw, (Option.some.inj set).symm, unread, before⟩

/-- A size that can be read, and a seed that cannot, leave behind defaults that are neither those before nor
what the variables say. -/
theorem overrideGiven_halfway :
    overrideGiven (.dict [(sizeVariable, .text "64"), (seedVariable, .text "0xZZ")]) {} =
        (.error (.environmentNumber seedVariable "0xZZ"), { reservoirSize := .int 64 }) ∧
      (Failure.environmentNumber seedVariable "0xZZ").kind = .own .badInput ∧
      ({ reservoirSize := .int 64 } : Defaults) ≠ {} := by
  refine ⟨rfl, rfl, fun same => ?_⟩
  have sizes : Value.int 64 = Value.int builtInSize := congrArg Defaults.reservoirSize same
  have numbers : (64 : Int) = builtInSize := Number.int.inj (Value.number.inj sizes)
  contradiction

end SampledMetrics.Environment
