import SampledMetrics.Defaults.Environment
import SampledMetrics.Proofs.Decimal.RoundTrip
import SampledMetrics.Proofs.Defaults.Validation
/-!
Variables that express defaults: the size and the seed as they are written, a word for no seed, and the
percentiles as they are written, between commas.  Main statement: overriding anything by the variables that
express valid defaults gives these defaults, with the same percentiles to the last bit.
-/

set_option autoImplicit false
set_option relaxedAutoImplicit false

namespace SampledMetrics.Environment

def seedText : Value → String
  | .null => "none"
  | seed => seed.render

def percentilesText (percentiles : List Value) : String :=
  ",".intercalate (percentiles.map Value.render)

/-- Each of the three variables is given as what defaults hold. -/
structure Expresses (assignments : List (String × Value)) (d : Defaults) : Prop where
  size_eq : given assignments sizeVariable = .text d.reservoirSize.render
  seed_eq : given assignments seedVariable = .text (seedText d.reservoirSeed)
  percentiles_eq : given assignments percentilesVariable =
    .text (percentilesText (d.percentiles.items?.getD []))

private theorem render_int (value : Int) : (Value.int value).render = toString value := by
  simp only [Value.int, Value.render, Number.render]

private theorem natAbs_lt_of_isShowable {value : Int} (showable : (Value.int value).isShowable) :
    value.natAbs < Nat.pow 10 Numeral.digitLimit := by
  have fits : (Number.int value).isShowable := (Value.isShowable_number _).symm.trans showable
  rwa [Number.isShowable, decide_eq_true_eq] at fits

private theorem readInteger_render {value : Int} (name : String) (showable : (Value.int value).isShowable) :
    readInteger name (Value.int value).render = .ok value := by
  rw [readInteger, render_int, Numeral.readInteger?_toString (natAbs_lt_of_isShowable showable)]

private theorem meansNoSeed_toString (seed : Int) : meansNoSeed (toString seed) = false := by
  obtain ⟨⟨c, present, digit⟩, written⟩ := Numeral.toString_written seed
  have letters : noSeedWords.all fun word => word.toList.all fun d => !d.isDigit := by decide
  have solid : Text.strip Text.isBlank (toString seed).toList = (toString seed).toList :=
    Text.strip_eq_self fun d there => (written d there).not_blank
  refine Bool.eq_false_iff.mpr fun means => ?_
  rw [meansNoSeed, solid] at means
  have no_digit := List.all_eq_true.mp (List.all_eq_true.mp letters _ (List.contains_iff_mem.mp means)) c.toLower
    (by rw [String.toList_ofList]; exact List.mem_map_of_mem present)
  rw [Numeral.isDigit_toLower digit] at no_digit
  cases no_digit

private theorem readSeed_seedText {seed : Value} (valid : seed = .null ∨ ∃ value : Int, seed = .int value)
    (showable : seed.isShowable) :
    ∃ value, readSeed (seedText seed) = .ok value ∧ seedValue value = seed := by
  rcases valid with rfl | ⟨value, rfl⟩
  · exact ⟨none, rfl, rfl⟩
  · refine ⟨some value, ?_, rfl⟩
    have read := readInteger_render seedVariable showable
    have other : meansNoSeed (Value.int value).render = false := by
      rw [render_int]
      exact meansNoSeed_toString value
    have text : seedText (.int value) = (Value.int value).render := rfl
    rw [text, readSeed, other, read]
    rfl

private theorem readParts?_texts {values : List Binary64} (numbers : ∀ x ∈ values, x.isNaN = false) :
    readParts? (values.map fun x => x.text.toList) = some values := by
  induction values with
  | nil => rfl
  | cons x rest ih =>
    obtain ⟨number, others⟩ := List.forall_mem_cons.mp numbers
    obtain ⟨filled, written⟩ := x.text_written
    obtain ⟨c, first⟩ := List.exists_mem_of_ne_nil _ filled
    have solid : x.text.toList.all Text.isBlank = false :=
      List.all_eq_false.mpr ⟨c, first, by simp [(written c first).not_blank]⟩
    have later := ih others
    unfold readParts? at later ⊢
    rw [List.map_cons, List.filter_cons_of_pos (by rw [solid]; rfl), List.mapM_cons, later,
      String.ofList_toList, Binary64.readBinary64?_text number]
    rfl

private theorem readPercentiles_percentilesText {values : List Binary64}
    (numbers : ∀ x ∈ values, x.isNaN = false) :
    readPercentiles (percentilesText (values.map .float)) = .ok values := by
  have texts : (values.map Value.float).map Value.render = values.map Binary64.text := by
    rw [List.map_map]
    refine List.map_congr_left fun x _ => ?_
    simp only [Function.comp_apply, Value.float, Value.render, Number.render]
  have parts : readParts? (Text.separate ',' (percentilesText (values.map .float)).toList) = some values := by
    unfold percentilesText
    rw [texts, String.toList_intercalate, List.map_map]
    cases values with
    | nil => rfl
    | cons x rest =>
      have clean : ∀ part ∈ (x :: rest).map fun y => y.text.toList, ',' ∉ part := by
        intro part present comma
        obtain ⟨y, _, rfl⟩ := List.mem_map.mp present
        exact absurd rfl (y.text_written.2 ',' comma).ne_comma
      have joined := Text.separate_intercalate (by simp) clean
      rw [← readParts?_texts numbers, ← joined]
      rfl
  rw [readPercentiles, parts]

private theorem ofGiven_of_texts {assignments : List (String × Value)} {size seed percentiles : String}
    (sized : given assignments sizeVariable = .text size)
    (seeded : given assignments seedVariable = .text seed)
    (listed : given assignments percentilesVariable = .text percentiles) :
    ofGiven assignments = (⟨some size, some seed, some percentiles⟩, none) := by
  simp only [ofGiven, sized, seeded, listed, wholeText, textWith]

private theorem override_of_reads {size seed percentiles : String} {number : Int} {seed' : Option Int}
    {values : List Binary64} (sized : readInteger sizeVariable size = .ok number)
    (seeded : readSeed seed = .ok seed') (listed : readPercentiles percentiles = .ok values)
    (base : Defaults) :
    override ⟨some size, some seed, some percentiles⟩ base =
      (.ok (), ⟨.int number, seedValue seed', .list (values.map .float)⟩) := by
  simp only [override, inTurn, takeSize, takeSeed, takePercentiles, take, sized, seeded, listed, Except.map]

/-- Whatever they override, the variables that express valid defaults, whose percentiles are binary64
numbers and whose integers are within the digit limit, are all read, and give exactly these defaults. -/
theorem overrideGiven_of_expresses {assignments : List (String × Value)} {d : Defaults}
    {values : List Binary64} (valid : d.validate = .ok ())
    (listed : d.percentiles = .list (values.map .float)) (size_short : d.reservoirSize.isShowable)
    (seed_short : d.reservoirSeed.isShowable) (expressed : Expresses assignments d) (base : Defaults) :
    overrideGiven (.dict assignments) base = (.ok (), d) := by
  obtain ⟨size, seed, percentiles⟩ := d
  obtain rfl : percentiles = .list (values.map .float) := listed
  obtain ⟨⟨number, _, rfl⟩, seeded, items, items_eq, checked⟩ := Defaults.validate_eq_ok_iff.mp valid
  obtain rfl : values.map .float = items := Option.some.inj items_eq
  have numbers : ∀ x ∈ values, x.isNaN = false := by
    intro x present
    obtain ⟨y, real, same, converted, measured⟩ :=
      Defaults.checkPercentile_eq_ok_iff.mp (checked _ (List.mem_map_of_mem present))
    obtain rfl := Option.some.inj same
    obtain rfl := Option.some.inj converted
    exact measured
  obtain ⟨seed', seed_read, rfl⟩ := readSeed_seedText seeded seed_short
  have texts := ofGiven_of_texts expressed.size_eq expressed.seed_eq expressed.percentiles_eq
  have taken := override_of_reads (readInteger_render sizeVariable size_short) seed_read
    (readPercentiles_percentilesText numbers) base
  unfold overrideGiven
  simp only [texts, Value.items?, Option.getD_some, taken]

/-- A negative seed, and percentiles that the check accepts although no histogram reports them: the zero
with a sign, the least magnitude above it, and infinity. -/
def oddDefaults : Defaults where
  reservoirSize := .int 64
  reservoirSeed := .int (-7)
  percentiles := .list ([.zero true, .ofBits 1, .infinity false].map .float)

def oddAssignments : List (String × Value) :=
  [(sizeVariable, .text "64"), (seedVariable, .text "-7"), (percentilesVariable, .text "-0.0,5e-324,inf")]

theorem overrideGiven_of_expresses_odd :
    oddDefaults.validate = .ok () ∧
      oddDefaults.percentiles = .list ([.zero true, .ofBits 1, .infinity false].map .float) ∧
      oddDefaults.reservoirSize.isShowable ∧ oddDefaults.reservoirSeed.isShowable ∧
      Expresses oddAssignments oddDefaults ∧ overrideGiven (.dict oddAssignments) {} = (.ok (), oddDefaults) := by
  have valid : oddDefaults.validate = .ok () := rfl
  have size_short : oddDefaults.reservoirSize.isShowable := by decide +kernel
  have seed_short : oddDefaults.reservoirSeed.isShowable := by decide +kernel
  have expressed : Expresses oddAssignments oddDefaults := by
    constructor
    · exact congrArg Value.text (by decide +kernel)
    · exact congrArg Value.text (by decide +kernel)
    · exact congrArg Value.text (by decide +kernel)
  exact ⟨valid, rfl, size_short, seed_short, expressed,
    overrideGiven_of_expresses valid rfl size_short seed_short expressed {}⟩

end SampledMetrics.Environment
