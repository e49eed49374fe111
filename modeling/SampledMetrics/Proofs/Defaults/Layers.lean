import SampledMetrics.Proofs.Defaults.Load
/-!
The layers of a configuration: the built-in defaults, a file over them, and variables over both.  What an
override does to a field depends on the variable of the field and on nothing else.  Main statement: two
overrides in turn are one override by both sets of variables; and loading gives each field what the topmost
layer that speaks of it says, whatever the layers below say.
-/

set_option autoImplicit false
set_option relaxedAutoImplicit false

namespace SampledMetrics

namespace Environment

section Said

variable {α : Type} {raw raw' : Option String} {read : String → Except Failure α} {value : α → Value}
  {before middle after : Value}

theorem Said.trans (first : Said raw read value before middle) (second : Said raw' read value middle after) :
    Said (raw' <|> raw) read value before after := by
  cases raw' with
  | none =>
    obtain rfl : after = middle := second
    exact first
  | some text => exact second

private theorem Said.anywhere (said : Said raw read value before after) (other : Value) :
    ∃ result, Said raw read value other result := by
  cases raw with
  | none => exact ⟨other, rfl⟩
  | some text => exact ⟨after, said⟩

theorem Said.again (said : Said raw read value before after) : Said raw read value after after := by
  cases raw with
  | none => rfl
  | some text => exact said

/-- A field that will be accepted once its variable has been taken.  If the variable is set, then what the
field was does not matter. -/
def Usable (raw : Option String) (read : String → Except Failure α) (value : α → Value)
    (accepts : Value → Prop) (before : Value) : Prop :=
  match raw with
  | none => accepts before
  | some text => ∃ x, read text = .ok x ∧ accepts (value x)

private theorem usable_iff {accepts : Value → Prop} :
    Usable raw read value accepts before ↔ ∃ after, Said raw read value before after ∧ accepts after := by
  cases raw with
  | none => exact exists_eq_left.symm
  | some text =>
    constructor
    · rintro ⟨x, found, accepted⟩
      exact ⟨value x, ⟨x, found, rfl⟩, accepted⟩
    · rintro ⟨_, ⟨x, found, rfl⟩, accepted⟩
      exact ⟨x, found, accepted⟩

private theorem take_of_said {set : Defaults → α → Defaults} {d : Defaults} (field : Value → Defaults)
    (said : Said raw read value before after) (kept : field before = d)
    (sets : ∀ x, set d x = field (value x)) : take raw read set d = .ok (field after) := by
  cases raw with
  | none =>
    obtain rfl : after = before := said
    rw [kept]
    rfl
  | some text =>
    obtain ⟨x, found, rfl⟩ := said
    rw [take, found, ← sets]
    rfl

end Said

/-- Every field will be accepted once the variables have been taken. -/
structure Settles (e : Environment) (d : Defaults) : Prop where
  size : Usable e.size (readInteger sizeVariable) .int
    (fun value => ∃ size : Int, 1 ≤ size ∧ value = .int size) d.reservoirSize
  seed : Usable e.seed readSeed seedValue
    (fun value => value = .null ∨ ∃ seed : Int, value = .int seed) d.reservoirSeed
  percentiles : Usable e.percentiles readPercentiles (fun values => .list (values.map .float))
    (fun value => ∃ items, value.items? = some items ∧
      ∀ item ∈ items, Defaults.checkPercentile item = .ok ()) d.percentiles

section Override

variable {e first second : Environment} {d middle after : Defaults}

private theorem override_of_leadsTo (leads : e.LeadsTo d after) : e.override d = (.ok (), after) := by
  have sized : e.takeSize d = .ok { d with reservoirSize := after.reservoirSize } :=
    take_of_said (fun size => { d with reservoirSize := size }) leads.size rfl fun _ => rfl
  have seeded : e.takeSeed { d with reservoirSize := after.reservoirSize } =
      .ok { after with percentiles := d.percentiles } :=
    take_of_said (fun seed => { after with reservoirSeed := seed, percentiles := d.percentiles })
      leads.seed rfl fun _ => rfl
  have listed : e.takePercentiles { after with percentiles := d.percentiles } = .ok after :=
    take_of_said (fun percentiles => { after with percentiles }) leads.percentiles rfl fun _ => rfl
  simp only [override, inTurn, sized, seeded, listed]

private theorem override_eq_ok_iff : e.override d = (.ok (), after) ↔ e.LeadsTo d after :=
  ⟨leadsTo_of_override, override_of_leadsTo⟩

theorem LeadsTo.trans (before : first.LeadsTo d middle) (later : second.LeadsTo middle after) :
    (first.union second).LeadsTo d after where
  size := before.size.trans later.size
  seed := before.seed.trans later.seed
  percentiles := before.percentiles.trans later.percentiles

theorem LeadsTo.again (leads : e.LeadsTo d after) : e.LeadsTo after after where
  size := leads.size.again
  seed := leads.seed.again
  percentiles := leads.percentiles.again

private theorem LeadsTo.anywhere (leads : e.LeadsTo d after) (other : Defaults) : ∃ result, e.LeadsTo other result := by
  obtain ⟨size, sized⟩ := leads.size.anywhere other.reservoirSize
  obtain ⟨seed, seeded⟩ := leads.seed.anywhere other.reservoirSeed
  obtain ⟨percentiles, listed⟩ := leads.percentiles.anywhere other.percentiles
  exact ⟨⟨size, seed, percentiles⟩, sized, seeded, listed⟩

end Override

section Texts

variable {entries : List (String × String)} {d after : Defaults}

def texts (entries : List (String × String)) : Value :=
  .dict (entries.map fun entry => (entry.1, .text entry.2))

def ofTexts (entries : List (String × String)) : Environment :=
  ⟨entries.lookup sizeVariable, entries.lookup seedVariable, entries.lookup percentilesVariable⟩

private theorem given_texts (entries : List (String × String)) (name : String) :
    given (entries.map fun entry => (entry.1, .text entry.2)) name =
      ((entries.lookup name).map Value.text).getD .null := by
  unfold given
  congr 1
  induction entries with
  | nil => rfl
  | cons entry rest ih =>
    rw [List.map_cons, List.lookup_cons, List.lookup_cons, ih]
    cases name == entry.1 <;> rfl

private theorem ofGiven_texts (entries : List (String × String)) :
    ofGiven (entries.map fun entry => (entry.1, .text entry.2)) = (ofTexts entries, none) := by
  have whole (raw : Option String) : wholeText ((raw.map Value.text).getD .null) = .ok raw := by
    cases raw <;> rfl
  have part (raw : Option String) (p : String) : textWith p ((raw.map Value.text).getD .null) = .ok raw := by
    cases raw <;> rfl
  simp only [ofGiven, given_texts, whole, part, ofTexts]

private theorem overrideGiven_texts_eq_ok_iff :
    overrideGiven (texts entries) d = (.ok (), after) ↔ (ofTexts entries).LeadsTo d after := by
  rw [← override_eq_ok_iff, texts, overrideGiven, ofGiven_texts]
  constructor
  · intro overridden
    dsimp only at overridden
    split at overridden
    · contradiction
    · exact overridden
  · intro overridden
    dsimp only
    rw [overridden]

private theorem ofTexts_joined {first second both : List (String × String)}
    (joined : ∀ name, both.lookup name = (second.lookup name <|> first.lookup name)) :
    ofTexts both = (ofTexts first).union (ofTexts second) := by
  simp only [ofTexts, union, joined]

end Texts

end Environment

namespace Defaults

open Environment

/-- The document of a configuration; without a file nothing is in it. -/
inductive Reads (files : Files) : Value → List (String × Value) → Prop
  | unset {path : Value} (source : Source files path none) : Reads files path []
  | file {text : String} {document : List (String × Value)} (named : text ≠ "")
      (parsed : (readFile files text >>= Toml.parse) = .ok document) : Reads files (.text text) document

def written? (document : List (String × Value)) (key : String) : Option Value :=
  match document.lookup "histogram" with
  | some (.dict entries) => entries.lookup key
  | _ => none

/-- What a document says, with the built-in values where it says nothing. -/
def ofWritten (document : List (String × Value)) : Defaults where
  reservoirSize := (written? document "reservoir_size").getD (.int builtInSize)
  reservoirSeed := (written? document "reservoir_seed").getD .null
  percentiles := (written? document "percentiles").getD (.list [])

/-- A document whose section is one, has no key that means nothing, and in which percentiles are a list.  Of
the size, of the seed and of the entries of the list nothing is asked. -/
structure IsAcceptable (document : List (String × Value)) : Prop where
  section_known : ∀ value, document.lookup "histogram" = some value →
    ∃ entries, value = .dict entries ∧ unknownKeys entries = []
  percentiles_list : ∀ value, written? document "percentiles" = some value → ∃ items, value = .list items

section Document

variable {document : List (String × Value)} {d : Defaults}

private theorem ofSection_eq_ok_iff {entries : List (String × Value)} :
    ofSection entries = .ok d ↔ unknownKeys entries = [] ∧ d = ofKnown entries ∧
      ∃ items, d.percentiles = .list items := by
  unfold ofSection
  constructor
  · intro made
    split at made
    · rename_i items known list
      cases made
      exact ⟨known, rfl, items, list⟩
    · contradiction
    · contradiction
  · rintro ⟨known, rfl, items, list⟩
    rw [known, list]

private theorem written?_of_dict {entries : List (String × Value)}
    (found : document.lookup "histogram" = some (.dict entries)) (key : String) :
    written? document key = entries.lookup key := by
  rw [written?, found]

private theorem ofDocument_eq_ok_iff : ofDocument document = .ok d ↔ IsAcceptable document ∧ d = ofWritten document := by
  unfold ofDocument
  split
  · rename_i absent
    have silent (key : String) : written? document key = none := by
      rw [written?, absent]
    have built_in : ofWritten document = {} := by
      simp only [ofWritten, silent, Option.getD_none]
    have acceptable : IsAcceptable document := by
      constructor
      · intro value there
        rw [absent] at there
        cases there
      · intro value said
        rw [silent] at said
        cases said
    rw [built_in, and_iff_right acceptable, Except.ok.injEq, eq_comm]
  · rename_i entries found
    have said := written?_of_dict found
    have known : ofKnown entries = ofWritten document := by
      simp only [ofWritten, said]
      rfl
    rw [ofSection_eq_ok_iff, known]
    constructor
    · rintro ⟨meant, rfl, items, list⟩
      refine ⟨⟨fun value there => ⟨entries, ?_, meant⟩, fun value there => ⟨items, ?_⟩⟩, rfl⟩
      · exact Option.some.inj (there.symm.trans found)
      · rw [← list, ofWritten, there]
        rfl
    · rintro ⟨⟨section_known, percentiles_list⟩, rfl⟩
      obtain ⟨_, same, meant⟩ := section_known _ found
      obtain rfl := Value.dict.inj same
      refine ⟨meant, rfl, ?_⟩
      cases there : written? document "percentiles" with
      | none => exact ⟨[], by rw [ofWritten, there]; rfl⟩
      | some value =>
        obtain ⟨items, list⟩ := percentiles_list value there
        exact ⟨items, by rw [ofWritten, there, list]; rfl⟩
  · rename_i value no_dict found
    refine iff_of_false (by simp) ?_
    rintro ⟨⟨section_known, -⟩, -⟩
    obtain ⟨entries, rfl, -⟩ := section_known value found
    exact no_dict entries rfl

end Document

section Load

variable {files : Files} {path : Value} {document : List (String × Value)} {e : Environment} {d loaded : Defaults}

private theorem ofFile_of_reads (reads : Reads files path document) : ofFile files path = ofDocument document := by
  cases reads with
  | unset source => exact ofFile_of_none source
  | @file text _ named parsed =>
    have truth : (Value.text text).isTrue := by simpa [Value.isTrue] using named
    obtain ⟨cs, read, parsed⟩ := Failure.bind_eq_ok_iff.mp parsed
    unfold ofFile
    rw [if_pos truth]
    dsimp only
    rw [read]
    change (Toml.parse cs >>= ofDocument) = _
    rw [parsed]
    rfl

private theorem load_eq_ok_iff (reads : Reads files path document) :
    load files path e = .ok loaded ↔
      IsAcceptable document ∧ e.LeadsTo (ofWritten document) loaded ∧ loaded.validate = .ok () := by
  rw [load_eq, ofFile_of_reads reads, Failure.bind_eq_ok_iff]
  simp only [ofDocument_eq_ok_iff, Failure.bind_eq_ok_iff]
  constructor
  · rintro ⟨_, ⟨acceptable, rfl⟩, _, taken, _, checked, same⟩
    cases same
    exact ⟨acceptable, leadsTo_of_override (Prod.ext taken rfl), checked⟩
  · rintro ⟨acceptable, leads, checked⟩
    have overridden := override_eq_ok_iff.mpr leads
    refine ⟨ofWritten document, ⟨acceptable, rfl⟩, (), ?_, (), ?_, ?_⟩
    · rw [overridden]
    · rw [overridden]
      exact checked
    · rw [overridden]
      rfl

/-- Loading succeeds exactly for an acceptable document of which every field that no variable replaces is
usable, when the variables that are set can be read and are usable. -/
private theorem exists_load_iff (reads : Reads files path document) :
    (∃ loaded, load files path e = .ok loaded) ↔ IsAcceptable document ∧ e.Settles (ofWritten document) := by
  simp only [load_eq_ok_iff reads, exists_and_left]
  refine and_congr_right fun _ => ?_
  simp only [validate_eq_ok_iff]
  constructor
  · rintro ⟨after, leads, sized, seeded, listed⟩
    exact ⟨usable_iff.mpr ⟨_, leads.size, sized⟩, usable_iff.mpr ⟨_, leads.seed, seeded⟩,
      usable_iff.mpr ⟨_, leads.percentiles, listed⟩⟩
  · rintro ⟨sized, seeded, listed⟩
    obtain ⟨size, size_said, sized⟩ := usable_iff.mp sized
    obtain ⟨seed, seed_said, seeded⟩ := usable_iff.mp seeded
    obtain ⟨percentiles, percentiles_said, listed⟩ := usable_iff.mp listed
    exact ⟨⟨size, seed, percentiles⟩, ⟨size_said, seed_said, percentiles_said⟩, sized, seeded, listed⟩

private theorem load_of_no_list (reads : Reads files path document) {value : Value}
    (there : written? document "percentiles" = some value) (no_list : ∀ items, value ≠ .list items) :
    ∃ failure, load files path e = .error failure ∧ failure.IsBadInput := by
  cases made : ofDocument document with
  | ok d =>
    obtain ⟨acceptable, -⟩ := ofDocument_eq_ok_iff.mp made
    obtain ⟨items, list⟩ := acceptable.percentiles_list value there
    exact absurd list (no_list items)
  | error failure =>
    refine ⟨failure, ?_, failsOnly_ofDocument document failure made⟩
    rw [load_eq, ofFile_of_reads reads, made]
    rfl

end Load

/-- The layers of a configuration compose.  Variables that can be read over some defaults can be read over
any; what one set of variables and then another make of defaults, both together make of them, and a set that
is taken twice is taken once; and each field is changed by its own variable only.  When loading succeeds, each
field is what its variable says, or else the document, or else what is built in; and for an acceptable
document it succeeds exactly when these are usable, so what a variable replaces need not be.  But percentiles
that are not a list are refused in any case. -/
theorem layers_compose {first second both : List (String × String)} {c c' : Defaults}
    (joined : ∀ name, both.lookup name = (second.lookup name <|> first.lookup name))
    (first_taken : (overrideGiven (texts first) c).1 = .ok ())
    (second_taken : (overrideGiven (texts second) c').1 = .ok ()) :
    (∀ d, ∃ middle after,
      overrideGiven (texts first) d = (.ok (), middle) ∧
      overrideGiven (texts second) middle = (.ok (), after) ∧
      overrideGiven (texts both) d = (.ok (), after) ∧
      overrideGiven (texts first) middle = (.ok (), middle) ∧
      (ofTexts first).LeadsTo d middle) ∧
    ∀ files path document e, Reads files path document →
      (∀ loaded, load files path e = .ok loaded → e.LeadsTo (ofWritten document) loaded) ∧
      (IsAcceptable document →
        ((∃ loaded, load files path e = .ok loaded) ↔ e.Settles (ofWritten document))) ∧
      ∀ value, written? document "percentiles" = some value → (∀ items, value ≠ .list items) →
        ∃ failure, load files path e = .error failure ∧ failure.IsBadInput := by
  constructor
  · intro d
    have first_leads := overrideGiven_texts_eq_ok_iff.mp (Prod.ext first_taken rfl)
    have second_leads := overrideGiven_texts_eq_ok_iff.mp (Prod.ext second_taken rfl)
    obtain ⟨middle, before⟩ := first_leads.anywhere d
    obtain ⟨after, later⟩ := second_leads.anywhere middle
    have together : (ofTexts both).LeadsTo d after := by
      rw [ofTexts_joined joined]
      exact before.trans later
    exact ⟨middle, after, overrideGiven_texts_eq_ok_iff.mpr before, overrideGiven_texts_eq_ok_iff.mpr later,
      overrideGiven_texts_eq_ok_iff.mpr together, overrideGiven_texts_eq_ok_iff.mpr before.again, before⟩
  · intro files path document e reads
    refine ⟨fun loaded done => ?_, fun acceptable => ?_, fun value there no_list => ?_⟩
    · exact ((load_eq_ok_iff reads).mp done).2.1
    · rw [exists_load_iff reads, and_iff_right acceptable]
    · exact load_of_no_list reads there no_list

private theorem reads_singleFile {cs : List Char} {document : List (String × Value)}
    (parsed : Toml.parse (Text.unifyLineEnds cs) = .ok document) :
    Reads (singleFile (cs.flatMap String.utf8EncodeChar)) (.text "a.toml") document := by
  have decoded := Text.Utf8.decode_eq_ok_iff.mpr (rfl : cs.flatMap String.utf8EncodeChar = _)
  refine .file (by decide) ?_
  rw [readFile_of_find (by decide) rfl, decoded]
  exact parsed

def uselessSection : List Char :=
  "[histogram]\nreservoir_size = 0\nreservoir_seed = true\npercentiles = [\"high\"]\n".toList

def isUseless : List (String × Value) → Bool
  | [("histogram", .dict [("reservoir_size", .number (.int 0)), ("reservoir_seed", .bool true),
      ("percentiles", .list [.text "high"])])] => true
  | _ => false

private theorem isAcceptable_of_isUseless {document : List (String × Value)} (useless : isUseless document) :
    IsAcceptable document := by
  unfold isUseless at useless
  split at useless
  · refine ⟨fun value there => ?_, fun value there => ?_⟩
    · obtain rfl := Option.some.inj there
      exact ⟨_, rfl, rfl⟩
    · obtain rfl := Option.some.inj there
      exact ⟨_, rfl⟩
  · contradiction

private theorem exists_of_any_toOption {α : Type} {x : Except Failure α} {p : α → Bool}
    (given : x.toOption.any p) : ∃ a, x = .ok a ∧ p a := by
  cases x with
  | error failure => cases given
  | ok a => exact ⟨a, rfl, given⟩

private theorem exists_reads_useless :
    ∃ document, Reads (singleFile (uselessSection.flatMap String.utf8EncodeChar)) (.text "a.toml") document ∧
      isUseless document := by
  have parsed : (Toml.parse (Text.unifyLineEnds uselessSection)).toOption.any isUseless := by decide +kernel
  obtain ⟨document, found, useless⟩ := exists_of_any_toOption parsed
  exact ⟨document, reads_singleFile found, useless⟩

def earlyTexts : List (String × String) :=
  [(sizeVariable, "64"), (seedVariable, " Random ")]

def lateTexts : List (String × String) :=
  [(seedVariable, "-7"), (percentilesVariable, "90,, inf")]

theorem layers_compose_useless :
    (∀ name, (lateTexts ++ earlyTexts).lookup name = (lateTexts.lookup name <|> earlyTexts.lookup name)) ∧
      (overrideGiven (texts earlyTexts) { reservoirSeed := .bool true }).1 = .ok () ∧
      (overrideGiven (texts lateTexts) {}).1 = .ok () ∧
      (∀ d, (overrideGiven (texts (lateTexts ++ earlyTexts)) d).1 = .ok ()) ∧
      ∃ loaded, load (singleFile (uselessSection.flatMap String.utf8EncodeChar)) (.text "a.toml")
        (ofTexts (lateTexts ++ earlyTexts)) = .ok loaded := by
  have joined (name : String) :
      (lateTexts ++ earlyTexts).lookup name = (lateTexts.lookup name <|> earlyTexts.lookup name) := by
    simp [List.lookup_append]
  have first_taken : (overrideGiven (texts earlyTexts) { reservoirSeed := .bool true }).1 = .ok () := rfl
  have second_taken : (overrideGiven (texts lateTexts) {}).1 = .ok () := rfl
  obtain ⟨in_turn, loading⟩ := layers_compose joined first_taken second_taken
  obtain ⟨document, reads, useless⟩ := exists_reads_useless
  obtain ⟨-, succeeds, -⟩ := loading _ _ _ (ofTexts (lateTexts ++ earlyTexts)) reads
  refine ⟨joined, first_taken, second_taken, fun d => ?_,
    (succeeds (isAcceptable_of_isUseless useless)).mpr ⟨?_, ?_, ?_⟩⟩
  · obtain ⟨_, _, -, -, together, -⟩ := in_turn d
    rw [together]
  · exact ⟨64, rfl, 64, by decide, rfl⟩
  · exact ⟨some (-7), rfl, Or.inr ⟨-7, rfl⟩⟩
  · have numbers : (readPercentiles "90,, inf").toOption.any fun values => values.all fun x => !x.isNaN := by
      decide +kernel
    obtain ⟨values, read, numbers⟩ := exists_of_any_toOption numbers
    refine ⟨values, read, _, rfl, fun item present => ?_⟩
    obtain ⟨x, there, rfl⟩ := List.mem_map.mp present
    exact checkPercentile_eq_ok_iff.mpr ⟨.float x, x, rfl, rfl, by simpa using List.all_eq_true.mp numbers x there⟩

end Defaults

end SampledMetrics
