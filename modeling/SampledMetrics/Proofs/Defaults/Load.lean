import SampledMetrics.Defaults.Load
import SampledMetrics.Proofs.Defaults.Override
import SampledMetrics.Proofs.Defaults.Validation
import SampledMetrics.Proofs.Number
import SampledMetrics.Proofs.Text.Utf8
import SampledMetrics.Proofs.Toml.Refusal
/-!
Loading defaults, and the ways in which it fails.  What a file and the variables say is either accepted or
refused as bad input, except where a step of the way meets what it is not made for: bytes that are not UTF-8,
a document beyond the limits of its reader, and percentiles that the check cannot judge.  Main statement:
loading ends as documented exactly when none of these is met.
-/

set_option autoImplicit false
set_option relaxedAutoImplicit false

namespace SampledMetrics

/-- An error for bad input, or one of a class that specialises it. -/
def Failure.IsBadInput (failure : Failure) : Prop :=
  ∃ c, failure.kind = .own c ∧ c.isA .badInput

/-- A failure of a kind that no caller of loading is told of. -/
def Failure.IsStray (failure : Failure) : Prop :=
  failure.kind ∈ [.undecodable, .recursion, .badValue, .overflow]

private theorem Failure.isBadInput_of_kind {failure : Failure} (kind : failure.kind = .own .badInput) :
    failure.IsBadInput :=
  ⟨.badInput, kind, rfl⟩

private theorem Failure.IsStray.not_isBadInput {failure : Failure} (stray : failure.IsStray) :
    ¬failure.IsBadInput := by
  rintro ⟨c, own, -⟩
  rw [IsStray, own] at stray
  simp at stray

/-- Whether the check of percentiles can judge an entry: a number must be in the range of binary64, and
anything else must have a text, since the refusal shows it. -/
def Value.isJudged (value : Value) : Bool :=
  match value.number? with
  | some x => x.inRange
  | none => value.isShowable

namespace Defaults

open Failure (IsBadInput IsStray isBadInput_of_kind)

section Check

variable {value : Value} {d : Defaults}

private theorem failsOnly_checkSize : FailsOnly IsBadInput (checkSize value) := by
  unfold checkSize
  split
  · exact .ite (.error (isBadInput_of_kind rfl)) (.ok ())
  · exact .error (isBadInput_of_kind rfl)

private theorem failsOnly_checkSeed : FailsOnly IsBadInput (checkSeed value) := by
  unfold checkSeed
  split
  · exact .ok ()
  · exact .ok ()
  · exact .error (isBadInput_of_kind rfl)

private theorem failsOnly_checkPercentile (judged : value.isJudged) : FailsOnly IsBadInput (checkPercentile value) := by
  unfold Value.isJudged at judged
  unfold checkPercentile
  cases found : value.number? with
  | none =>
    rw [found] at judged
    have shown : value.obstacle? = none := Option.isNone_iff_eq_none.mp judged
    dsimp only
    rw [Failure.showing, shown]
    exact .error (isBadInput_of_kind rfl)
  | some x =>
    rw [found] at judged
    obtain ⟨real, converted⟩ := Option.isSome_iff_exists.mp ((Number.isSome_toBinary64? x).trans judged)
    dsimp only
    rw [converted]
    exact .ite (.error (isBadInput_of_kind rfl)) (.ok ())

private theorem checkPercentile_stray (unjudged : value.isJudged = false) :
    ∃ failure, checkPercentile value = .error failure ∧ failure.IsStray := by
  unfold Value.isJudged at unjudged
  unfold checkPercentile
  cases found : value.number? with
  | none =>
    rw [found] at unjudged
    have hindered : value.obstacle? ≠ none := by
      intro shown
      rw [Value.isShowable, shown] at unjudged
      contradiction
    obtain ⟨obstacle, hindrance⟩ := Option.ne_none_iff_exists'.mp hindered
    refine ⟨Failure.ofObstacle obstacle, by simp [Failure.showing, hindrance], ?_⟩
    cases obstacle with
    | digits => simp [IsStray, Failure.ofObstacle, Failure.kind]
    | depth => simp [IsStray, Failure.ofObstacle, Failure.kind]
  | some x =>
    rw [found] at unjudged
    have beyond : x.toBinary64? = none := by
      rw [← Option.not_isSome_iff_eq_none, Number.isSome_toBinary64?]
      simpa using unjudged
    refine ⟨.integerTooLarge, by simp [beyond], ?_⟩
    simp [IsStray, Failure.kind]

private theorem failsOnly_checkPercentile_iff : FailsOnly IsBadInput (checkPercentile value) ↔ value.isJudged := by
  constructor
  · intro only
    refine Bool.of_not_eq_false fun unjudged => ?_
    obtain ⟨failure, refused, stray⟩ := checkPercentile_stray unjudged
    exact stray.not_isBadInput (only failure refused)
  · exact failsOnly_checkPercentile

/-- The check can judge every percentile that it comes to: when the size and the seed are accepted, those are
the entries before which all are accepted. -/
def IsJudged (d : Defaults) : Prop :=
  checkSize d.reservoirSize = .ok () → checkSeed d.reservoirSeed = .ok () →
    ∃ items, d.percentiles.items? = some items ∧
      ∀ before item after, items = before ++ item :: after →
        (∀ earlier ∈ before, checkPercentile earlier = .ok ()) → item.isJudged

private theorem failsOnly_validate_iff : FailsOnly IsBadInput d.validate ↔ d.IsJudged := by
  unfold validate IsJudged
  rw [FailsOnly.seq_iff, and_iff_right failsOnly_checkSize, FailsOnly.seq_iff,
    and_iff_right failsOnly_checkSeed]
  refine imp_congr_right fun _ => imp_congr_right fun _ => ?_
  cases d.percentiles.items? with
  | none =>
    refine iff_of_false (fun only => ?_) (by simp)
    obtain ⟨c, own, -⟩ := FailsOnly.error_iff.mp only
    contradiction
  | some items =>
    simp only [Option.some.injEq, exists_eq_left', FailsOnly.forM_iff, failsOnly_checkPercentile_iff]

private theorem failsOnly_validate {items : List Value} (listed : d.percentiles.items? = some items) :
    FailsOnly (fun failure => failure.IsBadInput ∨ failure.IsStray) d.validate := by
  unfold validate
  refine FailsOnly.seq_iff.mpr ⟨failsOnly_checkSize.mono fun _ => Or.inl, fun _ => ?_⟩
  refine FailsOnly.seq_iff.mpr ⟨failsOnly_checkSeed.mono fun _ => Or.inl, fun _ => ?_⟩
  rw [listed]
  refine FailsOnly.forM_iff.mpr fun _ item _ _ _ => ?_
  cases judged : item.isJudged with
  | false =>
    obtain ⟨failure, refused, stray⟩ := checkPercentile_stray judged
    rw [refused]
    exact .error (Or.inr stray)
  | true => exact (failsOnly_checkPercentile judged).mono fun _ => Or.inl

private theorem isJudged_of_items {items : List Value} (listed : d.percentiles.items? = some items)
    (judged : ∀ item ∈ items, item.isJudged) : d.IsJudged := by
  intro _ _
  refine ⟨items, listed, ?_⟩
  rintro before item after rfl _
  exact judged item (List.mem_append_right before List.mem_cons_self)

private theorem isJudged_of_floats {values : List Binary64} (listed : d.percentiles = .list (values.map .float)) :
    d.IsJudged := by
  have iterable : d.percentiles.items? = some (values.map .float) := by
    rw [listed]
    rfl
  refine isJudged_of_items iterable fun item present => ?_
  obtain ⟨x, -, rfl⟩ := List.mem_map.mp present
  rfl

end Check

section Variables

open Environment

private theorem failsOnly_readInteger (name raw : String) : FailsOnly IsBadInput (readInteger name raw) := by
  unfold readInteger
  split
  · exact .ok _
  · exact .error (isBadInput_of_kind rfl)

private theorem failsOnly_readSeed (raw : String) : FailsOnly IsBadInput (readSeed raw) :=
  .ite (.ok none) (.map some (failsOnly_readInteger seedVariable raw))

private theorem failsOnly_readPercentiles (raw : String) : FailsOnly IsBadInput (readPercentiles raw) := by
  unfold readPercentiles
  split
  · exact .ok _
  · exact .error (isBadInput_of_kind rfl)

private theorem failsOnly_override (e : Environment) (d : Defaults) : FailsOnly IsBadInput (e.override d).1 := by
  intro failure refused
  rcases override_eq_error (Prod.ext refused rfl) with
    ⟨raw, -, unread, -⟩ | ⟨raw, -, unread, -⟩ | ⟨raw, -, unread, -⟩
  · exact failsOnly_readInteger sizeVariable raw failure unread
  · exact failsOnly_readSeed raw failure unread
  · exact failsOnly_readPercentiles raw failure unread

end Variables

section Documents

private theorem failsOnly_ofSection (entries : List (String × Value)) : FailsOnly IsBadInput (ofSection entries) := by
  unfold ofSection
  split
  · exact .ok _
  · exact .error (isBadInput_of_kind rfl)
  · exact .error (isBadInput_of_kind rfl)

theorem failsOnly_ofDocument (document : List (String × Value)) :
    FailsOnly IsBadInput (ofDocument document) := by
  unfold ofDocument
  split
  · exact .ok _
  · exact failsOnly_ofSection _
  · exact .error (isBadInput_of_kind rfl)

private theorem ofSection_list {entries : List (String × Value)} {d : Defaults} (made : ofSection entries = .ok d) :
    ∃ items, d.percentiles = .list items := by
  unfold ofSection at made
  split at made
  · rename_i items _ list
    cases made
    exact ⟨items, list⟩
  · contradiction
  · contradiction

private theorem ofDocument_list {document : List (String × Value)} {d : Defaults} (made : ofDocument document = .ok d) :
    ∃ items, d.percentiles = .list items := by
  unfold ofDocument at made
  split at made
  · cases made
    exact ⟨[], rfl⟩
  · exact ofSection_list made
  · contradiction

private theorem override_list {e : Environment} {d after : Defaults} {items : List Value}
    (list : d.percentiles = .list items) (done : e.override d = (.ok (), after)) :
    ∃ items, after.percentiles = .list items := by
  have said := (Environment.leadsTo_of_override done).percentiles
  cases set : e.percentiles with
  | none =>
    rw [set] at said
    exact ⟨items, said.trans list⟩
  | some raw =>
    rw [set] at said
    obtain ⟨values, -, same⟩ := said
    exact ⟨values.map .float, same⟩

end Documents

/-- What is at the path of a configuration: no file is meant, or there is one with these bytes. -/
inductive Source (files : Files) : Value → Option (List UInt8) → Prop
  | unset : Source files .null none
  | empty : Source files (.text "") none
  | file (path : String) (bytes : List UInt8) (plain : '\x00' ∉ path.toList)
      (found : files.find (Path.ofText path) = .file bytes) : Source files (.text path) (some bytes)

/-- The outcome that is documented: defaults that the check accepts, or an error for bad input. -/
def Documented (outcome : Except Failure Defaults) : Prop :=
  (∀ d, outcome = .ok d → d.validate = .ok ()) ∧ FailsOnly IsBadInput outcome

/-- Bytes of a file that every step of loading is made for, with the variables given: they are a text, its
document is read to the end or refused for what it says, and the check can judge the percentiles that come
out in the end. -/
def IsLoadable (bytes : List UInt8) (e : Environment) : Prop :=
  ∃ cs : List Char, bytes = cs.flatMap String.utf8EncodeChar ∧
    (∀ failure, Toml.parse (Text.unifyLineEnds cs) = .error failure → failure = .malformedDocument) ∧
    ∀ document d after, Toml.parse (Text.unifyLineEnds cs) = .ok document → ofDocument document = .ok d →
      e.override d = (.ok (), after) → after.IsJudged

section Loading

variable {files : Files} {path : Value} {bytes : List UInt8} {sort : Failure → Prop}

theorem ofFile_of_none (source : Source files path none) : ofFile files path = .ok {} := by
  cases source with
  | unset => rfl
  | empty => rfl

theorem readFile_of_find {text : String} (plain : '\x00' ∉ text.toList)
    (found : files.find (Path.ofText text) = .file bytes) :
    readFile files text = (Text.Utf8.decode bytes).map Text.unifyLineEnds := by
  unfold readFile
  rw [if_neg (by simpa using plain), found]

private theorem ofFile_of_file (source : Source files path (some bytes)) :
    ofFile files path =
      (Text.Utf8.decode bytes).map Text.unifyLineEnds >>= fun cs => Toml.parse cs >>= ofDocument := by
  obtain _ | _ | ⟨text, _, plain, found⟩ := source
  have named : text ≠ "" := by
    rintro rfl
    cases found
  unfold ofFile
  rw [if_pos (by simpa [Value.isTrue] using named)]
  dsimp only
  rw [readFile_of_find plain found]

theorem load_eq (files : Files) (path : Value) (e : Environment) :
    load files path e = ofFile files path >>= fun d =>
      (e.override d).1 >>= fun _ => (e.override d).2.validate >>= fun _ => pure (e.override d).2 := rfl

private theorem failsOnly_load_iff (e : Environment) :
    FailsOnly sort (load files path e) ↔
      FailsOnly sort (ofFile files path) ∧ ∀ d, ofFile files path = .ok d →
        FailsOnly sort (e.override d).1 ∧ ∀ after, e.override d = (.ok (), after) →
          FailsOnly sort after.validate := by
  rw [load_eq, FailsOnly.bind_iff]
  refine and_congr_right fun _ => forall_congr' fun d => imp_congr_right fun _ => ?_
  rcases overridden : e.override d with ⟨result, after⟩
  have last : FailsOnly sort (after.validate >>= fun _ => pure after) ↔ FailsOnly sort after.validate :=
    FailsOnly.seq_iff.trans (and_iff_left fun _ => .ok after)
  rw [FailsOnly.seq_iff, last]
  refine and_congr_right fun _ => ?_
  constructor
  · intro checked after' same
    cases same
    exact checked rfl
  · rintro checked rfl
    exact checked after rfl

private theorem validate_of_load {e : Environment} {d : Defaults} (loaded : load files path e = .ok d) :
    d.validate = .ok () := by
  obtain ⟨_, -, loaded⟩ := Failure.bind_eq_ok_iff.mp loaded
  obtain ⟨_, -, loaded⟩ := Failure.bind_eq_ok_iff.mp loaded
  obtain ⟨_, checked, same⟩ := Failure.bind_eq_ok_iff.mp loaded
  cases same
  exact checked

private theorem failsOnly_decode_iff :
    FailsOnly IsBadInput (Text.Utf8.decode bytes) ↔ ∃ cs : List Char, bytes = cs.flatMap String.utf8EncodeChar := by
  simp only [← Text.Utf8.decode_eq_ok_iff]
  constructor
  · intro only
    cases decoded : Text.Utf8.decode bytes with
    | ok cs => exact ⟨cs, rfl⟩
    | error failure =>
      obtain ⟨c, own, -⟩ := only failure decoded
      have foreign := Text.Utf8.failsOnly_decodeFrom none failure decoded
      rw [foreign] at own
      contradiction
  · rintro ⟨cs, decoded⟩
    rw [decoded]
    exact .ok cs

private theorem failsOnly_parse_iff {cs : List Char} :
    FailsOnly IsBadInput (Toml.parse cs) ↔
      ∀ failure, Toml.parse cs = .error failure → failure = .malformedDocument := by
  constructor
  · intro only failure refused
    obtain ⟨c, own, -⟩ := only failure refused
    rcases Toml.onlyRefuses_parse cs failure refused with malformed | rfl | ⟨digits, -, rfl⟩
    · exact malformed
    · contradiction
    · contradiction
  · intro malformed failure refused
    obtain rfl := malformed failure refused
    exact isBadInput_of_kind rfl

private theorem failsOnly_load_file_iff {e : Environment} (source : Source files path (some bytes)) :
    FailsOnly IsBadInput (load files path e) ↔ IsLoadable bytes e := by
  rw [failsOnly_load_iff, ofFile_of_file source, FailsOnly.bind_iff, FailsOnly.map_iff, failsOnly_decode_iff]
  constructor
  · rintro ⟨⟨⟨cs, written⟩, document_read⟩, rest⟩
    rw [Text.Utf8.decode_eq_ok_iff.mpr written] at document_read rest
    obtain ⟨parsed, -⟩ := FailsOnly.bind_iff.mp (document_read _ rfl)
    refine ⟨cs, written, failsOnly_parse_iff.mp parsed, fun document d after found made done => ?_⟩
    have reached : (Toml.parse (Text.unifyLineEnds cs) >>= ofDocument) = .ok d :=
      Failure.bind_eq_ok_iff.mpr ⟨document, found, made⟩
    exact failsOnly_validate_iff.mp ((rest d reached).2 after done)
  · rintro ⟨cs, written, parsed, judged⟩
    rw [Text.Utf8.decode_eq_ok_iff.mpr written]
    refine ⟨⟨⟨cs, written⟩, ?_⟩, fun d reached => ?_⟩
    · rintro _ ⟨⟩
      exact .bind (failsOnly_parse_iff.mpr parsed) failsOnly_ofDocument
    · have made_of : (Toml.parse (Text.unifyLineEnds cs) >>= ofDocument) = .ok d := reached
      obtain ⟨document, found, made⟩ := Failure.bind_eq_ok_iff.mp made_of
      exact ⟨failsOnly_override e d, fun after done =>
        failsOnly_validate_iff.mpr (judged document d after found made done)⟩

private theorem isJudged_of_builtIn {e : Environment} {after : Defaults} (done : e.override {} = (.ok (), after)) :
    after.IsJudged := by
  have said := (Environment.leadsTo_of_override done).percentiles
  cases set : e.percentiles with
  | none =>
    rw [set] at said
    exact isJudged_of_floats (said.trans (by rfl : Value.list [] = .list ([].map Value.float)))
  | some raw =>
    rw [set] at said
    obtain ⟨values, -, same⟩ := said
    exact isJudged_of_floats same

private theorem failsOnly_load_of_none (source : Source files path none) (e : Environment) :
    FailsOnly IsBadInput (load files path e) := by
  rw [failsOnly_load_iff, ofFile_of_none source]
  refine ⟨.ok _, ?_⟩
  rintro _ ⟨⟩
  exact ⟨failsOnly_override e {}, fun after done => failsOnly_validate_iff.mpr (isJudged_of_builtIn done)⟩

/-- A document and the variables over it have percentiles that are a list, so no failure is left but those
for bad input and the stray ones. -/
private theorem failsOnly_load {source : Option (List UInt8)} (given : Source files path source) (e : Environment) :
    FailsOnly (fun failure => failure.IsBadInput ∨ failure.IsStray) (load files path e) := by
  have bad_input (failure : Failure) : failure.IsBadInput → failure.IsBadInput ∨ failure.IsStray := Or.inl
  cases source with
  | none => exact (failsOnly_load_of_none given e).mono bad_input
  | some bytes =>
    rw [failsOnly_load_iff, ofFile_of_file given]
    refine ⟨.bind (.map _ ?_) fun cs => .bind ?_ fun document => ?_, fun d reached => ⟨?_, fun after done => ?_⟩⟩
    · intro failure undecodable
      have kind := Text.Utf8.failsOnly_decodeFrom none failure undecodable
      exact Or.inr (by rw [IsStray, kind]; decide)
    · intro failure refused
      rcases Toml.onlyRefuses_parse cs failure refused with rfl | rfl | ⟨digits, -, rfl⟩
      · exact Or.inl (isBadInput_of_kind rfl)
      · exact Or.inr (by simp [IsStray, Failure.kind])
      · exact Or.inr (by simp [IsStray, Failure.kind])
    · exact (failsOnly_ofDocument document).mono bad_input
    · exact (failsOnly_override e d).mono bad_input
    · obtain ⟨cs, -, made⟩ := Failure.bind_eq_ok_iff.mp reached
      obtain ⟨document, -, made⟩ := Failure.bind_eq_ok_iff.mp made
      obtain ⟨_, list⟩ := ofDocument_list made
      obtain ⟨items, list⟩ := override_list list done
      have iterable : after.percentiles.items? = some items := by
        rw [list]
        rfl
      exact failsOnly_validate iterable

/-- Loading ends with checked defaults or an error for bad input exactly when there is no file, or one that
every step is made for.  Otherwise a step lets an error of its own escape. -/
theorem load_documented_iff {source : Option (List UInt8)} (given : Source files path source)
    (e : Environment) :
    (Documented (load files path e) ↔ ∀ bytes, source = some bytes → IsLoadable bytes e) ∧
      ((∃ bytes, source = some bytes ∧ ¬IsLoadable bytes e) →
        ∃ failure, load files path e = .error failure ∧ failure.IsStray) := by
  have documented : Documented (load files path e) ↔ FailsOnly IsBadInput (load files path e) :=
    and_iff_right fun d loaded => validate_of_load loaded
  have exactly : Documented (load files path e) ↔ ∀ bytes, source = some bytes → IsLoadable bytes e := by
    rw [documented]
    cases source with
    | none => simp [failsOnly_load_of_none given e]
    | some bytes => simp [failsOnly_load_file_iff given]
  refine ⟨exactly, ?_⟩
  rintro ⟨bytes, rfl, unloadable⟩
  have undocumented : ¬FailsOnly IsBadInput (load files path e) := by
    rw [← documented, exactly]
    exact fun all => unloadable (all bytes rfl)
  cases outcome : load files path e with
  | ok d =>
    rw [outcome] at undocumented
    exact absurd (.ok d) undocumented
  | error failure =>
    rw [outcome, FailsOnly.error_iff] at undocumented
    exact ⟨failure, rfl, (failsOnly_load given e failure outcome).resolve_left undocumented⟩

end Loading

def singleFile (bytes : List UInt8) : Files := fun path =>
  if path = ⟨"", ["a.toml"]⟩ then some (.file bytes) else none

private theorem source_singleFile (bytes : List UInt8) : Source (singleFile bytes) (.text "a.toml") (some bytes) :=
  .file "a.toml" bytes (by decide) rfl

def bareSection : List Char :=
  "[histogram]\n".toList

private theorem isLoadable_bareSection (e : Environment) :
    IsLoadable (bareSection.flatMap String.utf8EncodeChar) e := by
  have parsed : Toml.parse (Text.unifyLineEnds bareSection) = .ok [("histogram", .dict [])] := rfl
  have built_in : ofDocument [("histogram", .dict [])] = .ok {} := rfl
  refine ⟨bareSection, rfl, fun failure refused => ?_, fun document d after found made done => ?_⟩
  · rw [parsed] at refused
    cases refused
  · obtain rfl := Except.ok.inj (parsed.symm.trans found)
    obtain rfl := Except.ok.inj (built_in.symm.trans made)
    exact isJudged_of_builtIn done

theorem load_documented_iff_bare :
    Source (singleFile (bareSection.flatMap String.utf8EncodeChar)) (.text "a.toml")
        (some (bareSection.flatMap String.utf8EncodeChar)) ∧
      Documented (load (singleFile (bareSection.flatMap String.utf8EncodeChar)) (.text "a.toml")
        { size := some "64", percentiles := some "90,99.9" }) := by
  have source := source_singleFile (bareSection.flatMap String.utf8EncodeChar)
  refine ⟨source, (load_documented_iff source _).1.mpr fun bytes same => ?_⟩
  rw [← Option.some.inj same]
  exact isLoadable_bareSection _

/-- One byte that is not UTF-8 is enough for an error that is not documented. -/
theorem load_undecodable :
    Source (singleFile [0xff]) (.text "a.toml") (some [0xff]) ∧
      load (singleFile [0xff]) (.text "a.toml") {} = .error (.undecodable .startByte 0 1 0xff) ∧
      ¬Documented (load (singleFile [0xff]) (.text "a.toml") {}) := by
  have source := source_singleFile [0xff]
  have undecoded : Text.Utf8.decode [0xff] = .error (.undecodable .startByte 0 1 0xff) := rfl
  have refused : load (singleFile [0xff]) (.text "a.toml") {} =
      .error (.undecodable .startByte 0 1 0xff) := by
    unfold load
    rw [ofFile_of_file source, undecoded]
    rfl
  refine ⟨source, refused, fun documented => ?_⟩
  obtain ⟨c, own, -⟩ := documented.2 _ refused
  cases own

end Defaults

end SampledMetrics
