import SampledMetrics.Failure
import SampledMetrics.Log.Record
import SampledMetrics.Proofs.Json.RoundTrip
/-!
Log records and error envelopes as JSON say what they are made of, on one line each.  Parts that are absent
have no member, so what is read back has exactly the members of the parts that are there.
-/

set_option autoImplicit false
set_option relaxedAutoImplicit false

namespace SampledMetrics

def Json.Document.texts (members : List (String × String)) : Json.Document :=
  .object (members.map fun member => (member.1, .string member.2))

private theorem Json.Document.texts_injective {members members' : List (String × String)}
    (same : Json.Document.texts members = .texts members') : members = members' := by
  refine List.map_injective_iff.mpr ?_ (Json.Document.object.inj same)
  intro m m' equal
  simpa [Prod.ext_iff] using equal

private theorem Json.eq_of_object_eq {members members' : List (String × String)}
    (same : Json.object (members.map fun m => (m.1, Json.quote m.2)) =
      Json.object (members'.map fun m => (m.1, Json.quote m.2))) : members = members' := by
  have read := Json.read?_object members
  rw [same, Json.read?_object] at read
  exact (Json.Document.texts_injective (Option.some.inj read)).symm

def Value.ofText? : Option String → Value
  | none => .null
  | some value => .text value

def memberOf (name : String) (text : Option String) : List (String × String) :=
  (text.map fun text => (name, text)).toList

private theorem lookup_memberOf (name key : String) (text : Option String) :
    (memberOf name text).lookup key = if key = name then text else none := by
  cases text with
  | none => simp [memberOf]
  | some text => by_cases same : key = name <;> simp [memberOf, same]

/-- A record of texts with the time that it is stamped with; what it is about and its error may be absent. -/
structure TextRecord where
  stamp : String
  level : Log.Level
  logger : String
  message : String
  histogram : Option String
  group : Option String
  error : Option String

namespace TextRecord

def record (t : TextRecord) : Record :=
  ⟨t.logger, t.level, t.message, .ofText? t.histogram, .ofText? t.group, t.error⟩

def line (t : TextRecord) : String :=
  t.record.toJson t.stamp

def contextMembers (t : TextRecord) : List (String × String) :=
  [("ts", t.stamp), ("level", t.level.text), ("logger", t.logger), ("msg", t.message)]
    ++ memberOf "histogram" t.histogram ++ memberOf "group" t.group

def members (t : TextRecord) : List (String × String) :=
  t.contextMembers ++ memberOf "exc_info" t.error

/-- Two records say the same: only the number of a level may differ where its name does not. -/
def Same (t u : TextRecord) : Prop :=
  t.stamp = u.stamp ∧ t.level.text = u.level.text ∧ t.logger = u.logger ∧ t.message = u.message ∧
    t.histogram = u.histogram ∧ t.group = u.group ∧ t.error = u.error

private theorem jsonMember_ofText? (name : String) (text : Option String) :
    Record.jsonMember name (.ofText? text) = (memberOf name text).map fun m => (m.1, Json.quote m.2) := by
  cases text <;> rfl

private theorem line_eq_object (t : TextRecord) :
    t.line = Json.object (t.members.map fun m => (m.1, Json.quote m.2)) := by
  have error : (t.error.map fun error => ("exc_info", Json.quote error)).toList =
      (memberOf "exc_info" t.error).map fun m => (m.1, Json.quote m.2) := by
    cases t.error <;> rfl
  simp only [line, record, Record.toJson, jsonMember_ofText?, error, members, contextMembers, List.map_append,
    List.map_cons, List.map_nil]

private theorem read?_line (t : TextRecord) : Json.read? t.line = some (.texts t.members) := by
  rw [line_eq_object, Json.read?_object]
  rfl

private theorem lookup_members (t : TextRecord) :
    t.members.lookup "ts" = some t.stamp ∧ t.members.lookup "level" = some t.level.text ∧
      t.members.lookup "logger" = some t.logger ∧ t.members.lookup "msg" = some t.message ∧
      t.members.lookup "histogram" = t.histogram ∧ t.members.lookup "group" = t.group ∧
      t.members.lookup "exc_info" = t.error := by
  simp [members, contextMembers, List.lookup_cons, List.lookup_append, lookup_memberOf]

private theorem visible_of_mem_line {t : TextRecord} {c : Char} (member : c ∈ t.line.toList) :
    0x20 ≤ c.toNat := by
  rw [line_eq_object] at member
  exact Json.visible_of_mem_object member

private theorem line_eq_iff (t u : TextRecord) : t.line = u.line ↔ t.Same u := by
  constructor
  · intro same
    rw [line_eq_object, line_eq_object] at same
    have members := Json.eq_of_object_eq same
    obtain ⟨stamp, level, logger, message, histogram, group, error⟩ := t.lookup_members
    rw [members] at stamp level logger message histogram group error
    obtain ⟨stamp', level', logger', message', histogram', group', error'⟩ := u.lookup_members
    exact ⟨Option.some.inj (stamp.symm.trans stamp'), Option.some.inj (level.symm.trans level'),
      Option.some.inj (logger.symm.trans logger'), Option.some.inj (message.symm.trans message'),
      histogram.symm.trans histogram', group.symm.trans group', error.symm.trans error'⟩
  · rintro ⟨stamp, level, logger, message, histogram, group, error⟩
    rw [line_eq_object, line_eq_object]
    simp only [members, contextMembers, stamp, level, logger, message, histogram, group, error]

end TextRecord

namespace Envelope

def ofTexts (error detail : String) (hint : Option String) : Envelope :=
  ⟨.text error, .text detail, .ofText? hint⟩

/-- The members of an envelope of texts; an empty hint has none. -/
def members (error detail : String) (hint : Option String) : List (String × String) :=
  [("error", error), ("detail", detail)] ++ memberOf "hint" (hint.filter (· ≠ ""))

private theorem lookup_members (error detail : String) (hint : Option String) :
    (members error detail hint).lookup "error" = some error ∧
      (members error detail hint).lookup "detail" = some detail ∧
      (members error detail hint).lookup "hint" = hint.filter (· ≠ "") := by
  simp [members, List.lookup_cons, lookup_memberOf]

private theorem toJson_ofTexts (error detail : String) (hint : Option String) :
    (ofTexts error detail hint).toJson =
      Json.object ((members error detail hint).map fun m => (m.1, Json.quote m.2)) := by
  cases hint with
  | none => rfl
  | some hint =>
    by_cases empty : hint = ""
    · subst empty
      rfl
    · simp [toJson, ofTexts, members, memberOf, Value.ofText?, Value.isTrue, Value.toJson, Option.filter,
        empty]

private theorem read?_ofTexts (error detail : String) (hint : Option String) :
    Json.read? (ofTexts error detail hint).toJson = some (.texts (members error detail hint)) := by
  rw [toJson_ofTexts, Json.read?_object]
  rfl

private theorem visible_of_mem_ofTexts {error detail : String} {hint : Option String} {c : Char}
    (member : c ∈ (ofTexts error detail hint).toJson.toList) : 0x20 ≤ c.toNat := by
  rw [toJson_ofTexts] at member
  exact Json.visible_of_mem_object member

private theorem filter_eq_filter_iff (hint hint' : Option String) :
    hint.filter (· ≠ "") = hint'.filter (· ≠ "") ↔ hint.getD "" = hint'.getD "" := by
  cases hint <;> cases hint' <;> grind [Option.filter, Option.getD]

private theorem toJson_ofTexts_eq_iff (error detail error' detail' : String) (hint hint' : Option String) :
    (ofTexts error detail hint).toJson = (ofTexts error' detail' hint').toJson ↔
      error = error' ∧ detail = detail' ∧ hint.getD "" = hint'.getD "" := by
  rw [← filter_eq_filter_iff]
  constructor
  · intro same
    rw [toJson_ofTexts, toJson_ofTexts] at same
    obtain ⟨errors, details, hints⟩ := lookup_members error detail hint
    rw [Json.eq_of_object_eq same] at errors details hints
    obtain ⟨errors', details', hints'⟩ := lookup_members error' detail' hint'
    exact ⟨Option.some.inj (errors.symm.trans errors'), Option.some.inj (details.symm.trans details'),
      hints.symm.trans hints'⟩
  · rintro ⟨rfl, rfl, hints⟩
    rw [toJson_ofTexts, toJson_ofTexts, members, members, hints]

end Envelope

/-- What is written as JSON is one line and is read back without loss.  A record gives its stamp, level,
logger and message, and its histogram, group and error if they are there, be they empty; an envelope its
error and detail, and its hint if that says something. -/
theorem lines_read_back :
    (∀ t : TextRecord, (∀ c ∈ t.line.toList, 0x20 ≤ c.toNat) ∧
      Json.read? t.line = some (.texts t.members)) ∧
    (∀ t u : TextRecord, t.line = u.line ↔ t.Same u) ∧
    (∀ (error detail : String) (hint : Option String),
      (∀ c ∈ (Envelope.ofTexts error detail hint).toJson.toList, 0x20 ≤ c.toNat) ∧
      Json.read? (Envelope.ofTexts error detail hint).toJson =
        some (.texts (Envelope.members error detail hint))) ∧
    (∀ (error detail error' detail' : String) (hint hint' : Option String),
      (Envelope.ofTexts error detail hint).toJson = (Envelope.ofTexts error' detail' hint').toJson ↔
        error = error' ∧ detail = detail' ∧ hint.getD "" = hint'.getD "") :=
  ⟨fun t => ⟨fun _ member => t.visible_of_mem_line member, t.read?_line⟩, TextRecord.line_eq_iff,
    fun error detail hint => ⟨fun _ member => Envelope.visible_of_mem_ofTexts member,
      Envelope.read?_ofTexts error detail hint⟩,
    Envelope.toJson_ofTexts_eq_iff⟩

/-- An error has a member too, so that not only what the record is about is read. -/
theorem line_tells_error :
    let t : TextRecord :=
      ⟨"1970-01-01T00:00:00", .number 40, "histometrics", "m", none, none, some "RuntimeError: boom"⟩
    Json.read? t.line = some (.texts (t.contextMembers ++ [("exc_info", "RuntimeError: boom")])) ∧
      Json.read? t.line ≠ some (.texts t.contextMembers) := by
  intro t
  have read := t.read?_line
  refine ⟨read, fun same => ?_⟩
  rw [read, Option.some_inj] at same
  have count := congrArg List.length (Json.Document.texts_injective same)
  exact absurd count (by decide)

end SampledMetrics
