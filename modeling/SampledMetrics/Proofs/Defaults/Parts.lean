import SampledMetrics.Proofs.Defaults.Override
/-!
The percentiles of a variable, part by part.  A text is cut at its commas, blank parts are passed over, and
each of the others is read alone.  Main statement: with a comma between them two texts are read one after
the other, and refused exactly when one of them is; and blank texts between commas make no difference.
-/

set_option autoImplicit false
set_option relaxedAutoImplicit false

namespace SampledMetrics.Environment

/-- The parts of a text between its commas, without the blank ones. -/
def filledParts (raw : String) : List (List Char) :=
  (Text.separate ',' raw.toList).filter fun part => !part.all Text.isBlank

def readPart? (part : List Char) : Option Binary64 :=
  Numeral.readBinary64? (String.ofList part)

/-- Texts with blank ones put among them, in any places. -/
inductive Padded : List String → List String → Prop
  | nil : Padded [] []
  | text (text : String) {texts padded : List String} (later : Padded texts padded) :
      Padded (text :: texts) (text :: padded)
  | blank {blank : String} (all : Text.isBlankText blank) {texts padded : List String}
      (later : Padded texts padded) : Padded texts (blank :: padded)

private theorem filledParts_comma (a b : String) : filledParts (a ++ "," ++ b) = filledParts a ++ filledParts b := by
  have joined : (a ++ "," ++ b).toList = a.toList ++ ',' :: b.toList := by
    simp [String.toList_append]
  rw [filledParts, joined, Text.separate_append, List.filter_append]
  rfl

private theorem filledParts_of_isBlankText {blank : String} (all : Text.isBlankText blank) : filledParts blank = [] := by
  have whole : ',' ∉ blank.toList := by
    intro comma
    have wrong := List.all_eq_true.mp all ',' comma
    contradiction
  rw [filledParts, Text.separate_of_not_mem whole, List.filter_eq_nil_iff]
  intro part present
  obtain rfl := List.mem_singleton.mp present
  have blank_throughout : blank.toList.all Text.isBlank := all
  rw [blank_throughout]
  exact Bool.false_ne_true

private theorem filledParts_intercalate (texts : List String) :
    filledParts (",".intercalate texts) = texts.flatMap filledParts := by
  induction texts with
  | nil => exact filledParts_of_isBlankText rfl
  | cons text rest ih =>
    cases rest with
    | nil => simp
    | cons next others =>
      rw [String.intercalate_cons_cons, filledParts_comma, ih]
      rfl

private theorem Padded.flatMap_filledParts {texts padded : List String} (padding : Padded texts padded) :
    padded.flatMap filledParts = texts.flatMap filledParts := by
  induction padding with
  | nil => rfl
  | text text _ ih => rw [List.flatMap_cons, List.flatMap_cons, ih]
  | blank all _ ih => rw [List.flatMap_cons, filledParts_of_isBlankText all, List.nil_append, ih]

private theorem readPercentiles_eq (raw : String) :
    readPercentiles raw =
      match (filledParts raw).mapM readPart? with
      | some values => .ok values
      | none => .error (.environmentPercentiles raw) := rfl

private theorem mapM_readPart?_append (front back : List (List Char)) :
    (front ++ back).mapM readPart? =
      (front.mapM readPart?).bind fun xs => (back.mapM readPart?).map fun ys => xs ++ ys := by
  rw [List.mapM_append]
  cases front.mapM readPart? with
  | none => rfl
  | some xs => cases back.mapM readPart? <;> rfl

/-- A caller's variables, with a text for the percentiles before all others. -/
def withPercentiles (others : List (String × Value)) (raw : String) : Value :=
  .dict ((percentilesVariable, .text raw) :: others)

/-- Taking the percentiles of a text, after the variables before them have been taken. -/
def takeText (base : Defaults) (raw : String) : Except Failure Unit × Defaults :=
  match readPercentiles raw with
  | .ok values => (.ok (), { base with percentiles := .list (values.map .float) })
  | .error failure => (.error failure, base)

private theorem eq_of_readInteger {name raw : String} {failure : Failure} (refused : readInteger name raw = .error failure) :
    failure = .environmentNumber name raw := by
  unfold readInteger at refused
  split at refused
  · contradiction
  · exact (Except.error.inj refused).symm

private theorem eq_of_readSeed {raw : String} {failure : Failure} (refused : readSeed raw = .error failure) :
    failure = .environmentNumber seedVariable raw := by
  unfold readSeed at refused
  split at refused
  · contradiction
  · cases found : readInteger seedVariable raw with
    | ok seed => simp [found, Except.map] at refused
    | error other =>
      simp only [found, Except.map, Except.error.injEq] at refused
      rw [← refused, eq_of_readInteger found]

/-- The variables before the percentiles either stop an override, whatever the percentiles are, or lead to
defaults into which these are taken. -/
private theorem override_percentiles (e : Environment) (d : Defaults) :
    (∃ failure after, (∀ raw, failure ≠ .environmentPercentiles raw) ∧
        ∀ raw?, ({ e with percentiles := raw? } : Environment).override d = (.error failure, after)) ∨
      ∃ base, ({ e with percentiles := none } : Environment).override d = (.ok (), base) ∧
        ∀ raw, ({ e with percentiles := some raw } : Environment).override d = takeText base raw := by
  have turns : ∀ raw?, ({ e with percentiles := raw? } : Environment).override d =
      inTurn [e.takeSize, e.takeSeed, takePercentiles { percentiles := raw? }] d := fun _ => rfl
  simp only [turns, inTurn]
  cases first : e.takeSize d with
  | error failure =>
    obtain ⟨text, -, unread⟩ := take_eq_error first
    refine .inl ⟨failure, d, fun raw same => ?_, fun raw? => rfl⟩
    have wrong := same.symm.trans (eq_of_readInteger unread)
    contradiction
  | ok middle =>
    dsimp only
    cases second : e.takeSeed middle with
    | error failure =>
      obtain ⟨text, -, unread⟩ := take_eq_error second
      refine .inl ⟨failure, middle, fun raw same => ?_, fun raw? => rfl⟩
      have wrong := same.symm.trans (eq_of_readSeed unread)
      contradiction
    | ok base =>
      refine .inr ⟨base, rfl, fun raw => ?_⟩
      dsimp only [takePercentiles, take]
      unfold takeText
      cases readPercentiles raw <;> rfl

theorem ofGiven_withPercentiles (others : List (String × Value)) (raw : String) :
    ofGiven ((percentilesVariable, .text raw) :: others) =
      match wholeText (given others sizeVariable) with
      | .error failure => ({}, some failure)
      | .ok size =>
          match textWith "strip" (given others seedVariable) with
          | .error failure => ({ size }, some failure)
          | .ok seed => ({ size, seed, percentiles := some raw }, none) := rfl

/-- Either another variable stops the call, whatever the text for the percentiles is, or the call comes to
taking this text. -/
private theorem overrideGiven_withPercentiles (others : List (String × Value)) (d : Defaults) :
    (∃ failure after, (∀ raw, failure ≠ .environmentPercentiles raw) ∧
        ∀ raw, overrideGiven (withPercentiles others raw) d = (.error failure, after)) ∨
      ∃ base, ∀ raw, overrideGiven (withPercentiles others raw) d = takeText base raw := by
  simp only [withPercentiles, overrideGiven, ofGiven_withPercentiles]
  cases sized : wholeText (given others sizeVariable) with
  | error failure =>
    refine .inl ⟨failure, d, fun raw same => ?_, fun raw => rfl⟩
    have kind := kind_of_wholeText sized
    rw [same] at kind
    contradiction
  | ok size =>
    dsimp only
    cases seeded : textWith "strip" (given others seedVariable) with
    | error failure =>
      rcases override_percentiles { size } d with ⟨stop, after, other, stops⟩ | ⟨base, taken, -⟩
      · exact .inl ⟨stop, after, other, fun raw => by simp only [stops none]⟩
      · refine .inl ⟨failure, base, fun raw same => ?_, fun raw => by simp only [taken]⟩
        have kind := kind_of_textWith seeded
        rw [same] at kind
        contradiction
    | ok seed =>
      rcases override_percentiles { size, seed } d with ⟨stop, after, other, stops⟩ | ⟨base, -, takes⟩
      · exact .inl ⟨stop, after, other, fun raw => by simp only [stops (some raw)]⟩
      · refine .inr ⟨base, fun raw => ?_⟩
        simp only [takes raw]
        rcases takeText base raw with ⟨_ | _, after⟩ <;> rfl

section TakeText

variable {base : Defaults} {raw : String}

private theorem takeText_of_some {values : List Binary64} (read : (filledParts raw).mapM readPart? = some values) :
    takeText base raw = (.ok (), { base with percentiles := .list (values.map .float) }) := by
  rw [takeText, readPercentiles_eq, read]

private theorem takeText_of_none (unread : (filledParts raw).mapM readPart? = none) :
    takeText base raw = (.error (.environmentPercentiles raw), base) := by
  rw [takeText, readPercentiles_eq, unread]

private theorem takeText_refused_iff (base : Defaults) (raw : String) :
    (takeText base raw).1 = .error (.environmentPercentiles raw) ↔ (filledParts raw).mapM readPart? = none := by
  cases read : (filledParts raw).mapM readPart? with
  | none => simp [takeText_of_none read]
  | some values => simp [takeText_of_some read]

end TakeText

/-- Percentiles whose text is two texts with a comma between them, whatever the other variables are.  The call
is refused for their text exactly when it is for one of the two.  Otherwise, unless another variable stops the
call whatever this text is, it takes the percentiles of the first text and then those of the second.  Blank
texts, in any places between commas, make no difference but for the text that a refusal names. -/
theorem overrideGiven_comma (others : List (String × Value)) (d : Defaults) :
    let call := fun raw => overrideGiven (withPercentiles others raw) d
    let unread := fun raw => (call raw).1 = .error (.environmentPercentiles raw)
    (∀ a b, unread (a ++ "," ++ b) ↔ unread a ∨ unread b) ∧
      ((∃ failure after, ∀ raw, ¬unread raw ∧ call raw = (.error failure, after)) ∨
        ∃ base : Defaults, ∀ a b, ¬unread a → ¬unread b → ∃ xs ys,
          call a = (.ok (), { base with percentiles := .list xs }) ∧
            call b = (.ok (), { base with percentiles := .list ys }) ∧
            call (a ++ "," ++ b) = (.ok (), { base with percentiles := .list (xs ++ ys) })) ∧
      ∀ texts padded, Padded texts padded →
        (call (",".intercalate padded)).2 = (call (",".intercalate texts)).2 ∧
          ((call (",".intercalate padded)).1 = (call (",".intercalate texts)).1 ∨
            unread (",".intercalate padded) ∧ unread (",".intercalate texts)) := by
  intro call unread
  rcases overrideGiven_withPercentiles others d with ⟨failure, stopped, other, stops⟩ | ⟨base, takes⟩
  · have refused : ∀ raw, call raw = (.error failure, stopped) := stops
    have read : ∀ raw, ¬unread raw := by
      intro raw wrong
      have same := congrArg Prod.fst (refused raw)
      exact other raw (Except.error.inj (same.symm.trans wrong))
    refine ⟨fun a b => by simp [read], .inl ⟨failure, stopped, fun raw => ⟨read raw, refused raw⟩⟩, ?_⟩
    intro texts padded _
    rw [refused, refused]
    exact ⟨rfl, .inl rfl⟩
  · have taken : ∀ raw, call raw = takeText base raw := takes
    have unread_iff : ∀ raw, unread raw ↔ (filledParts raw).mapM readPart? = none := by
      intro raw
      have refused_iff := takeText_refused_iff base raw
      rwa [← taken] at refused_iff
    refine ⟨?_, .inr ⟨base, ?_⟩, ?_⟩
    · intro a b
      rw [unread_iff, unread_iff, unread_iff, filledParts_comma, mapM_readPart?_append]
      cases (filledParts a).mapM readPart? <;> cases (filledParts b).mapM readPart? <;> simp
    · intro a b first second
      rw [unread_iff] at first second
      obtain ⟨xs, read⟩ := Option.ne_none_iff_exists'.mp first
      obtain ⟨ys, read'⟩ := Option.ne_none_iff_exists'.mp second
      have both : (filledParts (a ++ "," ++ b)).mapM readPart? = some (xs ++ ys) := by
        rw [filledParts_comma, mapM_readPart?_append, read, read']
        rfl
      refine ⟨xs.map .float, ys.map .float, ?_, ?_, ?_⟩
      · rw [taken, takeText_of_some read]
      · rw [taken, takeText_of_some read']
      · rw [taken, takeText_of_some both, List.map_append]
    · intro texts padded padding
      have parts : filledParts (",".intercalate padded) = filledParts (",".intercalate texts) := by
        rw [filledParts_intercalate, filledParts_intercalate, padding.flatMap_filledParts]
      rw [unread_iff, unread_iff, taken, taken, parts]
      cases read : (filledParts (",".intercalate texts)).mapM readPart? with
      | none =>
        rw [takeText_of_none read, takeText_of_none (parts ▸ read)]
        exact ⟨rfl, .inr ⟨rfl, rfl⟩⟩
      | some values =>
        rw [takeText_of_some read, takeText_of_some (parts ▸ read)]
        exact ⟨rfl, .inl rfl⟩

/-- An underscore between digits, a sign before digits of another script, and white space of both kinds. -/
def writtenTexts : List String :=
  [" 9_0.5", "+٩٩\u00a0"]

/-- The same with blank texts before, between and after them. -/
def paddedTexts : List String :=
  ["\x1c", " 9_0.5", "", "\t\u2003", "+٩٩\u00a0", " "]

theorem overrideGiven_comma_written :
    let call := fun raw => overrideGiven (withPercentiles [(sizeVariable, .text "64")] raw) {}
    let first : Value := .float (.ofRatio false 905 10)
    let second : Value := .float (.ofInt 99)
    call (" 9_0.5" ++ "," ++ "+٩٩\u00a0") =
        (.ok (), { reservoirSize := .int 64, percentiles := .list [first, second] }) ∧
      Padded writtenTexts paddedTexts ∧
      (call (",".intercalate paddedTexts)).2 = (call (",".intercalate writtenTexts)).2 ∧
      (call (" 9_0.5" ++ "," ++ "9_")).1 = .error (.environmentPercentiles (" 9_0.5" ++ "," ++ "9_")) := by
  intro call first second
  have texts : ∀ raw, ofGiven [(percentilesVariable, .text raw), (sizeVariable, .text "64")] =
      ({ size := some "64", percentiles := some raw }, none) := fun _ => rfl
  have turns : ∀ raw, ({ size := some "64", percentiles := some raw } : Environment).override {} =
      inTurn [takePercentiles { percentiles := some raw }] { reservoirSize := .int 64 } := fun _ => rfl
  have alone : ∀ raw, call raw = takeText { reservoirSize := .int 64 } raw := by
    intro raw
    simp only [call, withPercentiles, overrideGiven, texts, turns, takeText, inTurn, takePercentiles, take]
    cases readPercentiles raw <;> rfl
  have front : call " 9_0.5" = (.ok (), { reservoirSize := .int 64, percentiles := .list [first] }) := by
    have read : (filledParts " 9_0.5").mapM readPart? = some [.ofRatio false 905 10] := by decide +kernel
    rw [alone]
    exact takeText_of_some read
  have back : call "+٩٩\u00a0" = (.ok (), { reservoirSize := .int 64, percentiles := .list [second] }) := by
    have read : (filledParts "+٩٩\u00a0").mapM readPart? = some [.ofInt 99] := by decide +kernel
    rw [alone]
    exact takeText_of_some read
  have odd : (call "9_").1 = .error (.environmentPercentiles "9_") := by
    rw [alone]
    exact (takeText_refused_iff _ _).mpr (by decide +kernel)
  have padding : Padded writtenTexts paddedTexts :=
    .blank rfl (.text _ (.blank rfl (.blank rfl (.text _ (.blank rfl .nil)))))
  obtain ⟨refused_iff, split, blanks⟩ := overrideGiven_comma [(sizeVariable, .text "64")] {}
  rcases split with ⟨failure, after, stops⟩ | ⟨base, both⟩
  · have wrong := (stops " 9_0.5").2.symm.trans front
    simp at wrong
  · have read : ∀ raw after, call raw = (.ok (), after) →
        ¬(call raw).1 = .error (.environmentPercentiles raw) := by
      intro raw after done wrong
      rw [done] at wrong
      contradiction
    obtain ⟨xs, ys, front', back', joined⟩ := both _ _ (read _ _ front) (read _ _ back)
    have firsts := congrArg Prod.snd (front'.symm.trans front)
    have seconds := congrArg (fun r => r.2.percentiles) (back'.symm.trans back)
    obtain ⟨size, seed, rfl⟩ : base.reservoirSize = .int 64 ∧ base.reservoirSeed = .null ∧ xs = [first] := by
      simpa using firsts
    obtain rfl : ys = [second] := by simpa using seconds
    refine ⟨joined.trans ?_, padding, (blanks _ _ padding).1, (refused_iff _ _).mpr (.inr odd)⟩
    rw [size, seed]
    rfl

end SampledMetrics.Environment
