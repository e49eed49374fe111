import SampledMetrics.Toml.Document
import SampledMetrics.Proofs.Failing
/-!
Why a document is refused.  Every reader passes on what the readers that it uses refuse, so only the
refusals at the leaves count: what is not TOML, integers of too many decimal digits, and values that are
nested too deep.  Main statement: reading a document fails for no other reason.
-/

set_option autoImplicit false
set_option relaxedAutoImplicit false

namespace SampledMetrics.Toml

/-- The refusals of a document: for what it says, or for one of the two limits of a reader. -/
def IsRefusal (failure : Failure) : Prop :=
  failure = .malformedDocument ∨ failure = .nestedTooDeep ∨
    ∃ digits, Numeral.digitLimit < digits ∧ failure = .digitLimitReading digits

abbrev OnlyRefuses {α : Type} (x : Except Failure α) : Prop :=
  FailsOnly IsRefusal x

private theorem onlyRefuses_refuse {α : Type} : OnlyRefuses (.error .malformedDocument : Except Failure α) :=
  .error (Or.inl rfl)

section Text

private theorem onlyRefuses_skipComment (cs : List Char) : OnlyRefuses (skipComment cs) := by
  unfold skipComment
  split
  · dsimp only
    split
    · exact .ok _
    · exact onlyRefuses_refuse
  · exact .ok _

private theorem onlyRefuses_skipLines (inComment : Bool) (cs : List Char) : OnlyRefuses (skipLines inComment cs) := by
  fun_induction skipLines inComment cs
  case case1 | case7 => exact .ok _
  case case2 ih | case3 ih | case5 ih | case6 ih => exact ih
  case case4 => exact onlyRefuses_refuse

private theorem onlyRefuses_prepend {first : Except Failure Char} {reading : Reading (List Char)}
    (here : OnlyRefuses first) (later : OnlyRefuses reading) : OnlyRefuses (prepend first reading) := by
  unfold prepend
  split
  · exact .ok _
  · exact .error (here _ rfl)
  · exact .error (later _ rfl)

private theorem onlyRefuses_codeEscape (digits : List Char) : OnlyRefuses (codeEscape digits) := by
  unfold codeEscape
  split
  · exact .ok _
  · exact onlyRefuses_refuse

private theorem onlyRefuses_letterEscape (letter : Char) : OnlyRefuses (letterEscape letter) := by
  unfold letterEscape
  exact .ite (.ok _) (.ite (.ok _) (.ite (.ok _) (.ite (.ok _) (.ite (.ok _) (.ite (.ok _) onlyRefuses_refuse)))))

private theorem onlyRefuses_readBasic (cs : List Char) : OnlyRefuses (readBasic cs) := by
  fun_induction readBasic cs
  case case1 | case7 => exact onlyRefuses_refuse
  case case2 ih | case3 ih => exact onlyRefuses_prepend (onlyRefuses_codeEscape _) ih
  case case4 ih => exact onlyRefuses_prepend (onlyRefuses_letterEscape _) ih
  case case5 => exact .ok _
  case case6 ih => exact onlyRefuses_prepend (.ok _) ih

private theorem onlyRefuses_readBasicLines (spacing : Spacing) (cs : List Char) :
    OnlyRefuses (readBasicLines spacing cs) := by
  fun_induction readBasicLines spacing cs
  case case1 | case4 | case13 => exact onlyRefuses_refuse
  case case2 ih | case3 ih | case8 ih | case9 ih | case11 ih => exact ih
  case case5 => exact .ok _
  case case6 ih | case7 ih => exact onlyRefuses_prepend (onlyRefuses_codeEscape _) ih
  case case10 ih => exact onlyRefuses_prepend (onlyRefuses_letterEscape _) ih
  case case12 ih => exact onlyRefuses_prepend (.ok _) ih

private theorem onlyRefuses_readLiteral (cs : List Char) : OnlyRefuses (readLiteral cs) := by
  unfold readLiteral
  split
  · exact .ite (.ok _) onlyRefuses_refuse
  · exact onlyRefuses_refuse

private theorem onlyRefuses_readLiteralLines (cs : List Char) : OnlyRefuses (readLiteralLines cs) := by
  fun_induction readLiteralLines cs
  case case1 => exact .ok _
  case case2 ih => exact onlyRefuses_prepend (.ok _) ih
  case case3 | case4 => exact onlyRefuses_refuse

private theorem onlyRefuses_readLine (mark : Char) (cs : List Char) : OnlyRefuses (readLine mark cs) :=
  .map _ (.ite (onlyRefuses_readBasic cs) (onlyRefuses_readLiteral cs))

private theorem onlyRefuses_readString (mark : Char) (cs : List Char) : OnlyRefuses (readString mark cs) := by
  unfold readString
  split
  · exact .ite (.map _ (.ite (onlyRefuses_readBasicLines _ _) (onlyRefuses_readLiteralLines _)))
      (onlyRefuses_readLine mark _)
  · exact onlyRefuses_readLine mark _

private theorem onlyRefuses_readKeyPart (cs : List Char) : OnlyRefuses (readKeyPart cs) := by
  unfold readKeyPart
  split
  · exact onlyRefuses_refuse
  · exact .ite (onlyRefuses_readLine _ _) (.ite (.ok _) onlyRefuses_refuse)

private theorem onlyRefuses_readKeyParts (fuel : Nat) (cs : List Char) : OnlyRefuses (readKeyParts fuel cs) := by
  induction fuel generalizing cs with
  | zero => exact onlyRefuses_refuse
  | succ fuel ih =>
    unfold readKeyParts
    refine .bind (onlyRefuses_readKeyPart cs) fun ⟨name, rest⟩ => ?_
    dsimp only
    split
    · exact .bind (ih _) fun _ => .ok _
    · exact .ok _

private theorem onlyRefuses_readKey (cs : List Char) : OnlyRefuses (readKey cs) :=
  onlyRefuses_readKeyParts cs.length cs

end Text

/-- What a reader finds, if it finds something, is a value or a refusal of the document. -/
def FindsOnly (x : Option (Except Failure Value × List Char)) : Prop :=
  ∀ value rest, x = some (value, rest) → OnlyRefuses value

namespace FindsOnly

theorem none : FindsOnly none := by
  intro value rest wrong
  cases wrong

theorem some {value : Except Failure Value} {rest : List Char} (found : OnlyRefuses value) :
    FindsOnly (some (value, rest)) := by
  intro other after same
  cases same
  exact found

theorem bind {α : Type} {x : Option α} {next : α → Option (Except Failure Value × List Char)}
    (later : ∀ a, FindsOnly (next a)) : FindsOnly (x >>= next) := by
  cases x with
  | none => exact .none
  | some a => exact later a

private theorem orElse {x y : Option (Except Failure Value × List Char)} (first : FindsOnly x)
    (second : FindsOnly y) : FindsOnly (x <|> y) := by
  cases x with
  | none => exact second
  | some found => exact first

end FindsOnly

section Values

private theorem onlyRefuses_decimalInteger (negative : Bool) (digits : List Char) :
    OnlyRefuses (decimalInteger negative digits) := by
  unfold decimalInteger
  split
  · rename_i long
    exact .error (Or.inr (Or.inr ⟨digits.length, long, rfl⟩))
  · exact .ok _

private theorem findsOnly_readMoment? (cs : List Char) : FindsOnly (readMoment? cs) := by
  unfold readMoment?
  refine .bind fun ⟨date, afterDate⟩ => ?_
  dsimp only
  split
  · exact .some (.ok _)
  · split
    · exact .some (.ok _)
    · exact .some (.ok _)

private theorem findsOnly_time (cs : List Char) :
    FindsOnly ((readTime? cs).map fun (time, rest) => (Except.ok (Value.time time), rest)) := by
  cases readTime? cs with
  | none => exact .none
  | some found => exact .some (.ok _)

private theorem findsOnly_readBased? (cs : List Char) : FindsOnly (readBased? cs) := by
  unfold readBased?
  split
  · exact .bind fun base => .bind fun found => .some (.ok _)
  · exact .none

private theorem findsOnly_readDecimal? (cs : List Char) : FindsOnly (readDecimal? cs) := by
  unfold readDecimal?
  refine .bind fun ⟨whole, afterWhole⟩ => ?_
  dsimp only
  split
  · split
    · exact .some (onlyRefuses_decimalInteger _ _)
    · exact .some (.ok _)
  · exact .some (.ok _)

private theorem findsOnly_readWord? (cs : List Char) : FindsOnly (readWord? cs) := by
  unfold readWord?
  dsimp only
  split
  · exact .some (.ok _)
  · exact .some (.ok _)
  · exact .none

private theorem onlyRefuses_readScalar (cs : List Char) : OnlyRefuses (readScalar cs) := by
  have finds := (findsOnly_readMoment? cs).orElse ((findsOnly_time cs).orElse
    ((findsOnly_readBased? cs).orElse ((findsOnly_readDecimal? cs).orElse (findsOnly_readWord? cs))))
  unfold readScalar
  dsimp only
  split
  · rename_i found
    exact .map _ (finds _ _ found)
  · exact onlyRefuses_refuse

private theorem onlyRefuses_readPlain (cs : List Char) : OnlyRefuses (readPlain cs) := by
  unfold readPlain
  split
  · exact .ok _
  · exact .ok _
  · exact onlyRefuses_readScalar cs

private theorem onlyRefuses_readAssigned (cs : List Char) : OnlyRefuses (readAssigned cs) := by
  unfold readAssigned
  refine .bind (onlyRefuses_readKey cs) fun ⟨path, rest⟩ => ?_
  dsimp only
  split
  · exact .ok _
  · exact onlyRefuses_refuse

private theorem onlyRefuses_roomInside (room needed taken : Nat) : OnlyRefuses (roomInside room needed taken) :=
  .ite (.error (Or.inr (Or.inl rfl))) (.ok _)

end Values

section Tables

variable {change : Entries → Except Failure Entries}

private theorem onlyRefuses_within (sound : ∀ entries, OnlyRefuses (change entries)) (entries : Entries)
    (key : String) : OnlyRefuses (entries.within key change) := by
  unfold Entries.within
  split
  · exact .bind (sound _) fun _ => .ok _
  · exact .bind (sound _) fun _ => .ok _
  · exact .bind (sound _) fun _ => .ok _
  · exact onlyRefuses_refuse

private theorem onlyRefuses_along (sound : ∀ entries, OnlyRefuses (change entries)) (path : List String)
    (entries : Entries) : OnlyRefuses (Entries.along change path entries) := by
  induction path generalizing entries with
  | nil => exact sound entries
  | cons key path ih => exact onlyRefuses_within ih entries key

private theorem onlyRefuses_atLast {change : String → Entries → Except Failure Entries}
    (sound : ∀ key entries, OnlyRefuses (change key entries)) (path : List String) (entries : Entries) :
    OnlyRefuses (Entries.atLast change path entries) := by
  induction path generalizing entries with
  | nil => exact onlyRefuses_refuse
  | cons key path ih =>
    cases path with
    | nil => exact sound key entries
    | cons next path => exact onlyRefuses_within ih entries key

private theorem onlyRefuses_declareKey (key : String) (entries : Entries) :
    OnlyRefuses (entries.declareKey key) := by
  unfold Entries.declareKey
  split
  · exact .ok _
  · exact .ok _
  · exact onlyRefuses_refuse

private theorem onlyRefuses_appendKey (key : String) (entries : Entries) : OnlyRefuses (entries.appendKey key) := by
  unfold Entries.appendKey
  split
  · exact .ok _
  · exact .ok _
  · exact onlyRefuses_refuse

private theorem onlyRefuses_assign (heading : Nat) (value : Value) (path : List String) (entries : Entries) :
    OnlyRefuses (entries.assign heading value path) := by
  fun_induction Entries.assign heading value path entries
  case case1 | case3 | case7 | case8 => exact onlyRefuses_refuse
  case case2 => exact .ok _
  case case4 ih | case5 ih | case6 ih => exact .bind ih fun _ => .ok _

end Tables

section Documents

private theorem onlyRefuses_nested (fuel : Nat) :
    (∀ room cs, OnlyRefuses (readValue fuel room cs)) ∧
      (∀ room cs, OnlyRefuses (readItems fuel room cs)) ∧
      ∀ room entries cs, OnlyRefuses (readEntries fuel room entries cs) := by
  induction fuel with
  | zero =>
    refine ⟨fun room cs => ?_, fun room cs => ?_, fun room entries cs => ?_⟩
    · rw [readValue]
      exact onlyRefuses_refuse
    · rw [readItems]
      exact onlyRefuses_refuse
    · rw [readEntries]
      exact onlyRefuses_refuse
  | succ fuel ih =>
    obtain ⟨value, items, further⟩ := ih
    refine ⟨fun room cs => ?_, fun room cs => ?_, fun room entries cs => ?_⟩
    · unfold readValue
      dsimp only
      split
      · exact onlyRefuses_refuse
      · refine .ite (.map _ (onlyRefuses_readString _ _)) (.ite ?_ (.ite ?_ (onlyRefuses_readPlain _)))
        · exact .bind (onlyRefuses_roomInside _ _ _) fun inside =>
            .bind (onlyRefuses_skipLines _ _) fun rest => .bind (items _ _) fun _ => .ok _
        · exact .bind (onlyRefuses_roomInside _ _ _) fun inside =>
            .ite (.ok _) (.bind (further _ _ _) fun _ => .ok _)
    · rw [readItems]
      refine .ite (.ok _) (.bind (value _ _) fun item => .bind (onlyRefuses_skipLines _ _) fun rest => ?_)
      split
      · exact .ok _
      · exact .bind (onlyRefuses_skipLines _ _) fun _ => .bind (items _ _) fun _ => .ok _
      · exact onlyRefuses_refuse
    · rw [readEntries]
      refine .bind (onlyRefuses_readAssigned _) fun assigned => .bind (value _ _) fun read =>
        .bind (onlyRefuses_assign _ _ _ _) fun _ => ?_
      split
      · exact .ok _
      · exact further _ _ _
      · exact onlyRefuses_refuse

variable (d : Document)

private theorem onlyRefuses_readHeader {change : List String → Entries → Except Failure Entries}
    (sound : ∀ path entries, OnlyRefuses (change path entries)) (closing cs : List Char) :
    OnlyRefuses (d.readHeader change closing cs) := by
  unfold Document.readHeader
  refine .bind (onlyRefuses_readKey _) fun key => .bind (sound _ _) fun root => ?_
  split
  · exact .ok _
  · exact onlyRefuses_refuse

private theorem onlyRefuses_readSetting (cs : List Char) : OnlyRefuses (d.readSetting cs) := by
  unfold Document.readSetting
  exact .bind (onlyRefuses_readAssigned _) fun assigned =>
    .bind ((onlyRefuses_nested _).1 _ _) fun read =>
      .bind (onlyRefuses_along (onlyRefuses_assign _ _ _) _ _) fun _ => .ok _

private theorem onlyRefuses_readStatement (cs : List Char) : OnlyRefuses (d.readStatement cs) := by
  unfold Document.readStatement
  split
  · exact onlyRefuses_readHeader d (onlyRefuses_atLast onlyRefuses_appendKey) _ _
  · exact onlyRefuses_readHeader d (onlyRefuses_atLast onlyRefuses_declareKey) _ _
  · exact .ok _
  · exact onlyRefuses_readSetting d cs

private theorem onlyRefuses_readStatements (fuel : Nat) (cs : List Char) :
    OnlyRefuses (Document.readStatements fuel d cs) := by
  induction fuel generalizing d cs with
  | zero => exact onlyRefuses_refuse
  | succ fuel ih =>
    unfold Document.readStatements
    split
    · exact .ok _
    · exact ih d _
    · refine .bind (onlyRefuses_readStatement d _) fun read =>
        .bind (onlyRefuses_skipComment _) fun rest => ?_
      split
      · exact .ok _
      · exact ih _ _
      · exact onlyRefuses_refuse

end Documents

/-- A document is refused for what it says, or for one of the two limits of its reader. -/
theorem onlyRefuses_parse (cs : List Char) : OnlyRefuses (parse cs) :=
  .bind (onlyRefuses_readStatements .empty _ cs) fun _ => .ok _

end SampledMetrics.Toml
