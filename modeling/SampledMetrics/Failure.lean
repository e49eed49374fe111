import SampledMetrics.Json.Value
import SampledMetrics.Value.Printer
/-!
Everything that can go wrong, by its cause.  A cause determines the class of the error, its message
and, for some, a hint what to do; the machine-readable envelope that an error travels in has these three.
-/

set_option autoImplicit false
set_option relaxedAutoImplicit false

namespace SampledMetrics

/-- The classes of this library's own errors. -/
inductive ErrorClass
  | envelope
  | badInput
  | policy
  | configuration
  | missingName
  | invalidPercentileConfiguration
  deriving DecidableEq, Repr

namespace ErrorClass

/-- All classes, each after the class it specialises. -/
def all : List ErrorClass :=
  [.envelope, .badInput, .policy, .configuration, .missingName, .invalidPercentileConfiguration]

def label : ErrorClass → String
  | .envelope => "Envelope"
  | .badInput => "BadInput"
  | .policy => "Policy"
  | .configuration => "Configuration"
  | .missingName => "MissingName"
  | .invalidPercentileConfiguration => "InvalidPercentileConfiguration"

/-- The full name of a class, as it stands before a message in the log. -/
def fullName (c : ErrorClass) : String :=
  "histometrics.contracts.error." ++ c.label ++ "Error"

/-- Whether an error of the first class is also one of the second. -/
def isA : ErrorClass → ErrorClass → Bool
  | .envelope, c => c = .envelope
  | .badInput, c => c = .badInput || c = .envelope
  | .policy, c => c = .policy || c = .envelope
  | .configuration, c => c = .configuration || c = .badInput || c = .envelope
  | .missingName, c => c = .missingName || c = .configuration || c = .badInput || c = .envelope
  | .invalidPercentileConfiguration, c =>
      c = .invalidPercentileConfiguration || c = .configuration || c = .badInput || c = .envelope

end ErrorClass

/-- What a caller is told about an error; each part may be anything, and a hint may be absent. -/
structure Envelope where
  error : Value
  detail : Value
  hint : Value := .null

namespace Envelope

/-- The envelope as JSON; a hint that says nothing, being absent or empty, is left out. -/
def toJson (e : Envelope) : String :=
  let base := [("error", e.error.toJson), ("detail", e.detail.toJson)]
  Json.object <| if e.hint.isTrue then base ++ [("hint", e.hint.toJson)] else base

end Envelope

def ErrorClass.envelopeOf (c : ErrorClass) (message : String) (hint : Value) : Envelope :=
  ⟨.text c.label, .text message, hint⟩

/-- Where bytes stop being UTF-8. -/
inductive Undecodable
  | startByte
  | continuation
  | endOfData
  deriving DecidableEq, Repr

/-- How the arguments of an operation can be wrong: one that it does not know, one given twice, some that
are missing, or more than it takes; or what stands for them all has no items, or is no dictionary. -/
inductive ArgumentFault
  | unknown (name : String)
  | repeated (name : String)
  | missing (names : List String)
  | tooMany (least most given : Nat)
  | notIterable (kindName : String)
  | notMapping (kindName : String)

/-- Why an operation was refused. -/
inductive Failure
  | observationKind (kindName : String)
  | observationNaN
  | capacityKind (value : Value)
  | capacityTooSmall
  | boundNotPositive
  | keylessWord
  | boundNotWhole
  | drawsExhausted
  | quantileOutside (quantile : Number)
  | metricKind (name : Value)
  | percentilePresence
  | notReal (kindName : String)
  | notConvertible (kindName : String)
  | notWhole (kindName : String)
  | notCount (kindName : String)
  | numeral (text : String)
  | noOperation (operator left right : String)
  | joinsOnly (kindName other : String)
  | notOrdered (relation left right : String)
  | integerTooLarge
  | quotientTooLarge
  | infinityToInteger
  | nanToInteger
  | oppositeInfinities
  | partialSumTooLarge
  | noExactRatio (kindName : String)
  | infiniteDeviation
  | digitLimit
  | digitLimitReading (digits : Nat)
  | notIterable (kindName : String)
  | notKey (kindName : String)
  | sizeKind
  | sizeTooSmall
  | seedKind
  | percentileEntryKind (value : Value)
  | percentileEntryNaN
  | sectionKind
  | unknownKeys (keys : List String)
  | percentilesKind
  | environmentNumber (key raw : String)
  | environmentPercentiles (raw : String)
  | variableKind (kindName : String)
  | fileNotFound (path : String)
  | pathIsDirectory (path : String)
  | pathBeyondFile (path : String)
  | pathTooLong (path : String)
  | nullInside
  | notPath (kindName : String)
  | malformedDocument
  | nestedTooDeep
  | textTooDeep
  | undecodable (reason : Undecodable) (start count byte : Nat)
  | nameKind (kindName : String)
  | nameMissing
  | noPercentiles
  | alreadyRegistered (name group : Value)
  | otherMetricKind (name group : Value) (kind : String)
  | unknownLevel (name : String)
  | levelKind (value : Value)
  | loggerKind
  | recordLevelKind
  | chainTooLong
  | noSuchObject (name : String)
  | lacks (kindName part : String)
  | notCallable (kindName : String)
  | noLength (kindName : String)
  | arguments (operation : String) (fault : ArgumentFault)

namespace Failure

/-- The class of an error: one of this library's own, or a general one. -/
inductive Kind
  | own (errorClass : ErrorClass)
  | wrongType
  | badValue
  | overflow
  | missingAttribute
  | runtime
  | undecodable
  | pathIsDirectory
  | pathBeyondFile
  | system
  | recursion
  | noSuchObject
  deriving DecidableEq, Repr

def kind : Failure → Kind
  | .observationKind _ | .observationNaN | .capacityKind _ | .capacityTooSmall
  | .quantileOutside _ | .sizeKind | .sizeTooSmall | .seedKind | .percentileEntryKind _
  | .percentileEntryNaN | .sectionKind | .unknownKeys _ | .percentilesKind
  | .environmentNumber _ _ | .environmentPercentiles _ | .fileNotFound _ | .malformedDocument =>
      .own .badInput
  | .nameKind _ => .own .configuration
  | .nameMissing => .own .missingName
  | .noPercentiles => .own .invalidPercentileConfiguration
  | .alreadyRegistered _ _ | .otherMetricKind _ _ _ => .own .policy
  | .notReal _ | .notConvertible _ | .notWhole _ | .notCount _ | .noOperation _ _ _ | .joinsOnly _ _ | .notOrdered _ _ _
  | .noExactRatio _ | .notIterable _ | .notKey _ | .notPath _ | .variableKind _ | .levelKind _ | .loggerKind
  | .recordLevelKind | .notCallable _ | .noLength _ | .arguments _ _ => .wrongType
  | .boundNotPositive | .boundNotWhole | .metricKind _ | .percentilePresence | .numeral _
  | .nanToInteger | .oppositeInfinities | .digitLimit | .digitLimitReading _ | .nullInside
  | .unknownLevel _ => .badValue
  | .integerTooLarge | .quotientTooLarge | .infinityToInteger | .partialSumTooLarge => .overflow
  | .infiniteDeviation | .lacks _ _ => .missingAttribute
  | .keylessWord | .drawsExhausted => .runtime
  | .undecodable _ _ _ _ => .undecodable
  | .pathIsDirectory _ => .pathIsDirectory
  | .pathBeyondFile _ => .pathBeyondFile
  | .pathTooLong _ => .system
  | .nestedTooDeep | .textTooDeep | .chainTooLong => .recursion
  | .noSuchObject _ => .noSuchObject

private def undecodableMessage (reason : Undecodable) (start count byte : Nat) : String :=
  let place :=
    if count = 1 then
      "byte 0x" ++ String.ofList (Text.hexDigits 2 byte) ++ " in position " ++ toString start
    else "bytes in position " ++ toString start ++ "-" ++ toString (start + count - 1)
  let reason := match reason with
    | .startByte => "invalid start byte"
    | .continuation => "invalid continuation byte"
    | .endOfData => "unexpected end of data"
  "'utf-8' codec can't decode " ++ place ++ ": " ++ reason

private def enumeration (names : List String) : String :=
  match (names.map fun name => "'" ++ name ++ "'").reverse with
  | [] => ""
  | [only] => only
  | [last, first] => first ++ " and " ++ last
  | last :: others => ", ".intercalate others.reverse ++ ", and " ++ last

private def plural (count : Nat) : String :=
  if count = 1 then "" else "s"

private def argumentMessage : ArgumentFault → String
  | .unknown name => "got an unexpected keyword argument '" ++ name ++ "'"
  | .repeated name => "got multiple values for argument '" ++ name ++ "'"
  | .missing names =>
      "missing " ++ toString names.length ++ " required positional argument" ++ plural names.length
        ++ ": " ++ enumeration names
  | .tooMany least most given =>
      let taken :=
        if least = most then toString most ++ " positional argument" ++ plural most
        else "from " ++ toString least ++ " to " ++ toString most ++ " positional arguments"
      "takes " ++ taken ++ " but " ++ toString given ++ (if given = 1 then " was" else " were") ++ " given"
  | .notIterable kindName => "argument after * must be an iterable, not " ++ kindName
  | .notMapping kindName => "argument after ** must be a mapping, not " ++ kindName

/-- The wording of the digit limit, with a remark on the digits at hand. -/
private def limitMessage (remark : String) : String :=
  "Exceeds the limit (" ++ toString Numeral.digitLimit ++ " digits) for integer string conversion"
    ++ remark ++ "; use sys.set_int_max_str_digits() to increase the limit"

/-- The wording of what the system refuses for a path, by its number. -/
private def systemMessage (number : Nat) (reason path : String) : String :=
  "[Errno " ++ toString number ++ "] " ++ reason ++ ": " ++ Text.quote path

def message : Failure → String
  | .observationKind kindName => "histogram observations must be int or float, got " ++ kindName
  | .observationNaN => "histogram observations must not be NaN"
  | .capacityKind value => "reservoir size must be an integer, got " ++ value.render
  | .capacityTooSmall => "reservoir size must be >= 1"
  | .boundNotPositive => "Upper bound must be positive"
  | .keylessWord => "Seeded draws require a key"
  | .boundNotWhole => "non-integer arg 1 for randrange()"
  | .drawsExhausted => "No word below the limit"
  | .quantileOutside quantile => "quantile must be within [0, 1], got " ++ quantile.render
  | .metricKind name => name.render ++ " is not a valid MetricKind"
  | .percentilePresence => "percentile must be given exactly for MetricKind.PERCENTILE"
  | .notReal kindName => "must be real number, not " ++ kindName
  | .notConvertible kindName =>
      "float() argument must be a string or a real number, not '" ++ kindName ++ "'"
  | .notWhole kindName =>
      "int() argument must be a string, a bytes-like object or a real number, not '" ++ kindName ++ "'"
  | .notCount kindName => "'" ++ kindName ++ "' object cannot be interpreted as an integer"
  | .numeral text => "could not convert string to float: " ++ Text.quote text
  | .noOperation operator left right =>
      "unsupported operand type(s) for " ++ operator ++ ": '" ++ left ++ "' and '" ++ right ++ "'"
  | .joinsOnly kindName other =>
      "can only concatenate " ++ kindName ++ " (not \"" ++ other ++ "\") to " ++ kindName
  | .notOrdered relation left right =>
      "'" ++ relation ++ "' not supported between instances of '" ++ left ++ "' and '" ++ right ++ "'"
  | .integerTooLarge => "int too large to convert to float"
  | .quotientTooLarge => "integer division result too large for a float"
  | .infinityToInteger => "cannot convert float infinity to integer"
  | .nanToInteger => "cannot convert float NaN to integer"
  | .oppositeInfinities => "-inf + inf in fsum"
  | .partialSumTooLarge => "intermediate overflow in fsum"
  | .noExactRatio kindName => "can't convert type '" ++ kindName ++ "' to numerator/denominator"
  | .infiniteDeviation => "'float' object has no attribute 'numerator'"
  | .digitLimit => limitMessage ""
  | .digitLimitReading digits => limitMessage (": value has " ++ toString digits ++ " digits")
  | .notIterable kindName => "'" ++ kindName ++ "' object is not iterable"
  | .notKey kindName => "unhashable type: '" ++ kindName ++ "'"
  | .sizeKind => "histogram.reservoir_size must be an integer"
  | .sizeTooSmall => "histogram.reservoir_size must be >= 1"
  | .seedKind => "histogram.reservoir_seed must be an integer when set"
  | .percentileEntryKind value =>
      "histogram.percentiles entries must be numbers, got " ++ value.render
  | .percentileEntryNaN => "histogram.percentiles must not contain NaN"
  | .sectionKind => "[histogram] section must be a table"
  | .unknownKeys keys => "Unknown [histogram] keys: " ++ ", ".intercalate keys
  | .percentilesKind => "histogram.percentiles must be an array of numbers"
  | .environmentNumber key raw => "Invalid env override " ++ key ++ "=" ++ Text.quote raw
  | .environmentPercentiles raw =>
      "Invalid env override HISTOGRAM_PERCENTILES=" ++ Text.quote raw
  | .variableKind kindName => "str expected, not " ++ kindName
  | .fileNotFound path => "Config file not found: " ++ path
  | .pathIsDirectory path => systemMessage 21 "Is a directory" path
  | .pathBeyondFile path => systemMessage 20 "Not a directory" path
  | .pathTooLong path => systemMessage 36 "File name too long" path
  | .nullInside => "embedded null byte"
  | .notPath kindName => "expected str, bytes or os.PathLike object, not " ++ kindName
  | .malformedDocument => "Invalid TOML"
  | .nestedTooDeep => "maximum recursion depth exceeded"
  | .textTooDeep => "maximum recursion depth exceeded while getting the repr of an object"
  | .undecodable reason start count byte => undecodableMessage reason start count byte
  | .nameKind kindName => "\x60name\x60 must be a string, got " ++ kindName
  | .nameMissing => "\x60name\x60 field is required"
  | .noPercentiles =>
      "Histogram requires a non-empty list of percentiles when skip_default_metrics is set"
  | .alreadyRegistered name group =>
      "Metric " ++ name.render ++ " already registered in group " ++ group.render
  | .otherMetricKind name group kind =>
      "Metric " ++ name.render ++ " in group " ++ group.render ++ " is a " ++ kind
  | .unknownLevel name => "Unknown level: " ++ Text.quote name
  | .levelKind value => "Level not an integer or a valid string: " ++ value.render
  | .loggerKind => "A logger name must be a string"
  | .recordLevelKind => "level must be an integer"
  | .chainTooLong => "maximum recursion depth exceeded in __instancecheck__"
  | .noSuchObject name => name
  | .lacks kindName part =>
      "'" ++ kindName ++ "' object has no attribute '" ++ part ++ "'"
  | .notCallable kindName => "'" ++ kindName ++ "' object is not callable"
  | .noLength kindName => "object of type '" ++ kindName ++ "' has no len()"
  | .arguments operation fault => operation ++ "() " ++ argumentMessage fault

/-- What to do about it, where there is something to say. -/
def hint? : Failure → Option String
  | .environmentPercentiles _ => some "Use a comma separated list such as '90,99.99'"
  | .nameKind _ => some "Histogram names are plain strings such as 'request-latency-ms'"
  | .nameMissing => some "Set a name before building the histogram"
  | .noPercentiles => some "Pass percentiles within [0, 100] or keep the default metrics"
  | _ => none

def ofObstacle : Value.Obstacle → Failure
  | .digits => .digitLimit
  | .depth => .textTooDeep

/-- Refuse with a cause that shows a value, or for what keeps the value from being shown. -/
def showing {α : Type} (value : Value) (cause : Failure) : Except Failure α :=
  .error ((value.obstacle?.map ofObstacle).getD cause)

/-- A computation in two steps succeeds exactly when both do, one after the other. -/
theorem bind_eq_ok_iff {α β : Type} {first : Except Failure α} {next : α → Except Failure β} {result : β} :
    (first >>= next) = .ok result ↔ ∃ value, first = .ok value ∧ next value = .ok result := by
  cases first <;> simp [bind, Except.bind]

theorem eq_ok_of_toOption {α : Type} {x : Except Failure α} {a : α} (given : x.toOption = some a) :
    x = .ok a := by
  cases x with
  | error failure => contradiction
  | ok b => exact congrArg Except.ok (Option.some.inj given)

end Failure

end SampledMetrics
