import SampledMetrics.Failure
/-!
Arguments given by name, and envelopes from their fields.  An operation takes the arguments whose names it
knows; the object that it is an operation of has been given before, under a name of its own.  Of an
envelope all fields but the hint must be given.
-/

set_option autoImplicit false
set_option relaxedAutoImplicit false

namespace SampledMetrics

namespace Arguments

/-- The name of the object that an operation belongs to. -/
def ownName : String := "self"

/-- What is wrong with a name that is given to an operation with these parameters. -/
def fault? (parameters : List String) (name : String) : Option ArgumentFault :=
  if name = ownName then some (.repeated name)
  else if parameters.contains name then none
  else some (.unknown name)

def checkNames (operation : String) (parameters names : List String) : Except Failure Unit :=
  match names.findSome? (fault? parameters) with
  | none => .ok ()
  | some fault => .error (.arguments operation fault)

/-- Refuses when parameters that must be given are not. -/
def checkRequired (operation : String) (required names : List String) : Except Failure Unit :=
  match required.filter fun name => !names.contains name with
  | [] => .ok ()
  | missing => .error (.arguments operation (.missing missing))

end Arguments

namespace Envelope

/-- The kind of envelopes, by its full name in messages. -/
def fullName : String := "histometrics.contracts.error.ErrorEnvelope"

/-- The operation that makes an envelope, by its name in messages. -/
def makerName : String := "ErrorEnvelope.__init__"

/-- The envelope of a dictionary of fields; without a hint of its own it has none. -/
def ofFields : Value → Except Failure Envelope
  | .dict fields => do
      let names := fields.map Prod.fst
      Arguments.checkNames makerName ["error", "detail", "hint"] names
      Arguments.checkRequired makerName ["error", "detail"] names
      let field := fun name => (fields.lookup name).getD .null
      return ⟨field "error", field "detail", field "hint"⟩
  | fields => .error (.arguments fullName (.notMapping fields.kindName))

end Envelope

end SampledMetrics
