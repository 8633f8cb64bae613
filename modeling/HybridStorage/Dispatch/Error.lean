import HybridStorage.Binary64.Text

/-!
# Dispatch errors

An error aborts one control cycle. `DispatchError.message` is its text.
-/

namespace HybridStorage

inductive Channel where
  | capacity
  | stateOfCharge
  | consumption
  deriving DecidableEq, Repr

def Channel.name : Channel → String
  | .capacity => "capacity"
  | .stateOfCharge => "soc"
  | .consumption => "consumption active power"

inductive DispatchError where
  | componentNotFound (id : String)
  | componentDisabled (id : String)
  | undefinedValue (component : String) (channel : Channel)
  /-- One unit is to be both main and support unit. -/
  | sharedComponent (id : String)
  | invalidShare (share : Binary64)
  | setPointRejected (id reason : String)
  /-- The set-point of `applied` was withdrawn because `failed` rejected its own. -/
  | partialEmission (applied failed reason : String)
  deriving DecidableEq, Repr

def DispatchError.message : DispatchError → String
  | .componentNotFound id => "component `" ++ id ++ "` not found"
  | .componentDisabled id => "component `" ++ id ++ "` is disabled"
  | .undefinedValue component channel => channel.name ++ " of `" ++ component ++ "` is undefined"
  | .sharedComponent id => "`" ++ id ++ "` cannot be both main and support unit"
  | .invalidShare share => "split fraction " ++ share.text ++ " is outside [0, 1]"
  | .setPointRejected id reason => "`" ++ id ++ "` rejected set-point: " ++ reason
  | .partialEmission applied failed reason =>
    "set-point for `" ++ applied ++ "` was withdrawn after `" ++ failed ++ "` rejected its own: " ++
      reason

/-- What stops an evaluation: a fault, which ends the program, or an error, which ends the cycle. -/
inductive Stop where
  | fault (fault : Fault)
  | abort (error : DispatchError)
  deriving DecidableEq, Repr

def Checked.orStop {α : Type} : Checked α → Except Stop α
  | .ok a => .ok a
  | .error fault => .error (.fault fault)

def DispatchError.orStop {α : Type} : Except DispatchError α → Except Stop α
  | .ok a => .ok a
  | .error error => .error (.abort error)

end HybridStorage
