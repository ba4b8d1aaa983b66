/-!
Why a text is no address, identifier or port number. Each reason carries the refused text unchanged.
-/

namespace VirtualRouter

/-- A text that could not be read, by what it should have been. -/
inductive TextError where
  | macAddress (text : String)
  | identifier (text : String)
  | portNumber (text : String)
  deriving DecidableEq, Repr

/-- The report of a refused text. -/
def TextError.message : TextError → String
  | .macAddress text => "invalid MAC address format: " ++ text
  | .identifier text => "invalid identifier: " ++ text
  | .portNumber text => "invalid port number: " ++ text

end VirtualRouter
