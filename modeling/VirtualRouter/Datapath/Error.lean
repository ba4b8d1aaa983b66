import VirtualRouter.Datapath.Buffer

/-!
Why the switch could not take a request. Only a lost connection makes a second attempt on it useless.
-/

namespace VirtualRouter

/-- A failed request to the switch. -/
inductive DatapathError where
  | rejected (operation : String) (reason : String)
  | unknownBuffer (buffer : Buffer)
  | disconnected
  | internal (reason : String)
  deriving DecidableEq, Repr

namespace DatapathError

/-- The report of a failed request. -/
def message : DatapathError → String
  | rejected operation reason => operation ++ " rejected by datapath: " ++ reason
  | unknownBuffer buffer => "unknown buffer " ++ buffer.text
  | disconnected => "datapath not connected"
  | internal reason => "internal error: " ++ reason

/-- The connection itself is lost. -/
def isConnectionError (e : DatapathError) : Bool := e = disconnected

end DatapathError

end VirtualRouter
