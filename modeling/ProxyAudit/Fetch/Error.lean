import ProxyAudit.Fetch.Fault
import ProxyAudit.Json.Value

/-!
# Failed fetches

A fetch fails because its time ran out, because a connection could not be made or kept, because
the final status is no success, or for any other reason. A fault of the transfer falls into one
of the classes by its number.
-/

namespace ProxyAudit

/-- Why a fetch has no body to show. -/
inductive FetchError where
  | timeout (message : String)
  | connection (message : String)
  | http (status : UInt32)
  | other (message : String)
  deriving DecidableEq, Repr

namespace FetchError

/-- The class of a transfer's fault, with the fault's text. -/
def ofFault (f : Fault) : FetchError :=
  if f.isTimeout then .timeout f.message
  else if f.isConnection then .connection f.message
  else .other f.message

/-- A status outside 200 to 299 is an error. -/
def ofStatus? (status : UInt32) : Option FetchError :=
  if 200 ≤ status ∧ status < 300 then none else some (.http status)

/-- Tells the fetches whose time ran out. -/
def isTimeout : FetchError → Bool
  | timeout _ => true
  | _ => false

def message : FetchError → String
  | timeout m => "timed out: " ++ m
  | connection m => "connection failed: " ++ m
  | http status => "HTTP " ++ Decimal.text status.toNat
  | other m => m

/-- The error as an object that names its class first. -/
def toJson : FetchError → Json
  | timeout m => .obj [("kind", .str "timeout"), ("message", .str m)]
  | connection m => .obj [("kind", .str "connection"), ("message", .str m)]
  | http status => .obj [("kind", .str "http"), ("status", .num status.toNat)]
  | other m => .obj [("kind", .str "other"), ("message", .str m)]

end FetchError

end ProxyAudit
