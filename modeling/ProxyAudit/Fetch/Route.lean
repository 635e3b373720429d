/-!
# Routes

A fetch goes straight to its target or through a proxy, and never chooses by itself.
-/

namespace ProxyAudit

/-- The way a request takes. -/
inductive Route where
  | direct
  | proxy (address : String)
  deriving DecidableEq, Repr

def Route.text : Route → String
  | direct => "direct"
  | proxy address => "via " ++ address

end ProxyAudit
