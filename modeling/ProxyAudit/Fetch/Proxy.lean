import ProxyAudit.Fetch.Address
import ProxyAudit.Fetch.Route

/-!
# The choice of a proxy

A transfer may be told a proxy and a list of the hosts that need none. What it is not told, it
takes from the variables of its environment. A route tells it both, so that the environment has
no say: a direct route exempts every host, and a route through a proxy exempts none.

Main results:

* `choose_direct`  — on the direct route there is no proxy, whatever the environment.
* `choose_proxy`   — on a route through a proxy it is that proxy, whatever the environment.
-/

namespace ProxyAudit

/-- The variables of an environment. -/
abbrev Environment := String → Option String

/-- What a transfer is told about proxies; what it is not told is taken from the environment. -/
structure ProxySettings where
  /-- The proxy; an empty text stands for none. -/
  proxy : Option String
  /-- The hosts that need no proxy. -/
  exempt : Option String
  deriving DecidableEq, Repr

namespace ProxySettings

-- ---------------------------------------------------------------------------
-- Exempt hosts
-- ---------------------------------------------------------------------------

/-- The names of a list, which blanks or commas separate. -/
def names (list : String) : List (List Char) :=
  let isSeparator (c : Char) : Bool := c == ',' || c == ' ' || c == '\t'
  let cs := list.toList.map fun c => if isSeparator c then ',' else c
  (Domain.splitAtChar ',' cs).filter (!·.isEmpty)

/-- A name without a point at its end. -/
def withoutLastPoint (cs : List Char) : List Char :=
  if cs.getLast? = some '.' then cs.dropLast else cs

/-- A host that is named, or whose name ends in a point and the named domain. -/
def covers (name host : List Char) : Bool :=
  let name := (withoutLastPoint name).map Char.toLower
  let name := if name.head? = some '.' then name.drop 1 else name
  let host := (withoutLastPoint host).map Char.toLower
  !name.isEmpty && (host == name || ('.' :: name).isSuffixOf host)

/-- A host that a list exempts; an asterisk stands for all hosts. -/
def isExempt (list : String) (host : List Char) : Bool :=
  !host.isEmpty && (list == "*" || (names list).any (covers · host))

-- ---------------------------------------------------------------------------
-- The choice
-- ---------------------------------------------------------------------------

/-- The value of the first variable that is set. -/
def firstSet (env : Environment) (names : List String) : Option String :=
  names.findSome? env

/-- The variables that name the proxy of a scheme. The upper-case variable of plain HTTP is left
alone, because a web server may set it at a client's request. -/
def variablesFor (scheme : String) : List String :=
  [scheme ++ "_proxy"] ++ (if scheme = "http" then [] else [scheme.toUpper ++ "_PROXY"])
    ++ ["all_proxy", "ALL_PROXY"]

/-- The proxy of a transfer to a host, if it has one. -/
def choose (s : ProxySettings) (env : Environment) (scheme host : List Char) : Option String :=
  let exempt := (s.exempt.or (firstSet env ["no_proxy", "NO_PROXY"])).getD ""
  if isExempt exempt host then none
  else
    (s.proxy.or (firstSet env (variablesFor (String.ofList scheme)))).filter (· ≠ "")

end ProxySettings

/-- What a route tells a transfer about proxies. -/
def Route.settings : Route → ProxySettings
  | direct => ⟨none, some "*"⟩
  | proxy address => ⟨some address, some ""⟩

theorem ProxySettings.isExempt_empty (host : List Char) : isExempt "" host = false := by
  have hn : names "" = [] := by decide
  simp [isExempt, hn]

namespace Route

theorem choose_direct (env : Environment) (scheme : List Char) {host : List Char} (h : host ≠ []) :
    direct.settings.choose env scheme host = none := by
  simp [settings, ProxySettings.choose, ProxySettings.isExempt, h]

theorem choose_proxy (address : String) (env : Environment) (scheme host : List Char) :
    (proxy address).settings.choose env scheme host = if address = "" then none else some address := by
  simp only [settings, ProxySettings.choose, Option.some_or, Option.getD_some,
    ProxySettings.isExempt_empty, Bool.false_eq_true, if_false, Option.filter_some]
  by_cases h : address = "" <;> simp [h]

end Route

-- ---------------------------------------------------------------------------
-- Addresses of proxies
-- ---------------------------------------------------------------------------

namespace Address

/-- The schemes of proxies that are served. -/
def proxySchemes : List String :=
  ["http", "https", "socks", "socks4", "socks4a", "socks5", "socks5h"]

def parseProxy (s : String) : Except Fault Address :=
  match parse? s with
  | none => .error .unresolvedProxy
  | some a =>
    if proxySchemes.contains (String.ofList a.scheme) then .ok a else .error .unreachable

/-- The port of a proxy. -/
def proxyPort (a : Address) : Nat :=
  a.port.getD (if a.scheme = "https".toList then 443 else 1080)

/-- The port of a target. -/
def targetPort (a : Address) : Nat :=
  a.port.getD (if a.scheme = "https".toList then 443 else 80)

end Address

end ProxyAudit
