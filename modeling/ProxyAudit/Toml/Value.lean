import ProxyAudit.Binary64

/-!
# TOML values

A document is a table: keys with values, in the order in which they were given.
-/

namespace ProxyAudit.Toml

/-- A value of a TOML document. -/
inductive Value where
  | string (s : String)
  | integer (n : Int)
  | float (x : Binary64)
  | boolean (b : Bool)
  | dateTime (text : String)
  | array (items : List Value)
  | table (entries : List (String × Value))
  deriving Repr

/-- The keys of a table with their values, in order. -/
abbrev Entries := List (String × Value)

/-- Whole numbers of a document have 64 bits with a sign; this is the largest. -/
def maxInteger : Nat := 0x7fffffffffffffff

/-- The whole numbers that a document can hold. -/
def isInteger (n : Int) : Bool :=
  -0x8000000000000000 ≤ n && n ≤ maxInteger

end ProxyAudit.Toml
