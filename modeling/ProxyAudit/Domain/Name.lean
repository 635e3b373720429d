import ProxyAudit.Domain.Direction
import ProxyAudit.Domain.Joining
import ProxyAudit.Domain.Mapping
import ProxyAudit.Domain.Punycode
import ProxyAudit.Text.Mark
import ProxyAudit.Text.Normal

/-!
# Names of hosts

A host name may be written in any script. Its ASCII form, which resolvers take, is made by the
processing of UTS #46: the characters are mapped and normalized, labels that are already encoded
are decoded and checked, every label obeys the rules for marks, joiners and direction, and labels
beyond ASCII are encoded.

Neither the length of labels nor the place of hyphens is checked here.
-/

namespace ProxyAudit.Domain

open Text

/-- Splits a text at every occurrence of a character. -/
def splitAtChar (sep : Char) : List Char → List (List Char)
  | [] => [[]]
  | c :: rest =>
    if c = sep then [] :: splitAtChar sep rest
    else
      match splitAtChar sep rest with
      | piece :: more => (c :: piece) :: more
      | [] => [[c]]

/-- Tells the ASCII characters. -/
def isAscii (c : Char) : Bool :=
  c.toNat < 128

/-- The ASCII characters that no host name may hold: controls, the space, and all that separates
the parts of a URL. -/
def isForbidden (c : Char) : Bool :=
  c.toNat ≤ 0x20 || c.toNat == 0x7f || "%#/:<>?@[\\]^|".toList.contains c

/-- An encoded label longer than this is not decoded. -/
def maxEncodedLength : Nat := 2000

/-- A label longer than this is not encoded. -/
def maxDecodedLength : Nat := 1000

/-- The label that an encoded label, taken without its mark, stands for. It must be worth
encoding, and mapping and normalizing must leave it as it is. -/
def decodeLabel? (encoded : List Char) : Option (List Char) := do
  if maxEncodedLength < encoded.length then none
  let label ← Punycode.decode? encoded
  if label.all isAscii || !label.all isUnmapped || normalize label != label then none
  some label

/-- The label in its own script. -/
def unicodeLabel? (label : List Char) : Option (List Char) :=
  if "xn--".toList.isPrefixOf label then decodeLabel? (label.drop 4) else some label

/-- The rules that hold for every label on its own. -/
def isSoundLabel (label : List Char) : Bool :=
  !label.any isForbidden && !(label.head?.any isMark) && obeysJoinerRules [] label

/-- A label in ASCII. -/
def asciiLabel? (label : List Char) : Option (List Char) :=
  if label.all isAscii then some label
  else if maxDecodedLength < label.length then none
  else some ("xn--".toList ++ Punycode.encode label)

/-- The labels of a name in their own script, if all of them obey the rules. -/
def labels? (name : List Char) : Option (List (List Char)) := do
  let mapped ← mapChars? name
  let labels ← (splitAtChar '.' (normalize mapped)).mapM unicodeLabel?
  if !labels.all isSoundLabel then none
  if labels.any (·.any isRightToLeft) && !labels.all obeysBidiRule then none
  some labels

/-- The ASCII form of a name. -/
def toAscii? (name : List Char) : Option (List Char) := do
  let labels ← (← labels? name).mapM asciiLabel?
  return ['.'].intercalate labels

end ProxyAudit.Domain
