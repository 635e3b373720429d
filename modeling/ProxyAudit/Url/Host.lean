import ProxyAudit.Domain.Name
import ProxyAudit.Text.Decimal

/-!
# Hosts of URLs

The host of a URL is a domain name, an address of either Internet protocol, or, where the scheme
gives hosts no meaning, any text free of the characters that separate the parts of a URL.
-/

namespace ProxyAudit

/-- Why a text is no URL. -/
inductive UrlError where
  | emptyHost
  | badDomainName
  | badPort
  | badIpv4
  | badIpv6
  | badHostCharacter
  | noScheme
  deriving DecidableEq, Repr

def UrlError.message : UrlError → String
  | emptyHost => "empty host"
  | badDomainName => "invalid international domain name"
  | badPort => "invalid port number"
  | badIpv4 => "invalid IPv4 address"
  | badIpv6 => "invalid IPv6 address"
  | badHostCharacter => "invalid domain character"
  | noScheme => "relative URL without a base"

/-- The host of a URL. -/
inductive Host where
  | domain (name : List Char)
  | ipv4 (address : Nat)
  | ipv6 (groups : List Nat)
  | opaqueName (text : List Char)
  deriving DecidableEq, Repr

namespace Host

open Domain (splitAtChar)

-- ---------------------------------------------------------------------------
-- IPv4
-- ---------------------------------------------------------------------------

/-- The number that digits of a base spell. -/
def digitsInBase? (base : Nat) (cs : List Char) : Option Nat :=
  cs.foldlM (fun n c => (Hex.value? c).bind fun d => if d < base then some (base * n + d) else none) 0

/-- One part of an IPv4 address: decimal, octal after a zero, or hexadecimal after `0x`. -/
def ipv4Part? : List Char → Option Nat
  | [] => none
  | '0' :: 'x' :: ds => digitsInBase? 16 ds
  | '0' :: 'X' :: ds => digitsInBase? 16 ds
  | '0' :: d :: ds => digitsInBase? 8 (d :: ds)
  | ds => digitsInBase? 10 ds

/-- The parts of a name between points, without the empty part after a last point. -/
def parts (name : List Char) : List (List Char) :=
  let ps := splitAtChar '.' name
  match ps.getLast? with
  | some [] => if 1 < ps.length then ps.dropLast else ps
  | _ => ps

/-- A name whose last part is a number has to be an IPv4 address. -/
def endsInNumber (name : List Char) : Bool :=
  match (parts name).getLast? with
  | some [] => false
  | some p => p.all Decimal.isDigit || (ipv4Part? p).isSome
  | none => false

/-- Reads an IPv4 address of up to four parts; the last part fills all remaining bytes. -/
def ipv4? (name : List Char) : Option Nat := do
  let ps := parts name
  if 4 < ps.length then none
  let numbers ← ps.mapM ipv4Part?
  let last ← numbers.getLast?
  let front := numbers.dropLast
  let room := Nat.pow 256 (4 - front.length)
  if front.any (255 < ·) || room ≤ last then none
  some (front.foldl (256 * · + ·) 0 * room + last)

-- ---------------------------------------------------------------------------
-- IPv6
-- ---------------------------------------------------------------------------

/-- A decimal byte without leading zeros. -/
def decimalByte? (cs : List Char) : Option Nat := do
  let n ← Decimal.toNat? cs
  if 255 < n || (1 < cs.length && cs.head? == some '0') then none
  some n

/-- The two groups that an IPv4 address at the end of an IPv6 address stands for. -/
def ipv4Groups? (cs : List Char) : Option (List Nat) := do
  match ← (splitAtChar '.' cs).mapM decimalByte? with
  | [a, b, c, d] => some [256 * a + b, 256 * c + d]
  | _ => none

/-- A group of one to four hexadecimal digits. -/
def ipv6Group? (cs : List Char) : Option Nat :=
  if cs.isEmpty || 4 < cs.length then none else Hex.toNat? cs

/-- The groups between colons; the last may be an IPv4 address where that is allowed. -/
def ipv6Groups? (ipv4AtEnd : Bool) : List (List Char) → Option (List Nat)
  | [] => some []
  | [g] =>
    if ipv4AtEnd && g.contains '.' then ipv4Groups? g else (ipv6Group? g).map ([·])
  | g :: more => do return (← ipv6Group? g) :: (← ipv6Groups? ipv4AtEnd more)

/-- What stands before and after the first double colon. -/
def splitDoubleColon? : List Char → Option (List Char × List Char)
  | ':' :: ':' :: rest => some ([], rest)
  | c :: rest => (splitDoubleColon? rest).map fun (before, after) => (c :: before, after)
  | [] => none

/-- The groups of one side of a double colon, which may have none. -/
def ipv6Side? (ipv4AtEnd : Bool) (cs : List Char) : Option (List Nat) :=
  if cs.isEmpty then some [] else ipv6Groups? ipv4AtEnd (splitAtChar ':' cs)

/-- Reads an IPv6 address of eight groups, where a double colon stands for one or more zeros. -/
def ipv6? (cs : List Char) : Option (List Nat) := do
  match splitDoubleColon? cs with
  | some (before, after) =>
    let front ← ipv6Side? false before
    let back ← ipv6Side? true after
    let count := front.length + back.length
    if 7 < count then none
    some (front ++ List.replicate (8 - count) 0 ++ back)
  | none =>
    let groups ← ipv6Groups? true (splitAtChar ':' cs)
    if groups.length ≠ 8 then none
    some groups

-- ---------------------------------------------------------------------------
-- Hosts
-- ---------------------------------------------------------------------------

/-- Undoes percent escapes; a percent sign without two digits stands for itself. -/
def percentDecode : Bytes → Bytes
  | 37 :: a :: b :: rest =>
    match Hex.value? (Char.ofNat a.toNat), Hex.value? (Char.ofNat b.toNat) with
    | some hi, some lo => UInt8.ofNat (16 * hi + lo) :: percentDecode rest
    | _, _ => 37 :: percentDecode (a :: b :: rest)
  | b :: rest => b :: percentDecode rest
  | [] => []
termination_by b => b.length

/-- An address in brackets, if a host starts with one. -/
def bracketed? : List Char → Option (Except UrlError Host)
  | '[' :: rest =>
    some <| match rest.getLast?, ipv6? rest.dropLast with
      | some ']', some groups => .ok (.ipv6 groups)
      | _, _ => .error .badIpv6
  | _ => none

/-- Reads the host of a scheme that is known to name hosts. -/
def parse (cs : List Char) : Except UrlError Host :=
  match bracketed? cs with
  | some r => r
  | none =>
    match (Bytes.toText? (percentDecode (Bytes.ofText (String.ofList cs)))).bind
        (Domain.toAscii? ·.toList) with
    | none => .error .badDomainName
    | some [] => .error .emptyHost
    | some name =>
      if endsInNumber name then
        match ipv4? name with
        | some address => .ok (.ipv4 address)
        | none => .error .badIpv4
      else .ok (.domain name)

/-- The characters that no host of an unknown scheme may hold. -/
def isForbiddenOpaque (c : Char) : Bool :=
  "\x00\t\n\r #/:<>?@[\\]^|".toList.contains c

/-- Reads the host of a scheme whose hosts have no known meaning. -/
def parseOpaque (cs : List Char) : Except UrlError Host :=
  match bracketed? cs with
  | some r => r
  | none => if cs.any isForbiddenOpaque then .error .badHostCharacter else .ok (.opaqueName cs)

/-- A host without any character. -/
def isEmpty : Host → Bool
  | opaqueName [] => true
  | _ => false

end Host

end ProxyAudit
