import ProxyAudit.Text.Decimal

/-!
# Spans of time

A span is a whole number of nanoseconds that fits 2^64 seconds. It is written in the largest of
the units s, ms, µs and ns that does not exceed it, with as many decimals as it needs.

Main results:

* `ofMillis_millis`  — a span made of milliseconds has as many whole milliseconds.
-/

namespace ProxyAudit

/-- A length of time in nanoseconds. -/
structure Span where
  nanos : Nat
  lt_limit : nanos < 0x10000000000000000 * 1000000000
  deriving DecidableEq

namespace Span

/-- No time at all. -/
def zero : Span :=
  ⟨0, by decide⟩

/-- So many milliseconds. -/
def ofMillis (ms : UInt64) : Span :=
  ⟨ms.toNat * 1000000, by have := ms.toNat_lt; omega⟩

/-- So many seconds. -/
def ofSecs (secs : UInt64) : Span :=
  ⟨secs.toNat * 1000000000, by have := secs.toNat_lt; omega⟩

/-- So many nanoseconds, if they fit. -/
def ofNanos? (nanos : Nat) : Option Span :=
  if h : nanos < 0x10000000000000000 * 1000000000 then some ⟨nanos, h⟩ else none

/-- The whole seconds of a span. -/
def secs (s : Span) : Nat :=
  s.nanos / 1000000000

/-- The nanoseconds after the whole seconds. -/
def subsecNanos (s : Span) : Nat :=
  s.nanos % 1000000000

/-- The whole milliseconds of a span, or the largest word if there are more. -/
def millis (s : Span) : UInt64 :=
  UInt64.ofNat (min (s.nanos / 1000000) 0xffffffffffffffff)

/-- The longer of two spans. -/
def max (s t : Span) : Span :=
  if s.nanos ≤ t.nanos then t else s

/-- The decimals of a remainder of a unit of ten to the `width`, without trailing zeros. -/
def decimals (width rest : Nat) : List Char :=
  ((Decimal.ofNatPadded width rest).reverse.dropWhile (· == '0')).reverse

/-- A number of nanoseconds in a unit of ten to the `width` of them. -/
def inUnit (nanos width : Nat) (name : String) : String :=
  let fraction := decimals width (nanos % Nat.pow 10 width)
  String.ofList (Decimal.ofNat (nanos / Nat.pow 10 width)
    ++ (if fraction.isEmpty then [] else '.' :: fraction)) ++ name

def text (s : Span) : String :=
  if 1000000000 ≤ s.nanos then inUnit s.nanos 9 "s"
  else if 1000000 ≤ s.nanos then inUnit s.nanos 6 "ms"
  else if 1000 ≤ s.nanos then inUnit s.nanos 3 "µs"
  else Decimal.text s.nanos ++ "ns"

theorem ofMillis_millis (ms : UInt64) : (ofMillis ms).millis = ms := by
  have h := ms.toNat_lt
  have hmin : min (ms.toNat * 1000000 / 1000000) 0xffffffffffffffff = ms.toNat := by omega
  rw [millis, ofMillis, hmin, UInt64.ofNat_toNat]

end Span

end ProxyAudit
