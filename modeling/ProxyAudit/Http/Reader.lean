import ProxyAudit.Fetch.Transfer
import ProxyAudit.Http.Head

/-!
# Reading replies

A reply is read byte by byte, as it comes out of a connection in segments of any size. The end of
the body is where its length is used up, where the last chunk and the lines after it end, or, if
the head announces neither, where the connection is closed. A connection that is closed earlier
has delivered a part of the body only.

Main results:

* `scan_append`  — what is read does not depend on how the bytes are cut into segments.
-/

namespace ProxyAudit.Http

/-- How a connection ends. -/
inductive Ending where
  | closed
  | reset
  /-- The time for the transfer is over. -/
  | late
  deriving DecidableEq, Repr

/-- What is expected next. -/
inductive Phase where
  /-- The status line. -/
  | status
  /-- A field of the head, or the empty line after it. -/
  | fields (head : Head)
  /-- The rest of a body whose length is known. -/
  | counted (head : Head) (left : Nat)
  /-- The rest of a body that ends with the connection. -/
  | unbounded (head : Head)
  /-- The size of a chunk. -/
  | chunkSize (head : Head)
  /-- The rest of a chunk. -/
  | chunk (head : Head) (left : Nat)
  /-- The line end after a chunk. -/
  | chunkEnd (head : Head)
  /-- A line after the last chunk, or the empty line that ends the reply. -/
  | trailer (head : Head)
  | ended (head : Head)
  | failed (fault : Fault)
  deriving DecidableEq, Repr

/-- A reader in the middle of a reply: what it expects, and the line read so far, last byte
first. -/
structure Reader where
  phase : Phase
  line : Bytes
  deriving DecidableEq, Repr

namespace Phase

/-- What follows a head. -/
def afterHead (h : Head) : Phase :=
  if h.isInterim then status
  else if h.isBodiless then ended h
  else if h.isChunked then chunkSize h
  else
    match h.length with
    | some 0 => ended h
    | some n => counted h n
    | none => unbounded h

/-- What follows a whole line. -/
def afterLine (line : Bytes) : Phase → Phase
  | status =>
    match Head.ofStatusLine? line with
    | some h => fields h
    | none => failed .unsupported
  | fields h =>
    if line.isEmpty then afterHead h
    else
      match h.addField line with
      | .ok h => fields h
      | .error fault => failed fault
  | chunkSize h =>
    match (line.map Head.lower).takeWhile Hex.isDigit with
    | [] => failed .receiveFailure
    | ds =>
      match Hex.toNat? ds with
      | some 0 => trailer h
      | some n => chunk h n
      | none => failed .receiveFailure
  | trailer h => if line.isEmpty then ended h else trailer h
  | p => p

/-- A line that cannot be what is expected. -/
def refuses (line : Bytes) : Phase → Option Fault
  | status => if Head.maybeStatusLine line then none else some .unsupported
  | chunkSize _ =>
    match line.head? with
    | some b => if Hex.isDigit (Head.lower b) then none else some .receiveFailure
    | none => none
  | _ => none

end Phase

namespace Reader

/-- A reader that has read nothing. -/
def start : Reader :=
  ⟨.status, []⟩

/-- The reader after a byte of a line. -/
def inLine (r : Reader) (b : UInt8) : Reader :=
  if b = 10 then
    let line := (if r.line.head? = some 13 then r.line.drop 1 else r.line).reverse
    ⟨r.phase.afterLine line, []⟩
  else
    match r.phase.refuses (b :: r.line).reverse with
    | some fault => ⟨.failed fault, []⟩
    | none => { r with line := b :: r.line }

/-- The reader after a byte, and whether the byte belongs to the body. -/
def step (r : Reader) (b : UInt8) : Reader × Bool :=
  match r.phase with
  | .status | .fields _ | .chunkSize _ | .trailer _ => (r.inLine b, false)
  | .counted h left => ({ r with phase := if left ≤ 1 then .ended h else .counted h (left - 1) }, true)
  | .unbounded _ => (r, true)
  | .chunk h left => ({ r with phase := if left ≤ 1 then .chunkEnd h else .chunk h (left - 1) }, true)
  | .chunkEnd h =>
    (if b = 10 then { r with phase := .chunkSize h }
      else if b = 13 then r
      else { r with phase := .failed .receiveFailure }, false)
  | .ended _ | .failed _ => (r, false)

/-- The reader after some bytes, and those of them that belong to the body. -/
def scan (r : Reader) : Bytes → Reader × Bytes
  | [] => (r, [])
  | b :: bs =>
    let (next, isBody) := r.step b
    let (last, body) := next.scan bs
    (last, if isBody then b :: body else body)

/-- A reader that takes nothing more. -/
def isOver (r : Reader) : Bool :=
  match r.phase with
  | .ended _ | .failed _ => true
  | _ => false

/-- What came of a request, given the pieces of the body and the end of the connection. A head
that is cut short after its status line counts as whole. -/
def conclude (r : Reader) (pieces : List Bytes) (ending : Ending) : Reply :=
  let whole (h : Head) : Reply := .complete h.status h.location pieces
  match r.phase, ending with
  | .ended h, _ => whole h
  | .failed fault, _ => .broken pieces fault
  | _, .reset => .broken pieces .receiveFailure
  | _, .late => .broken pieces .timedOut
  | .status, .closed => .broken pieces .emptyReply
  | .fields h, .closed | .unbounded h, .closed => whole h
  | _, .closed => .broken pieces .partialBody

def scanAll (r : Reader) : List Bytes → Reader × List Bytes
  | [] => (r, [])
  | segment :: more =>
    let (next, piece) := r.scan segment
    let (last, pieces) := next.scanAll more
    (last, if piece.isEmpty then pieces else piece :: pieces)

theorem scan_append (r : Reader) (xs ys : Bytes) :
    r.scan (xs ++ ys)
      = (((r.scan xs).1.scan ys).1, (r.scan xs).2 ++ ((r.scan xs).1.scan ys).2) := by
  induction xs generalizing r with
  | nil => simp [scan]
  | cons x xs ih =>
    simp only [List.cons_append, scan, ih]
    split <;> simp

end Reader

/-- What a connection that delivers some segments and then ends makes of a request. -/
def readReply (segments : List Bytes) (ending : Ending) : Reply :=
  let (r, pieces) := Reader.start.scanAll segments
  r.conclude pieces ending

end ProxyAudit.Http
