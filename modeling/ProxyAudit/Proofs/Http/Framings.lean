import Mathlib
import ProxyAudit.Proofs.Http.Reading

/-!
# Framings of bodies

A message is a head and, unless the head says that there is none, a body in one of three framings.
However a message is cut into segments, its reader takes the body out of it byte for byte, whatever
the framing. What breaks a message off is a fault: no reply at all, a connection that ends before
the announced end of the body, or a chunk without a size.

Main results:

* `scan_head`            — a head is read up to its empty line.
* `scan_body`            — a body in any framing is read whole.
* `readReply_of_arrives` — what is read of a message that arrives.
* `readReply_of_breaks`  — what is read of a message that breaks off.
-/

namespace ProxyAudit.Http

-- ---------------------------------------------------------------------------
-- Messages
-- ---------------------------------------------------------------------------

/-- A message on its way: the lines of its head, and a body that is written in pieces. -/
structure Message where
  statusLine : Bytes
  fields : List Bytes
  framing : Framing
  pieces : List Bytes

namespace Message

/-- The lines of the head but for the empty one that ends it. -/
def lines (m : Message) : Bytes :=
  (m.statusLine :: m.fields).flatMap (· ++ [13, 10])

def head (m : Message) : Bytes :=
  headBytes (m.statusLine :: m.fields)

def body (m : Message) : Bytes :=
  m.framing.bodyBytes m.pieces

def bytes (m : Message) : Bytes :=
  m.head ++ m.body

end Message

/-- A head that announces a body in a framing. -/
def Head.Announces (h : Head) (body : Bytes) : Framing → Prop
  | .length => h.isChunked = false ∧ h.length = some body.length
  | .chunked => h.isChunked = true
  | .close => h.isChunked = false ∧ h.length = none

/-- What the head of a message says: it is the head of a final reply, and it announces the body. -/
structure Message.Says (m : Message) (h : Head) : Prop where
  lines : ∀ line ∈ m.statusLine :: m.fields, 10 ∉ line
  fields_ne_nil : ∀ line ∈ m.fields, line ≠ []
  reads : ∃ h₀, Head.ofStatusLine? m.statusLine = some h₀ ∧
    m.fields.foldlM Head.addField h₀ = .ok h
  final : h.isInterim = false
  announces : h.Announces m.pieces.flatten m.framing
  bodiless : h.isBodiless = true → m.pieces.flatten = []

namespace Message

variable {m : Message} {h : Head}

theorem head_eq (m : Message) : m.head = (m.lines ++ [13]) ++ [10] := by
  rw [head, headBytes_eq, List.append_assoc]
  rfl

theorem scan_lines (hSays : m.Says h) :
    Reader.start.scan m.lines = (⟨.fields h, []⟩, []) := by
  obtain ⟨h₀, hStatus, hFields⟩ := hSays.reads
  obtain ⟨hBreak, hLines⟩ := List.forall_mem_cons.mp hSays.lines
  have hAfter : Phase.status.afterLine m.statusLine = .fields h₀ := by
    simp [Phase.afterLine, hStatus]
  rw [lines, List.flatMap_cons, Reader.scan_append, Reader.start,
    Reader.scan_line (Reader.admits_status hStatus) hBreak, hAfter,
    Reader.scan_fields hLines hSays.fields_ne_nil hFields]
  rfl

/-- **A head is read up to its empty line.** -/
theorem scan_head (hSays : m.Says h) :
    Reader.start.scan m.head = (⟨Phase.afterHead h, []⟩, []) := by
  have hEmpty : Reader.scan ⟨.fields h, []⟩ [13, 10] = (⟨Phase.afterHead h, []⟩, []) :=
    Reader.scan_line (Reader.admits_fields h _) List.not_mem_nil
  rw [head_eq, List.append_assoc, Reader.scan_append, scan_lines hSays, List.singleton_append,
    hEmpty]
  rfl

/-- A part of the head without its end leaves the reader in the middle of it. -/
theorem scan_partOfHead (hSays : m.Says h) {part : Bytes} (hPart : part <+: m.head)
    (hCut : part ≠ m.head) : (Reader.start.scan part).1.isOver = false := by
  have hLast : Reader.scan ⟨.fields h, []⟩ [13] = (⟨.fields h, [13]⟩, []) := rfl
  rw [head_eq] at hPart hCut
  refine Reader.not_isOver_of_prefix ((List.prefix_concat_iff.mp hPart).resolve_left hCut) ?_
  rw [Reader.scan_append, scan_lines hSays, hLast]
  rfl

/-- What a reader waits for where the body of a message starts. -/
def bodyPhase (m : Message) (h : Head) : Phase :=
  match m.framing with
  | .length =>
    if m.pieces.flatten = [] then .ended h else .counted h m.pieces.flatten.length
  | .chunked => .chunkSize h
  | .close => .unbounded h

/-- What a reader waits for when a message has been read. -/
def endPhase (m : Message) (h : Head) : Phase :=
  if m.framing = .close then .unbounded h else .ended h

theorem afterHead_eq (hSays : m.Says h) (hBody : h.isBodiless = false) :
    Phase.afterHead h = m.bodyPhase h := by
  -- the head says which of the three ways the body is delimited
  have hAnnounces := hSays.announces
  simp only [Phase.afterHead, bodyPhase, hSays.final, hBody, Bool.false_eq_true, if_false]
  cases hFraming : m.framing with
  | length =>
    rw [hFraming] at hAnnounces
    rw [hAnnounces.1, hAnnounces.2]
    cases m.pieces.flatten <;> rfl
  | chunked =>
    rw [hFraming] at hAnnounces
    exact if_pos hAnnounces
  | close =>
    rw [hFraming] at hAnnounces
    rw [hAnnounces.1, hAnnounces.2]
    rfl

/-- **A body in any framing is read whole.** -/
theorem scan_body (hSays : m.Says h) (hBody : h.isBodiless = false) :
    Reader.scan ⟨.afterHead h, []⟩ m.body = (⟨m.endPhase h, []⟩, m.pieces.flatten) := by
  rw [afterHead_eq hSays hBody, body, bodyPhase, endPhase]
  cases m.framing with
  | length =>
    by_cases hEmpty : m.pieces.flatten = []
    · simp [Framing.bodyBytes, hEmpty, Reader.scan]
    · have hCounted := Reader.scan_countdown (Reader.step_counted h) hEmpty (Nat.le_refl _) []
      simpa [Framing.bodyBytes, hEmpty] using hCounted
  | chunked =>
    rw [Reader.bodyBytes_chunked, Reader.scan_append, Reader.scan_beforeEnd]
    simp [Reader.scan, Reader.step, Reader.inLine, Phase.afterLine]
  | close => exact Reader.scan_unbounded h [] _

-- ---------------------------------------------------------------------------
-- Arrival
-- ---------------------------------------------------------------------------

/-- A message arrives: all of its bytes do, and whatever may follow them. A message that has no body
has arrived with its head, and a body that ends with the connection ends where that is closed. -/
def Arrives (m : Message) (h : Head) (received : Bytes) (ending : Ending) : Prop :=
  if h.isBodiless = true then m.head <+: received
  else if m.framing = .close then received = m.bytes ∧ ending = .closed
  else m.bytes <+: received

/-- **A message that arrives is read whole**, in whatever segments it comes. -/
theorem readReply_of_arrives (hSays : m.Says h) {segments : List Bytes} {ending : Ending}
    (hArrives : m.Arrives h segments.flatten ending) :
    ∃ pieces, readReply segments ending = .complete h.status h.location pieces ∧
      pieces.flatten = m.pieces.flatten := by
  obtain ⟨pieces, hReply, hPieces⟩ := exists_readReply segments ending
  refine ⟨pieces, ?_⟩
  rw [hReply, hPieces]
  rw [Arrives] at hArrives
  split at hArrives
  · -- the head alone
    next hBodiless =>
    obtain ⟨more, hMore⟩ := hArrives
    have hEnded : Phase.afterHead h = .ended h := by
      simp [Phase.afterHead, hSays.final, hBodiless]
    rw [← hMore, Reader.scan_append, scan_head hSays, hEnded, Reader.scan_over rfl,
      hSays.bodiless hBodiless]
    exact ⟨by simp [Reader.conclude], rfl⟩
  next hBody =>
  have hScan := scan_body hSays (Bool.eq_false_of_not_eq_true hBody)
  rw [endPhase] at hScan
  split at hArrives
  · -- up to the end of the connection
    next hClose =>
    obtain ⟨hBytes, rfl⟩ := hArrives
    rw [hBytes, bytes, Reader.scan_append, scan_head hSays, hScan, if_pos hClose]
    exact ⟨rfl, rfl⟩
  · -- up to the end of the body
    next hMarked =>
    obtain ⟨more, hMore⟩ := hArrives
    rw [← hMore, bytes, List.append_assoc, Reader.scan_append, scan_head hSays, Reader.scan_append,
      hScan, if_neg hMarked, Reader.scan_over rfl]
    exact ⟨by simp [Reader.conclude], by simp⟩

end Message

-- ---------------------------------------------------------------------------
-- Breaking off
-- ---------------------------------------------------------------------------

namespace Message

/-- The ways to break a message off. -/
inductive Breaks (m : Message) (h : Head) : Bytes → Ending → Fault → Prop
  /-- Nothing arrives. -/
  | silent : Breaks m h [] .closed .emptyReply
  /-- The connection ends before the message has arrived, in the head or in the body. If it is just
  closed, that breaks off a body whose end is marked. -/
  | cut {part : Bytes} {ending : Ending} : part <+: m.bytes → ¬ m.Arrives h part ending →
      (ending = .closed → m.head <+: part ∧ m.framing ≠ .close) →
      Breaks m h part ending ending.fault
  /-- After some chunks there is one without a size. -/
  | badChunk (chunks : List Bytes) {b : UInt8} (rest : Bytes) (ending : Ending) :
      h.isBodiless = false → m.framing = .chunked → Hex.isDigit (Head.lower b) = false →
      Breaks m h (m.head ++ (Reader.chunksBytes chunks ++ b :: rest)) ending .receiveFailure

variable {m : Message} {h : Head}

/-- A part of a body whose end is marked leaves the reader in the middle of it. -/
theorem scan_partOfBody (hSays : m.Says h) (hBody : h.isBodiless = false)
    (hMarked : m.framing ≠ .close) {part : Bytes} (hPart : part <+: m.body)
    (hCut : part ≠ m.body) :
    (Reader.scan ⟨.afterHead h, []⟩ part).1.isOver = false ∧
      (Reader.scan ⟨.afterHead h, []⟩ part).1.phase.isDelimited = true := by
  rw [afterHead_eq hSays hBody, bodyPhase]
  cases hFraming : m.framing with
  | close => exact absurd hFraming hMarked
  | length =>
    rw [body, hFraming] at hPart hCut
    have hShort : part.length < m.pieces.flatten.length :=
      Nat.lt_of_le_of_ne hPart.length_le fun hSame => hCut (hPart.eq_of_length hSame)
    have hMore : m.pieces.flatten ≠ [] := List.length_pos_iff.mp (Nat.zero_lt_of_lt hShort)
    dsimp only
    rw [if_neg hMore]
    by_cases hNone : part = []
    · subst hNone
      exact ⟨rfl, rfl⟩
    · rw [Reader.scan_countdown (Reader.step_counted h) hNone hShort.le, if_neg hShort.ne]
      exact ⟨rfl, rfl⟩
  | chunked =>
    rw [body, hFraming, Reader.bodyBytes_chunked] at hPart hCut
    -- what arrives lacks the last byte, and before that byte the reader is not done
    have hBefore := (List.prefix_concat_iff.mp hPart).resolve_left hCut
    refine ⟨Reader.not_isOver_of_prefix hBefore ?_, Reader.scan_delimited rfl _⟩
    rw [Reader.scan_beforeEnd]
    rfl

/-- A part of a message that has not arrived leaves the reader in the middle of it. -/
theorem scan_part (hSays : m.Says h) {part : Bytes} {ending : Ending} (hPart : part <+: m.bytes)
    (hArrives : ¬ m.Arrives h part ending) :
    (Reader.start.scan part).1.isOver = false ∧ (m.head <+: part → m.framing ≠ .close →
      (Reader.start.scan part).1.phase.isDelimited = true) := by
  by_cases hHead : m.head <+: part
  · -- the whole head is there, so the part breaks off in the body
    obtain ⟨rest, rfl⟩ := hHead
    have hBody : h.isBodiless = false := by
      by_contra hBodiless
      rw [Bool.not_eq_false] at hBodiless
      exact hArrives (by rw [Arrives, if_pos hBodiless]; exact List.prefix_append _ _)
    have hRest : rest <+: m.body := (List.prefix_append_right_inj _).mp hPart
    rw [Reader.scan_append, scan_head hSays]
    -- a body without a mark ends with the connection, so no part of it looks incomplete
    by_cases hClose : m.framing = .close
    · rw [afterHead_eq hSays hBody, bodyPhase, hClose, Reader.scan_unbounded]
      exact ⟨rfl, fun _ hMarked => absurd rfl hMarked⟩
    · have hCut : rest ≠ m.body := by
        rintro rfl
        exact hArrives (by rw [Arrives, if_neg (by simp [hBody]), if_neg hClose]; rfl)
      obtain ⟨hOver, hDelimited⟩ := scan_partOfBody hSays hBody hClose hRest hCut
      exact ⟨hOver, fun _ _ => hDelimited⟩
  · refine ⟨?_, fun hFull => absurd hFull hHead⟩
    -- the part breaks off within the head
    have hShort : part <+: m.head :=
      (List.prefix_or_prefix_of_prefix hPart (List.prefix_append _ _)).resolve_right hHead
    exact scan_partOfHead hSays hShort fun hSame => hHead (hSame ▸ List.prefix_refl _)

/-- **A message that breaks off is a fault**, whatever of it has been read before. -/
theorem readReply_of_breaks (hSays : m.Says h) {segments : List Bytes} {ending : Ending} {f : Fault}
    (hBreaks : m.Breaks h segments.flatten ending f) :
    ∃ pieces, readReply segments ending = .broken pieces f := by
  obtain ⟨pieces, hReply, -⟩ := exists_readReply segments ending
  refine ⟨pieces, ?_⟩
  rw [hReply]
  -- only the bytes count, not the segments they came in
  generalize segments.flatten = received at hBreaks
  cases hBreaks with
  | silent => rfl
  | cut hPart hArrives hClosed =>
    obtain ⟨hOver, hDelimited⟩ := scan_part hSays hPart hArrives
    exact Reader.conclude_of_cut hOver (fun hEnding =>
      hDelimited (hClosed hEnding).1 (hClosed hEnding).2) pieces
  | @badChunk chunks b rest _ hBody hFraming hDigit =>
    rw [Reader.scan_append, scan_head hSays, afterHead_eq hSays hBody, bodyPhase, hFraming,
      Reader.scan_append, Reader.scan_chunks, Reader.scan_noSize h hDigit rest]
    rfl

end Message

end ProxyAudit.Http
