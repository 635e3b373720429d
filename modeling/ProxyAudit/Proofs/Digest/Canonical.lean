import Mathlib
import ProxyAudit.Json.Value
import ProxyAudit.Proofs.Digest.Families
import ProxyAudit.Proofs.Digest.Tokens
import ProxyAudit.Verify.Outcome

/-!
# The one written form of a digest

A digest that was read has the digits of its token, in lower case; a digest that was computed has
the digits of a hash. Both are shown, shortened, put into reports and compared by these digits. That
is sound because a digest has one written form only, whichever way it came about: 64 digits in lower
case, which spell its bytes. So a cut after twelve bytes is never out of range and never inside a
character, a report needs no escapes for it, and two digests have the same text exactly if they have
the same bytes.

Main results:

* `text_of_obtained`   — a digest is written as what it was had from.
* `parse_of_letters`   — a written digest reads back, in any mix of cases.
* `digest_canonical`   — what is known of a digest, whichever way it came about.
-/

namespace ProxyAudit

-- ---------------------------------------------------------------------------
-- Digits in lower case
-- ---------------------------------------------------------------------------

namespace Hex

/-- A hexadecimal digit in lower case. -/
def IsLowerDigit (c : Char) : Prop :=
  ('0' ≤ c ∧ c ≤ '9') ∨ ('a' ≤ c ∧ c ≤ 'f')

instance : DecidablePred IsLowerDigit :=
  fun _ => inferInstanceAs (Decidable (_ ∨ _))

theorem IsLowerDigit.isDigit {c : Char} (h : IsLowerDigit c) : IsDigit c :=
  h.imp_right .inl

/-- What is known of a written digit. -/
theorem plain_of_mem_write {b : Bytes} {c : Char} (h : c ∈ write b) :
    IsLowerDigit c ∧ c.utf8Size = 1 ∧ c.toLower = c ∧ Text.isBlank c = false ∧
      Json.stringPiece c = [c] := by
  have hAll : ∀ n < 16, IsLowerDigit (digit n) ∧ (digit n).utf8Size = 1 ∧
      (digit n).toLower = digit n ∧ Text.isBlank (digit n) = false ∧
      Json.stringPiece (digit n) = [digit n] := by decide
  obtain ⟨n, hn, rfl⟩ := exists_digit_of_mem_write h
  exact hAll n hn

theorem toLower_write (b : Bytes) : (write b).map Char.toLower = write b := by
  conv_rhs => rw [← List.map_id (write b)]
  exact List.map_congr_left fun c hc => (plain_of_mem_write hc).2.2.1

end Hex

-- ---------------------------------------------------------------------------
-- Cuts
-- ---------------------------------------------------------------------------

namespace Text

/-- The characters of a text up to a byte. There are none to be had if the text ends before that
byte, or if the byte is inside a character. -/
def upTo? : Nat → List Char → Option (List Char)
  | 0, _ => some []
  | _ + 1, [] => none
  | n + 1, c :: cs =>
    if c.utf8Size ≤ n + 1 then (upTo? (n + 1 - c.utf8Size) cs).map (c :: ·) else none

/-- Where each character has one byte, every byte of the text is a place to cut. -/
theorem upTo?_of_single {cs : List Char} (h : ∀ c ∈ cs, c.utf8Size = 1) {n : Nat}
    (hn : n ≤ cs.length) : upTo? n cs = some (cs.take n) := by
  induction cs generalizing n with
  | nil =>
    obtain rfl : n = 0 := by simpa using hn
    rfl
  | cons c cs ih =>
    cases n with
    | zero => rfl
    | succ n =>
      have hOne : c.utf8Size = 1 := h c List.mem_cons_self
      have hRest := ih (fun d hd => h d (List.mem_cons_of_mem _ hd)) (n := n) (by simpa using hn)
      simp [upTo?, hOne, hRest]

-- a cut inside a character of two bytes, and one behind it
example : upTo? 2 ['a', 'é', 'b'] = none ∧ upTo? 3 ['a', 'é', 'b'] = some ['a', 'é'] := by decide

end Text

-- ---------------------------------------------------------------------------
-- Texts
-- ---------------------------------------------------------------------------

namespace Digest

variable {d d' : Digest}

/-- The form of a written digest: 64 hexadecimal digits in lower case. -/
structure IsCanonical (text : String) : Prop where
  length_eq : text.length = 64
  digits : ∀ c ∈ text.toList, Hex.IsLowerDigit c

theorem toList_text (d : Digest) : d.text.toList = d.hex := by
  rw [text, String.toList_ofList]

theorem isCanonical_text (d : Digest) : IsCanonical d.text where
  length_eq := by rw [← String.length_toList, toList_text, length_hex]
  digits c hc := (Hex.plain_of_mem_write (d.toList_text ▸ hc)).1

theorem text_inj : d.text = d'.text ↔ d = d' := by
  constructor
  · intro h
    refine hex_inj ?_
    rw [← toList_text, ← toList_text, h]
  · rintro rfl
    rfl

theorem bytes_inj : d.bytes = d'.bytes ↔ d = d' := by
  cases d
  cases d'
  simp

/-- A digest may be cut after twelve bytes. -/
theorem upTo?_text (d : Digest) : Text.upTo? 12 d.text.toList = some d.short.toList := by
  rw [toList_text, short, String.toList_ofList]
  refine Text.upTo?_of_single (fun c hc => (Hex.plain_of_mem_write hc).2.1) ?_
  have hLength : d.hex.length = 64 := d.length_hex
  show 12 ≤ d.hex.length
  omega

/-- A digest needs no escapes in a report. -/
theorem compact_text (d : Digest) : (Json.str d.text).compact = "\"" ++ d.text ++ "\"" := by
  have hPlain : d.hex.flatMap Json.stringPiece = d.hex := by
    have hSingle : d.hex.flatMap Json.stringPiece = d.hex.flatMap fun c => [c] :=
      List.flatMap_congr fun c hc => (Hex.plain_of_mem_write hc).2.2.2.2
    rw [hSingle, List.flatMap_singleton']
  rw [← String.toList_inj]
  simp [Json.compact, Json.compactChars, Json.stringText, toList_text, hPlain]

theorem parse_text (d : Digest) : parse d.text = .ok d := by
  have hToken : Text.IsFirstToken d.text.toList d.hex := by
    refine ⟨[], [], by simp [toList_text], by simp, fun c hc hWhite => ?_, by simp, fun _ => rfl⟩
    have hBlank := (Hex.plain_of_mem_write hc).2.2.2.1
    rw [Text.isBlank_iff.mpr hWhite] at hBlank
    contradiction
  refine (parse_eq_iff hToken).mpr (.digest d d.length_hex (fun c hc => ?_) ?_)
  · exact (Hex.plain_of_mem_write hc).1.isDigit
  · exact (Hex.toLower_write d.bytes).symm

/-- **A written digest reads back,** in any mix of cases. -/
theorem parse_of_letters {s : String} (h : s.toList.map Char.toLower = d.text.toList) :
    parse s = .ok d := by
  refine parse_of_sameLetters d.parse_text ?_
  rw [h, toList_text]
  exact (Hex.toLower_write d.bytes).symm

-- ---------------------------------------------------------------------------
-- Where digests come from
-- ---------------------------------------------------------------------------

/-- The ways to a digest, with the text that it is given there: the token that it was read from, in
lower case, or a hash of the standard in digits. A sink is a member of any family, so it may be a
copy of another one; a copy of a digest is that digest. -/
inductive Obtained : Digest → String → Prop where
  | parsed {s : String} {token : List Char} {d : Digest} (hToken : Text.IsFirstToken s.toList token)
      (h : parse s = .ok d) : Obtained d (String.ofList (token.map Char.toLower))
  | finished {deeds : List Family.Deed} {i : Nat} {sink : DigestSink} {pieces : List Bytes}
      (hSink : (Family.run DigestSink.sinks deeds).member? i = some sink)
      (hPieces : (Family.run receivers deeds).member? i = some pieces) :
      Obtained sink.finish (String.ofList (Hex.write (Sha256.Standard.hash pieces.flatten)))
  | hashed (message : Bytes) :
      Obtained (ofBytes message) (String.ofList (Hex.write (Sha256.Standard.hash message)))

theorem text_ofBytes (message : Bytes) :
    (ofBytes message).text = String.ofList (Hex.write (Sha256.Standard.hash message)) := by
  rw [← Sha256.hash_eq]
  rfl

/-- **A digest is written as what it was had from.** -/
theorem text_of_obtained {text : String} (h : Obtained d text) : d.text = text := by
  cases h with
  | parsed hToken hParse =>
    cases (parse_eq_iff hToken).mp hParse with
    | digest _ _ _ hHex => rw [Digest.text, hHex]
  | finished hSink hPieces =>
    rw [DigestSink.member?_sinks, hPieces, Option.map_some, Option.some.injEq] at hSink
    rw [← hSink, DigestSink.updateAll_eq_after, DigestSink.finish_after, text_ofBytes]
  | hashed message => exact text_ofBytes message

/--
**Digests are canonical.** Whichever way a digest came about,

* its text is 64 digits in lower case, those of the token that it was read from or of the hash that
  was computed, and they spell its bytes;
* the cut after twelve bytes succeeds, and gives the first twelve digits;
* in a report the text stands between quotes, without escapes;
* the text reads back, in any mix of cases;
* two digests have the same text exactly if they have the same bytes, and exactly then they are
  equal. So a digest has the text of a hash, and a body with that hash matches it, exactly if its
  bytes are the SHA-256 value of the message.
-/
theorem digest_canonical {text : String} (h : Obtained d text) :
    d.text = text ∧ IsCanonical text ∧ Hex.read? text.toList = some d.bytes ∧
    Text.upTo? 12 text.toList = some d.short.toList ∧ d.short.toList = text.toList.take 12 ∧
    (Json.str d.text).compact = "\"" ++ text ++ "\"" ∧
    (∀ s : String, s.toList.map Char.toLower = text.toList → parse s = .ok d) ∧
    (∀ d' text', Obtained d' text' → (text = text' ↔ d.bytes = d'.bytes) ∧
      (d = d' ↔ d.bytes = d'.bytes)) ∧
    ∀ message, (text = (ofBytes message).text ↔ d.bytes = Sha256.Standard.hash message) ∧
      ∀ n, (Outcome.compare d ⟨ofBytes message, n⟩ = .matched n ↔
        d.bytes = Sha256.Standard.hash message) := by
  obtain rfl := text_of_obtained h
  -- a digest is its bytes, so what it is the digest of can be said of either
  have hBytes (message : Bytes) : d.bytes = Sha256.Standard.hash message ↔ d = ofBytes message := by
    rw [← bytes_inj, ← Sha256.hash_eq]
    rfl
  refine ⟨rfl, d.isCanonical_text, ?spelled, d.upTo?_text, ?short, d.compact_text,
    fun s => parse_of_letters, ?same, fun message => ⟨?text, fun n => ?verdict⟩⟩
  case spelled =>
    rw [toList_text]
    exact Hex.read?_write d.bytes
  case short => rw [short, String.toList_ofList, toList_text]
  case same =>
    intro d' text' h'
    rw [← text_of_obtained h', text_inj, bytes_inj]
    exact ⟨.rfl, .rfl⟩
  case text => rw [text_inj, hBytes]
  case verdict =>
    rw [hBytes, Outcome.compare]
    split
    · next hSame => simpa using hSame.symm
    · next hOther => simpa using fun hSame => hOther hSame.symm

/-- A line of a checksum file in capitals. It reads as the digest of its message, so a body with
that message matches it. -/
theorem digest_canonical_of_line :
    let line := "BA7816BF8F01CFEA414140DE5DAE2223B00361A396177A9CB410FF61F20015AD  abc.txt"
    let message : Bytes := [97, 98, 99]
    ∃ d, parse line = .ok d ∧
      d.text = "ba7816bf8f01cfea414140de5dae2223b00361a396177a9cb410ff61f20015ad" ∧
      d.short = "ba7816bf8f01" ∧ IsCanonical d.text ∧ d.bytes = Sha256.Standard.hash message ∧
      Outcome.compare d ⟨ofBytes message, 3⟩ = .matched 3 := by
  intro line message
  obtain ⟨d, hParse⟩ : ∃ d, parse line = .ok d := by
    have hIsOk : (parse line).isOk = true := by decide +kernel
    cases h : parse line with
    | ok d => exact ⟨d, rfl⟩
    | error e => simp [h, Except.isOk, Except.toBool] at hIsOk
  obtain ⟨hText, hCanonical, -, -, hShort, -, -, -, hHash⟩ :=
    digest_canonical (.parsed (Text.isFirstToken_firstToken line.toList) hParse)
  have hToken : String.ofList ((Text.firstToken line.toList).map Char.toLower)
      = "ba7816bf8f01cfea414140de5dae2223b00361a396177a9cb410ff61f20015ad" := by decide +kernel
  have hComputed : (ofBytes message).text
      = "ba7816bf8f01cfea414140de5dae2223b00361a396177a9cb410ff61f20015ad" := by decide +kernel
  have hBytes : d.bytes = Sha256.Standard.hash message :=
    (hHash message).1.mp (hToken.trans hComputed.symm)
  rw [← hText] at hCanonical
  refine ⟨d, hParse, hText.trans hToken, ?_, hCanonical, hBytes, ((hHash message).2 3).mpr hBytes⟩
  rw [← String.toList_inj, hShort, hToken]
  decide +kernel

end Digest

end ProxyAudit
