import Mathlib
import ProxyAudit.Digest.Basic

/-!
# The texts of digests

A digest is read from the first token of a text. The token has to be 64 hexadecimal digits, in
either case. If it is something else, its length in bytes is reported, or, if that is right, its
first character that is no digit. Bytes and characters count differently, so a token of 64 bytes may
have fewer characters, and one of 64 characters more bytes.

Main results:

* `isFirstToken_iff`  — every text has one first token.
* `hex_of_ofHex?`     — the digits that spell a digest are those that it is written with.
* `parse_eq_iff`      — what is read from a text, said by its first token.
* `parse_language`    — what is accepted, what is reported, and what changes nothing.
-/

namespace ProxyAudit

-- ---------------------------------------------------------------------------
-- Tokens
-- ---------------------------------------------------------------------------

namespace Text

/-- The white space of Unicode: the control characters, the spaces and the separators. -/
def whiteSpace : List Nat :=
  [0x09, 0x0a, 0x0b, 0x0c, 0x0d, 0x20, 0x85, 0xa0, 0x1680, 0x2000, 0x2001, 0x2002, 0x2003, 0x2004,
   0x2005, 0x2006, 0x2007, 0x2008, 0x2009, 0x200a, 0x2028, 0x2029, 0x202f, 0x205f, 0x3000]

/-- A character of white space. -/
def IsWhite (c : Char) : Prop :=
  c.toNat ∈ whiteSpace

theorem isBlank_iff {c : Char} : isBlank c = true ↔ IsWhite c := by
  simp only [isBlank, IsWhite, whiteSpace, Bool.or_eq_true, Bool.and_eq_true, beq_iff_eq,
    decide_eq_true_eq, List.mem_cons, List.not_mem_nil, or_false]
  omega

/-- The first token of a text stands between white space. The empty token is the first of a text
that is white space throughout. -/
def IsFirstToken (cs token : List Char) : Prop :=
  ∃ before after, cs = before ++ token ++ after ∧ (∀ c ∈ before, IsWhite c) ∧
    (∀ c ∈ token, ¬ IsWhite c) ∧ (∀ c ∈ after.head?, IsWhite c) ∧ (token = [] → after = [])

theorem not_isBlank_iff {c : Char} : (!isBlank c) = true ↔ ¬ IsWhite c := by
  rw [Bool.not_eq_true', ← isBlank_iff, Bool.not_eq_true]

theorem firstToken_of_split {before token after : List Char} (hBefore : ∀ c ∈ before, IsWhite c)
    (hToken : ∀ c ∈ token, ¬ IsWhite c) (hAfter : ∀ c ∈ after.head?, IsWhite c)
    (hNone : token = [] → after = []) : firstToken (before ++ token ++ after) = token := by
  rw [List.append_assoc, firstToken_append _ fun c hc => isBlank_iff.mpr (hBefore c hc)]
  cases token with
  | nil =>
    rw [hNone rfl]
    rfl
  | cons c token =>
    -- the first character is not skipped, and the token ends where the white space begins
    have hStart : isBlank c = false := by
      simpa using not_isBlank_iff.mpr (hToken c List.mem_cons_self)
    have hEnd : after.takeWhile (!isBlank ·) = [] := by
      cases after with
      | nil => rfl
      | cons d after => simp [isBlank_iff.mpr (hAfter d rfl)]
    rw [firstToken, List.cons_append, List.dropWhile_cons_of_neg (by simp [hStart]),
      ← List.cons_append,
      List.takeWhile_append_of_pos fun d hd => not_isBlank_iff.mpr (hToken d hd), hEnd,
      List.append_nil]

theorem isFirstToken_firstToken (cs : List Char) : IsFirstToken cs (firstToken cs) := by
  refine ⟨cs.takeWhile isBlank, (cs.dropWhile isBlank).dropWhile (!isBlank ·), ?_, ?_, ?_, ?_, ?_⟩
  · rw [List.append_assoc, firstToken, List.takeWhile_append_dropWhile,
      List.takeWhile_append_dropWhile]
  · exact fun c hc => isBlank_iff.mp (List.mem_takeWhile_imp hc)
  · intro c hc
    exact not_isBlank_iff.mp (List.mem_takeWhile_imp (p := (!isBlank ·)) hc)
  · intro c hc
    have hNot := List.head?_dropWhile_not (!isBlank ·) (cs.dropWhile isBlank)
    rw [Option.mem_def.mp hc] at hNot
    exact isBlank_iff.mp (by simpa using hNot)
  · intro hNone
    -- what follows white space starts a token, so there is nothing
    have hNot := List.head?_dropWhile_not isBlank cs
    unfold firstToken at hNone
    cases hRest : cs.dropWhile isBlank with
    | nil => rfl
    | cons c rest =>
      rw [hRest] at hNone hNot
      simp only [List.head?_cons] at hNot
      rw [List.takeWhile_cons_of_pos (by simp [hNot])] at hNone
      contradiction

/-- **Every text has one first token.** -/
theorem isFirstToken_iff {cs token : List Char} :
    IsFirstToken cs token ↔ token = firstToken cs := by
  constructor
  · rintro ⟨before, after, rfl, hBefore, hToken, hAfter, hNone⟩
    exact (firstToken_of_split hBefore hToken hAfter hNone).symm
  · rintro rfl
    exact isFirstToken_firstToken cs

end Text

-- ---------------------------------------------------------------------------
-- Characters in either case
-- ---------------------------------------------------------------------------

namespace Text

/-- A character with a lower case of its own is a capital letter of ASCII. -/
theorem toLower_cases (c : Char) : c.toLower = c ∨ 65 ≤ c.toNat ∧ c.toNat < 91 := by
  unfold Char.toLower
  split
  · next h =>
    have hLow : 'A'.val ≤ c.val := h.1
    have hHigh : c.val ≤ 'Z'.val := h.2
    rw [UInt32.le_iff_toNat_le] at hLow hHigh
    exact .inr ⟨hLow, Nat.lt_succ_of_le hHigh⟩
  · exact .inl rfl

/-- What holds of the capital letters as of their lower case holds of all characters so. -/
theorem toLower_iff {p : Char → Bool}
    (hCapital : ∀ n ∈ List.range' 65 26, p (Char.ofNat n).toLower = p (Char.ofNat n)) (c : Char) :
    p c.toLower = p c := by
  rcases toLower_cases c with hSame | ⟨hLow, hHigh⟩
  · rw [hSame]
  · have hAt := hCapital c.toNat (List.mem_range'_1.mpr ⟨hLow, by omega⟩)
    rwa [Char.ofNat_toNat] at hAt

theorem isBlank_toLower (c : Char) : isBlank c.toLower = isBlank c :=
  toLower_iff (by decide) c

/-- The first token of a text in lower case. -/
theorem firstToken_map_toLower (cs : List Char) :
    firstToken (cs.map Char.toLower) = (firstToken cs).map Char.toLower := by
  have hBlank : isBlank ∘ Char.toLower = isBlank := funext isBlank_toLower
  have hNotBlank : (!isBlank ·) ∘ Char.toLower = (!isBlank ·) :=
    funext fun c => congrArg (!·) (isBlank_toLower c)
  rw [firstToken, firstToken, List.dropWhile_map, List.takeWhile_map, hBlank, hNotBlank]

end Text

namespace Hex

/-- A hexadecimal digit of ASCII, in either case. -/
def IsDigit (c : Char) : Prop :=
  ('0' ≤ c ∧ c ≤ '9') ∨ ('a' ≤ c ∧ c ≤ 'f') ∨ ('A' ≤ c ∧ c ≤ 'F')

theorem isDigit_iff {c : Char} : isDigit c = true ↔ IsDigit c := by
  unfold isDigit value? IsDigit
  split
  · simp [*]
  split
  · simp [*]
  · split <;> simp [*]

theorem not_isDigit_iff {c : Char} : (!isDigit c) = true ↔ ¬ IsDigit c := by
  rw [Bool.not_eq_true', ← isDigit_iff, Bool.not_eq_true]

theorem isDigit_toLower (c : Char) : isDigit c.toLower = isDigit c :=
  Text.toLower_iff (by decide) c

/-- A digit is a character of ASCII. -/
theorem IsDigit.toNat_lt {c : Char} (h : IsDigit c) : c.toNat < 128 := by
  have hLe {d : Char} (hd : c ≤ d) : c.toNat ≤ d.toNat := hd
  rcases h with ⟨-, h⟩ | ⟨-, h⟩ | ⟨-, h⟩ <;> exact Nat.lt_of_le_of_lt (hLe h) (by decide)

/-- The value of a digit is written as that digit in lower case. -/
theorem digit_of_value? {c : Char} {n : Nat} (h : value? c = some n) :
    n < 16 ∧ digit n = c.toLower := by
  have hAll : ∀ m ∈ List.range 128,
      (value? (Char.ofNat m)).all (fun n => n < 16 && digit n == (Char.ofNat m).toLower) := by
    decide +kernel
  have hDigit : IsDigit c := isDigit_iff.mp (by rw [isDigit, h, Option.isSome_some])
  have hAt := hAll c.toNat (List.mem_range.mpr hDigit.toNat_lt)
  rw [Char.ofNat_toNat, h] at hAt
  simpa using hAt

/-- Bytes are written with the digits that spell them, in lower case. -/
theorem write_of_read? {cs : List Char} {bytes : Bytes} (h : read? cs = some bytes) :
    write bytes = cs.map Char.toLower := by
  induction cs using read?.induct generalizing bytes with
  | case1 =>
    cases h
    rfl
  | case2 c => contradiction
  | case3 hi lo rest ih =>
    simp only [read?, bind, Option.bind_eq_some_iff, pure, Option.some.injEq] at h
    obtain ⟨m, hHigh, n, hLow, more, hMore, rfl⟩ := h
    obtain ⟨hm, hHighDigit⟩ := digit_of_value? hHigh
    obtain ⟨hn, hLowDigit⟩ := digit_of_value? hLow
    -- two digits are one byte, and the byte gives them back
    have hByte : (UInt8.ofNat (16 * m + n)).toNat = 16 * m + n := by
      rw [UInt8.toNat_ofNat']
      omega
    have hFirst : (16 * m + n) / 16 = m := by omega
    have hSecond : (16 * m + n) % 16 = n := by omega
    rw [write, hByte, hFirst, hSecond, hHighDigit, hLowDigit, ih hMore]
    rfl

/-- An even number of digits spells bytes. -/
theorem exists_read? {cs : List Char} (hEven : cs.length % 2 = 0)
    (hDigits : ∀ c ∈ cs, IsDigit c) : ∃ bytes, read? cs = some bytes := by
  induction cs using read?.induct with
  | case1 => exact ⟨[], rfl⟩
  | case2 c => simp at hEven
  | case3 hi lo rest ih =>
    obtain ⟨m, hHigh⟩ := Option.isSome_iff_exists.mp (isDigit_iff.mpr (hDigits hi (by simp)))
    obtain ⟨n, hLow⟩ := Option.isSome_iff_exists.mp (isDigit_iff.mpr (hDigits lo (by simp)))
    -- two digits at a time, so what is left is even too
    have hShorter : rest.length % 2 = 0 := by
      rw [List.length_cons, List.length_cons] at hEven
      omega
    obtain ⟨bytes, hRest⟩ := ih hShorter fun c hc => hDigits c (by simp [hc])
    refine ⟨UInt8.ofNat (16 * m + n) :: bytes, ?_⟩
    simp only [read?, hHigh, hLow, hRest, bind, Option.bind_some, pure]

theorem isDigit_of_read? {cs : List Char} {bytes : Bytes} (h : read? cs = some bytes) :
    ∀ c ∈ cs, IsDigit c := by
  induction cs using read?.induct generalizing bytes with
  | case1 => simp
  | case2 c => contradiction
  | case3 hi lo rest ih =>
    simp only [read?, bind, Option.bind_eq_some_iff, pure, Option.some.injEq] at h
    obtain ⟨m, hHigh, n, hLow, more, hMore, rfl⟩ := h
    simp only [List.mem_cons, forall_eq_or_imp]
    exact ⟨isDigit_iff.mp (by simp [isDigit, hHigh]), isDigit_iff.mp (by simp [isDigit, hLow]),
      ih hMore⟩

end Hex

-- ---------------------------------------------------------------------------
-- Lengths
-- ---------------------------------------------------------------------------

namespace Bytes

theorem utf8Length_eq (cs : List Char) : utf8Length cs = (String.ofList cs).utf8ByteSize := by
  induction cs with
  | nil => rfl
  | cons c cs ih =>
    have hSplit : String.ofList (c :: cs) = String.singleton c ++ String.ofList cs := by
      rw [String.singleton_eq_ofList, ← String.ofList_append]
      rfl
    rw [hSplit, String.utf8ByteSize_append, String.utf8ByteSize_singleton, ← ih]
    rfl

/-- Characters of ASCII have one byte each. -/
theorem utf8Length_of_ascii {cs : List Char} (h : ∀ c ∈ cs, c.toNat < 128) :
    utf8Length cs = cs.length := by
  induction cs with
  | nil => rfl
  | cons c cs ih =>
    have hOne : c.utf8Size = 1 := utf8Size_of_ascii (h c List.mem_cons_self)
    have hRest := ih fun d hd => h d (List.mem_cons_of_mem _ hd)
    rw [utf8Length] at hRest ⊢
    rw [List.foldr_cons, hRest, hOne, List.length_cons, Nat.add_comm]

end Bytes

-- ---------------------------------------------------------------------------
-- Reading
-- ---------------------------------------------------------------------------

namespace Digest

theorem hex_inj {d d' : Digest} (h : d.hex = d'.hex) : d = d' := by
  have hBack := ofHex?_hex d
  rw [h, ofHex?_hex] at hBack
  exact (Option.some.inj hBack).symm

theorem exists_ofHex? {cs : List Char} (hLength : cs.length = 64)
    (hDigits : ∀ c ∈ cs, Hex.IsDigit c) : ∃ d, ofHex? cs = some d := by
  obtain ⟨bytes, hRead⟩ := Hex.exists_read? (by omega) hDigits
  have hSame := congrArg List.length (Hex.write_of_read? hRead)
  rw [Hex.length_write, List.length_map, hLength] at hSame
  have h32 : bytes.length = 32 := by omega
  exact ⟨⟨bytes, h32⟩, by simp only [ofHex?, hRead, bind, Option.bind_some, h32, dif_pos]⟩

/-- A digest is written with the 64 digits that spell it, in lower case. -/
theorem hex_of_ofHex? {cs : List Char} {d : Digest} (h : ofHex? cs = some d) :
    cs.length = 64 ∧ (∀ c ∈ cs, Hex.IsDigit c) ∧ d.hex = cs.map Char.toLower := by
  simp only [ofHex?, bind, Option.bind_eq_some_iff] at h
  obtain ⟨bytes, hRead, hLength⟩ := h
  split at hLength
  · cases hLength
    have hWritten := Hex.write_of_read? hRead
    have hSame := congrArg List.length hWritten
    rw [Hex.length_write, List.length_map] at hSame
    exact ⟨by omega, Hex.isDigit_of_read? hRead, hWritten⟩
  · contradiction

/-- What is read from a text with a given first token. -/
inductive Reads (token : List Char) : Except ParseError Digest → Prop
  /-- The digits of a digest. -/
  | digest (d : Digest) : token.length = 64 → (∀ c ∈ token, Hex.IsDigit c) →
      d.hex = token.map Char.toLower → Reads token (.ok d)
  /-- A token of another length in bytes. -/
  | length : (String.ofList token).utf8ByteSize ≠ 64 →
      Reads token (.error (.length (String.ofList token).utf8ByteSize))
  /-- A token of the right length in bytes, up to its first character that is no digit. -/
  | nonHex (before : List Char) (c : Char) (after : List Char) :
      (String.ofList token).utf8ByteSize = 64 → token = before ++ c :: after →
      (∀ d ∈ before, Hex.IsDigit d) → ¬ Hex.IsDigit c → Reads token (.error (.nonHex c))

/-- Digits have one byte each. -/
theorem utf8ByteSize_of_digits {token : List Char} (hDigits : ∀ c ∈ token, Hex.IsDigit c) :
    (String.ofList token).utf8ByteSize = token.length := by
  rw [← Bytes.utf8Length_eq]
  exact Bytes.utf8Length_of_ascii fun c hc => (hDigits c hc).toNat_lt

/-- Nothing else is read from the same token. -/
theorem Reads.unique {token : List Char} {r r' : Except ParseError Digest} (h : Reads token r)
    (h' : Reads token r') : r = r' := by
  cases h with
  | digest d hLength hDigits hHex =>
    have hBytes := utf8ByteSize_of_digits hDigits
    cases h' with
    | digest d' _ _ hHex' => rw [hex_inj (hHex.trans hHex'.symm)]
    | length hOther => exact absurd (hBytes.trans hLength) hOther
    | nonHex before c after _ hSplit _ hNot =>
      exact absurd (hDigits c (by simp [hSplit])) hNot
  | length hOther =>
    cases h' with
    | digest d' hLength hDigits _ =>
      exact absurd ((utf8ByteSize_of_digits hDigits).trans hLength) hOther
    | length _ => rfl
    | nonHex _ _ _ hBytes => exact absurd hBytes hOther
  | nonHex before c after hBytes hSplit hBefore hNot =>
    cases h' with
    | digest d' _ hDigits _ => exact absurd (hDigits c (by simp [hSplit])) hNot
    | length hOther => exact absurd hBytes hOther
    | nonHex before' c' after' _ hSplit' hBefore' hNot' =>
      -- both are the first that is no digit
      have hFirst {before after : List Char} {c : Char} (hSplit : token = before ++ c :: after)
          (hBefore : ∀ d ∈ before, Hex.IsDigit d) (hNot : ¬ Hex.IsDigit c) :
          token.find? (!Hex.isDigit ·) = some c := by
        rw [List.find?_eq_some_iff_append]
        refine ⟨Hex.not_isDigit_iff.mpr hNot, before, after, hSplit, fun d hd => ?_⟩
        simpa using Hex.isDigit_iff.mpr (hBefore d hd)
      have hSame := (hFirst hSplit hBefore hNot).symm.trans (hFirst hSplit' hBefore' hNot')
      rw [Option.some.inj hSame]

theorem reads_parse (s : String) : Reads (Text.firstToken s.toList) (parse s) := by
  unfold parse
  dsimp only
  generalize Text.firstToken s.toList = token
  cases hRead : ofHex? token with
  | some d =>
    obtain ⟨hLength, hDigits, hHex⟩ := hex_of_ofHex? hRead
    exact .digest d hLength hDigits hHex
  | none =>
    by_cases hBytes : (String.ofList token).utf8ByteSize = 64
    · cases hFind : token.find? (!Hex.isDigit ·) with
      | none =>
        -- digits alone, so 64 of them
        have hDigits : ∀ c ∈ token, Hex.IsDigit c := fun c hc => by
          simpa [Hex.isDigit_iff] using List.find?_eq_none.mp hFind c hc
        obtain ⟨d, hDigest⟩ :=
          exists_ofHex? ((utf8ByteSize_of_digits hDigits).symm.trans hBytes) hDigits
        rw [hRead] at hDigest
        contradiction
      | some c =>
        have hFault : fault token = .nonHex c := by
          simp [fault, Bytes.utf8Length_eq, hBytes, hFind]
        obtain ⟨hNot, before, after, hSplit, hBefore⟩ := List.find?_eq_some_iff_append.mp hFind
        rw [hFault]
        refine .nonHex before c after hBytes hSplit (fun d hd => ?_) (Hex.not_isDigit_iff.mp hNot)
        simpa [Hex.isDigit_iff] using hBefore d hd
    · have hFault : fault token = .length (String.ofList token).utf8ByteSize := by
        simp [fault, Bytes.utf8Length_eq, hBytes]
      rw [hFault]
      exact .length hBytes

/-- **What is read from a text.** -/
theorem parse_eq_iff {s : String} {token : List Char} (h : Text.IsFirstToken s.toList token)
    {r : Except ParseError Digest} : parse s = r ↔ Reads token r := by
  have hParse := reads_parse s
  rw [← Text.isFirstToken_iff.mp h] at hParse
  constructor
  · rintro rfl
    exact hParse
  · exact hParse.unique

/-- Texts with the same first token are read alike. -/
theorem parse_congr {s s' : String} {token : List Char} (h : Text.IsFirstToken s.toList token)
    (h' : Text.IsFirstToken s'.toList token) : parse s = parse s' :=
  (parse_eq_iff h).mpr ((parse_eq_iff h').mp rfl)

/-- A text that spells a digest spells it in other cases too. -/
theorem parse_of_sameLetters {s s' : String} {d : Digest} (h : parse s = .ok d)
    (hLetters : s'.toList.map Char.toLower = s.toList.map Char.toLower) : parse s' = .ok d := by
  have hToken := congrArg Text.firstToken hLetters
  rw [Text.firstToken_map_toLower, Text.firstToken_map_toLower] at hToken
  have hReads := (parse_eq_iff (Text.isFirstToken_firstToken _)).mp h
  cases hReads with
  | digest _ hLength hDigits hHex =>
    refine (parse_eq_iff (Text.isFirstToken_firstToken _)).mpr (.digest d ?_ ?_ ?_)
    · simpa using (congrArg List.length hToken).trans (by simpa using hLength)
    · intro c hc
      -- its lower case is the lower case of a digit
      obtain ⟨c', hc', hSame⟩ : ∃ c' ∈ Text.firstToken s.toList, c'.toLower = c.toLower :=
        List.mem_map.mp (hToken ▸ List.mem_map_of_mem hc)
      have hDigit := Hex.isDigit_iff.mpr (hDigits c' hc')
      rw [← Hex.isDigit_toLower, hSame, Hex.isDigit_toLower] at hDigit
      exact Hex.isDigit_iff.mp hDigit
    · rw [hHex, hToken]

/--
**The language of digests.** Every text has one first token between white space, the empty one if
there is none, and:

* a digest is read exactly if the token is 64 hexadecimal digits, and it is written with them in
  lower case; else the number of bytes of the token is reported if it is not 64, and else the first
  character that is no digit;
* what surrounds a token changes nothing;
* from other cases of the letters of an accepted text the same digest is read.
-/
theorem parse_language (s : String) :
    (∃ token, Text.IsFirstToken s.toList token ∧
      (∀ other, Text.IsFirstToken s.toList other → other = token) ∧
      ∀ r, parse s = r ↔ Reads token r) ∧
    (∀ before token blanks rest : List Char, token ≠ [] → (∀ c ∈ token, ¬ Text.IsWhite c) →
      (∀ c ∈ before, Text.IsWhite c) → blanks ≠ [] → (∀ c ∈ blanks, Text.IsWhite c) →
      parse (String.ofList (before ++ token ++ blanks ++ rest)) = parse (String.ofList token)) ∧
    (∀ d s', parse s = .ok d → s'.toList.map Char.toLower = s.toList.map Char.toLower →
      parse s' = .ok d) := by
  refine ⟨?token, ?surrounded, fun d s' => parse_of_sameLetters⟩
  case token =>
    refine ⟨_, Text.isFirstToken_firstToken _, fun other => Text.isFirstToken_iff.mp, fun r => ?_⟩
    exact parse_eq_iff (Text.isFirstToken_firstToken _)
  case surrounded =>
    intro before token blanks rest hSome hToken hBefore hBlanks hWhite
    have hAlone : Text.IsFirstToken (String.ofList token).toList token :=
      ⟨[], [], by simp, by simp, hToken, by simp, fun _ => rfl⟩
    -- the blanks end the token, and what comes after them is not looked at
    refine parse_congr ⟨before, blanks ++ rest, ?_, hBefore, hToken, ?_, ?_⟩ hAlone
    · simp
    · intro c hc
      cases blanks with
      | nil => contradiction
      | cons d blanks =>
        cases hc
        exact hWhite _ List.mem_cons_self
    · intro hNone
      contradiction

-- 64 bytes, but half as many characters
example : parse (String.ofList (List.replicate 32 'é')) = .error (.nonHex 'é') := by decide +kernel

end Digest

end ProxyAudit
