import Mathlib
import ProxyAudit.Proofs.Config.RoundTrip
import ProxyAudit.Proofs.Toml.Proper

/-!
# Tables read key by key

A table is read in the order of its keys: each known key has a slot for what its value says, and the
first value that does not fit ends the reading. When all fit, the slots that are empty are those of
the keys that are missing, and the first of them that is required is reported. Both a document and
its sections are read so; what they have in common is here, and the sections.

Main results:

* `foldlM_eq_error_iff`   — a reading ends at the first value that does not fit.
* `Slot.eq_some_iff`      — what a slot holds after a reading.
* `decodeFields_eq_error_iff`, `decodeFields_eq_ok_iff`  — what is read of a section.
-/

namespace ProxyAudit.Config

open Toml (Entries Value ProperEntries)

-- ---------------------------------------------------------------------------
-- Results
-- ---------------------------------------------------------------------------

section Results

variable {ε α β : Type} {x : Except ε α} {e : ε} {b : β}

theorem map_eq_ok_iff {f : α → β} : x.map f = .ok b ↔ ∃ a, x = .ok a ∧ f a = b := by
  cases x <;> simp [Except.map]

theorem map_eq_error_iff {f : α → β} : x.map f = .error e ↔ x = .error e := by
  cases x <;> simp [Except.map]

theorem bind_eq_ok_iff {f : α → Except ε β} : x >>= f = .ok b ↔ ∃ a, x = .ok a ∧ f a = .ok b := by
  cases x <;> simp [bind, Except.bind]

theorem bind_eq_error_iff {f : α → Except ε β} :
    x >>= f = .error e ↔ x = .error e ∨ ∃ a, x = .ok a ∧ f a = .error e := by
  cases x <;> simp [bind, Except.bind]

end Results

-- ---------------------------------------------------------------------------
-- Single values
-- ---------------------------------------------------------------------------

/-- Why a value is not the text that is expected of it. -/
inductive TextMisfit : Value → Misfit → Prop where
  | wrongKind {v : Value} (h : ∀ s, v ≠ .string s) : TextMisfit v (.wrongKind v .text)

/-- Why a value is not the number that is expected of it. -/
inductive WordMisfit (expected : Expected) : Value → Misfit → Prop where
  | negative {n : Int} (h : n < 0) : WordMisfit expected (.integer n) (.negative n expected)
  | wrongKind {v : Value} (h : ∀ n, v ≠ .integer n) : WordMisfit expected v (.wrongKind v expected)

variable {v : Value} {m : Misfit}

theorem decodeText_eq_error_iff : decodeText v = .error m ↔ TextMisfit v m := by
  constructor
  · intro h
    unfold decodeText at h
    split at h <;> cases h
    exact .wrongKind ‹_›
  · rintro ⟨hKind⟩
    unfold decodeText
    split
    · exact (hKind _ rfl).elim
    · rfl

theorem decodeText_eq_ok_iff {s : String} : decodeText v = .ok s ↔ v = .string s := by
  constructor
  · intro h
    unfold decodeText at h
    split at h <;> cases h
    rfl
  · rintro rfl
    rfl

theorem decodeWord_eq_error_iff {expected : Expected} :
    decodeWord expected v = .error m ↔ WordMisfit expected v m := by
  constructor
  · intro h
    unfold decodeWord at h
    split at h
    · split_ifs at h with hNegative
      cases h
      exact .negative hNegative
    · cases h
      exact .wrongKind ‹_›
  · rintro (hNegative | hKind)
    · exact if_pos hNegative
    · unfold decodeWord
      split
      · exact (hKind _ rfl).elim
      · rfl

/-- A number of a document is below `2 ^ 63`, and so it is read as it is. -/
theorem decodeWord_eq_ok_iff {expected : Expected} (hProper : v.IsProper) {n : UInt64} :
    decodeWord expected v = .ok n ↔ v = wordValue n := by
  constructor
  · intro h
    unfold decodeWord at h
    split at h
    case h_1 i =>
      split_ifs at h with hNegative
      obtain rfl := Except.ok.inj h
      cases hProper with
      | integer hFits =>
        -- what a document can hold is at most 2^63-1, so the word does not wrap
        rw [Toml.isInteger, Bool.and_eq_true] at hFits
        have hUpper : i ≤ (2 ^ 63 - 1 : Nat) := of_decide_eq_true hFits.2
        have hSmall : i.toNat < 2 ^ 64 := by omega
        rw [wordValue, UInt64.toNat_ofNat_of_lt' hSmall]
        congr 1
        omega
    case h_2 => cases h
  · rintro rfl
    have hSign : ¬ (n.toNat : Int) < 0 := by omega
    simp only [wordValue, decodeWord, if_neg hSign, Int.toNat_natCast, UInt64.ofNat_toNat]

theorem not_wordMisfit {expected : Expected} {n : Int} (h : 0 ≤ n) :
    ¬ WordMisfit expected (.integer n) m := by
  rintro (hNegative | hKind)
  · omega
  · exact hKind n rfl

theorem wordValue_injective {a b : UInt64} (h : wordValue a = wordValue b) : a = b := by
  have hSame : (a.toNat : Int) = b.toNat := Value.integer.inj h
  exact UInt64.toNat_inj.mp (by exact_mod_cast hSame)

-- ---------------------------------------------------------------------------
-- Keys
-- ---------------------------------------------------------------------------

/-- The first of the required keys that a table lacks. -/
def firstMissing? (required : List String) (entries : Entries) : Option String :=
  required.find? fun key => key ∉ entries.map Prod.fst

theorem firstMissing?_cons (key : String) (required : List String) (entries : Entries) :
    firstMissing? (key :: required) entries
      = if key ∈ entries.map Prod.fst then firstMissing? required entries else some key := by
  unfold firstMissing?
  split_ifs with hThere
  · exact List.find?_cons_of_neg (by simpa using hThere)
  · exact List.find?_cons_of_pos (by simpa using hThere)

/-- A reading reports the first key that is missing, and nothing else at its end. -/
def Reports {α : Type} (missing : Option String) (result : Except Misfit α) : Prop :=
  ∀ m, result = .error m ↔ ∃ key, missing = some key ∧ m = .missing key

theorem reports_missing {α : Type} (key : String) :
    Reports (some key) (.error (.missing key) : Except Misfit α) := by
  intro m
  constructor
  · intro h
    exact ⟨key, rfl, (Except.error.inj h).symm⟩
  · rintro ⟨_, hKey, rfl⟩
    rw [Option.some.inj hKey]

theorem reports_ok {α : Type} (a : α) : Reports none (.ok a) :=
  fun _ => ⟨fun h => (nomatch h), fun ⟨_, hKey, _⟩ => (nomatch hKey)⟩

/-- Why a table does not hold what is expected: its first value that does not fit, in the order of
the table; or, if all values fit, the first required key that it lacks. -/
inductive FirstMisfit (misfits : String × Value → Misfit → Prop) (required : List String)
    (entries : Entries) : Misfit → Prop where
  | value {before after : Entries} {entry : String × Value} {m : Misfit}
      (hSplit : entries = before ++ entry :: after) (hBefore : ∀ e ∈ before, ∀ m, ¬ misfits e m)
      (h : misfits entry m) : FirstMisfit misfits required entries m
  | missing {key : String} (hFit : ∀ e ∈ entries, ∀ m, ¬ misfits e m)
      (h : firstMissing? required entries = some key) :
      FirstMisfit misfits required entries (.missing key)

theorem not_firstMisfit {misfits : String × Value → Misfit → Prop} {required : List String}
    {entries : Entries} (hFit : ∀ e ∈ entries, ∀ m, ¬ misfits e m)
    (hRequired : ∀ key ∈ required, key ∈ entries.map Prod.fst) {m : Misfit} :
    ¬ FirstMisfit misfits required entries m := by
  rintro (⟨rfl, -, hMisfit⟩ | ⟨-, hMissing⟩)
  · exact hFit _ (List.mem_append_right _ List.mem_cons_self) m hMisfit
  · have hLacks := List.find?_some hMissing
    exact of_decide_eq_true hLacks (hRequired _ (List.mem_of_find?_eq_some hMissing))

/-- In a table without repeated keys a key has one value. -/
theorem eq_of_mem_of_mem {entries : Entries} (hKeys : (entries.map Prod.fst).Nodup) {key : String}
    {v w : Value} (hv : (key, v) ∈ entries) (hw : (key, w) ∈ entries) : v = w := by
  have hSame := List.inj_on_of_nodup_map hKeys hv hw rfl
  exact congrArg Prod.snd hSame

section Reading

variable {δ α : Type} {step : δ → String × Value → Except Misfit δ}
  {misfits : String × Value → Misfit → Prop} {entries : Entries} {d d' : δ}

/-- **A reading ends at the first value that does not fit.** -/
theorem foldlM_eq_error_iff
    (hStep : ∀ d, ∀ e ∈ entries, ∀ m, step d e = .error m ↔ misfits e m) :
    entries.foldlM step d = .error m ↔ ∃ before entry after, entries = before ++ entry :: after ∧
      (∀ e ∈ before, ∀ m, ¬ misfits e m) ∧ misfits entry m := by
  induction entries generalizing d with
  | nil =>
    constructor
    · intro h
      cases h
    · rintro ⟨before, entry, after, hSplit, -⟩
      simp at hSplit
  | cons first rest ih =>
    have hFirst (d : δ) := hStep d first List.mem_cons_self
    have hRest (d : δ) := ih (d := d) fun d e he => hStep d e (List.mem_cons_of_mem _ he)
    rw [List.foldlM_cons, bind_eq_error_iff]
    constructor
    · rintro (hHere | ⟨d₁, hTaken, hLater⟩)
      · exact ⟨[], first, rest, rfl, fun _ he => (List.not_mem_nil he).elim, (hFirst d m).mp hHere⟩
      · -- the first entry was taken, so it is no misfit, and the error comes later
        obtain ⟨before, entry, after, rfl, hBefore, hMisfit⟩ := (hRest d₁).mp hLater
        refine ⟨first :: before, entry, after, rfl, List.forall_mem_cons.mpr ⟨fun m' h => ?_, hBefore⟩,
          hMisfit⟩
        cases hTaken.symm.trans ((hFirst d m').mpr h)
    · rintro ⟨before, entry, after, hSplit, hBefore, hMisfit⟩
      rcases List.cons_eq_append_iff.mp hSplit with ⟨rfl, hSame⟩ | ⟨before, rfl, rfl⟩
      · obtain ⟨rfl, -⟩ := List.cons.inj hSame
        exact .inl ((hFirst d m).mpr hMisfit)
      · -- entries before a misfit all fit, so the first is taken
        obtain ⟨hFits, hBefore⟩ := List.forall_mem_cons.mp hBefore
        cases hTaken : step d first with
        | error m' => exact (hFits m' ((hFirst d m').mp hTaken)).elim
        | ok d₁ => exact .inr ⟨d₁, rfl, (hRest d₁).mpr ⟨before, entry, after, rfl, hBefore, hMisfit⟩⟩

/-- A reading that goes to its end has met no value that does not fit. -/
theorem fits_of_foldlM (hStep : ∀ d, ∀ e ∈ entries, ∀ m, step d e = .error m ↔ misfits e m)
    (h : entries.foldlM step d = .ok d') : ∀ e ∈ entries, ∀ m, ¬ misfits e m := by
  induction entries generalizing d with
  | nil => exact fun _ he => (List.not_mem_nil he).elim
  | cons first rest ih =>
    rw [List.foldlM_cons] at h
    obtain ⟨d₁, hTaken, hLater⟩ := bind_eq_ok_iff.mp h
    refine List.forall_mem_cons.mpr ⟨fun m hMisfit => ?_, ?_⟩
    · cases hTaken.symm.trans ((hStep d first List.mem_cons_self m).mpr hMisfit)
    · exact ih (fun d e he => hStep d e (List.mem_cons_of_mem _ he)) hLater

/-- **Why a reading fails**: for its first misfit. -/
theorem reading_eq_error_iff {required : List String} {finish : δ → Except Misfit α}
    (hStep : ∀ d, ∀ e ∈ entries, ∀ m, step d e = .error m ↔ misfits e m)
    (hFinish : ∀ d', entries.foldlM step d = .ok d' →
      Reports (firstMissing? required entries) (finish d')) :
    entries.foldlM step d >>= finish = .error m ↔ FirstMisfit misfits required entries m := by
  rw [bind_eq_error_iff]
  constructor
  · rintro (hValue | ⟨d', hRead, hEnd⟩)
    · obtain ⟨before, entry, after, hSplit, hBefore, hMisfit⟩ := (foldlM_eq_error_iff hStep).mp hValue
      exact .value hSplit hBefore hMisfit
    · -- all values fit, so it was the end that failed
      obtain ⟨key, hMissing, rfl⟩ := (hFinish d' hRead m).mp hEnd
      exact .missing (fits_of_foldlM hStep hRead) hMissing
  · rintro (⟨hSplit, hBefore, hMisfit⟩ | ⟨hFit, hMissing⟩)
    · exact .inl ((foldlM_eq_error_iff hStep).mpr ⟨_, _, _, hSplit, hBefore, hMisfit⟩)
    · cases hRead : entries.foldlM step d with
      | error m' =>
        -- a misfit on the way is one that the document does not have
        obtain ⟨before, entry, after, rfl, -, hMisfit⟩ := (foldlM_eq_error_iff hStep).mp hRead
        exact (hFit entry (List.mem_append_right _ List.mem_cons_self) m' hMisfit).elim
      | ok d' => exact .inr ⟨d', rfl, (hFinish d' hRead _).mpr ⟨_, hMissing, rfl⟩⟩

end Reading

-- ---------------------------------------------------------------------------
-- Slots
-- ---------------------------------------------------------------------------

/-- The slot of a key: what is read of its value is kept in it, and no other key touches it. -/
structure Slot {δ α : Type} (step : δ → String × Value → Except Misfit δ) (key : String)
    (slot : δ → Option α) (decodeValue : Value → Except Misfit α) : Prop where
  taken : ∀ {d d' e}, step d e = .ok d' → e.1 = key → ∃ a, decodeValue e.2 = .ok a ∧ slot d' = some a
  kept : ∀ {d d' e}, step d e = .ok d' → e.1 ≠ key → slot d' = slot d

namespace Slot

variable {δ α : Type} {step : δ → String × Value → Except Misfit δ} {key : String}
  {slot : δ → Option α} {decodeValue : Value → Except Misfit α} {entries : Entries} {d d' : δ}

theorem kept_of_notMem (h : Slot step key slot decodeValue) (hRead : entries.foldlM step d = .ok d')
    (hKey : key ∉ entries.map Prod.fst) : slot d' = slot d := by
  induction entries generalizing d with
  | nil =>
    cases hRead
    rfl
  | cons e rest ih =>
    rw [List.foldlM_cons] at hRead
    obtain ⟨d₁, hTaken, hLater⟩ := bind_eq_ok_iff.mp hRead
    rw [List.map_cons, List.mem_cons, not_or] at hKey
    rw [ih hLater hKey.2, h.kept hTaken (Ne.symm hKey.1)]

theorem taken_of_mem (h : Slot step key slot decodeValue) (hKeys : (entries.map Prod.fst).Nodup)
    (hRead : entries.foldlM step d = .ok d') {v : Value} (hv : (key, v) ∈ entries) :
    ∃ a, decodeValue v = .ok a ∧ slot d' = some a := by
  induction entries generalizing d with
  | nil => exact (List.not_mem_nil hv).elim
  | cons e rest ih =>
    rw [List.foldlM_cons] at hRead
    obtain ⟨d₁, hTaken, hLater⟩ := bind_eq_ok_iff.mp hRead
    rw [List.map_cons, List.nodup_cons] at hKeys
    rcases List.mem_cons.mp hv with rfl | hv
    · obtain ⟨a, hValue, hSlot⟩ := h.taken hTaken rfl
      exact ⟨a, hValue, (h.kept_of_notMem hLater hKeys.1).trans hSlot⟩
    · exact ih hKeys.2 hLater hv

variable (h : Slot step key slot decodeValue) (hKeys : (entries.map Prod.fst).Nodup)
  (hEmpty : slot d = none) (hRead : entries.foldlM step d = .ok d')

include h hKeys hEmpty hRead

theorem eq_none_iff : slot d' = none ↔ key ∉ entries.map Prod.fst := by
  constructor
  · intro hNone hMem
    obtain ⟨⟨k, v⟩, hv, rfl⟩ := List.mem_map.mp hMem
    obtain ⟨a, -, hSome⟩ := h.taken_of_mem hKeys hRead hv
    cases hNone.symm.trans hSome
  · intro hKey
    rw [h.kept_of_notMem hRead hKey, hEmpty]

/-- **What a slot holds is what its key says.** -/
theorem eq_some_iff {a : α} :
    slot d' = some a ↔ ∃ v, (key, v) ∈ entries ∧ decodeValue v = .ok a := by
  constructor
  · intro hSome
    -- an absent key would have left the slot empty
    have hMem : key ∈ entries.map Prod.fst := by
      by_contra hKey
      cases ((h.eq_none_iff hKeys hEmpty hRead).mpr hKey).symm.trans hSome
    obtain ⟨⟨k, v⟩, hv, rfl⟩ := List.mem_map.mp hMem
    obtain ⟨b, hValue, hSlot⟩ := h.taken_of_mem hKeys hRead hv
    obtain rfl := Option.some.inj (hSlot.symm.trans hSome)
    exact ⟨v, hv, hValue⟩
  · rintro ⟨v, hv, hValue⟩
    obtain ⟨b, hOther, hSlot⟩ := h.taken_of_mem hKeys hRead hv
    obtain rfl := Except.ok.inj (hOther.symm.trans hValue)
    exact hSlot

end Slot

-- ---------------------------------------------------------------------------
-- Sections
-- ---------------------------------------------------------------------------

/-- Why a table does not hold the two numbers of a section. -/
def SectionMisfit (first second : String) (entries : Entries) : Misfit → Prop :=
  FirstMisfit (fun e => fun m => (e.1 = first ∨ e.1 = second) ∧ WordMisfit .word e.2 m)
    [first, second] entries

/-- Reads one key of a section. -/
def takeField (first second : String) (d : Option UInt64 × Option UInt64) (e : String × Value) :
    Except Misfit (Option UInt64 × Option UInt64) :=
  if e.1 = first then (decodeWord .word e.2).map fun n => (some n, d.2)
  else if e.1 = second then (decodeWord .word e.2).map fun n => (d.1, some n)
  else .ok d

def finishFields (first second : String) :
    Option UInt64 × Option UInt64 → Except Misfit (UInt64 × UInt64)
  | (none, _) => .error (.missing first)
  | (some _, none) => .error (.missing second)
  | (some m, some n) => .ok (m, n)

section Sections

variable {first second : String} {entries : Entries}

theorem decodeFields_eq (a b : Option UInt64) :
    decodeFields first second a b entries
      = entries.foldlM (takeField first second) (a, b) >>= finishFields first second := by
  induction entries generalizing a b with
  | nil => cases a <;> cases b <;> rfl
  | cons e rest ih =>
    obtain ⟨key, v⟩ := e
    rw [decodeFields, List.foldlM_cons, takeField]
    split_ifs <;> simp only [ih]
    · cases decodeWord .word v <;> rfl
    · cases decodeWord .word v <;> rfl
    · rfl

theorem takeField_eq_error_iff {d : Option UInt64 × Option UInt64} {e : String × Value}
    {m : Misfit} : takeField first second d e = .error m
      ↔ (e.1 = first ∨ e.1 = second) ∧ WordMisfit .word e.2 m := by
  unfold takeField
  split_ifs with hFirst hSecond
  · rw [map_eq_error_iff, decodeWord_eq_error_iff]
    exact ⟨fun h => ⟨.inl hFirst, h⟩, And.right⟩
  · rw [map_eq_error_iff, decodeWord_eq_error_iff]
    exact ⟨fun h => ⟨.inr hSecond, h⟩, And.right⟩
  · exact ⟨fun h => (nomatch h), fun h => (h.1.elim hFirst hSecond).elim⟩

theorem slot_first : Slot (takeField first second) first Prod.fst (decodeWord .word) := by
  constructor
  · intro d d' e hTaken hKey
    rw [takeField, if_pos hKey] at hTaken
    obtain ⟨n, hValue, rfl⟩ := map_eq_ok_iff.mp hTaken
    exact ⟨n, hValue, rfl⟩
  · intro d d' e hTaken hKey
    -- another key: it may be that of the second field, or none of the two
    rw [takeField, if_neg hKey] at hTaken
    split_ifs at hTaken
    · obtain ⟨n, -, rfl⟩ := map_eq_ok_iff.mp hTaken
      rfl
    · cases hTaken
      rfl

theorem slot_second (hNe : first ≠ second) :
    Slot (takeField first second) second Prod.snd (decodeWord .word) := by
  constructor
  · intro d d' e hTaken hKey
    have hOther : e.1 ≠ first := fun hSame => hNe (hSame.symm.trans hKey)
    rw [takeField, if_neg hOther, if_pos hKey] at hTaken
    obtain ⟨n, hValue, rfl⟩ := map_eq_ok_iff.mp hTaken
    exact ⟨n, hValue, rfl⟩
  · intro d d' e hTaken hKey
    rw [takeField, if_neg hKey] at hTaken
    split_ifs at hTaken
    · obtain ⟨n, -, rfl⟩ := map_eq_ok_iff.mp hTaken
      rfl
    · cases hTaken
      rfl

variable (hNe : first ≠ second) (hProper : ProperEntries entries)

include hNe hProper

/-- **Why a section cannot be read.** -/
theorem decodeFields_eq_error_iff {m : Misfit} :
    decodeFields first second none none entries = .error m ↔ SectionMisfit first second entries m := by
  rw [decodeFields_eq]
  refine reading_eq_error_iff (fun d e _ m => takeField_eq_error_iff) fun d' hRead => ?_
  have hFirst := slot_first.eq_none_iff hProper.keys rfl hRead
  have hSecond := (slot_second hNe).eq_none_iff hProper.keys rfl hRead
  rw [firstMissing?_cons, firstMissing?_cons]
  -- the four ways in which the two fields can be there
  obtain ⟨_ | a, _ | b⟩ := d'
  · rw [if_neg (hFirst.mp rfl)]
    exact reports_missing first
  · rw [if_neg (hFirst.mp rfl)]
    exact reports_missing first
  · rw [if_pos (by simpa using hFirst), if_neg (hSecond.mp rfl)]
    exact reports_missing second
  · rw [if_pos (by simpa using hFirst), if_pos (by simpa using hSecond)]
    exact reports_ok (a, b)

omit hNe in
theorem not_sectionMisfit {i j : Int} (hi : 0 ≤ i) (hj : 0 ≤ j)
    (hFirst : (first, .integer i) ∈ entries) (hSecond : (second, .integer j) ∈ entries)
    {m : Misfit} : ¬ SectionMisfit first second entries m := by
  refine not_firstMisfit (fun e he m hMisfit => ?_) fun key hKey => ?_
  · obtain ⟨key, v⟩ := e
    obtain ⟨rfl | rfl, hMisfit⟩ := hMisfit
    · rw [eq_of_mem_of_mem hProper.keys he hFirst] at hMisfit
      exact not_wordMisfit hi hMisfit
    · rw [eq_of_mem_of_mem hProper.keys he hSecond] at hMisfit
      exact not_wordMisfit hj hMisfit
  · rcases List.mem_pair.mp hKey with rfl | rfl
    · exact List.mem_map_of_mem hFirst
    · exact List.mem_map_of_mem hSecond

/-- **What is read of a section is what its keys say.** -/
theorem decodeFields_eq_ok_iff {a b : UInt64} :
    decodeFields first second none none entries = .ok (a, b)
      ↔ (first, wordValue a) ∈ entries ∧ (second, wordValue b) ∈ entries := by
  -- what is read stands in the table
  have hSound {a b : UInt64} (h : decodeFields first second none none entries = .ok (a, b)) :
      (first, wordValue a) ∈ entries ∧ (second, wordValue b) ∈ entries := by
    rw [decodeFields_eq] at h
    obtain ⟨⟨_ | i, _ | j⟩, hRead, hEnd⟩ := bind_eq_ok_iff.mp h <;> cases hEnd
    obtain ⟨v, hv, hFirst⟩ := (slot_first.eq_some_iff hProper.keys rfl hRead).mp rfl
    obtain ⟨w, hw, hSecond⟩ := ((slot_second hNe).eq_some_iff hProper.keys rfl hRead).mp rfl
    obtain rfl := (decodeWord_eq_ok_iff (hProper.values _ hv)).mp hFirst
    obtain rfl := (decodeWord_eq_ok_iff (hProper.values _ hw)).mp hSecond
    exact ⟨hv, hw⟩
  refine ⟨hSound, fun ⟨hFirst, hSecond⟩ => ?_⟩
  cases hRead : decodeFields first second none none entries with
  | error m =>
    -- a field of its kind is no misfit
    have hMisfit := (decodeFields_eq_error_iff hNe hProper).mp hRead
    exact (not_sectionMisfit hProper (Int.natCast_nonneg _) (Int.natCast_nonneg _) hFirst hSecond
      hMisfit).elim
  | ok read =>
    obtain ⟨a', b'⟩ := read
    obtain ⟨hFirst', hSecond'⟩ := hSound hRead
    obtain rfl := wordValue_injective (eq_of_mem_of_mem hProper.keys hFirst hFirst')
    obtain rfl := wordValue_injective (eq_of_mem_of_mem hProper.keys hSecond hSecond')
    rfl

end Sections

end ProxyAudit.Config
