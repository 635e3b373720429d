/-!
# Plain text

A text without the characters that steer a terminal: control sequences, and control characters
other than white space. Words that a user gave are shown in messages in this form.

The reader is a machine with a state for each part of a control sequence. White space inside a
short sequence ends it and is kept; inside a string sequence it is a part of the string.

Main results:

* `plainFrom_ground_append` — a text whose characters are all shown is kept as it is.
-/

namespace ProxyAudit.Text

/-- The part of a control sequence that is being read. -/
inductive ControlState where
  /-- No sequence. -/
  | ground
  /-- The character after an escape. -/
  | escape
  /-- The characters that come between an escape and its last character. -/
  | intermediate
  /-- The parameters of a sequence that began with an opening bracket. -/
  | parameters
  /-- A string; the flag tells that a bell ends it. -/
  | string (bell : Bool)
  deriving DecidableEq, Repr

/-- A control character. -/
def isControl (c : Char) : Bool :=
  c.toNat < 0x20 || c.toNat == 0x7f

/-- The white space that a terminal shows. -/
def isShownSpace (c : Char) : Bool :=
  c == '\t' || c == '\n' || c == '\x0c' || c == '\r' || c == ' '

/-- A character that is shown outside of control sequences. -/
def isShown (c : Char) : Bool :=
  !isControl c || isShownSpace c

namespace ControlState

/-- The state after a character that begins a sequence, after its escape. -/
def ofIntroducer (c : Char) : ControlState :=
  if c == '[' then parameters
  else if c == ']' then string true
  else if c == 'P' || c == 'X' || c == '^' || c == '_' then string false
  else if 0x20 ≤ c.toNat ∧ c.toNat ≤ 0x2f then intermediate
  else ground

/-- The state after a character, and whether the character is shown. -/
def next (s : ControlState) (c : Char) : ControlState × Bool :=
  if c == '\x1b' then (escape, false)
  else if c == '\x18' || c == '\x1a' then (ground, false)
  else
    match s with
    | ground => (ground, isShown c)
    | string bell => (if bell && c == '\x07' then ground else s, false)
    | _ =>
      if isControl c then if isShownSpace c then (ground, true) else (s, false)
      else
        match s with
        | escape => (ofIntroducer c, false)
        | intermediate => (if c.toNat ≤ 0x2f then s else ground, false)
        | _ => (if c.toNat ≤ 0x3f then s else ground, false)

end ControlState

/-- The characters that are shown of a text that begins in a given state. -/
def plainFrom (s : ControlState) : List Char → List Char
  | [] => []
  | c :: cs =>
    match s.next c with
    | (s, true) => c :: plainFrom s cs
    | (s, false) => plainFrom s cs

/-- What is shown of a text. -/
def plain (s : String) : String :=
  String.ofList (plainFrom .ground s.toList)

theorem plainFrom_ground_append {shown : List Char} (cs : List Char)
    (h : ∀ c ∈ shown, isShown c) :
    plainFrom .ground (shown ++ cs) = shown ++ plainFrom .ground cs := by
  induction shown with
  | nil => rfl
  | cons c shown ih =>
    have hc : isShown c = true := h c (by simp)
    have hn : ControlState.ground.next c = (.ground, true) := by
      have h1 : (c == '\x1b') = false := by
        rw [beq_eq_false_iff_ne]; rintro rfl; revert hc; decide
      have h2 : (c == '\x18' || c == '\x1a') = false := by
        rw [Bool.or_eq_false_iff, beq_eq_false_iff_ne, beq_eq_false_iff_ne]
        constructor <;> (rintro rfl; revert hc; decide)
      simp [ControlState.next, h1, h2, hc]
    rw [List.cons_append, plainFrom, hn]
    simp only [List.cons_append]
    rw [ih fun d hd => h d (by simp [hd])]

end ProxyAudit.Text
