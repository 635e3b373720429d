/-!
# Byte strings

Bodies travel and are hashed as byte strings. A text enters as its UTF-8 bytes and leaves only
if the bytes are valid UTF-8.

Main results:

* `toText?_ofText`  — the bytes of a text spell the text.
* `ofText_inj`      — texts with the same bytes are the same.
* `ofText_append`   — a text has the bytes of its parts.
* `ofText_ofList`   — a character of ASCII has one byte.
-/

namespace ProxyAudit

/-- A byte string, first byte first. -/
abbrev Bytes := List UInt8

namespace Bytes

/-- The UTF-8 bytes of a text. -/
def ofText (s : String) : Bytes :=
  s.toUTF8.toList

/-- The text that these bytes spell in UTF-8, or none if they are not valid UTF-8. -/
def toText? (b : Bytes) : Option String :=
  String.fromUTF8? ⟨b.toArray⟩

theorem toList_loop_eq (b : ByteArray) (i : Nat) (r : List UInt8) :
    ByteArray.toList.loop b i r = r.reverse ++ b.data.toList.drop i := by
  induction hn : b.size - i generalizing i r with
  | zero =>
    have hEnd : b.data.toList.drop i = [] := by
      rw [List.drop_eq_nil_iff, Array.length_toList]
      exact Nat.le_of_sub_eq_zero hn
    rw [ByteArray.toList.loop, if_neg (by omega), hEnd, List.append_nil]
  | succ n ih =>
    have hLt : i < b.data.toList.length := by
      rw [Array.length_toList]
      exact Nat.lt_of_sub_eq_succ hn
    have hHere : b.get! i = b.data.toList[i] := by
      show b.data[i]! = _
      rw [Array.getElem_toList, getElem!_pos]
    rw [ByteArray.toList.loop, if_pos (by omega), ih (i + 1) _ (by omega),
      List.drop_eq_getElem_cons hLt, hHere, List.reverse_cons, List.append_assoc]
    rfl

theorem ofText_eq (s : String) : ofText s = s.toByteArray.data.toList := by
  rw [ofText, ByteArray.toList, toList_loop_eq]
  rfl

theorem ofText_append (s t : String) : ofText (s ++ t) = ofText s ++ ofText t := by
  simp only [ofText_eq, String.toByteArray_append, ByteArray.data_append, Array.toList_append]

theorem toText?_ofText (s : String) : toText? (ofText s) = some s := by
  have hBytes : (⟨(ofText s).toArray⟩ : ByteArray) = s.toUTF8 := by
    rw [ofText_eq]
    rfl
  rw [toText?, hBytes, String.fromUTF8?]
  exact dif_pos s.isValidUTF8

theorem ofText_inj {s t : String} (h : ofText s = ofText t) : s = t := by
  have hText := congrArg toText? h
  rw [toText?_ofText, toText?_ofText] at hText
  exact Option.some.inj hText

-- ---------------------------------------------------------------------------
-- ASCII
-- ---------------------------------------------------------------------------

theorem utf8Size_of_ascii {c : Char} (h : c.toNat < 128) : c.utf8Size = 1 := by
  rw [Char.utf8Size_eq_one_iff, UInt32.le_iff_toNat_le]
  exact Nat.le_of_lt_succ h

/-- A text of ASCII characters has one byte for each. -/
theorem ofText_ofList {cs : List Char} (h : ∀ c ∈ cs, c.toNat < 128) :
    ofText (String.ofList cs) = cs.map Char.toUInt8 := by
  rw [ofText_eq, String.toByteArray_ofList]
  induction cs with
  | nil => rfl
  | cons c cs ih =>
    rw [List.forall_mem_cons] at h
    rw [List.utf8Encode_cons, List.utf8Encode_singleton,
      String.utf8EncodeChar_eq_singleton (utf8Size_of_ascii h.1), ByteArray.data_append,
      Array.toList_append, ih h.2]
    rfl

theorem toNat_toUInt8 {c : Char} (h : c.toNat < 128) : c.toUInt8.toNat = c.toNat := by
  show c.toNat % 256 = c.toNat
  omega

/-- The first half of a byte string; the middle byte of an odd number belongs to the rest. -/
def firstHalf (b : Bytes) : Bytes :=
  b.take (b.length / 2)

/-- The length of the UTF-8 form of some characters. -/
def utf8Length (cs : List Char) : Nat :=
  cs.foldr (fun c n => c.utf8Size + n) 0

end Bytes

end ProxyAudit
