import ProxyAudit.Text.Unprintable

/-!
# Quoted text

How a text or a single character is shown in a message: between quotes, with the quote itself,
the backslash and the common control characters escaped by a letter, and every character that
has no picture of its own written as its code point.
-/

namespace ProxyAudit.Text

/-- One character between quotes of the given kind. -/
def quotedPiece (quote c : Char) : List Char :=
  if c = '\x00' then ['\\', '0']
  else if c = '\t' then ['\\', 't']
  else if c = '\r' then ['\\', 'r']
  else if c = '\n' then ['\\', 'n']
  else if c = '\\' ∨ c = quote then ['\\', c]
  else if isShowable c then [c]
  else ['\\', 'u', '\x7b'] ++ Hex.ofNat c.toNat ++ ['\x7d']

/-- A text between double quotes. -/
def quoted (s : String) : String :=
  String.ofList (['"'] ++ s.toList.flatMap (quotedPiece '"') ++ ['"'])

/-- A character between single quotes. -/
def quotedChar (c : Char) : String :=
  String.ofList (['\''] ++ quotedPiece '\'' c ++ ['\''])

end ProxyAudit.Text
