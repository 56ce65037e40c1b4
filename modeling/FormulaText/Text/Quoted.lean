import FormulaText.Character.Visible

/-!
# Quoted text

Messages quote what they speak of. Inside the quotes the mark itself and the backslash are
preceded by a backslash, four control characters have short names, and a character that would not
be seen is given by its code point.
-/

namespace FormulaText.Text

def codePoint (c : Char) : List Char :=
  ['\\', 'u', '\x7b'] ++ Nat.toDigits 16 c.toNat ++ ['\x7d']

/-- A character as it stands between two quotation marks. -/
def escaped (mark c : Char) : List Char :=
  if c = '\x00' then ['\\', '0']
  else if c = '\t' then ['\\', 't']
  else if c = '\r' then ['\\', 'r']
  else if c = '\n' then ['\\', 'n']
  else if c = mark || c = '\\' then ['\\', c]
  else if Character.isVisible c then [c]
  else codePoint c

def quoted (text : String) : String :=
  String.ofList (['"'] ++ text.toList.flatMap (escaped '"') ++ ['"'])

def quotedChar (c : Char) : String := String.ofList (['\''] ++ escaped '\'' c ++ ['\''])

end FormulaText.Text
