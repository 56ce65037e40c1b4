import FormulaText.Character.Casing

/-!
# Lower case of a text

Names are compared in lower case. The mapping works character by character but for the capital
sigma, whose small letter depends on where it stands in the word.
-/

namespace FormulaText.Text

/-- Whether the first character that a case context does not pass over is cased. -/
def meetsCased (context : List Char) : Bool :=
  match context.dropWhile Character.isCaseIgnorable with
  | c :: _ => Character.isCased c
  | [] => false

/-- The lower case of a character between the text before it, in reverse, and the text after
it. A capital sigma becomes a final sigma at the end of a word. -/
def lowerInContext (before : List Char) (c : Char) (after : List Char) : List Char :=
  if c = 'Σ' then [if meetsCased before && !meetsCased after then 'ς' else 'σ']
  else Character.lower c

def lowerFrom (before : List Char) : List Char → List Char
  | [] => []
  | c :: rest => lowerInContext before c rest ++ lowerFrom (c :: before) rest

def lowerCase (text : String) : String := String.ofList (lowerFrom [] text.toList)

def equalIgnoringAsciiCase (a b : String) : Bool :=
  a.toList.map Char.toLower == b.toList.map Char.toLower

end FormulaText.Text
