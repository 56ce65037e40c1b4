/-!
# Maps that find the longest prefix

A prefix map has texts for keys. Asked about a text, it gives the value of the longest key that
the text begins with, and the length of that key in bytes of UTF-8. The empty key is a prefix of
every text.
-/

namespace FormulaText

/-- Lookup of the longest key that is a prefix of a text: its length in bytes and its value. -/
class PrefixMap (M : Type) (V : outParam Type) where
  longestPrefix? : M → List Char → Option (Nat × V)

namespace PrefixMap

def utf8Bytes (text : List Char) : List UInt8 := text.flatMap String.utf8EncodeChar

/-- The characters that lie wholly within the first bytes of a text. -/
def takeBytes : Nat → List Char → List Char
  | _, [] => []
  | bytes, c :: rest =>
    if c.utf8Size ≤ bytes then c :: takeBytes (bytes - c.utf8Size) rest else []

/-- The characters that make up exactly the first bytes of a text, unless these end inside a
character or go past the text. -/
def takeBytes? : Nat → List Char → Option (List Char)
  | 0, _ => some []
  | _ + 1, [] => none
  | bytes + 1, c :: rest =>
    if c.utf8Size ≤ bytes + 1 then (takeBytes? (bytes + 1 - c.utf8Size) rest).map (c :: ·)
    else none

theorem takeBytes_isPrefix (bytes : Nat) (text : List Char) : takeBytes bytes text <+: text := by
  induction text generalizing bytes with
  | nil => simp [takeBytes]
  | cons c rest ih =>
    simp only [takeBytes]
    split
    · exact List.cons_prefix_cons.2 ⟨rfl, ih _⟩
    · exact List.nil_prefix

end PrefixMap

end FormulaText
