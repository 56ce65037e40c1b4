import FormulaText.PrefixMap.Basic

/-!
# Prefix maps over a map of byte strings

A map with byte strings for keys that can be cut down to the keys with a common beginning serves as
a prefix map, whatever it is made of. A lookup cuts the map down byte by byte and remembers the
last value it passed, until no key is left.
-/

namespace FormulaText

/-- Maps with byte strings for keys. -/
class ByteMap (T : Type → Type) where
  empty {V : Type} : T V
  insert {V : Type} : T V → List UInt8 → V → T V
  get? {V : Type} : T V → List UInt8 → Option V
  /-- The part of a map whose keys begin with some bytes. The keys stay whole. -/
  subtrie {V : Type} : T V → List UInt8 → T V
  isEmpty {V : Type} : T V → Bool

/-- A prefix map that is held in a map of byte strings. -/
structure SubtrieMap (T : Type → Type) (V : Type) where
  held : T V

namespace SubtrieMap

variable {T : Type → Type} {V : Type} [ByteMap T]

def ofList (entries : List (String × V)) : SubtrieMap T V :=
  ⟨entries.foldl (fun map entry ↦ ByteMap.insert map (PrefixMap.utf8Bytes entry.1.toList) entry.2)
    ByteMap.empty⟩

/-- Goes on after the bytes `gone` in the part of a map whose keys begin with them, where `longest?`
is the last value passed. -/
def walk (part : T V) (gone : List UInt8) (longest? : Option (Nat × V)) :
    List UInt8 → Option (Nat × V)
  | [] => longest?
  | byte :: rest =>
    let next := gone ++ [byte]
    let below := ByteMap.subtrie part next
    if ByteMap.isEmpty below then longest?
    else walk below next (((ByteMap.get? below next).map (next.length, ·)).or longest?) rest

def longestPrefix? (map : SubtrieMap T V) (text : List Char) : Option (Nat × V) :=
  let whole := ByteMap.subtrie map.held []
  walk whole [] ((ByteMap.get? whole []).map (0, ·)) (PrefixMap.utf8Bytes text)

instance : PrefixMap (SubtrieMap T V) V where
  longestPrefix? := longestPrefix?

end SubtrieMap

end FormulaText
