import FormulaText.PrefixMap.Basic

/-!
# Prefix maps as sorted lists

The entries stand in one order, longer keys first and keys of one length by their bytes, and no
key stands twice. A lookup takes the first key that fits, and two maps with the same entries are
the same list.
-/

namespace FormulaText

structure SortedMap (V : Type) where
  entries : List (String × V)
deriving DecidableEq

namespace SortedMap

variable {V : Type}

def precedes (a b : String) : Bool :=
  b.utf8ByteSize < a.utf8ByteSize ||
    (a.utf8ByteSize = b.utf8ByteSize &&
      decide (PrefixMap.utf8Bytes a.toList < PrefixMap.utf8Bytes b.toList))

/-- Whether an entry may stand before another one. Those with one key may stand in both orders. -/
def comes (left right : String × V) : Bool := !precedes right.1 left.1

/-- Keeps the last of each run of entries with one key. The entry `held` comes before the others. -/
def keepLast (held : String × V) : List (String × V) → List (String × V)
  | [] => [held]
  | later :: rest =>
    if later.1 = held.1 then keepLast later rest else held :: keepLast later rest

/-- The map of a list of entries. Sorting leaves entries with one key in their order, so that the
last one counts. -/
def ofList (entries : List (String × V)) : SortedMap V :=
  match entries.mergeSort comes with
  | [] => ⟨[]⟩
  | first :: rest => ⟨keepLast first rest⟩

def longestPrefix? (map : SortedMap V) (text : List Char) : Option (Nat × V) :=
  (map.entries.find? fun entry ↦ entry.1.toList.isPrefixOf text).map fun entry ↦
    (entry.1.utf8ByteSize, entry.2)

instance : PrefixMap (SortedMap V) V where
  longestPrefix? := longestPrefix?

end SortedMap

end FormulaText
