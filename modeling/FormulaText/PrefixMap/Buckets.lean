import FormulaText.PrefixMap.Basic
import Std.Data.HashMap

/-!
# Prefix maps as hash tables by length

Keys of the same length in bytes share a hash table. A lookup asks the tables from the longest
length down, each about the text cut off at its length. Any hash function will do.
-/

namespace FormulaText

/-- A text to be hashed by the function `hash`. -/
structure HashedText (hash : String → UInt64) where
  text : String
deriving DecidableEq

instance (hash : String → UInt64) : Hashable (HashedText hash) := ⟨fun key ↦ hash key.text⟩

/-- One hash table for each length of a key, from zero on. -/
structure BucketMap (hash : String → UInt64) (V : Type) where
  buckets : Array (Std.HashMap (HashedText hash) V)

namespace BucketMap

variable {hash : String → UInt64} {V : Type}

/-- Puts an entry into the table for the length of its key, adding tables up to that length. -/
def insert (map : BucketMap hash V) (key : String) (value : V) : BucketMap hash V :=
  let length := key.utf8ByteSize
  let missing := length + 1 - map.buckets.size
  ⟨(map.buckets ++ Array.replicate missing ∅).modify length (·.insert ⟨key⟩ value)⟩

def ofList (entries : List (String × V)) : BucketMap hash V :=
  entries.foldl (fun map entry ↦ map.insert entry.1 entry.2) ⟨#[]⟩

/-- The entry for the first bytes of a text, in the table for their number. -/
def prefixAt? (map : BucketMap hash V) (text : List Char) (length : Nat) : Option (Nat × V) := do
  let key ← PrefixMap.takeBytes? length text
  let bucket ← map.buckets[length]?
  let value ← bucket[(⟨String.ofList key⟩ : HashedText hash)]?
  return (length, value)

/-- The first hit from the longest length down. -/
def longestPrefix? (map : BucketMap hash V) (text : List Char) : Option (Nat × V) :=
  (List.range map.buckets.size).reverse.findSome? (map.prefixAt? text)

instance : PrefixMap (BucketMap hash V) V where
  longestPrefix? := longestPrefix?

end BucketMap

def fnv1a (text : String) : UInt64 :=
  (PrefixMap.utf8Bytes text.toList).foldl
    (fun hash byte ↦ (hash ^^^ byte.toUInt64) * 0x100000001b3) 0xcbf29ce484222325

end FormulaText
