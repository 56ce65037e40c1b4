import FormulaText.PrefixMap.Basic

/-!
# Prefix maps as tries

The keys of a trie share the bytes that they have in common from the start. A lookup follows the
bytes of the text and remembers the last value it passed, until no key goes on with the next byte.
-/

namespace FormulaText

/-- Branches that go on with different bytes: the first branch with its byte, the value of the key
that ends there and the branches below it, and the branches beside it. -/
inductive Trie.Branches (V : Type) where
  | empty
  | branch (byte : UInt8) (value? : Option V) (below beside : Trie.Branches V)

/-- The value of the empty key and the branches for all others. -/
structure Trie (V : Type) where
  value? : Option V
  branches : Trie.Branches V

namespace Trie

variable {V : Type}

namespace Branches

def path (byte : UInt8) (value : V) : List UInt8 → Branches V
  | [] => .branch byte (some value) .empty .empty
  | next :: rest => .branch byte none (path next value rest) .empty

/-- Adds the key that begins with `byte` and goes on with `rest`. -/
def insert (byte : UInt8) (rest : List UInt8) (value : V) : Branches V → Branches V
  | .empty => path byte value rest
  | .branch other value? below beside =>
    if byte = other then
      match rest with
      | [] => .branch other (some value) below beside
      | next :: rest => .branch other value? (below.insert next rest value) beside
    else .branch other value? below (beside.insert byte rest value)

def find? (byte : UInt8) : Branches V → Option (Option V × Branches V)
  | .empty => none
  | .branch other value? below beside =>
    if byte = other then some (value?, below) else beside.find? byte

def isEmpty : Branches V → Bool
  | .empty => true
  | .branch _ _ _ _ => false

end Branches

def insert (trie : Trie V) (key : String) (value : V) : Trie V :=
  match PrefixMap.utf8Bytes key.toList with
  | [] => { trie with value? := some value }
  | byte :: rest => { trie with branches := trie.branches.insert byte rest value }

/-- The map of a list of entries. The last one for a key counts. -/
def ofList (entries : List (String × V)) : Trie V :=
  entries.foldl (fun trie entry ↦ trie.insert entry.1 entry.2) ⟨none, .empty⟩

/-- A walk along a text: the branches that are left, the number of bytes gone, and the longest key
passed so far. -/
structure Walk (V : Type) where
  branches : Branches V
  depth : Nat
  longest? : Option (Nat × V)

namespace Walk

def start (trie : Trie V) : Walk V := ⟨trie.branches, 0, trie.value?.map (0, ·)⟩

def step (walk : Walk V) (byte : UInt8) : Walk V :=
  match walk.branches.find? byte with
  | none => ⟨.empty, walk.depth + 1, walk.longest?⟩
  | some (value?, below) =>
    ⟨below, walk.depth + 1, (value?.map (walk.depth + 1, ·)).or walk.longest?⟩

def along (walk : Walk V) : List Char → Walk V
  | [] => walk
  | c :: rest =>
    if walk.branches.isEmpty then walk
    else ((String.utf8EncodeChar c).foldl step walk).along rest

end Walk

def longestPrefix? (trie : Trie V) (text : List Char) : Option (Nat × V) :=
  ((Walk.start trie).along text).longest?

instance : PrefixMap (Trie V) V where
  longestPrefix? := longestPrefix?

end Trie

end FormulaText
