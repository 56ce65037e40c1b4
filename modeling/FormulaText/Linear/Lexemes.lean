import FormulaText.PrefixMap.Trie
import FormulaText.Token.Lexeme

/-!
# The fixed texts of the linear notation
-/

namespace FormulaText.Linear

def lexemes : List (String × Lexeme) :=
  [("+", .operator .plus),
    ("-", .operator .minus),
    ("*", .operator .multiply),
    ("/", .operator .divide),
    ("%", .operator .modulus),
    ("^", .operator .exponent),
    ("_", .underscore),
    ("=", .equal),
    ("(", .bracket (.opening '(')),
    ("[", .bracket (.opening '[')),
    ("\x7b", .bracket (.opening '{')),
    (")", .bracket (.closing ')')),
    ("]", .bracket (.closing ']')),
    ("\x7d", .bracket (.closing '}'))]

def table : Trie Lexeme := Trie.ofList lexemes

end FormulaText.Linear
