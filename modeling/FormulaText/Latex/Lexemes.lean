import FormulaText.PrefixMap.Trie
import FormulaText.Token.Lexeme

/-!
# The fixed texts of LaTeX formulas
-/

namespace FormulaText.Latex

def lexemes : List (String × Lexeme) :=
  [("+", .operator .plus),
    ("-", .operator .minus),
    ("*", .operator .multiply),
    ("\\cdot", .operator .multiply),
    ("\\times", .operator .multiply),
    ("\\ast", .operator .multiply),
    ("/", .operator .divide),
    ("\\div", .operator .divide),
    ("\\mod", .operator .modulus),
    ("\\bmod", .operator .modulus),
    ("\\%", .operator .modulus),
    ("^", .operator .exponent),
    ("_", .underscore),
    ("=", .equal),
    ("(", .bracket (.opening '(')),
    ("[", .bracket (.opening '[')),
    ("\x7b", .bracket (.opening '{')),
    ("\\\x7b", .bracket (.opening '{')),
    (")", .bracket (.closing ')')),
    ("]", .bracket (.closing ']')),
    ("\x7d", .bracket (.closing '}')),
    ("\\\x7d", .bracket (.closing '}')),
    ("\\ ", .space),
    ("\\,", .space),
    ("\\;", .space),
    ("\\:", .space),
    ("\\!", .space),
    ("\\quad", .space),
    ("\\qquad", .space),
    ("\\\\", .space),
    ("\\left", .delimiter true),
    ("\\right", .delimiter false)]

def table : Trie Lexeme := Trie.ofList lexemes

end FormulaText.Latex
