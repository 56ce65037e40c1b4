import FormulaText.Text.LowerCase

/-!
# Greek letters

The names of the Greek letters. They are compared in lower case, so `Delta` is one as well as
`delta`.
-/

namespace FormulaText

def greekLetters : List String :=
  ["alpha", "beta", "gamma", "delta", "epsilon", "varepsilon", "zeta", "eta", "theta", "vartheta",
    "iota", "kappa", "lambda", "mu", "nu", "xi", "omicron", "pi", "varpi", "rho", "varrho", "sigma",
    "varsigma", "tau", "upsilon", "phi", "varphi", "chi", "psi", "omega", "digamma", "varkappa",
    "epsi"]

def isGreekLetter (name : String) : Bool := greekLetters.contains (Text.lowerCase name)

end FormulaText
