import FormulaText.Text.LowerCase

/-!
# Functions

A vocabulary says which names are functions of one argument. Names are kept in lower case, in
order and without repetition, so two vocabularies with the same functions are equal.
-/

namespace FormulaText

/-- The functions known from the start. Fractions and roots are not among them, because they have
rules of their own. -/
def commonFunctions : List String :=
  ["sin", "cos", "tan", "sec", "csc", "cot", "arcsin", "arccos", "arctan", "arcsec", "arccsc",
    "arccot", "sinh", "cosh", "tanh", "sech", "csch", "coth", "log", "lg", "ln", "exp", "det",
    "gcd", "min", "max"]

/-- The names that are read as functions. The Greek letters belong to no vocabulary, because they are
the same for all of them. -/
structure Vocabulary where
  functions : List String
deriving DecidableEq

namespace Vocabulary

/-- A name put at its place among names in order, unless it is there. -/
def insertName (name : String) : List String → List String
  | [] => [name]
  | other :: names =>
    if name = other then other :: names
    else if name < other then name :: other :: names
    else other :: insertName name names

def empty : Vocabulary := ⟨[]⟩

def addFunction (vocabulary : Vocabulary) (name : String) : Vocabulary :=
  ⟨insertName (Text.lowerCase name) vocabulary.functions⟩

def withFunctions (vocabulary : Vocabulary) (names : List String) : Vocabulary :=
  names.foldl addFunction vocabulary

def common : Vocabulary := empty.withFunctions commonFunctions

/-- Whether a name is that of a function, in any spelling. -/
def isFunction (vocabulary : Vocabulary) (name : String) : Bool :=
  vocabulary.functions.contains (Text.lowerCase name)

@[simp] theorem mem_insertName {name other : String} {names : List String} :
    other ∈ insertName name names ↔ other = name ∨ other ∈ names := by
  induction names with
  | nil => simp [insertName]
  | cons head names ih => grind [insertName]

theorem mem_functions_withFunctions {vocabulary : Vocabulary} {names : List String}
    {name : String} :
    name ∈ (vocabulary.withFunctions names).functions ↔
      name ∈ vocabulary.functions ∨ ∃ added ∈ names, name = Text.lowerCase added := by
  induction names generalizing vocabulary with
  | nil => simp [withFunctions]
  | cons head names ih =>
    have := @ih (vocabulary.addFunction head)
    simp only [withFunctions, List.foldl_cons] at this ⊢
    rw [this]
    simp [addFunction]
    grind

/-- A name is a function after names are added exactly if it was one or is a spelling of one. -/
theorem isFunction_withFunctions (vocabulary : Vocabulary) (names : List String) (name : String) :
    (vocabulary.withFunctions names).isFunction name = true ↔
      vocabulary.isFunction name = true ∨
        ∃ added ∈ names, Text.lowerCase name = Text.lowerCase added := by
  simp [isFunction, mem_functions_withFunctions]

end Vocabulary

end FormulaText
