import Vignette.Text

/-!
# `Vignette.Token`: the `#name#` tokens of a fragment

A token is a word between two `#`. The word may be empty and holds only ASCII
letters, digits and `_`. Tokens are found from left to right and share no `#`:
once a `#` has closed a token it cannot open the next one, while a `#` that
follows a broken-off word may still open one.
-/

set_option autoImplicit false

namespace Vignette.Token

/-- Whether `c` may stand in a token's name. -/
def isWordChar (c : Char) : Bool :=
  c.isAlphanum || c == '_'

/-- The text of the token that names `name`. -/
def render (name : Name) : Text :=
  '#' :: (name ++ ['#'])

/-- The names of the tokens in the rest of a fragment. The state is the word
read since a `#` that may still open a token, its last character first. -/
def namesFrom : Option Text → Text → List Name
  | _, [] => []
  | none, c :: t => if c = '#' then namesFrom (some []) t else namesFrom none t
  | some word, c :: t =>
    if c = '#' then word.reverse :: namesFrom none t
    else if isWordChar c then namesFrom (some (c :: word)) t
    else namesFrom none t

/-- The category names that the tokens of `fragment` ask for, left to right. -/
def names (fragment : Text) : List Name :=
  namesFrom none fragment

end Vignette.Token
