/-!
# Lower case

The words for the types of a column are compared in lower case. Two characters outside ASCII have
an ASCII letter in their lower case: the Kelvin sign (k) and the capital I with a dot above (i and a
combining dot). Every other character outside ASCII is kept as it is, since its lower case holds no
ASCII letter and so can never spell one of these words.
-/

namespace SchemaShell.Text

def lowerChar (c : Char) : List Char :=
  if c = '\u212A' then ['k']
  else if c = '\u0130' then ['i', '\u0307']
  else [c.toLower]

def lower (text : List Char) : List Char :=
  text.flatMap lowerChar

@[simp] theorem lower_cons (c : Char) (text : List Char) :
    lower (c :: text) = lowerChar c ++ lower text := rfl

end SchemaShell.Text
