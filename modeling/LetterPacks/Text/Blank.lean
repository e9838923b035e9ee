/-!
# Blank characters

A text is blank when nothing but white space is in it.  White space is the Unicode property
`White_Space`, so a no-break space or a line separator counts and a zero-width space does not.
-/

namespace LetterPacks.Text

def isBlank (character : Char) : Bool :=
  let point := character.toNat
  (0x09 ≤ point && point ≤ 0x0D) || point == 0x20 || point == 0x85 || point == 0xA0 ||
    point == 0x1680 || (0x2000 ≤ point && point ≤ 0x200A) || point == 0x2028 || point == 0x2029 ||
    point == 0x202F || point == 0x205F || point == 0x3000

def dropBlanks (characters : List Char) : List Char :=
  characters.dropWhile isBlank

def trimChars (characters : List Char) : List Char :=
  (dropBlanks (dropBlanks characters).reverse).reverse

def trim (text : String) : String :=
  String.ofList (trimChars text.toList)

def isBlankText (text : String) : Bool :=
  text.toList.all isBlank

/-- A text with the letters `A` to `Z` made small; every other character stays. -/
def asciiLower (text : String) : String :=
  String.ofList (text.toList.map Char.toLower)

theorem dropBlanks_cons_of_not_blank {first : Char} (rest : List Char)
    (printed : isBlank first = false) : dropBlanks (first :: rest) = first :: rest := by
  simp [dropBlanks, printed]

theorem dropBlanks_append_of_blank {before : List Char} (rest : List Char)
    (blank : ∀ character ∈ before, isBlank character = true) :
    dropBlanks (before ++ rest) = dropBlanks rest := by
  induction before with
  | nil => rfl
  | cons first others ih =>
      have here := blank first List.mem_cons_self
      simp only [dropBlanks, List.cons_append, List.dropWhile_cons, here, if_true]
      exact ih fun character member => blank character (List.mem_cons_of_mem _ member)

end LetterPacks.Text
