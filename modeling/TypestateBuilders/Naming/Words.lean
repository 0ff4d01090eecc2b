/-!
# Words of a name

A name from an interface description is cut into words, and the words are laid out again in the
case that the generated code wants. Only ASCII letters and digits belong to words; every other
character separates them. Inside a run of letters and digits three characters decide whether a word
goes on (`continues`): a capital is followed by small letters or by further capitals, but the last
capital of a run opens a new word when a small letter follows it; a small letter or a digit is
followed by small letters and digits. So the words of `HTTPServer2x` are `HTTP` and `Server2x`.

`splitWords` finds the words by recursion on the name. `snakeCase`, `pascalCase` and `camelCase` lay
them out; all of them change the case of ASCII letters alone, because words hold nothing else.
-/

set_option autoImplicit false
set_option relaxedAutoImplicit false

namespace TypestateBuilders.Naming

/-- A character that belongs to words: an ASCII letter or digit. -/
def isWordChar (c : Char) : Bool :=
  c.isUpper || c.isLower || c.isDigit

/-- Whether the word that `c` belongs to goes on with the first character of `rest`. -/
def continues (c : Char) : List Char → Bool
  | [] => false
  | d :: rest =>
    if c.isUpper then d.isLower || (d.isUpper && !rest.head?.any Char.isLower)
    else d.isLower || d.isDigit

/-- The words of a text whose first word starts with `c` and goes on as the first of `words`. -/
def lengthenFirst (c : Char) : List (List Char) → List (List Char)
  | [] => [[c]]
  | word :: words => (c :: word) :: words

/-- The words of a name, in order. -/
def splitWords : List Char → List (List Char)
  | [] => []
  | c :: rest =>
    if isWordChar c then
      if continues c rest then lengthenFirst c (splitWords rest) else [c] :: splitWords rest
    else splitWords rest

/-- A word in small letters. -/
def lowerWord (word : List Char) : List Char :=
  word.map Char.toLower

/-- A word with its first letter a capital and all others small. -/
def capitalizeWord : List Char → List Char
  | [] => []
  | c :: rest => c.toUpper :: lowerWord rest

/-- The words of a name in small letters, joined by underscores. -/
def snakeChars (name : List Char) : List Char :=
  ['_'].intercalate ((splitWords name).map lowerWord)

/-- The words of a name, each with a capital in front, one after the other. -/
def pascalChars (name : List Char) : List Char :=
  ((splitWords name).map capitalizeWord).flatten

/-- The layout of `pascalChars` with a small first letter. -/
def camelChars (name : List Char) : List Char :=
  (pascalChars name).modifyHead Char.toLower

/-- The words of a name as texts. -/
def words (name : String) : List String :=
  (splitWords name.toList).map String.ofList

/-- `user_name`: words in small letters, joined by underscores. -/
def snakeCase (name : String) : String :=
  String.ofList (snakeChars name.toList)

/-- `UserName`: words with capitals in front, one after the other. -/
def pascalCase (name : String) : String :=
  String.ofList (pascalChars name.toList)

/-- `userName`: as `pascalCase`, with a small first letter. -/
def camelCase (name : String) : String :=
  String.ofList (camelChars name.toList)

/-- A word that goes on does so with a character of words. -/
theorem isWordChar_of_continues {c d : Char} {rest : List Char}
    (h : continues c (d :: rest) = true) : isWordChar d = true := by
  simp only [continues] at h
  simp only [isWordChar, Bool.or_eq_true]
  split at h
  · simp only [Bool.or_eq_true, Bool.and_eq_true] at h
    exact Or.inl (h.elim Or.inr fun h ↦ Or.inl h.1)
  · simp only [Bool.or_eq_true] at h
    exact h.elim (fun h ↦ Or.inl (Or.inr h)) Or.inr

end TypestateBuilders.Naming
