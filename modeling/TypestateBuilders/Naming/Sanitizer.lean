import TypestateBuilders.Naming.Words

/-!
# Sanitized names

A `Sanitizer` holds two lists of words that generated names must keep away from: words that the
target language reserves and names of its built-in types. `Sanitizer.convert` lays a name out in a
case and makes it an identifier: an empty result becomes `field`, and a leading digit is put behind
an underscore. `Sanitizer.sanitize` then appends a suffix to a name that is reserved or built in.

A run over many names remembers what it has answered. The memory (`NameCache`) maps a request, that
is a name, a case and a suffix, to its answer, and `sanitizeCached` consults it before it computes
anything.
-/

set_option autoImplicit false
set_option relaxedAutoImplicit false

namespace TypestateBuilders.Naming

/-- The ways in which the words of a name can be laid out. -/
inductive LetterCase
  | snake
  | camel
  | pascal
  | screamingSnake
  deriving DecidableEq, Repr

/-- The text of a letter case in requests: `screaming_snake` is `USER_NAME`. -/
def LetterCase.text : LetterCase → String
  | .snake => "snake"
  | .camel => "camel"
  | .pascal => "pascal"
  | .screamingSnake => "screaming_snake"

/-- All letter cases. -/
def LetterCase.all : List LetterCase :=
  [.snake, .camel, .pascal, .screamingSnake]

/-- The letter case that a text names, if any. -/
def LetterCase.ofText? (text : String) : Option LetterCase :=
  LetterCase.all.find? fun letterCase ↦ letterCase.text == text

/-- The words of a name laid out in a case, before any repair. -/
def LetterCase.layOut (letterCase : LetterCase) (name : List Char) : List Char :=
  match letterCase with
  | .snake => snakeChars name
  | .camel => camelChars name
  | .pascal => pascalChars name
  | .screamingSnake => (snakeChars name).map Char.toUpper

/-- A name that can open an identifier: `field` stands in for an empty name, and a name that starts
with a digit gets an underscore in front. -/
def repairStart : List Char → List Char
  | [] => "field".toList
  | c :: rest => if c.isDigit then '_' :: c :: rest else c :: rest

/-- The words that generated names must avoid. -/
structure Sanitizer where
  /-- Words that the target language reserves. -/
  reserved : List String
  /-- Names of types that the target language has built in. -/
  builtin : List String
  deriving Repr

namespace Sanitizer

/-- A name in the given case, usable as an identifier, whether or not it is reserved. -/
def convert (letterCase : LetterCase) (name : String) : String :=
  String.ofList (repairStart (letterCase.layOut name.toList))

/-- Whether a name is reserved or built in. -/
def isTaken (sanitizer : Sanitizer) (name : String) : Bool :=
  sanitizer.reserved.contains name || sanitizer.builtin.contains name

/-- The name with the suffix appended when it is reserved or built in. -/
def avoidTaken (sanitizer : Sanitizer) (suffix name : String) : String :=
  if sanitizer.isTaken name then name ++ suffix else name

/-- A name in the given case, with the suffix appended when the result is reserved or built in. -/
def sanitize (sanitizer : Sanitizer) (name : String) (letterCase : LetterCase)
    (suffix : String) : String :=
  sanitizer.avoidTaken suffix (convert letterCase name)

end Sanitizer

/-- What a sanitizer is asked for. -/
structure NameRequest where
  /-- The name to sanitize. -/
  name : String
  /-- The case to lay it out in. -/
  letterCase : LetterCase := .snake
  /-- What is appended to a reserved word. -/
  suffix : String := "_"
  deriving DecidableEq, Repr

/-- The answers that a run of requests has produced so far, latest first. -/
abbrev NameCache := List (NameRequest × String)

namespace Sanitizer

/-- The answer to a request, computed without any memory. -/
def answer (sanitizer : Sanitizer) (request : NameRequest) : String :=
  sanitizer.sanitize request.name request.letterCase request.suffix

/-- The answer to a request and the memory afterwards: a remembered answer is given again, and a
new one is remembered. -/
def sanitizeCached (sanitizer : Sanitizer) (cache : NameCache) (request : NameRequest) :
    String × NameCache :=
  match cache.lookup request with
  | some name => (name, cache)
  | none => (sanitizer.answer request, (request, sanitizer.answer request) :: cache)

/-- The answers to a run of requests that share one memory. -/
def sanitizeAll (sanitizer : Sanitizer) : NameCache → List NameRequest → List String
  | _, [] => []
  | cache, request :: requests =>
    (sanitizer.sanitizeCached cache request).1 ::
      sanitizer.sanitizeAll (sanitizer.sanitizeCached cache request).2 requests

end Sanitizer

end TypestateBuilders.Naming
