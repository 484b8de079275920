import Multipath.Json.Token
import Multipath.Json.Value

/-!
# Reading JSON

`Value.ofText?` reads a JSON text.

* The tokens are read one by one. Around the value being read stand the containers that
  are open, innermost first, each with what it holds so far, so that the depth of a
  text is not limited.
-/

namespace Multipath.Json

def allDigits (digits : List Char) : Bool := !digits.isEmpty && digits.all Char.isDigit

/-- Digits without a leading zero, or zero alone. -/
def isWhole (digits : List Char) : Bool :=
  allDigits digits && (digits == ['0'] || digits.head? != some '0')

def isExponent : List Char → Bool
  | [] => true
  | mark :: '+' :: digits => (mark = 'e' || mark = 'E') && allDigits digits
  | mark :: '-' :: digits => (mark = 'e' || mark = 'E') && allDigits digits
  | mark :: digits => (mark = 'e' || mark = 'E') && allDigits digits

/-- What may follow the digits before the point. -/
def isFraction : List Char → Bool
  | '.' :: rest =>
    allDigits (rest.takeWhile Char.isDigit) && isExponent (rest.dropWhile Char.isDigit)
  | rest => isExponent rest

def isNumeral (word : List Char) : Bool :=
  let unsigned := if word.head? = some '-' then word.tail else word
  isWhole (unsigned.takeWhile Char.isDigit) && isFraction (unsigned.dropWhile Char.isDigit)

namespace Value

def ofWord? (word : List Char) : Option Value :=
  if word = "null".toList then some null
  else if word = "true".toList then some (bool true)
  else if word = "false".toList then some (bool false)
  else if isWhole word then some (natural (Nat.ofDigitChars 10 word 0))
  else if isNumeral word then some (numeral word)
  else none

end Value

/-- An open container with its contents, latest first. An object also has the key of the
value to come. -/
inductive Container
  | list (items : List Value)
  | object (members : List (Option String × Value)) (key : Option String)
deriving Repr

/-- What has been read, by what may come next. -/
inductive Reading
  | awaitValue (outer : List Container)
  | awaitItem (outer : List Container)
  | awaitKey (outer : List Container) (members : List (Option String × Value))
  | awaitColon (outer : List Container) (members : List (Option String × Value))
      (key : Option String)
  | complete (outer : List Container) (value : Value)
deriving Repr

namespace Reading

def beginValue (outer : List Container) : Token → Option Reading
  | .openObject => some (.awaitKey outer [])
  | .openList => some (.awaitItem outer)
  | .string content => some (.complete outer (.string content))
  | .word chars => (Value.ofWord? chars).map (.complete outer)
  | _ => none

/-- Goes on after a complete value. -/
def continue? (outer : List Container) (value : Value) : Token → Option Reading
  | .comma =>
    match outer with
    | .list items :: outer => some (.awaitValue (.list (value :: items) :: outer))
    | .object members key :: outer => some (.awaitKey outer ((key, value) :: members))
    | [] => none
  | .closeList =>
    match outer with
    | .list items :: outer => some (.complete outer (.list (value :: items).reverse))
    | _ => none
  | .closeObject =>
    match outer with
    | .object members key :: outer =>
      some (.complete outer (.object ((key, value) :: members).reverse))
    | _ => none
  | _ => none

/-- A key has to follow a comma, so an object ends here only while it is empty. -/
def readKey (outer : List Container) (members : List (Option String × Value)) :
    Token → Option Reading
  | .string content => some (.awaitColon outer members content)
  | .closeObject => if members.isEmpty then some (.complete outer (.object [])) else none
  | _ => none

def step : Reading → Token → Option Reading
  | .awaitValue outer, token => beginValue outer token
  | .awaitItem outer, .closeList => some (.complete outer (.list []))
  | .awaitItem outer, token => beginValue (.list [] :: outer) token
  | .awaitKey outer members, token => readKey outer members token
  | .awaitColon outer members key, .colon => some (.awaitValue (.object members key :: outer))
  | .awaitColon _ _ _, _ => none
  | .complete outer value, token => continue? outer value token

end Reading

namespace Value

def ofTokens? (tokens : List Token) : Option Value :=
  match tokens.foldlM Reading.step (.awaitValue []) with
  | some (.complete [] value) => some value
  | _ => none

def ofText? (text : String) : Option Value :=
  Token.ofChars? text.toList >>= ofTokens?

end Value

end Multipath.Json
