/-!
# Tokens of JSON

A JSON text is a sequence of tokens: the six signs of structure, strings, and words. A
word is any other run of characters that has no sign, quote or white space in it; which
words are values is not decided here.

* `Token.ofChars?` fails where a string is not closed, holds a control character or has
  an escape that is none.
* A string is kept as `none` when one of its `\u` escapes is half of a surrogate pair
  whose other half is not beside it. Such a string is well-formed but no text.
-/

namespace Multipath.Json

inductive Token
  | openObject
  | closeObject
  | openList
  | closeList
  | colon
  | comma
  | string (content : Option String)
  | word (chars : List Char)
deriving DecidableEq, Repr

/-- A part of a string: a character, or a code unit given by a `\u` escape. -/
inductive StringPart
  | char (c : Char)
  | unit (code : Nat)
deriving DecidableEq, Repr

namespace StringPart

def isHigh (code : Nat) : Bool := 0xD800 ≤ code && code < 0xDC00

def isLow (code : Nat) : Bool := 0xDC00 ≤ code && code < 0xE000

/-- The text of the parts after `done`, whose last character comes first. -/
def joinFrom? (done : List Char) : List StringPart → Option String
  | [] => some (String.ofList done.reverse)
  | .char c :: rest => joinFrom? (c :: done) rest
  | .unit code :: rest =>
    if isLow code then none
    else if isHigh code then
      match rest with
      | .unit low :: rest =>
        if isLow low then
          let paired := 0x10000 + (code - 0xD800) * 0x400 + (low - 0xDC00)
          joinFrom? (Char.ofNat paired :: done) rest
        else none
      | _ => none
    else joinFrom? (Char.ofNat code :: done) rest

def join? (parts : List StringPart) : Option String := joinFrom? [] parts

end StringPart

/-- What has been begun and not ended. Lists have their latest element first. -/
inductive Pending
  | nothing
  | word (chars : List Char)
  | string (parts : List StringPart)
  | escape (parts : List StringPart)
  | hex (parts : List StringPart) (missing code : Nat)
deriving DecidableEq, Repr

structure Scan where
  done : List Token
  pending : Pending
deriving DecidableEq, Repr

def isSpace (c : Char) : Bool := c = ' ' || c = '\t' || c = '\n' || c = '\r'

def sign? : Char → Option Token
  | '{' => some .openObject
  | '}' => some .closeObject
  | '[' => some .openList
  | ']' => some .closeList
  | ':' => some .colon
  | ',' => some .comma
  | _ => none

def escaped? : Char → Option Char
  | '"' => some '"'
  | '\\' => some '\\'
  | '/' => some '/'
  | 'b' => some '\x08'
  | 'f' => some '\x0c'
  | 'n' => some '\n'
  | 'r' => some '\r'
  | 't' => some '\t'
  | _ => none

def hexDigit? (c : Char) : Option Nat :=
  if '0' ≤ c ∧ c ≤ '9' then some (c.toNat - '0'.toNat)
  else if 'a' ≤ c ∧ c ≤ 'f' then some (c.toNat - 'a'.toNat + 10)
  else if 'A' ≤ c ∧ c ≤ 'F' then some (c.toNat - 'A'.toNat + 10)
  else none

/-- Reads a character where nothing is pending. -/
def Scan.begin (done : List Token) (c : Char) : Scan :=
  if isSpace c then ⟨done, .nothing⟩
  else if c = '"' then ⟨done, .string []⟩
  else match sign? c with
    | some sign => ⟨sign :: done, .nothing⟩
    | none => ⟨done, .word [c]⟩

def endsWord (c : Char) : Bool := isSpace c || c = '"' || (sign? c).isSome

def Scan.step (s : Scan) (c : Char) : Option Scan :=
  match s.pending with
  | .nothing => some (.begin s.done c)
  | .word chars =>
    if endsWord c then some (.begin (.word chars.reverse :: s.done) c)
    else some ⟨s.done, .word (c :: chars)⟩
  | .string parts =>
    if c = '"' then some ⟨.string (StringPart.join? parts.reverse) :: s.done, .nothing⟩
    else if c = '\\' then some ⟨s.done, .escape parts⟩
    else if c.toNat < 0x20 then none
    else some ⟨s.done, .string (.char c :: parts)⟩
  | .escape parts =>
    if c = 'u' then some ⟨s.done, .hex parts 3 0⟩
    else (escaped? c).map fun meant => ⟨s.done, .string (.char meant :: parts)⟩
  | .hex parts missing code =>
    (hexDigit? c).map fun digit =>
      let code := code * 16 + digit
      match missing with
      | 0 => ⟨s.done, .string (.unit code :: parts)⟩
      | missing + 1 => ⟨s.done, .hex parts missing code⟩

def Scan.finish? (s : Scan) : Option (List Token) :=
  match s.pending with
  | .nothing => some s.done.reverse
  | .word chars => some (.word chars.reverse :: s.done).reverse
  | _ => none

def Token.ofChars? (text : List Char) : Option (List Token) := do
  let s ← text.foldlM Scan.step ⟨[], .nothing⟩
  s.finish?

end Multipath.Json
