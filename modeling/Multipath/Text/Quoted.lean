import Multipath.Text.Unprintable

/-!
# Quoted text

A text is shown between double quotes, so that its ends and every invisible
character can be seen.

* `escape` writes NUL, tab, line feed, carriage return, the double quote and the
  backslash with a backslash before them, and any other unprintable character by its
  code point, in braces, with the fewest lower-case hexadecimal digits.
* An apostrophe stands for itself, as it cannot end the text.
-/

namespace Multipath.Text

def escape (c : Char) : List Char :=
  match c with
  | '\x00' => ['\\', '0']
  | '\t' => ['\\', 't']
  | '\n' => ['\\', 'n']
  | '\r' => ['\\', 'r']
  | '"' => ['\\', '"']
  | '\\' => ['\\', '\\']
  | c =>
    if isUnprintable c then
      ['\\', 'u', '{'] ++ Nat.toDigits 16 c.toNat ++ ['}']
    else [c]

def quote (text : String) : String :=
  String.ofList (['"'] ++ text.toList.flatMap escape ++ ['"'])

end Multipath.Text
