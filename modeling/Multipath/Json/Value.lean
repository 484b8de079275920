/-!
# JSON values

A number written in plain digits is known by its value, and any other number by its text.
The members of an object stand in their order, and one key may come several times. A string
that is well-formed but no text is kept as `none`.
-/

namespace Multipath.Json

inductive Value
  | null
  | bool (value : Bool)
  | natural (value : Nat)
  | numeral (text : List Char)
  | string (content : Option String)
  | list (items : List Value)
  | object (members : List (Option String × Value))
deriving Repr, Inhabited

end Multipath.Json
