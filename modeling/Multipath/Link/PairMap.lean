import Std.Data.ExtTreeMap

/-!
# Maps keyed by two numbers

Keys are in lexicographic order, so `toList` of such a map is ascending.
-/

namespace Multipath

abbrev PairMap (β : Type) := Std.ExtTreeMap (Nat × Nat) β lexOrd.compare

end Multipath
