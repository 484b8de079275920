/-!
# Configuration

The size limits of the routing tables and the seed of the flow hash. Tables need time
and space that grow steeply with the number of nodes, so graphs above `maxNodes` are
refused. Above `warnNodes`, which must not be larger, they are merely slow.
-/

namespace Multipath

structure Config where
  maxNodes : Nat := 40000
  warnNodes : Nat := 10000
  hashSeed : UInt32 := 0
deriving DecidableEq, Repr, Inhabited

inductive ConfigError
  | invalidJson
  | thresholds (warnNodes maxNodes : Nat)
deriving DecidableEq, Repr

namespace ConfigError

def message : ConfigError → String
  | invalidJson => "invalid config JSON: neither an object nor a list of the three settings"
  | thresholds warnNodes maxNodes =>
    s!"warn_nodes ({warnNodes}) must not exceed max_nodes ({maxNodes})"

end ConfigError

namespace Config

def validate (config : Config) : Except ConfigError Unit :=
  if config.warnNodes ≤ config.maxNodes then .ok ()
  else .error (.thresholds config.warnNodes config.maxNodes)

end Config

end Multipath
