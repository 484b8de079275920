import Multipath.Config.Basic
import Multipath.Json.Value
import Multipath.Word

/-!
# Configurations in JSON

Parsing a JSON text, filling a configuration from a document and writing one are the work
of libraries, and a `Codec` stands for what they provide. `Setting` lists the fields that
they are told of, with their keys and the ranges of their types.

* `Codec.ofText` fills in the defaults and compares the limits last.
-/

namespace Multipath

inductive Setting
  | maxNodes
  | warnNodes
  | hashSeed
deriving DecidableEq, Repr

namespace Setting

def key : Setting → String
  | maxNodes => "max_nodes"
  | warnNodes => "warn_nodes"
  | hashSeed => "hash_seed"

def all : List Setting := [maxNodes, warnNodes, hashSeed]

/-- The least number that is too large for a setting. -/
def bound : Setting → Nat
  | maxNodes | warnNodes => Word.wordBound
  | hashSeed => UInt32.size

end Setting

namespace Config

def set (config : Config) (setting : Setting) (value : Nat) : Config :=
  match setting with
  | .maxNodes => { config with maxNodes := value }
  | .warnNodes => { config with warnNodes := value }
  | .hashSeed => { config with hashSeed := UInt32.ofNat value }

def get (config : Config) : Setting → Nat
  | .maxNodes => config.maxNodes
  | .warnNodes => config.warnNodes
  | .hashSeed => config.hashSeed.toNat

structure Codec where
  parse? : String → Option Json.Value
  /-- The configuration that a document gives, with the rest taken from the defaults. -/
  fill? : (defaults : Config) → Json.Value → Option Config
  write : Config → String

def Codec.ofText (codec : Codec) (text : String) : Except ConfigError Config :=
  match codec.parse? text >>= codec.fill? {} with
  | some config => config.validate.map fun () => config
  | none => .error .invalidJson

end Config

end Multipath
