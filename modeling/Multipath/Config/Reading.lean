import Multipath.Config.Codec
import Multipath.Json.Reader

/-!
# The codec of the programs

A configuration is an object of settings or a list of them in the order of `Setting`.
What is not given has its default.

* The value of a setting is a number in plain digits that fits the setting.
* An object may not give a setting twice. It may have other members, whose values are
  not looked at, but every key has to be a text.
* A list has at most one element for each setting.
* A configuration is written as the compact object of all settings.
-/

namespace Multipath

def Setting.ofKey? (key : String) : Option Setting := all.find? (·.key = key)

namespace Config

def assign? (config : Config) (setting : Setting) (value : Json.Value) : Option Config :=
  match value with
  | .natural number => if number < setting.bound then some (config.set setting number) else none
  | _ => none

/-- The configuration so far, together with the settings that were given for it. -/
def readMember (state : Config × List Setting) (member : Option String × Json.Value) :
    Option (Config × List Setting) := do
  let key ← member.1
  match Setting.ofKey? key with
  | none => return state
  | some setting =>
    if setting ∈ state.2 then none
    else
      let config ← state.1.assign? setting member.2
      return (config, setting :: state.2)

def fill? (defaults : Config) : Json.Value → Option Config
  | .object members => (members.foldlM readMember (defaults, [])).map Prod.fst
  | .list items =>
    if items.length ≤ Setting.all.length then
      (Setting.all.zip items).foldlM
        (fun config (setting, value) => config.assign? setting value) defaults
    else none
  | _ => none

def ofJson? : Json.Value → Option Config := fill? {}

def renderMember (config : Config) (setting : Setting) : List Char :=
  ['"'] ++ setting.key.toList ++ ['"', ':'] ++ Nat.toDigits 10 (config.get setting)

/-- The compact object of all settings. -/
def render (config : Config) : String :=
  String.ofList
    (['{'] ++ [','].intercalate (Setting.all.map config.renderMember) ++ ['}'])

def json : Codec where
  parse? := Json.Value.ofText?
  fill? := fill?
  write := render

def ofText (text : String) : Except ConfigError Config := json.ofText text

end Config

end Multipath
