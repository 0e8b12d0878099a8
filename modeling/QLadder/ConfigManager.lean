import QLadder.Swift

/-!
# The configuration store

`ConfigManager` keeps the entered configurations as `[[String: String]]` in
`UserDefaults`, turns them into `Proxy` values on every load and picks one of
them as `currentProxy`.  Whatever may trap in the source (`Int(port)!`, an
array index, `UInt32(count)`) makes the definition here answer `none`; the
caller decides what the trap does to the process.

The store outlives the process, and `saveConfig` writes to it before anything
is converted.
-/

namespace QLadder

open Swift

/-- A proxy server as the app uses it. -/
structure Proxy where
  name : Option String
  host : Option String
  port : Option Int
  password : Option String
  deriving DecidableEq, Repr

/-- `Proxy.init` sets every field. -/
def Proxy.init (name host : String) (port : Int) (password : String) : Proxy :=
  { name := some name, host := some host, port := some port,
    password := some password }

namespace ProxyDictKey

def name : String := "name"
def host : String := "host"
def port : String := "port"
def passwd : String := "passwd"

end ProxyDictKey

/-- What `UserDefaults` holds under `KUserDefaultsProxys`; `none` before the
key has been written. -/
abbrev UserDefaults := Option (List (Dict String String))

/-- The state of the shared `ConfigManager`. -/
structure ConfigManager where
  currentProxy : Option Proxy
  proxys : List Proxy
  deriving DecidableEq, Repr

namespace ConfigManager

/-- The properties of a new manager; `init` does not load. -/
def fresh : ConfigManager :=
  { currentProxy := none, proxys := [] }

/-- `init`: make sure that the key exists. -/
def init (defaults : UserDefaults) : UserDefaults :=
  match defaults with
  | none => some []
  | some dicts => some dicts

/-- Assigning `proxys`, whose `didSet` picks `currentProxy`.  `random` is the
raw value behind `arc4random_uniform`, which answers a number below its
bound. -/
def setProxys (proxys : List Proxy) (random : Nat) : Option ConfigManager :=
  if proxys.length > 0 then
    if proxys.length ≤ 4294967295 then
      let index := random % proxys.length
      (proxys[index]?).map fun proxy =>
        { currentProxy := some proxy, proxys := proxys }
    else
      none
  else
    some { currentProxy := some (Proxy.init "" "0.0.0.0" 0 "0"), proxys := proxys }

/-- One entry of the store as a `Proxy`; `Int(port)!` traps on any text that
`Int` does not accept. -/
def proxyOfDict (dict : Dict String String) : Option Proxy :=
  let name := (dict.get ProxyDictKey.name).getD ""
  let host := (dict.get ProxyDictKey.host).getD ""
  let port := (dict.get ProxyDictKey.port).getD "0"
  let password := (dict.get ProxyDictKey.passwd).getD ""
  (intOfString port).map fun port => Proxy.init name host port password

/-- `convertModel`. -/
def convertModel (dicts : List (Dict String String)) (random : Nat) :
    Option ConfigManager :=
  (dicts.mapM proxyOfDict).bind fun tmpProxys => setProxys tmpProxys random

/-- `loadConfig`. -/
def loadConfig (manager : ConfigManager) (defaults : UserDefaults)
    (random : Nat) : Option ConfigManager :=
  match defaults with
  | some dicts => convertModel dicts random
  | none => some manager

/-- `saveConfig`: the new entry replaces everything stored before. -/
def saveConfig (host port passwd : String) : UserDefaults :=
  let proxy := [(ProxyDictKey.host, host), (ProxyDictKey.port, port),
    (ProxyDictKey.passwd, passwd)]
  some ([] ++ [proxy])

/-- The entry written by `saveConfig` becomes a proxy exactly when its port
parses. -/
theorem proxyOfDict_saved (host port passwd : String) :
    proxyOfDict [(ProxyDictKey.host, host), (ProxyDictKey.port, port),
        (ProxyDictKey.passwd, passwd)] =
      (intOfString port).map fun port => Proxy.init "" host port passwd := by
  rfl

/-- Loading what `saveConfig` wrote: the single entry is the current proxy,
whatever the random index, and a port that does not parse is a trap. -/
theorem loadConfig_saved (manager : ConfigManager) (host port passwd : String)
    (random : Nat) :
    loadConfig manager (saveConfig host port passwd) random =
      (intOfString port).map fun port =>
        { currentProxy := some (Proxy.init "" host port passwd),
          proxys := [Proxy.init "" host port passwd] } := by
  cases hport : intOfString port with
  | none =>
      simp [loadConfig, saveConfig, convertModel, proxyOfDict_saved, hport]
  | some number =>
      simp [loadConfig, saveConfig, convertModel, proxyOfDict_saved, hport,
        setProxys, Nat.mod_one]

/-- Loading the store of a fresh installation selects the placeholder. -/
theorem loadConfig_empty (manager : ConfigManager) (random : Nat) :
    loadConfig manager (some []) random =
      some { currentProxy := some (Proxy.init "" "0.0.0.0" 0 "0"), proxys := [] } := by
  rfl

end ConfigManager

end QLadder
