import QLadder.ConfigManager

/-!
# The provider configuration between the app and the tunnel

The app hands the current proxy to the packet tunnel through the
`providerConfiguration` dictionary of the stored VPN profile: `setConnectionConfig`
writes it, and `startTunnel` reads it back with forced casts.  The two sides
agree only through the keys and the dynamic types of the values.
-/

namespace QLadder

open Swift

/-- The values the dictionary holds: `String` and `Int` bridge to `NSString`
and `NSNumber`. -/
inductive AnyObject where
  | string (text : String)
  | number (value : Int)
  deriving DecidableEq, Repr

/-- `[String: AnyObject]`. -/
abbrev Conf := Dict String AnyObject

namespace VpnManager

/-- `setConnectionConfig`: the provider configuration of the manager after the
call.  Without a current proxy it stays as it was.  `ruleConf` is the text of
the bundled rule file, which `getRuleConf` reads. -/
def setConnectionConfig (currentProxy : Option Proxy) (ruleConf : String)
    (providerConfiguration : Option Conf) : Option Conf :=
  match currentProxy with
  | none => providerConfiguration
  | some proxy =>
      let conf : Conf := []
      let conf := conf.set "ss_address" (proxy.host.map .string)
      let conf := conf.set "ss_port" (proxy.port.map .number)
      let conf := conf.set "ss_method" (some (.string "AES256CFB"))
      let conf := conf.set "ss_password" (proxy.password.map .string)
      let conf := conf.set "ymal_conf" (some (.string ruleConf))
      some conf

end VpnManager

/-- The algorithms `startTunnel` knows. -/
inductive CryptoAlgorithm where
  | AES128CFB
  | AES192CFB
  | AES256CFB
  | CHACHA20
  | SALSA20
  | RC4MD5
  deriving DecidableEq, Repr

/-- The server the Shadowsocks adapters of a tunnel connect to. -/
structure ShadowsocksAdapterFactory where
  serverHost : String
  serverPort : Int
  password : String
  algorithm : CryptoAlgorithm
  deriving DecidableEq, Repr

namespace PacketTunnelProvider

/-- `value as! String`; `none` is the trap. -/
def asString : Option AnyObject → Option String
  | some (.string text) => some text
  | _ => none

/-- `value as! Int`. -/
def asInt : Option AnyObject → Option Int
  | some (.number value) => some value
  | _ => none

/-- The `switch method` of `startTunnel`; its default is a fatal error. -/
def algorithmOfMethod (method : String) : Option CryptoAlgorithm :=
  match method with
  | "AES128CFB" => some .AES128CFB
  | "AES192CFB" => some .AES192CFB
  | "AES256CFB" => some .AES256CFB
  | "CHACHA20" => some .CHACHA20
  | "SALSA20" => some .SALSA20
  | "RC4MD5" => some .RC4MD5
  | _ => none

/-- The first part of `startTunnel`: read the server back from the provider
configuration.  `none` is a process that has exited or trapped. -/
def ssAdapterFactory (providerConfiguration : Option Conf) :
    Option ShadowsocksAdapterFactory := do
  let conf ← providerConfiguration
  let ssAdder ← asString (conf.get "ss_address")
  let ssPort ← asInt (conf.get "ss_port")
  let method ← asString (conf.get "ss_method")
  let password ← asString (conf.get "ss_password")
  let algorithm ← algorithmOfMethod method
  some { serverHost := ssAdder, serverPort := ssPort, password := password,
         algorithm := algorithm }

/-- **The two sides agree.**  What `setConnectionConfig` writes for a proxy
with all fields set is read back without a trap, as the same server. -/
theorem ssAdapterFactory_setConnectionConfig (name host : String) (port : Int)
    (password ruleConf : String) (old : Option Conf) :
    ssAdapterFactory (VpnManager.setConnectionConfig
        (some (Proxy.init name host port password)) ruleConf old) =
      some { serverHost := host, serverPort := port, password := password,
             algorithm := .AES256CFB } := by
  simp [ssAdapterFactory, VpnManager.setConnectionConfig, Proxy.init, asString,
    asInt, algorithmOfMethod]

end PacketTunnelProvider

end QLadder
