import Tagwire.Arguments
import Tagwire.Config

namespace Tagwire

structure Environment where
  configFile : Option String := none
  proxy : Option String := none
  configHome : Option String := none

structure Context where
  format : Format
  config : Config
  language : String
  callType : CallType
  servers : List Endpoint
  proxy : Option Endpoint
  mixer : Bool
  currentFile : Option String

namespace Context

def ofGlobals (config : Config) (g : Globals) : Except TagError Context := do
  let servers ← g.servers.mapM Endpoint.read
  let proxy ← g.proxy.mapM Endpoint.read
  return {
    format := g.format
    config := { config with corpus := g.corpus.getD config.corpus }
    language := Language.wireName (g.language.getD config.defaultLanguage)
    callType := .ofCallers g.callers
    servers, proxy
    mixer := g.mixer
    currentFile := g.currentFile }

def key (c : Context) : Key :=
  ⟨c.language, c.callType⟩

def client (c : Context) (environment : Environment) : Except TagError Client := do
  let client ← c.config.client environment.proxy
  let manager := c.servers.foldl (fun m e => m.add c.key e) client.manager
  let manager := { manager with proxy := c.proxy.or manager.proxy }
  let manager :=
    if c.mixer then { manager with mixer.settings.enabled := true } else manager
  return { client with manager, currentFile := c.currentFile }

end Context

namespace Attempt

def loadText (path : String) : Attempt String := do
  let content ← io (.request (.load path))
  match Utf8.decode? content with
  | some text => return text
  | none => throw (.io .notText)

def loadConfig (path : String) : Attempt Config := do
  if ← ask (.present path) then
    outcome (Config.parse (← loadText path))
  else return {}

end Attempt

namespace Environment

def defaultConfigFile? (e : Environment) : Option String :=
  e.configHome.map fun home => Path.join (Path.join home "semfora-tags") "config.toml"

end Environment

end Tagwire
