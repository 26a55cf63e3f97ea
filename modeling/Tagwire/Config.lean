import Tagwire.Client
import Tagwire.Text.Blank
import Tagwire.Toml.Quoted
import Tagwire.Toml.Reader

namespace Tagwire

namespace Config

/-- Limits in seconds; zero means no data limit. -/
structure Limits where
  connect : UInt64 := 10
  data : UInt64 := 50
deriving DecidableEq

structure Server where
  language : String
  callType : CallType
  host : String
  port : UInt16
deriving DecidableEq

end Config

structure Config where
  corpus : String := "google3"
  clientType : String := "semfora"
  defaultLanguage : String := "c++"
  proxy : Option String := none
  limits : Config.Limits := {}
  mixer : Mixer.Settings := {}
  servers : List Config.Server := []
deriving DecidableEq

namespace Config

open Toml (Value)

def string? : Value → Option String
  | .string text => some text
  | _ => none

def boolean? : Value → Option Bool
  | .boolean b => some b
  | _ => none

def below? (limit : Nat) : Value → Option Nat
  | .integer n => if 0 ≤ n ∧ n < limit then some n.toNat else none
  | _ => none

def word64? (v : Value) : Option UInt64 :=
  (below? UInt64.size v).map UInt64.ofNat

def word32? (v : Value) : Option UInt32 :=
  (below? UInt32.size v).map UInt32.ofNat

def word16? (v : Value) : Option UInt16 :=
  (below? UInt16.size v).map UInt16.ofNat

/-- The fields of a table. An array gives them in their order, and a date or time has none. -/
def fields? (names : List String) : Value → Option (List (String × Value))
  | .table entries => some entries
  | .array items => some (names.zip items)
  | .moment => some []
  | _ => none

variable {α : Type}

def required (fields : List (String × Value)) (key : String) (read : Value → Option α) :
    Option α :=
  (Value.get? key fields).bind read

def optional (fields : List (String × Value)) (key : String) (fallback : α)
    (read : Value → Option α) : Option α :=
  match Value.get? key fields with
  | none => some fallback
  | some v => read v

def limits? (v : Value) : Option Limits := do
  let fields ← fields? ["connect_secs", "data_secs"] v
  let standard : Limits := {}
  return {
    connect := ← optional fields "connect_secs" standard.connect word64?
    data := ← optional fields "data_secs" standard.data word64? }

def mixer? (v : Value) : Option Mixer.Settings := do
  let fields ← fields? ["enabled", "port", "command", "settle_ms", "retries", "retry_delay_ms"] v
  let standard : Mixer.Settings := {}
  return {
    enabled := ← optional fields "enabled" standard.enabled boolean?
    port := ← optional fields "port" standard.port word16?
    command := ← optional fields "command" standard.command string?
    settle := ← optional fields "settle_ms" standard.settle word64?
    retries := ← optional fields "retries" standard.retries word32?
    retryDelay := ← optional fields "retry_delay_ms" standard.retryDelay word64? }

def callType? : Value → Option CallType
  | .string name => CallType.ofName? name
  | .table [(name, .table [])] => CallType.ofName? name
  | .table [(name, .array [])] => CallType.ofName? name
  | _ => none

def server? (v : Value) : Option Server := do
  let fields ← fields? ["language", "call_type", "host", "port"] v
  return {
    language := ← required fields "language" string?
    callType := ← required fields "call_type" callType?
    host := ← required fields "host" string?
    port := ← required fields "port" word16? }

def servers? : Value → Option (List Server)
  | .array items => items.mapM server?
  | _ => none

def ofFields? (fields : List (String × Value)) : Option Config := do
  let standard : Config := {}
  return {
    corpus := ← optional fields "corpus" standard.corpus string?
    clientType := ← optional fields "client_type" standard.clientType string?
    defaultLanguage := ← optional fields "default_language" standard.defaultLanguage string?
    proxy := ← optional fields "proxy" none fun v => (string? v).map some
    limits := ← optional fields "timeouts" {} limits?
    mixer := ← optional fields "mixer" {} mixer?
    servers := ← optional fields "servers" [] servers? }

def parse (text : String) : Except TagError Config :=
  match (Toml.parse? text).bind ofFields? with
  | some config => .ok config
  | none => .error (.config .unreadable)

def line (key value : String) : String :=
  key ++ " = " ++ value ++ "\n"

def booleanText (b : Bool) : String :=
  if b then "true" else "false"

def Limits.document (l : Limits) : String :=
  "\n[timeouts]\n" ++ line "connect_secs" (Decimal.text l.connect.toNat) ++
    line "data_secs" (Decimal.text l.data.toNat)

def mixerDocument (m : Mixer.Settings) : String :=
  "\n[mixer]\n" ++ line "enabled" (booleanText m.enabled) ++
    line "port" (Decimal.text m.port.toNat) ++ line "command" (Toml.Quoted.text m.command) ++
    line "settle_ms" (Decimal.text m.settle.toNat) ++
    line "retries" (Decimal.text m.retries.toNat) ++
    line "retry_delay_ms" (Decimal.text m.retryDelay.toNat)

def Server.document (s : Server) : String :=
  "\n[[servers]]\n" ++ line "language" (Toml.Quoted.text s.language) ++
    line "call_type" (Toml.Quoted.text s.callType.name) ++ line "host" (Toml.Quoted.text s.host) ++
    line "port" (Decimal.text s.port.toNat)

def document (c : Config) : String :=
  line "corpus" (Toml.Quoted.text c.corpus) ++ line "client_type" (Toml.Quoted.text c.clientType) ++
    line "default_language" (Toml.Quoted.text c.defaultLanguage) ++
    (match c.proxy with
      | some proxy => line "proxy" (Toml.Quoted.text proxy)
      | none => "") ++
    (if c.servers.isEmpty then line "servers" "[]" else "") ++
    c.limits.document ++ mixerDocument c.mixer ++ String.join (c.servers.map Server.document)

def Limits.timeouts (l : Limits) : Timeouts where
  connect := l.connect.toNat * 1000
  data := if l.data = 0 then none else some (l.data.toNat * 1000)

/-- The proxy of the document, and only if it sets none that of the environment. A blank one
counts as none. -/
def effectiveProxy (c : Config) (environment : Option String) :
    Except TagError (Option Endpoint) :=
  match c.proxy.or environment with
  | none => .ok none
  | some text =>
    let trimmed := Blank.trimText text
    if trimmed = "" then .ok none else (Endpoint.read trimmed).map some

def Server.key (s : Server) : Key :=
  ⟨s.language, s.callType⟩

def Server.endpoint (s : Server) : Endpoint :=
  ⟨s.host, s.port⟩

def addServers (m : Manager) (servers : List Server) : Manager :=
  servers.foldl (fun m s => m.add s.key s.endpoint) m

def configure (c : Config) (environment : Option String) (m : Manager) :
    Except TagError Manager := do
  let proxy ← c.effectiveProxy environment
  let m := { m with
    timeouts := c.limits.timeouts
    mixer := m.mixer.setSettings c.mixer
    proxy }
  return addServers m c.servers

def identity (c : Config) : Identity :=
  { clientType := c.clientType }

def client (c : Config) (environment : Option String) : Except TagError Client := do
  let manager ← c.configure environment {}
  return { manager, identity := c.identity, corpus := c.corpus }

end Config

end Tagwire
