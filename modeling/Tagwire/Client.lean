import Tagwire.Command
import Tagwire.Manager
import Tagwire.Reply

/-! Queries of a tags server, and resolvers that add records derived from the hits. -/

namespace Tagwire

inductive Placement where
  | prepend
  | append
deriving DecidableEq

structure Resolver where
  derive : TagRecord → Option TagRecord
  placement : Placement

namespace Resolver

def derived (resolvers : List Resolver) (tag : TagRecord) : List (TagRecord × Placement) :=
  resolvers.filterMap fun r => (r.derive tag).map fun t => (t, r.placement)

structure Found where
  front : List TagRecord := []
  hits : List TagRecord := []

def Found.put (f : Found) : TagRecord × Placement → Found
  | (t, .prepend) => { f with front := f.front ++ [t] }
  | (t, .append) => { f with hits := f.hits ++ [t] }

def Found.take (resolvers : List Resolver) (f : Found) (tag : TagRecord) : Found :=
  (derived resolvers tag).foldl put { f with hits := f.hits ++ [tag] }

def apply (resolvers : List Resolver) (tags : List TagRecord) : List TagRecord :=
  if resolvers.isEmpty then tags
  else
    let found := tags.foldl (Found.take resolvers) {}
    found.front ++ found.hits

end Resolver

structure Client where
  manager : Manager := {}
  identity : Identity := {}
  corpus : String := "google3"
  currentFile : Option String := none
  resolvers : List Resolver := []

inductive Query where
  | exact (tag : String)
  | matching (pattern : String)
  | snippets (pattern : String)
  | inFile (path : String)
  | reload (path : String)
  | update (path : String)
  | ping
deriving DecidableEq

namespace Query

def kind : Query → Command.Kind
  | .exact _ => .lookupExact
  | .matching _ => .lookupPrefixRegexp
  | .snippets _ => .lookupSnippetRegexp
  | .inFile _ => .lookupInFile
  | .reload _ => .reloadFile
  | .update _ => .loadUpdate
  | .ping => .ping

def params : Query → List Command.Param
  | .exact text | .matching text | .snippets text => [⟨"tag", .text text⟩]
  | .inFile path | .reload path | .update path => [⟨"file", .text path⟩]
  | .ping => []

def isLookup : Query → Bool
  | .exact _ | .matching _ | .snippets _ | .inFile _ => true
  | .reload _ | .update _ | .ping => false

def isUnbounded : Query → Bool
  | .reload _ | .update _ => true
  | _ => false

inductive Answer where
  | tags (records : List TagRecord)
  | status (value : Sexp)

end Query

namespace Client

def command (c : Client) (kind : Command.Kind) (params : List Command.Param) (key : Key) :
    Command :=
  ⟨kind.name, params, key.language, key.callType, c.identity, c.corpus, c.currentFile⟩

def sendRaw (c : Client) (kind : Command.Kind) (params : List Command.Param) (key : Key) :
    Program (Except TagError String × Client) := do
  let (reply, manager) ← c.manager.send key (c.command kind params key).text
  return (reply, { c with manager })

def sendUnbounded (c : Client) (kind : Command.Kind) (params : List Command.Param) (key : Key) :
    Program (Except TagError String × Client) := do
  let (reply, manager) ← c.manager.sendWithin key (c.command kind params key).text none
  return (reply, { c with manager })

def decode (c : Client) (q : Query) (reply : String) : Except TagError Query.Answer :=
  if q.isLookup then
    (Reply.tagRecords reply).map fun tags => .tags (Resolver.apply c.resolvers tags)
  else (Reply.status reply).map .status

def query (c : Client) (key : Key) (q : Query) :
    Program (Except TagError Query.Answer × Client) := do
  let (reply, c') ←
    if q.isUnbounded then c.sendUnbounded q.kind q.params key else c.sendRaw q.kind q.params key
  return (reply.bind (c.decode q), c')

end Client

end Tagwire
