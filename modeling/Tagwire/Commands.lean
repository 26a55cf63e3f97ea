import Tagwire.CallSites
import Tagwire.Context
import Tagwire.Host.Buffer
import Tagwire.TagsFile

/-! The commands. Each returns the text to print. -/

namespace Tagwire

def LookupMode.query (mode : LookupMode) (tag : String) : Query :=
  match mode with
  | .exact => .exact tag
  | .regexp => .matching tag
  | .snippet => .snippets tag

namespace Attempt

def query (client : Client) (key : Key) (q : Query) : Attempt Query.Answer :=
  ExceptT.mk do
    let (answer, _) ← client.query key q
    return answer

def replaceFile (path : String) (content : List UInt8) : Attempt Unit := do
  if let some parent := Path.parent? path then
    io (.request (.makeDirectories parent))
  let temporary := path ++ ".tmp"
  io (.request (.store temporary content))
  io (.request (.rename temporary path))

end Attempt

namespace Commands

open Attempt (ask io outcome)

def records : Query.Answer → List TagRecord
  | .tags found => found
  | .status _ => []

def status : Query.Answer → Sexp
  | .tags _ => .list []
  | .status value => value

def lookup (environment : Environment) (context : Context) (tag : String) (mode : LookupMode)
    (names : Bool) (tagsFile : Option String) : Attempt String := do
  let client ← outcome (context.client environment)
  let answer ← Attempt.query client context.key (mode.query tag)
  let tags := records answer
  match tagsFile with
  | some path =>
    Attempt.replaceFile path (Listing.viFile tags)
    return Render.object context.format
      (.object [("tags_file", .string path), ("tags", .nat tags.length)])
  | none =>
    if names then return Render.names context.format (Listing.names tags)
    else return Render.tags context.format tags

def file (environment : Environment) (context : Context) (path : String) : Attempt String := do
  let client ← outcome (context.client environment)
  let answer ← Attempt.query client context.key (.inFile path)
  return Render.tags context.format (records answer)

def statusSummary (context : Context) (path : Option String) (value : Sexp) : String :=
  Render.object context.format (.object
    ([("language", .string context.language), ("call_type", .string context.callType.name)] ++
      (path.map fun p => ("file", Json.string p)).toList ++ [("status", value.toJson)]))

def maintain (environment : Environment) (context : Context) (q : Query) (path : Option String) :
    Attempt String := do
  let client ← outcome (context.client environment)
  let answer ← Attempt.query client context.key q
  return statusSummary context path (status answer)

def restartMixer (environment : Environment) (context : Context) : Attempt String := do
  let client ← outcome (context.client environment)
  let (result, mixer) ← ExceptT.lift client.manager.mixer.restart
  outcome result
  return Render.object context.format (.object [("mixer", .string mixer.settings.command),
    ("port", .nat mixer.settings.port.toNat), ("restarted", .bool true)])

def conventional : List (Language × CallType) :=
  Language.all.flatMap fun l => [(l, .definition), (l, .callgraph)]

def ports (format : Format) : String :=
  let rows : List Json := conventional.map fun (l, c) =>
    .object [("language", .string l.name), ("call_type", .string c.name),
      ("port", .nat (l.port c).toNat), ("tags_file", .string (l.tagsFileName c))]
  match format with
  | .json => Render.jsonLine (.array rows)
  | .toon => Render.toonLine (.object [("servers", .array rows)])
  | _ => Listing.lines (conventional.map fun (l, c) =>
      "\t".intercalate [l.name, c.name, Decimal.text (l.port c).toNat, l.tagsFileName c])

def firstPresent : List String → Attempt (Option String)
  | [] => return none
  | path :: rest => do
    if ← ask (.present path) then return some path else firstPresent rest

def resolve (format : Format) (name : String) (root : Option String) : Attempt String := do
  let name := (Listing.stripScheme? name).getD name
  let here ← io (.request .workingDirectory)
  let found ← firstPresent ((root.toList ++ [here]).map fun base => Path.join base name)
  let path := found.getD name
  if format = .json || format = .toon then
    let present ← ask (.present path)
    return Render.object format
      (.object [("name", .string name), ("path", .string path), ("exists", .bool present)])
  else return path ++ "\n"

inductive Sink where
  | screen
  | file (path : String)
deriving DecidableEq

namespace Sink

def ofName (name : String) : Sink :=
  if name = "-" then .screen else .file name

def prepare (keep : Bool) : Sink → Attempt Unit
  | .screen => return ()
  | .file path => io (.request (.openOutput path keep))

def emit (sink : Sink) (content : List UInt8) : Attempt Unit :=
  if content.isEmpty then return ()
  else
    match sink with
    | .screen => io (.request (.output content))
    | .file path => io (.request (.append path content))

def write (sink : Sink) (b : Buffer) : List (List UInt8) → Attempt Buffer
  | [] => return b
  | piece :: rest => do
    sink.emit (b.push piece).1
    sink.write (b.push piece).2 rest

end Sink

def readInput (input : String) : Attempt (List UInt8) := do
  if input = "-" then io (.request .input)
  else if ← ask (.present input) then io (.request (.load input))
  else throw (.fileNotFound input)

def readDeletionList (path : String) : Attempt (List String) := do
  match ← ask (.load path) with
  | .error fault => throw (if fault.kind = .notFound then .fileNotFound path else .io fault)
  | .ok content =>
    match Utf8.decode? content with
    | none => throw (.io .notText)
    | some text => return (Split.textLines text).filter (· ≠ "")

def itemCount (t : TagsFile) : Nat :=
  (t.files.flatMap (·.items)).length

def convert (context : Context) (input output : String) (guessLanguage : Bool)
    (deletionList : Option String) (withHeader : Bool) (timestamp : Option UInt64) :
    Attempt String := do
  let bytes ← readInput input
  let deleted ← match deletionList with
    | some path => readDeletionList path
    | none => pure []
  let sections ← outcome ((Etags.parse bytes).mapError .malformedEtags)
  let timestamp ← match timestamp with
    | some t => pure t
    | none => ask .clock
  let options : TagsFile.Options :=
    { corpus := context.config.corpus, language := context.language, guessLanguage
      callers := context.callType.callers, withHeader, timestamp }
  let tags := TagsFile.ofEtags options sections deleted
  if output = "-" then
    Sink.screen.emit tags.bytes
    return ""
  else
    Attempt.replaceFile output tags.bytes
    return Render.object context.format (.object [("output", .string output),
      ("files", .nat tags.files.length), ("items", .nat (itemCount tags)),
      ("deleted", .nat tags.deleted.length)])

def callCount (f : TagsFile.File) : Nat :=
  (f.items.filter fun i => i.descriptor.isCall).length

def fileSummary (f : TagsFile.File) : Json :=
  .object [("path", .string f.path), ("language", .string f.language),
    ("items", .nat f.items.length), ("calls", .nat (callCount f))]

def fileLine (f : TagsFile.File) : String :=
  "  " ++ f.path ++ " (" ++ f.language ++ "): " ++ Decimal.text f.items.length ++ " items, " ++
    Decimal.text (callCount f) ++ " calls"

def summary (format : Format) (t : TagsFile) : String :=
  let header := match t.header with
    | none => []
    | some h => [("format_version", Json.nat h.formatVersion.toNat),
        ("corpus", .string h.corpus), ("timestamp", .nat h.timestamp.toNat)]
  let entries := header ++ [("file_count", .nat t.files.length),
    ("deleted", .array (t.deleted.map .string))]
  if format = .json || format = .toon then
    Render.object format (.object (entries ++ [("files", .array (t.files.map fileSummary))]))
  else Render.object format (.object entries) ++ Listing.lines (t.files.map fileLine)

def inspect (format : Format) (path : String) : Attempt String := do
  if ← ask (.present path) then
    let content ← io (.request (.load path))
    let tags ← outcome (TagsFile.parse (Utf8.decode content))
    return summary format tags
  else throw (.fileNotFound path)

structure Extraction where
  sections : List Etags.Section := []
  failed : List String := []
  buffer : Buffer := {}

/-- Reads and writes file after file. A file that is the output itself is read as far as it has
been written. -/
def extract (sink : Sink) (b : Buffer) : List String → Attempt Extraction
  | [] => return { buffer := b }
  | path :: rest => do
    match ← ask (.load path) with
    | .ok bytes =>
      let found := CallSites.sectionOf .call path bytes
      let b ← sink.write b found.pieces
      let e ← extract sink b rest
      return { e with sections := found :: e.sections }
    | .error _ =>
      let e ← extract sink b rest
      return { e with failed := path :: e.failed }

def callgraph (format : Format) (paths : List String) (output : String) (keep : Bool) :
    Attempt String := do
  let sink := Sink.ofName output
  sink.prepare keep
  let e ← extract sink {} paths
  sink.emit e.buffer.content
  match sink with
  | .screen => return ""
  | .file _ =>
    return Render.object format (.object [("output", .string output),
      ("files", .nat e.sections.length),
      ("call_sites", .nat (e.sections.flatMap (·.entries)).length),
      ("failed", .array (e.failed.map .string))])

def perform (environment : Environment) (context : Context) : Action → Attempt String
  | .lookup tag mode names tagsFile => lookup environment context tag mode names tagsFile
  | .file path => file environment context path
  | .ping => maintain environment context .ping none
  | .reload path => maintain environment context (.reload path) (some path)
  | .update path => maintain environment context (.update path) (some path)
  | .restartMixer => restartMixer environment context
  | .ports => return ports context.format
  | .resolve name root => resolve context.format name root
  | .convert input output guessLanguage deletionList withHeader timestamp =>
    convert context input output guessLanguage deletionList withHeader timestamp
  | .inspect path => inspect context.format path
  | .callgraph paths output append => callgraph context.format paths output append

def run (environment : Environment) (i : Invocation) : Attempt String := do
  let config ← match i.globals.config.or environment.defaultConfigFile? with
    | some path => Attempt.loadConfig path
    | none => pure {}
  let context ← outcome (Context.ofGlobals config i.globals)
  perform environment context i.action

inductive Finish where
  | success
  | usage
  | failed (error : TagError)
  | unprinted (fault : IoFault)

def Finish.exitCode : Finish → UInt8
  | .success => 0
  | .usage => 2
  | .failed error => error.exitCode
  | .unprinted _ => 101

def print (text : String) : Program (Except IoFault Unit) :=
  if text = "" then return .ok ()
  else .request (.output (Utf8.encode text))

def usageLine : String :=
  "Usage: " ++ Arguments.programName ++ " [OPTIONS] <COMMAND>\n"

def commandLine (environment : Environment) (arguments : List String) : Program Finish := do
  match Arguments.parse environment.configFile arguments with
  | .usage => return .usage
  | .help =>
    let _ ← print usageLine
    return .success
  | .version text =>
    let _ ← print text
    return .success
  | .run i =>
    match ← (run environment i).run with
    | .ok text =>
      match ← print text with
      | .ok () => return .success
      | .error fault => return .unprinted fault
    | .error error => return .failed error

end Commands

end Tagwire
