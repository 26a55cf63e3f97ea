import Tagwire.Render
import Tagwire.Text.Decimal
import Tagwire.Text.Split

/-! Command lines. The options of all commands may stand before or after the command's name. -/

namespace Tagwire

namespace Arguments

inductive Kind where
  | switch
  | text
  | path
  | format
  | number
deriving DecidableEq

structure Flag where
  name : String
  short : Option Char := none
  kind : Kind := .text
  repeatable : Bool := false

def accepts (kind : Kind) (value : String) : Bool :=
  match kind with
  | .switch => true
  | .text => true
  | .path => value ≠ ""
  | .format => (Format.ofName? value).isSome
  | .number => (Decimal.word64? value.toList).isSome

def globalFlags : List Flag :=
  [{ name := "format", short := some 'f', kind := .format },
    { name := "verbose", short := some 'v', kind := .switch },
    { name := "config", kind := .path },
    { name := "language", short := some 'l' },
    { name := "corpus" },
    { name := "callers", kind := .switch },
    { name := "server", repeatable := true },
    { name := "proxy" },
    { name := "mixer", kind := .switch },
    { name := "current-file" }]

structure Level where
  given : List (String × String) := []
  positionals : List String := []

namespace Level

def has (l : Level) (name : String) : Bool :=
  l.given.any fun g => g.1 = name

def get? (l : Level) (name : String) : Option String :=
  (l.given.find? fun g => g.1 = name).map (·.2)

def all (l : Level) (name : String) : List String :=
  (l.given.filter fun g => g.1 = name).map (·.2)

def give? (l : Level) (flag : Flag) (value : String) : Option Level :=
  if accepts flag.kind value && (flag.repeatable || !l.has flag.name) then
    some { l with given := l.given ++ [(flag.name, value)] }
  else none

end Level

inductive Stop where
  | usage
  | version
  | help
deriving DecidableEq

inductive Pending where
  | nothing
  | awaits (flag : Flag)
  | holds (flag : Flag) (value : String)

/-- Takes up the option in hand. A value that stands apart from its option is checked only here,
when the next option or argument comes. -/
def Level.settle (l : Level) : Pending → Except Stop Level
  | .nothing => .ok l
  | .awaits _ => .error .usage
  | .holds flag value =>
    match l.give? flag value with
    | some l => .ok l
    | none => .error .usage

def isOption (argument : String) : Bool :=
  match argument.toList with
  | '-' :: _ :: _ => true
  | _ => false

def long (flags : List Flag) (l : Level) (cs : List Char) : Except Stop (Level × Pending) :=
  let (name, value) := match Split.atFirst '=' cs with
    | some (name, value) => (String.ofList name, some (String.ofList value))
    | none => (String.ofList cs, none)
  match flags.find? fun f => f.name = name with
  | some flag =>
    match value with
    | some value =>
      if flag.kind = .switch then .error .usage
      else
        match l.give? flag value with
        | some l => .ok (l, .nothing)
        | none => .error .usage
    | none =>
      if flag.kind = .switch then
        match l.give? flag "" with
        | some l => .ok (l, .nothing)
        | none => .error .usage
      else .ok (l, .awaits flag)
  | none =>
    match name, value with
    | "version", none => .error .version
    | "help", none => .error .help
    | _, _ => .error .usage

def letters (flags : List Flag) (l : Level) : List Char → Except Stop (Level × Pending)
  | [] => .ok (l, .nothing)
  | c :: rest =>
    match flags.find? fun f => f.short = some c with
    | some flag =>
      if flag.kind = .switch then
        match l.give? flag "" with
        | some l => letters flags l rest
        | none => .error .usage
      else
        match rest with
        | [] => .ok (l, .awaits flag)
        | _ =>
          let value := if rest.head? = some '=' then rest.drop 1 else rest
          match l.give? flag (String.ofList value) with
          | some l => .ok (l, .nothing)
          | none => .error .usage
    | none =>
      if c = 'V' then .error .version else if c = 'h' then .error .help else .error .usage

def option (flags : List Flag) (l : Level) (argument : String) :
    Except Stop (Level × Pending) :=
  match argument.toList with
  | '-' :: '-' :: cs => long flags l cs
  | _ :: cs => letters flags l cs
  | [] => .error .usage

inductive Words where
  | command
  | arguments (kind : Kind) (most : Option Nat)

def Words.room (words : Words) (l : Level) : Bool :=
  match words with
  | .command => false
  | .arguments _ most => most.all fun n => l.positionals.length < n

def Words.fit (words : Words) (argument : String) : Bool :=
  match words with
  | .command => true
  | .arguments kind _ => accepts kind argument

structure Reading where
  level : Level
  pending : Pending
  command : Option (String × List String) := none

def read (flags : List Flag) (words : Words) (pending : Pending) (l : Level) :
    List String → Except Stop Reading
  | [] => .ok ⟨l, pending, none⟩
  | a :: rest =>
    match pending with
    | .awaits flag =>
      if isOption a then .error .usage else read flags words (.holds flag a) l rest
    | pending =>
      if a = "--" then .ok ⟨{ l with positionals := l.positionals ++ rest }, pending, none⟩
      else if isOption a then do
        let l ← l.settle pending
        let (l, pending) ← option flags l a
        read flags words pending l rest
      else
        match words with
        | .command => .ok ⟨l, pending, some (a, rest)⟩
        | .arguments .. => do
          let l ← l.settle pending
          if words.room l && words.fit a then
            read flags words .nothing { l with positionals := l.positionals ++ [a] } rest
          else .error .usage

end Arguments

inductive LookupMode where
  | exact
  | regexp
  | snippet
deriving DecidableEq

inductive Action where
  | lookup (tag : String) (mode : LookupMode) (names : Bool) (tagsFile : Option String)
  | file (path : String)
  | ping
  | reload (path : String)
  | update (path : String)
  | restartMixer
  | ports
  | resolve (name : String) (root : Option String)
  | convert (input output : String) (guessLanguage : Bool) (deletionList : Option String)
      (withHeader : Bool) (timestamp : Option UInt64)
  | inspect (path : String)
  | callgraph (paths : List String) (output : String) (append : Bool)
deriving DecidableEq

structure Globals where
  format : Format := .text
  verbose : Bool := false
  config : Option String := none
  language : Option String := none
  corpus : Option String := none
  callers : Bool := false
  servers : List String := []
  proxy : Option String := none
  mixer : Bool := false
  currentFile : Option String := none
deriving DecidableEq

structure Invocation where
  globals : Globals
  action : Action
deriving DecidableEq

namespace Arguments

structure Form where
  name : String
  alternative : Option String := none
  flags : List Flag := []
  positional : Kind := .text
  least : Nat := 0
  most : Option Nat := some 0
  conflicts : List (String × String) := []
  action : Level → List String → Option Action

def onePositional (f : String → Action) : Level → List String → Option Action
  | _, [a] => some (f a)
  | _, _ => none

def lookupMode (l : Level) : LookupMode :=
  if l.has "regexp" then .regexp else if l.has "snippet" then .snippet else .exact

def forms : List Form :=
  [{ name := "lookup", alternative := some "l", least := 1, most := some 1
     flags := [{ name := "regexp", kind := .switch }, { name := "snippet", kind := .switch },
       { name := "names", kind := .switch }, { name := "tags-file", kind := .path }]
     conflicts := [("regexp", "snippet"), ("names", "tags-file")]
     action := fun l => onePositional
       (fun tag => .lookup tag (lookupMode l) (l.has "names") (l.get? "tags-file")) l },
    { name := "file", least := 1, most := some 1, action := onePositional .file },
    { name := "ping", action := fun _ _ => some .ping },
    { name := "reload", least := 1, most := some 1, action := onePositional .reload },
    { name := "update", least := 1, most := some 1, action := onePositional .update },
    { name := "restart-mixer", action := fun _ _ => some .restartMixer },
    { name := "ports", action := fun _ _ => some .ports },
    { name := "resolve", least := 1, most := some 1, flags := [{ name := "root", kind := .path }]
      action := fun l => onePositional (fun name => .resolve name (l.get? "root")) l },
    { name := "convert"
      flags := [{ name := "input", short := some 'i' }, { name := "output", short := some 'o' },
        { name := "guess-language", kind := .switch }, { name := "deletion-list", kind := .path },
        { name := "no-header", kind := .switch }, { name := "timestamp", kind := .number }]
      action := fun l _ => some (.convert ((l.get? "input").getD "-") ((l.get? "output").getD "-")
        (l.has "guess-language") (l.get? "deletion-list") (!l.has "no-header")
        ((l.get? "timestamp").bind fun t => Decimal.word64? t.toList)) },
    { name := "inspect", positional := .path, least := 1, most := some 1
      action := onePositional .inspect },
    { name := "callgraph", positional := .path, least := 1, most := none
      flags := [{ name := "output", short := some 'o' }, { name := "append", kind := .switch }]
      action := fun l paths =>
        some (.callgraph paths ((l.get? "output").getD "TAGSR") (l.has "append")) }]

def Form.fits (f : Form) (l : Level) : Bool :=
  f.least ≤ l.positionals.length && (f.most.all fun n => l.positionals.length ≤ n) &&
    l.positionals.all (accepts f.positional) &&
    f.conflicts.all fun c => !(l.has c.1 && l.has c.2)

def globals (before after : Level) : Globals :=
  let value (name : String) := (after.get? name).or (before.get? name)
  let switch (name : String) := before.has name || after.has name
  { format := ((value "format").bind Format.ofName?).getD .text
    verbose := switch "verbose"
    config := value "config"
    language := value "language"
    corpus := value "corpus"
    callers := switch "callers"
    servers := if after.has "server" then after.all "server" else before.all "server"
    proxy := value "proxy"
    mixer := switch "mixer"
    currentFile := value "current-file" }

inductive Outcome where
  | usage
  | help
  | version (text : String)
  | run (invocation : Invocation)
deriving DecidableEq

def programName : String := "semfora-tags"

def versionNumber : String := "0.2.0"

def stopped (name : String) : Stop → Outcome
  | .usage => .usage
  | .help => .help
  | .version => .version (name ++ " " ++ versionNumber ++ "\n")

/-- An empty file name from the environment is as wrong as one that is given, wherever it would
be used. -/
def misconfigured (environment : Option String) (before after : Level) : Bool :=
  environment == some "" && !(before.has "config" && after.has "config")

def invocation (environment : Option String) (form : Form) (before after : Level) : Outcome :=
  if !form.fits after || misconfigured environment before after then .usage
  else
    match form.action after after.positionals with
    | none => .usage
    | some action =>
      let g := globals before after
      .run ⟨{ g with config := g.config.or environment }, action⟩

def form? (name : String) : Option Form :=
  forms.find? fun f => f.name = name || f.alternative = some name

def helpOn : List String → Outcome
  | [] => .help
  | [name] => if name = "help" || (form? name).isSome then .help else .usage
  | _ => .usage

def parseCommand (environment : Option String) (form : Form) (before : Reading)
    (arguments : List String) : Outcome :=
  let words := Words.arguments form.positional form.most
  match read (globalFlags ++ form.flags) words .nothing {} arguments with
  | .error stop => stopped (programName ++ "-" ++ form.name) stop
  | .ok after =>
    match after.level.settle after.pending, before.level.settle before.pending with
    | .ok after, .ok before => invocation environment form before after
    | _, _ => .usage

def parse (environment : Option String) (arguments : List String) : Outcome :=
  match read globalFlags .command .nothing {} arguments with
  | .error stop => stopped programName stop
  | .ok before =>
    match before.command with
    | none => .usage
    | some (name, rest) =>
      if name = "help" then helpOn rest
      else
        match form? name with
        | some form => parseCommand environment form before rest
        | none => .usage

end Arguments

end Tagwire
