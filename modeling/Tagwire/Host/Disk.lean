import Tagwire.Error
import Tagwire.Path

/-! A file tree held in memory, whose operations fail where a real tree would refuse them. -/

namespace Tagwire

inductive Node where
  | file (content : List UInt8) (executable : Bool)
  | directory
deriving DecidableEq

structure Disk where
  nodes : List (List String × Node) := []

namespace Disk

def node? (d : Disk) (place : List String) : Option Node :=
  if place = [] then some .directory
  else (d.nodes.find? fun e => e.1 = place).map (·.2)

def isDirectory (d : Disk) (place : List String) : Bool :=
  d.node? place == some .directory

def put (d : Disk) (place : List String) (node : Node) : Disk :=
  ⟨d.nodes.filter (fun e => e.1 ≠ place) ++ [(place, node)]⟩

def erase (d : Disk) (place : List String) : Disk :=
  ⟨d.nodes.filter fun e => e.1 ≠ place⟩

def segments (path : String) : List String :=
  ((Split.after '/' path.toList).map fun s => String.ofList (Split.dropFinal '/' s)).filter
    (· ≠ "")

def nameLimit : Nat := 255

def pathLimit : Nat := 4095

def enter (d : Disk) (place : List String) (segment : String) : Except IoFault (List String) :=
  match d.node? place with
  | none => .error .notFound
  | some (.file ..) => .error .notADirectory
  | some .directory =>
    if nameLimit < segment.utf8ByteSize then .error .nameTooLong
    else if segment = "." then .ok place
    else if segment = ".." then .ok place.dropLast
    else .ok (place ++ [segment])

structure Location where
  holder : List String
  last : String
  slash : Bool

def Location.named (l : Location) : Bool :=
  l.last ≠ "." && l.last ≠ ".."

def locate (d : Disk) (here : List String) (path : String) : Except IoFault Location :=
  if path = "" then .error .notFound
  else if path.toList.contains '\x00' then .error .nulInName
  else if pathLimit < path.utf8ByteSize then .error .nameTooLong
  else do
    let segs := segments path
    let start := if Path.isAbsolute path then [] else here
    let holder ← (segs.dropLast ++ ["."]).foldlM d.enter start
    return ⟨holder, segs.getLast?.getD ".", path.toList.getLast? == some '/'⟩

def resolve (d : Disk) (l : Location) : Except IoFault (List String) :=
  d.enter l.holder l.last

def stat (d : Disk) (here : List String) (path : String) : Except IoFault Node := do
  let l ← d.locate here path
  match d.node? (← d.resolve l) with
  | none => throw .notFound
  | some (.file content executable) =>
    if l.slash then throw .notADirectory else return .file content executable
  | some .directory => return .directory

def isPresent (d : Disk) (here : List String) (path : String) : Bool :=
  (d.stat here path).toOption.isSome

def load (d : Disk) (here : List String) (path : String) : Except IoFault (List UInt8) := do
  match ← d.stat here path with
  | .file content _ => return content
  | .directory => throw .isADirectory

/-- Opens a file for writing and gives it a content that may depend on the old one. A path that
can only be a directory's is refused before its last segment is looked up. -/
def write (d : Disk) (here : List String) (path : String)
    (change : List UInt8 → List UInt8) : Except IoFault Disk := do
  let l ← d.locate here path
  if !l.named || l.slash then throw .isADirectory
  let place ← d.resolve l
  match d.node? place with
  | some .directory => throw .isADirectory
  | some (.file old executable) => return d.put place (.file (change old) executable)
  | none => return d.put place (.file (change []) false)

def makeDirectory (d : Disk) (here : List String) (path : String) : Except IoFault Disk := do
  let place ← d.resolve (← d.locate here path)
  if (d.node? place).isSome then throw .present
  return d.put place .directory

/-- Makes a directory and those it stands in. The names come last one first. -/
def makeAll (here : List String) (absolute : Bool) (d : Disk) :
    List String → Except IoFault Disk
  | [] => .ok d
  | name :: before =>
    let path := Path.ofComponents absolute (name :: before).reverse
    let attempt (d : Disk) : Except IoFault Disk :=
      match d.makeDirectory here path with
      | .ok d' => .ok d'
      | .error fault =>
        match d.stat here path with
        | .ok .directory => .ok d
        | _ => .error fault
    match d.makeDirectory here path with
    | .error .notFound => (makeAll here absolute d before).bind attempt
    | _ => attempt d

def makeDirectories (d : Disk) (here : List String) (path : String) : Except IoFault Disk :=
  makeAll here (Path.isAbsolute path) d (Path.components path).reverse

def rename (d : Disk) (here : List String) (source target : String) : Except IoFault Disk := do
  let s ← d.locate here source
  let t ← d.locate here target
  if !s.named || !t.named then throw .busy
  let former ← d.resolve s
  let later ← d.resolve t
  match d.node? former with
  | none => throw .notFound
  | some .directory => throw .busy
  | some node =>
    if s.slash || t.slash then throw .notADirectory
    if d.isDirectory later then throw .isADirectory
    return (d.erase former).put later node

def programPlaces : List String :=
  ["/usr/bin", "/bin"]

def launchAt (d : Disk) (here : List String) (path : String) : Except IoFault Unit := do
  match ← d.stat here path with
  | .file _ true => return ()
  | _ => throw .denied

def which (d : Disk) (here : List String) (name : String) : Option String :=
  (programPlaces.map fun place => Path.join place name).find? fun path =>
    (d.launchAt here path).toBool

def launch (d : Disk) (here : List String) (program : String) : Except IoFault Unit :=
  if program.toList.contains '\x00' then .error .nulInProgram
  else if program = "" then .error .notFound
  else if program.toList.contains '/' then d.launchAt here program
  else if nameLimit < program.utf8ByteSize then .error .nameTooLong
  else
    let outcomes := programPlaces.map fun place => d.launchAt here (Path.join place program)
    if outcomes.any (·.toBool) then .ok ()
    else if outcomes.any fun o => o matches .error .denied then .error .denied
    else .error .notFound

def plant (d : Disk) (place : List String) (node : Node) : Disk :=
  let above := ((List.range place.length).map place.take).filter (· ≠ [])
  let d := above.foldl (fun d p => if (d.node? p).isSome then d else d.put p .directory) d
  d.put place node

end Disk

end Tagwire
