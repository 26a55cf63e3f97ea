import Tagwire.Text.Blank
import Tagwire.Text.Decimal
import Tagwire.Text.Escaped
import Tagwire.Text.Split
import Tagwire.Text.Utf8

/-! Etags text: a form feed on a line of its own, a line `path,size`, then for each entry a line
`snippet 7F tag 01 line,offset`. -/

namespace Tagwire.Etags

structure Entry where
  snippet : List UInt8
  tag : String
  line : UInt64
  offset : UInt64
deriving DecidableEq

structure Section where
  path : String
  size : UInt64
  entries : List Entry
deriving DecidableEq

def sectionMark : UInt8 := 0x0C

def snippetEnd : UInt8 := 0x7F

def tagEnd : UInt8 := 0x01

def Entry.bytes (e : Entry) : List UInt8 :=
  e.snippet ++ snippetEnd :: (Utf8.encode e.tag ++ tagEnd ::
    Utf8.encode (Decimal.text e.line.toNat ++ "," ++ Decimal.text e.offset.toNat ++ "\n"))

def Section.bytes (s : Section) : List UInt8 :=
  sectionMark :: Split.lineFeed ::
    (Utf8.encode (s.path ++ "," ++ Decimal.text s.size.toNat ++ "\n") ++
      s.entries.flatMap Entry.bytes)

def bytes (sections : List Section) : List UInt8 :=
  sections.flatMap Section.bytes

def Entry.pieces (e : Entry) : List (List UInt8) :=
  [e.snippet, [snippetEnd], Utf8.encode e.tag, [tagEnd], Utf8.encode (Decimal.text e.line.toNat),
    Utf8.encode ",", Utf8.encode (Decimal.text e.offset.toNat), Utf8.encode "\n"]

def Section.pieces (s : Section) : List (List UInt8) :=
  [sectionMark] :: [Split.lineFeed] :: Utf8.encode s.path :: Utf8.encode "," ::
    Utf8.encode (Decimal.text s.size.toNat) :: Utf8.encode "\n" :: s.entries.flatMap Entry.pieces

theorem Entry.flatten_pieces (e : Entry) : e.pieces.flatten = e.bytes := by
  simp [Entry.pieces, Entry.bytes, Utf8.encode_append]

theorem Section.flatten_pieces (s : Section) : s.pieces.flatten = s.bytes := by
  have entries (es : List Entry) :
      (es.flatMap Entry.pieces).flatten = es.flatMap Entry.bytes := by
    induction es with
    | nil => rfl
    | cons e es ih => simp [ih, Entry.flatten_pieces]
  simp [Section.pieces, Section.bytes, Utf8.encode_append, entries]

inductive Fault where
  | headerWithoutComma (line : String)
  | badSize (text : String)
  | entryBeforeHeader
  | noSnippetEnd
  | positionWithoutComma (text : String)
  | badNumber (text : String)
deriving DecidableEq

def Fault.message : Fault → String
  | .headerWithoutComma line => "expected `path,size`, found " ++ Escaped.quote line
  | .badSize text => "bad file size " ++ Escaped.quote text
  | .entryBeforeHeader => "tag entry before the first file header"
  | .noSnippetEnd => "missing \\x7f before the tag name"
  | .positionWithoutComma text => "expected `line,offset`, found " ++ Escaped.quote text
  | .badNumber text => "bad number " ++ Escaped.quote text

structure Malformed where
  line : Nat
  fault : Fault
deriving DecidableEq

def number? (text : List Char) : Option UInt64 :=
  Decimal.word64? (Blank.trim text)

def header (line : List UInt8) : Except Fault Section :=
  let text := Utf8.decodeChars line
  match Split.atLast ',' text with
  | none => .error (.headerWithoutComma (String.ofList text))
  | some (path, size) =>
    match number? size with
    | none => .error (.badSize (String.ofList size))
    | some n => .ok ⟨String.ofList path, n, []⟩

def position (bytes : List UInt8) : Except Fault (UInt64 × UInt64) :=
  let text := Utf8.decodeChars bytes
  match Split.atFirst ',' text with
  | none => .error (.positionWithoutComma (String.ofList text))
  | some (line, offset) =>
    match number? line, number? offset with
    | none, _ => .error (.badNumber (String.ofList line))
    | some _, none => .error (.badNumber (String.ofList offset))
    | some n, some m => .ok (n, m)

def entry (named place : List UInt8) : Except Fault Entry :=
  match Split.atFirst snippetEnd named with
  | none => .error .noSnippetEnd
  | some (snippet, tag) =>
    (position place).map fun p => ⟨snippet, Utf8.decode tag, p.1, p.2⟩

def Section.push (s : Section) (e : Entry) : Section :=
  { s with entries := s.entries ++ [e] }

structure State where
  sections : List Section := []
  headerNext : Bool := false

def State.line (s : State) (line : List UInt8) : Except Fault State :=
  if line = [sectionMark] then .ok { s with headerNext := true }
  else if s.headerNext then (header line).map fun h => ⟨h :: s.sections, false⟩
  else
    match Split.atFirst tagEnd line with
    | none => .ok s
    | some (named, place) =>
      match s.sections with
      | [] => .error .entryBeforeHeader
      | last :: before => (entry named place).map fun e => ⟨last.push e :: before, false⟩

def State.lines (n : Nat) (s : State) : List (List UInt8) → Except Malformed State
  | [] => .ok s
  | line :: rest =>
    match s.line line with
    | .error fault => .error ⟨n, fault⟩
    | .ok s' => s'.lines (n + 1) rest

def parse (input : List UInt8) : Except Malformed (List Section) :=
  (State.lines 1 {} (Split.lines input)).map fun s => s.sections.reverse

end Tagwire.Etags
