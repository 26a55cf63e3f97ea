import Tagwire.Text.Blank
import Tagwire.Text.Letters
import Tagwire.Text.Utf8

/-! Search patterns over bytes. All ways through a pattern are followed at once, in their order of
preference, and the leftmost match counts. -/

namespace Tagwire

inductive CharSet where
  | ranges (table : Ranges.Table)
  | word
  | digit
  | blank
deriving DecidableEq

def CharSet.holds (set : CharSet) (c : Char) : Bool :=
  match set with
  | .ranges table => table.holds c
  | .word => Letters.isWord c
  | .digit => Letters.decimalDigits.holds c
  | .blank => Blank.isBlank c

def CharSet.single (c : Char) : CharSet :=
  .ranges [(c.toNat, c.toNat)]

def CharSet.admits (set : CharSet) : Utf8.Piece → Bool
  | .char c => set.holds c
  | .stray _ => false

inductive Pattern where
  | empty
  | one (set : CharSet)
  | seq (first second : Pattern)
  | either (first second : Pattern)
  | many (set : CharSet)
  | capture (body : Pattern)
deriving DecidableEq

namespace Pattern

inductive Capture where
  | none
  | opened (taken : List UInt8)
  | closed (taken : List UInt8)
deriving DecidableEq

namespace Capture

def take (piece : Utf8.Piece) : Capture → Capture
  | .opened taken => .opened (piece.bytes.reverse ++ taken)
  | c => c

def close : Capture → Capture
  | .opened taken => .closed taken
  | c => c

def group? : Capture → Option (List UInt8)
  | .closed taken => some taken.reverse
  | _ => Option.none

end Capture

inductive Part where
  | piece (p : Pattern)
  | close
deriving DecidableEq

/-- A way through a pattern up to the next character, which must be in a set; without a set the
match is complete. -/
structure Way where
  next : Option CharSet
  rest : List Part
  capture : Capture
deriving DecidableEq

/-- The ways into a pattern after which `rest` is left to do; `past` are the ways on from there. -/
def ways : Pattern → (rest : List Part) → Capture → (past : Capture → List Way) → List Way
  | .empty, _, c, past => past c
  | .one set, rest, c, _ => [⟨some set, rest, c⟩]
  | .seq first second, rest, c, past =>
    first.ways (.piece second :: rest) c fun c => second.ways rest c past
  | .either first second, rest, c, past => first.ways rest c past ++ second.ways rest c past
  | .many set, rest, c, past => ⟨some set, .piece (.many set) :: rest, c⟩ :: past c
  | .capture body, rest, _, past =>
    body.ways (.close :: rest) (.opened []) fun c => past c.close

def resume : List Part → Capture → List Way
  | [], c => [⟨none, [], c⟩]
  | .piece p :: rest, c => p.ways rest c (resume rest)
  | .close :: rest, c => resume rest c.close

def start (p : Pattern) : List Way :=
  resume [.piece p] .none

def Way.agrees (v w : Way) : Bool :=
  v.next = w.next && v.rest = w.rest

def distinct (ways : List Way) : List Way :=
  ways.foldl (fun kept w => if kept.any w.agrees then kept else kept ++ [w]) []

def Way.read (piece : Utf8.Piece) (w : Way) : List Way :=
  match w.next with
  | some set => if set.admits piece then resume w.rest (w.capture.take piece) else []
  | none => []

structure Hit where
  capture : Capture
  stop : Nat
  rest : List Utf8.Piece

/-- Follows ways from a place with `position` pieces before it. New ways start at every place up
to the first at which a match is complete. -/
def search (fresh ways : List Way) (best : Option Hit) (position : Nat) :
    List Utf8.Piece → Option Hit
  | [] => ((ways.find? fun w => w.next = none).map fun w => ⟨w.capture, position, []⟩).or best
  | piece :: rest =>
    let best := ((ways.find? fun w => w.next = none).map fun w =>
      ⟨w.capture, position, piece :: rest⟩).or best
    let preferred := ways.takeWhile fun w => w.next ≠ none
    let onward := preferred.flatMap (Way.read piece)
    let onward := distinct (if best.isSome then onward else onward ++ fresh)
    if onward.isEmpty then best else search fresh onward best (position + 1) rest

def find? (p : Pattern) (s : List Utf8.Piece) : Option Hit :=
  search p.start p.start none 0 s

/-- The captured groups of the matches from `s` on, at most `n` of them. `adjoins` says that a
match ended at `s`, where an empty one is then not taken again. -/
def groupsFrom (p : Pattern) : Nat → (adjoins : Bool) → List Utf8.Piece → List (Option (List UInt8))
  | 0, _, _ => []
  | n + 1, adjoins, s =>
    match p.find? s with
    | none => []
    | some hit =>
      if adjoins && hit.stop == 0 then
        match s with
        | [] => []
        | _ :: rest => groupsFrom p n false rest
      else hit.capture.group? :: groupsFrom p n true hit.rest

def groups (p : Pattern) (s : List UInt8) : List (List UInt8) :=
  let s := Utf8.pieces s
  (groupsFrom p (2 * s.length + 2) false s).filterMap id

def literal (c : Char) : Pattern :=
  .one (.single c)

def call : Pattern :=
  .seq
    (.capture (.seq (.one (.ranges [(0x61, 0x7A), (0x41, 0x5A), (0x5F, 0x5F)]))
      (.many (.ranges [(0x61, 0x7A), (0x41, 0x5A), (0x30, 0x39), (0x5F, 0x5F)]))))
    (literal '(')

def escapeSet? (c : Char) : Option CharSet :=
  if c = 'w' then some .word
  else if c = 'd' then some .digit
  else if c = 's' then some .blank
  else if c.isAlphanum then none
  else some (.single c)

def bracketed : List Char → Option (Ranges.Table × List Char)
  | [] => none
  | ']' :: rest => some ([], rest)
  | a :: '-' :: b :: rest =>
    if b = ']' then some ([(a.toNat, a.toNat), (0x2D, 0x2D)], rest)
    else if a.toNat ≤ b.toNat then
      (bracketed rest).map fun r => ((a.toNat, b.toNat) :: r.1, r.2)
    else none
  | a :: rest => (bracketed rest).map fun r => ((a.toNat, a.toNat) :: r.1, r.2)

def element (set : CharSet) : List Char → Pattern × List Char
  | '*' :: rest => (.many set, rest)
  | '+' :: rest => (.seq (.one set) (.many set), rest)
  | '?' :: rest => (.either (.one set) .empty, rest)
  | rest => (.one set, rest)

structure Group where
  finished : Option Pattern := none
  current : Pattern := .empty

def Group.pattern (g : Group) : Pattern :=
  match g.finished with
  | none => g.current
  | some p => .either p g.current

def Group.extend (g : Group) (p : Pattern) : Group :=
  { g with current := .seq g.current p }

def readGroup : Nat → Group → (opened : Nat) → List Char → Option (Pattern × Nat × List Char)
  | 0, _, _, _ => none
  | _ + 1, g, opened, [] => some (g.pattern, opened, [])
  | n + 1, g, opened, c :: rest =>
    if c = ')' then some (g.pattern, opened, c :: rest)
    else if c = '|' then readGroup n { finished := some g.pattern } opened rest
    else if c = '(' then
      match readGroup n {} (opened + 1) rest with
      | some (inner, opened', ')' :: rest') =>
        let inner := if opened = 0 then Pattern.capture inner else inner
        readGroup n (g.extend inner) opened' rest'
      | _ => none
    else if c = '[' then
      match bracketed rest with
      | some (table, rest') =>
        let (p, rest'') := element (.ranges table) rest'
        if table.isEmpty then none else readGroup n (g.extend p) opened rest''
      | none => none
    else if c = '\\' then
      match rest with
      | e :: rest' =>
        match escapeSet? e with
        | some set =>
          let (p, rest'') := element set rest'
          readGroup n (g.extend p) opened rest''
        | none => none
      | [] => none
    else if c = '*' || c = '+' || c = '?' then none
    else
      let (p, rest') := element (.single c) rest
      readGroup n (g.extend p) opened rest'

def parse? (text : String) : Option Pattern :=
  match readGroup (text.length + 1) {} 0 text.toList with
  | some (p, _, []) => some p
  | _ => none

end Pattern

end Tagwire
