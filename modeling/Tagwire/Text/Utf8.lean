/-! UTF-8 for text that may be damaged. The decoder takes one step per byte, and an ASCII byte
always brings it back to its idle state. -/

namespace Tagwire.Utf8

/-- A sequence in progress: the range of its next byte, how many bytes follow that one, and the
value of the bits read so far. -/
structure Pending where
  low : Nat
  high : Nat
  following : Nat
  value : Nat
deriving DecidableEq

def replacement : Char := Char.ofNat 0xFFFD

inductive Lead where
  | single (c : Char)
  | opens (p : Pending)
  | stray

def lead (b : UInt8) : Lead :=
  let n := b.toNat
  if n < 0x80 then .single (Char.ofNat n)
  else if n < 0xC2 then .stray
  else if n < 0xE0 then .opens ⟨0x80, 0xBF, 0, n - 0xC0⟩
  else if n = 0xE0 then .opens ⟨0xA0, 0xBF, 1, 0⟩
  else if n = 0xED then .opens ⟨0x80, 0x9F, 1, 0xD⟩
  else if n < 0xF0 then .opens ⟨0x80, 0xBF, 1, n - 0xE0⟩
  else if n = 0xF0 then .opens ⟨0x90, 0xBF, 2, 0⟩
  else if n < 0xF4 then .opens ⟨0x80, 0xBF, 2, n - 0xF0⟩
  else if n = 0xF4 then .opens ⟨0x80, 0x8F, 2, 4⟩
  else .stray

def start (b : UInt8) : List Char × Option Pending :=
  match lead b with
  | .single c => ([c], none)
  | .opens p => ([], some p)
  | .stray => ([replacement], none)

def Pending.feed (p : Pending) (b : UInt8) : Option (Char ⊕ Pending) :=
  if p.low ≤ b.toNat ∧ b.toNat ≤ p.high then
    let value := p.value * 64 + (b.toNat - 0x80)
    match p.following with
    | 0 => some (.inl (Char.ofNat value))
    | k + 1 => some (.inr ⟨0x80, 0xBF, k, value⟩)
  else none

def step (state : Option Pending) (b : UInt8) : List Char × Option Pending :=
  match state with
  | none => start b
  | some p =>
    match p.feed b with
    | some (.inl c) => ([c], none)
    | some (.inr q) => ([], some q)
    | none => (replacement :: (start b).1, (start b).2)

def finish : Option Pending → List Char
  | none => []
  | some _ => [replacement]

def run (state : Option Pending) : List UInt8 → List Char
  | [] => finish state
  | b :: rest => (step state b).1 ++ run (step state b).2 rest

def decodeChars (bytes : List UInt8) : List Char :=
  run none bytes

def decode (bytes : List UInt8) : String :=
  String.ofList (decodeChars bytes)

def encodeChar (c : Char) : List UInt8 :=
  let n := c.toNat
  if n < 0x80 then [UInt8.ofNat n]
  else if n < 0x800 then [UInt8.ofNat (0xC0 + n / 64), UInt8.ofNat (0x80 + n % 64)]
  else if n < 0x10000 then
    [UInt8.ofNat (0xE0 + n / 4096), UInt8.ofNat (0x80 + n / 64 % 64), UInt8.ofNat (0x80 + n % 64)]
  else
    [UInt8.ofNat (0xF0 + n / 262144), UInt8.ofNat (0x80 + n / 4096 % 64),
      UInt8.ofNat (0x80 + n / 64 % 64), UInt8.ofNat (0x80 + n % 64)]

def encodeChars (cs : List Char) : List UInt8 :=
  cs.flatMap encodeChar

def encode (s : String) : List UInt8 :=
  encodeChars s.toList

def decode? (bytes : List UInt8) : Option String :=
  let cs := decodeChars bytes
  if encodeChars cs = bytes then some (String.ofList cs) else none

def first? : List UInt8 → Option (Char × List UInt8)
  | [] => none
  | b :: rest =>
    match lead b with
    | .single c => some (c, rest)
    | .opens p => go p rest
    | .stray => none
where
  go (p : Pending) : List UInt8 → Option (Char × List UInt8)
    | [] => none
    | b :: rest =>
      match p.feed b with
      | some (.inl c) => some (c, rest)
      | some (.inr q) => go q rest
      | none => none

theorem first?_go_length {p : Pending} {s rest : List UInt8} {c : Char}
    (h : first?.go p s = some (c, rest)) : rest.length < s.length := by
  induction s generalizing p with
  | nil => simp [first?.go] at h
  | cons b s ih =>
    rw [first?.go] at h
    split at h
    · simp_all
    · exact Nat.lt_succ_of_lt (ih h)
    · simp at h

theorem first?_length {s rest : List UInt8} {c : Char} (h : first? s = some (c, rest)) :
    rest.length < s.length := by
  cases s with
  | nil => simp [first?] at h
  | cons b s =>
    rw [first?] at h
    split at h
    · simp_all
    · exact Nat.lt_succ_of_lt (first?_go_length h)
    · simp at h

inductive Piece where
  | char (c : Char)
  | stray (b : UInt8)
deriving DecidableEq

def Piece.bytes : Piece → List UInt8
  | .char c => encodeChar c
  | .stray b => [b]

def pieces (s : List UInt8) : List Piece :=
  match s with
  | [] => []
  | b :: rest =>
    match _h : first? (b :: rest) with
    | some (c, after) => .char c :: pieces after
    | none => .stray b :: pieces rest
termination_by s.length
decreasing_by
  · exact first?_length ‹_›
  · simp

@[simp] theorem run_nil (state : Option Pending) : run state [] = finish state := rfl

@[simp] theorem run_cons (state : Option Pending) (b : UInt8) (rest : List UInt8) :
    run state (b :: rest) = (step state b).1 ++ run (step state b).2 rest := rfl

theorem encodeChars_append (s t : List Char) :
    encodeChars (s ++ t) = encodeChars s ++ encodeChars t := by
  simp [encodeChars]

theorem encode_append (s t : String) : encode (s ++ t) = encode s ++ encode t := by
  simp [encode, encodeChars_append]

end Tagwire.Utf8
