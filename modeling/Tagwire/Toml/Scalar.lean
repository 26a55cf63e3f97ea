import Tagwire.Text.Decimal
import Tagwire.Toml.Value

namespace Tagwire.Toml

def isTokenChar (c : Char) : Bool :=
  c.isAlphanum || "_+-.:".toList.contains c

def isGrouped (isDigit : Char → Bool) : List Char → Bool
  | [] => false
  | [c] => isDigit c
  | c :: '_' :: rest => isDigit c && isGrouped isDigit rest
  | c :: rest => isDigit c && isGrouped isDigit rest

def ungroup (cs : List Char) : List Char :=
  cs.filter (· ≠ '_')

def unsign : List Char → List Char
  | '+' :: rest => rest
  | '-' :: rest => rest
  | cs => cs

def isDecimal (cs : List Char) : Bool :=
  isGrouped Char.isDigit cs && (cs.head? != some '0' || cs.length == 1)

def digitValue (c : Char) : Nat :=
  if c.isDigit then c.toNat - '0'.toNat else c.toLower.toNat - 'a'.toNat + 10

def valueInBase (base : Nat) (cs : List Char) : Nat :=
  cs.foldl (fun n c => n * base + digitValue c) 0

def isHexDigit (c : Char) : Bool :=
  c.isDigit || ('a' ≤ c.toLower && c.toLower ≤ 'f')

def bounded? (n : Int) : Option Value :=
  if Int64.minValue.toInt ≤ n ∧ n ≤ Int64.maxValue.toInt then some (.integer n) else none

def inBase? (base : Nat) (isDigit : Char → Bool) (cs : List Char) : Option Value :=
  if isGrouped isDigit cs then bounded? (valueInBase base (ungroup cs)) else none

def integer? (cs : List Char) : Option Value :=
  match cs with
  | '0' :: 'x' :: rest => inBase? 16 isHexDigit rest
  | '0' :: 'o' :: rest => inBase? 8 (fun c => '0' ≤ c && c ≤ '7') rest
  | '0' :: 'b' :: rest => inBase? 2 (fun c => c == '0' || c == '1') rest
  | _ =>
    let body := unsign cs
    if isDecimal body then
      let n : Int := Decimal.value (ungroup body)
      bounded? (if cs.head? == some '-' then -n else n)
    else none

def isGroup (c : Char) : Bool :=
  c.isDigit || c == '_'

def isExponent : List Char → Bool
  | c :: rest => (c == 'e' || c == 'E') && isGrouped Char.isDigit (unsign rest)
  | [] => false

def isFraction : List Char → Bool
  | '.' :: rest =>
    let (digits, after) := rest.span isGroup
    isGrouped Char.isDigit digits && (after.isEmpty || isExponent after)
  | _ => false

def isFloat (cs : List Char) : Bool :=
  let body := unsign cs
  let (whole, after) := body.span isGroup
  body == ['i', 'n', 'f'] || body == ['n', 'a', 'n'] ||
    (isDecimal whole && (isFraction after || isExponent after))

def exponent : List Char → Int
  | _ :: '-' :: digits => -(Decimal.value (ungroup digits) : Int)
  | _ :: '+' :: digits => Decimal.value (ungroup digits)
  | _ :: digits => Decimal.value (ungroup digits)
  | [] => 0

def scientific (body : List Char) : List Char × Int :=
  let (whole, after) := body.span isGroup
  let (fraction, after) := match after with
    | '.' :: rest => rest.span isGroup
    | _ => ([], after)
  let fraction := ungroup fraction
  (ungroup whole ++ fraction, exponent after - fraction.length)

/-- The least number that is rounded to infinity: half a step above the greatest finite one. -/
def infiniteFrom : Nat :=
  Nat.pow 2 1024 - Nat.pow 2 970

/-- Whether a number given by digits and a power of ten is too large. Powers are computed only
where the number of digits does not tell. -/
def overflows (digits : List Char) (power : Int) : Bool :=
  let digits := digits.dropWhile (· == '0')
  let magnitude := digits.length + power
  if digits.isEmpty || magnitude < 309 then false
  else if 310 < magnitude then true
  else
    let n := Decimal.value digits
    match power with
    | .ofNat k => infiniteFrom ≤ n * Nat.pow 10 k
    | .negSucc k => infiniteFrom * Nat.pow 10 (k + 1) ≤ n

def float? (cs : List Char) : Option Value :=
  if isFloat cs then
    let (digits, power) := scientific (unsign cs)
    if cs.head? != some '-' && overflows digits power then none else some .float
  else none

def digits? (n : Nat) (cs : List Char) : Option (Nat × List Char) :=
  let front := cs.take n
  if front.length = n && front.all Char.isDigit then some (Decimal.value front, cs.drop n) else none

def daysIn (year month : Nat) : Nat :=
  if month = 2 then
    if year % 4 = 0 && (year % 100 ≠ 0 || year % 400 = 0) then 29 else 28
  else if [4, 6, 9, 11].contains month then 30
  else 31

def date? (cs : List Char) : Option (List Char) := do
  let (year, cs) ← digits? 4 cs
  let '-' :: cs := cs | none
  let (month, cs) ← digits? 2 cs
  let '-' :: cs := cs | none
  let (day, cs) ← digits? 2 cs
  if 1 ≤ month && month ≤ 12 && 1 ≤ day && day ≤ daysIn year month then some cs else none

def clockPair? (cs : List Char) : Option (List Char) := do
  let (hour, cs) ← digits? 2 cs
  let ':' :: cs := cs | none
  let (minute, cs) ← digits? 2 cs
  if hour < 24 && minute < 60 then some cs else none

def time? (cs : List Char) : Option (List Char) := do
  let cs ← clockPair? cs
  let ':' :: cs := cs | none
  let (second, cs) ← digits? 2 cs
  if 60 < second then none
  else
    match cs with
    | '.' :: rest =>
      let (digits, after) := rest.span Char.isDigit
      if digits.isEmpty then none else some after
    | _ => some cs

def isOffset : List Char → Bool
  | [] => true
  | [c] => c == 'Z' || c == 'z'
  | c :: rest => (c == '+' || c == '-') && clockPair? rest == some []

def isMoment (cs : List Char) : Bool :=
  match date? cs with
  | some [] => true
  | some (c :: rest) =>
    (c == 'T' || c == 't' || c == ' ') && ((time? rest).map isOffset).getD false
  | none => time? cs == some []

def token (cs : List Char) : List Char × List Char :=
  let (front, rest) := cs.span isTokenChar
  match date? front, rest with
  | some [], ' ' :: d :: more =>
    if d.isDigit then
      let (clock, after) := (d :: more).span isTokenChar
      (front ++ ' ' :: clock, after)
    else (front, rest)
  | _, _ => (front, rest)

def scalar? (cs : List Char) : Option Value :=
  if cs = "true".toList then some (.boolean true)
  else if cs = "false".toList then some (.boolean false)
  else
    (integer? cs).or ((float? cs).or (if isMoment cs then some .moment else none))

end Tagwire.Toml
