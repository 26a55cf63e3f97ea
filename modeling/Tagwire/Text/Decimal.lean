namespace Tagwire.Decimal

def digits (n : Nat) : List Char :=
  Nat.toDigits 10 n

def text (n : Nat) : String :=
  String.ofList (digits n)

def signedText : Int → String
  | .ofNat n => text n
  | .negSucc n => "-" ++ text (n + 1)

def value (cs : List Char) : Nat :=
  Nat.ofDigitChars 10 cs 0

def unsigned? (limit : Nat) (cs : List Char) : Option Nat :=
  if cs ≠ [] ∧ cs.all Char.isDigit ∧ value cs < limit then some (value cs) else none

def read? (limit : Nat) : List Char → Option Nat
  | '+' :: cs => unsigned? limit cs
  | cs => unsigned? limit cs

def word64? (s : List Char) : Option UInt64 :=
  (read? UInt64.size s).map UInt64.ofNat

def word16? (s : List Char) : Option UInt16 :=
  (read? UInt16.size s).map UInt16.ofNat

@[simp] theorem value_digits (n : Nat) : value (digits n) = n :=
  Nat.ofDigitChars_toDigits (by decide) (by decide)

end Tagwire.Decimal
