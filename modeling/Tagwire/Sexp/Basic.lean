import Tagwire.Text.Decimal

namespace Tagwire

inductive Sexp where
  | string (text : String)
  | integer (value : UInt64)
  | symbol (name : String)
  | list (items : List Sexp)
deriving Inhabited

namespace Sexp

def isSymbolChar (c : Char) : Bool :=
  c.isAlphanum || "+-*/@$%^&_=<>~.?![]\x7b\x7d".toList.contains c

def isSpace (c : Char) : Bool :=
  c == ' ' || c == '\t' || c == '\r' || c == '\n'

def escape : List Char → List Char
  | [] => []
  | c :: rest => if c = '\\' ∨ c = '"' then '\\' :: c :: escape rest else c :: escape rest

def quoteChars (cs : List Char) : List Char :=
  '"' :: (escape cs ++ ['"'])

def quote (s : String) : String :=
  String.ofList (quoteChars s.toList)

mutual

def chars : Sexp → List Char
  | .string text => quoteChars text.toList
  | .integer value => Decimal.digits value.toNat
  | .symbol name => name.toList
  | .list items => '(' :: (itemChars items ++ [')'])

def itemChars : List Sexp → List Char
  | [] => []
  | [v] => chars v
  | v :: w :: rest => chars v ++ ' ' :: itemChars (w :: rest)

end

def text (v : Sexp) : String :=
  String.ofList v.chars

def boolean (b : Bool) : Sexp :=
  .symbol (if b then "t" else "nil")

def string? : Sexp → Option String
  | .string text => some text
  | _ => none

def symbol? : Sexp → Option String
  | .symbol name => some name
  | _ => none

def integer? : Sexp → Option UInt64
  | .integer value => some value
  | _ => none

def list? : Sexp → Option (List Sexp)
  | .list items => some items
  | _ => none

def isSymbol (v : Sexp) (name : String) : Bool :=
  v.symbol? == some name

theorem escape_append (s t : List Char) : escape (s ++ t) = escape s ++ escape t := by
  induction s with
  | nil => rfl
  | cons c rest ih => by_cases h : c = '\\' ∨ c = '"' <;> simp [escape, h, ih]

end Sexp

end Tagwire
