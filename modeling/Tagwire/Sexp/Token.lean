import Tagwire.Sexp.Basic

namespace Tagwire.Sexp

inductive Token where
  | opening
  | closing
  | string (text : String)
  | integer (value : UInt64)
  | symbol (name : String)
deriving DecidableEq

mutual

def tokens : Sexp → List Token
  | .string text => [.string text]
  | .integer value => [.integer value]
  | .symbol name => [.symbol name]
  | .list items => .opening :: (itemTokens items ++ [.closing])

def itemTokens : List Sexp → List Token
  | [] => []
  | v :: rest => tokens v ++ itemTokens rest

end

end Tagwire.Sexp
