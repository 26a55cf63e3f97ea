import Tagwire.Sexp.Basic

namespace Tagwire

abbrev Alist := List (String × Sexp)

namespace Alist

inductive Fault where
  | notAList (found : Sexp)
  | notAPair (entry : Sexp)

def Fault.message : Fault → String
  | .notAList found => "expected an alist, found " ++ found.text
  | .notAPair entry => "alist entry is not a (symbol value) pair: " ++ entry.text

def entry : Sexp → Except Fault (String × Sexp)
  | .list [.symbol key, value] => .ok (key, value)
  | other => .error (.notAPair other)

def ofItems (items : List Sexp) : Except Fault Alist :=
  items.mapM entry

def ofSexp : Sexp → Except Fault Alist
  | .list items => ofItems items
  | other => .error (.notAList other)

def toSexp (entries : Alist) : Sexp :=
  .list (entries.map fun e => .list [.symbol e.1, e.2])

def find? (key : String) : Alist → Option Sexp
  | [] => none
  | e :: rest =>
    match find? key rest with
    | some v => some v
    | none => if e.1 = key then some e.2 else none

def string? (key : String) (entries : Alist) : Option String :=
  (find? key entries).bind Sexp.string?

def integer? (key : String) (entries : Alist) : Option UInt64 :=
  (find? key entries).bind Sexp.integer?

theorem find?_append (key : String) (a b : Alist) :
    find? key (a ++ b) = (find? key b).or (find? key a) := by
  induction a with
  | nil => cases h : find? key b <;> simp [find?, h]
  | cons e rest ih =>
    rw [List.cons_append, find?, ih, find?]
    cases find? key b <;> simp

end Alist

end Tagwire
