namespace Tagwire.Split

variable {α : Type} [DecidableEq α]

def atFirst (x : α) : List α → Option (List α × List α)
  | [] => none
  | y :: ys => if y = x then some ([], ys) else (atFirst x ys).map fun p => (y :: p.1, p.2)

def atLast (x : α) : List α → Option (List α × List α)
  | [] => none
  | y :: ys =>
    match atLast x ys with
    | some p => some (y :: p.1, p.2)
    | none => if y = x then some ([], ys) else none

/-- Cuts after every `x`: each piece but perhaps the last ends in `x`, and none is empty. -/
def after (x : α) : List α → List (List α)
  | [] => []
  | y :: ys =>
    if y = x then [y] :: after x ys
    else
      match after x ys with
      | [] => [[y]]
      | p :: ps => (y :: p) :: ps

def dropFinal (x : α) : List α → List α
  | [] => []
  | [y] => if y = x then [] else [y]
  | y :: z :: zs => y :: dropFinal x (z :: zs)

theorem after_flatten (x : α) (l : List α) : (after x l).flatten = l := by
  induction l with
  | nil => rfl
  | cons y ys ih =>
    rw [after]
    split
    · simp [ih]
    · split
      · next h => simp [h] at ih; simp [← ih]
      · next p ps h => rw [h] at ih; simpa using ih

def lineFeed : UInt8 := 0x0A

def carriageReturn : UInt8 := 0x0D

def chomp (line : List UInt8) : List UInt8 :=
  dropFinal carriageReturn (dropFinal lineFeed line)

def lines (bytes : List UInt8) : List (List UInt8) :=
  (after lineFeed bytes).map chomp

def chompText (line : List Char) : List Char :=
  if line.getLast? = some '\n' then dropFinal '\r' (dropFinal '\n' line) else line

def textLines (text : String) : List String :=
  (after '\n' text.toList).map fun line => String.ofList (chompText line)

end Tagwire.Split
