/-! Output that is held back until one more piece would not fit. -/

namespace Tagwire

structure Buffer where
  held : List (List UInt8) := []
  size : Nat := 0

namespace Buffer

def capacity : Nat := 8192

def content (b : Buffer) : List UInt8 :=
  b.held.reverse.flatten

def hold (b : Buffer) (piece : List UInt8) : Buffer :=
  ⟨piece :: b.held, b.size + piece.length⟩

/-- Takes in a piece. What comes first in the result goes out now. -/
def push (b : Buffer) (piece : List UInt8) : List UInt8 × Buffer :=
  if piece.length < capacity then
    if b.size + piece.length ≤ capacity then ([], b.hold piece)
    else (b.content, ({} : Buffer).hold piece)
  else (b.content ++ piece, {})

theorem push_content (b : Buffer) (piece : List UInt8) :
    (b.push piece).1 ++ (b.push piece).2.content = b.content ++ piece := by
  unfold push
  split
  · split <;> simp [content, hold]
  · simp [content]

end Buffer

end Tagwire
