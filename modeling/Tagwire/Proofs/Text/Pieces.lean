import Mathlib
import Tagwire.Proofs.Text.Utf8

namespace Tagwire.Utf8

lemma Pending.Wide.le_of_feed {p : Pending} {b : UInt8} {r : Char ⊕ Pending} (hp : p.Wide)
    (h : p.feed b = some r) : 0x80 ≤ b.toNat :=
  hp.1.trans (range_of_feed h).1

def Piece.Wide : Piece → Prop
  | .char c => ∃ n, 0x80 ≤ n ∧ c = Char.ofNat n
  | .stray _ => True

lemma first?_go_wide {p : Pending} (hp : p.Wide) {s rest : List UInt8} {c : Char}
    (h : first?.go p s = some (c, rest)) :
    (Piece.char c).Wide ∧ ∃ wide, s = wide ++ rest ∧ ∀ b ∈ wide, 0x80 ≤ b.toNat := by
  induction s generalizing p with
  | nil => cases h
  | cons b s ih =>
    rw [first?.go] at h
    split at h
    · next c' hfeed =>
      cases h
      exact ⟨hp.feed_char hfeed, [b], rfl, List.forall_mem_singleton.2 (hp.le_of_feed hfeed)⟩
    · next q hfeed =>
      obtain ⟨hc, wide, rfl, hwide⟩ := ih (hp.feed hfeed) h
      exact ⟨hc, b :: wide, rfl, List.forall_mem_cons.2 ⟨hp.le_of_feed hfeed, hwide⟩⟩
    · cases h

lemma pieces_cons (b : UInt8) (rest : List UInt8) :
    pieces (b :: rest) = match first? (b :: rest) with
      | some (c, after) => .char c :: pieces after
      | none => .stray b :: pieces rest := by
  rw [pieces]
  split <;> simp_all

lemma pieces_ascii {b : UInt8} (hb : b.toNat < 0x80) (rest : List UInt8) :
    pieces (b :: rest) = .char (Char.ofNat b.toNat) :: pieces rest := by
  rw [pieces_cons, first?, lead_ascii hb]

/-- The first piece of some bytes is the block before `after`, which holds no ASCII byte. -/
structure WideFront (s : List UInt8) (p : Piece) (block after : List UInt8) : Prop where
  piece : p.Wide
  ne_nil : block ≠ []
  wide : ∀ b ∈ block, 0x80 ≤ b.toNat
  cut : s = block ++ after
  pieces_eq : pieces s = p :: pieces after

lemma pieces_wide {b : UInt8} (hb : 0x80 ≤ b.toNat) (rest : List UInt8) :
    ∃ piece block after, WideFront (b :: rest) piece block after := by
  cases hfirst : first? (b :: rest) with
  | none =>
    refine ⟨.stray b, [b], rest, trivial, List.cons_ne_nil b [], ?_, rfl, ?_⟩
    · exact List.forall_mem_singleton.2 hb
    · rw [pieces_cons, hfirst]
  | some found =>
    obtain ⟨c, after⟩ := found
    have hpieces : pieces (b :: rest) = .char c :: pieces after := by rw [pieces_cons, hfirst]
    rw [first?] at hfirst
    rcases lead_cases b with ⟨hlt, -⟩ | hlead | ⟨p, hlead, hp⟩
    · omega
    · rw [hlead] at hfirst
      cases hfirst
    · rw [hlead] at hfirst
      obtain ⟨hc, wide, rfl, hwide⟩ := first?_go_wide hp hfirst
      exact ⟨.char c, b :: wide, after, hc, List.cons_ne_nil b wide,
        List.forall_mem_cons.2 ⟨hb, hwide⟩, rfl, hpieces⟩

lemma pieces_induction {motive : List UInt8 → List Piece → Prop} (nil : motive [] [])
    (ascii : ∀ (b : UInt8) (rest : List UInt8), b.toNat < 0x80 → motive rest (pieces rest) →
      motive (b :: rest) (.char (Char.ofNat b.toNat) :: pieces rest))
    (wide : ∀ (piece : Piece) (block rest : List UInt8),
      WideFront (block ++ rest) piece block rest → motive rest (pieces rest) →
      motive (block ++ rest) (piece :: pieces rest)) (s : List UInt8) : motive s (pieces s) := by
  induction hn : s.length using Nat.strong_induction_on generalizing s with
  | _ n ih =>
    cases s with
    | nil =>
      rw [pieces]
      exact nil
    | cons b rest =>
      by_cases hb : b.toNat < 0x80
      · rw [pieces_ascii hb]
        exact ascii b rest hb (ih rest.length (by simp [← hn]) rest rfl)
      · obtain ⟨piece, block, after, hfront⟩ := pieces_wide (Nat.le_of_not_lt hb) rest
        have hpos := List.length_pos_iff.2 hfront.ne_nil
        have hless : after.length < n := by
          rw [← hn, hfront.cut, List.length_append]
          omega
        rw [hfront.pieces_eq, hfront.cut]
        exact wide piece block after (hfront.cut ▸ hfront) (ih after.length hless after rfl)

end Tagwire.Utf8
