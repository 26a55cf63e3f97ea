import Mathlib
import Tagwire.Proofs.Etags.RoundTrip

namespace Tagwire.Etags

def Malformed.behind (count : Nat) (e : Malformed) : Malformed :=
  { e with line := e.line + count }

namespace State

def onto (base : List Section) (s : State) : State :=
  { s with sections := s.sections ++ base }

/-- From such a state on, no line looks below the sections that the state has. -/
def Started (s : State) : Prop :=
  s.sections ≠ [] ∨ s.headerNext = true

lemma started_line {s t : State} (hs : s.Started) {l : List UInt8} (h : s.line l = .ok t) :
    t.Started := by
  cases step_of_line h with
  | mark => exact .inr rfl
  | header | entry => exact .inl (List.cons_ne_nil _ _)
  | passed => exact hs

lemma line_onto (base : List Section) {s : State} (hs : s.Started) (l : List UInt8) :
    (s.onto base).line l = (s.line l).map (onto base) := by
  rw [line, line, onto]
  by_cases hmark : l = [sectionMark]
  · rw [if_pos hmark, if_pos hmark]
    rfl
  rw [if_neg hmark, if_neg hmark]
  by_cases hnext : s.headerNext = true
  · rw [if_pos hnext, if_pos hnext]
    cases header l <;> rfl
  rw [if_neg hnext, if_neg hnext]
  cases Split.atFirst tagEnd l with
  | none => rfl
  | some parts =>
    obtain ⟨last, before, hsections⟩ := List.exists_cons_of_ne_nil (hs.resolve_right hnext)
    simp only [hsections, List.cons_append]
    cases entry parts.1 parts.2 <;> rfl

lemma lines_onto (base : List Section) (n : Nat) {s : State} (hs : s.Started)
    (ls : List (List UInt8)) :
    (s.onto base).lines n ls = (s.lines n ls).map (onto base) := by
  induction ls generalizing n s with
  | nil => rfl
  | cons l ls ih =>
    rw [lines, lines, line_onto base hs]
    cases hl : s.line l with
    | error fault => rfl
    | ok t => exact ih (n + 1) (started_line hs hl)

lemma lines_behind (count n : Nat) (s : State) (ls : List (List UInt8)) :
    s.lines (n + count) ls = (s.lines n ls).mapError (Malformed.behind count) := by
  induction ls generalizing n s with
  | nil => rfl
  | cons l ls ih =>
    rw [lines, lines]
    cases s.line l with
    | error fault => rfl
    | ok t =>
      rw [Nat.add_right_comm]
      exact ih (n + 1) t

-- Whatever the first text left open, the mark makes the state one of a text that begins here.
lemma lines_of_mark (n : Nat) (s : State) (ls : List (List UInt8)) :
    s.lines n ([sectionMark] :: ls) =
      (State.lines n {} ([sectionMark] :: ls)).map (onto s.sections) := by
  have hmarked : Started { ({} : State) with headerNext := true } := .inr rfl
  rw [lines, lines, line_mark, line_mark]
  exact lines_onto s.sections (n + 1) hmarked ls

end State

lemma parse_behind {a b : List UInt8} (ha : Split.Ended Split.lineFeed a)
    (hb : (Split.lines b).head? = some [sectionMark]) :
    parse (a ++ b) = (parse a).bind fun before =>
      ((parse b).mapError (Malformed.behind (a.count Split.lineFeed))).map (before ++ ·) := by
  obtain ⟨ls, hlines⟩ : ∃ ls, Split.lines b = [sectionMark] :: ls :=
    List.head?_eq_some_iff.1 hb
  rw [parse, Split.lines_ended_append ha, State.lines_append, parse, parse]
  cases State.lines 1 {} (Split.lines a) with
  | error e => rfl
  | ok s =>
    simp only [Except.bind, Except.map]
    rw [hlines, State.lines_of_mark, State.lines_behind, Split.length_lines_ended ha]
    cases State.lines 1 {} ([sectionMark] :: ls) with
    | error e => rfl
    | ok t =>
      simp [Except.map, Except.mapError, State.onto]

lemma ended_bytes (sections : List Section) : Split.Ended Split.lineFeed (bytes sections) := by
  rw [bytes_eq]
  induction sections.flatMap Section.written with
  | nil => exact .inl rfl
  | cons l ls ih =>
    rw [List.flatMap_cons]
    exact (Split.ended_concat l).append ih

lemma head?_lines_bytes (sec : Section) (sections : List Section) :
    (Split.lines (bytes (sec :: sections))).head? = some [sectionMark] := by
  have hmark : Split.lineFeed ∉ [sectionMark] := by decide
  rw [bytes, List.flatMap_cons, Section.bytes, Split.lines]
  exact congrArg (fun pieces => (pieces.map Split.chomp).head?) (Split.after_append hmark _)

lemma parse_append_bytes {content : List UInt8} (hend : Split.Ended Split.lineFeed content)
    {before sections : List Section} (hread : parse content = .ok before)
    (hclean : Clean sections) : parse (content ++ bytes sections) = .ok (before ++ sections) := by
  cases sections with
  | nil =>
    rw [List.append_nil]
    simpa [bytes] using hread
  | cons sec sections =>
    rw [parse_behind hend (head?_lines_bytes sec sections), hread, hclean.parse_bytes]
    rfl

end Tagwire.Etags
