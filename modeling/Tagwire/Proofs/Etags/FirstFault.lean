import Mathlib
import Tagwire.Proofs.Etags.Lines

/-! The first line that cannot be read decides where reading stops. -/

namespace Tagwire

namespace Split

def firstLines (n : Nat) (bytes : List UInt8) : List UInt8 :=
  ((after lineFeed bytes).take n).flatten

lemma after_flatten_take {α : Type} [DecidableEq α] {x : α} (l : List α) (n : Nat) :
    after x ((after x l).take n).flatten = (after x l).take n := by
  induction l using after_induction x generalizing n with
  | nil => simp [after]
  | last l hne hx =>
    rw [after_of_notMem hne hx]
    cases n with
    | zero => rfl
    | succ n => simpa using after_of_notMem hne hx
  | cut a b ha ih =>
    rw [after_append ha]
    cases n with
    | zero => rfl
    | succ n =>
      rw [List.take_succ_cons, List.flatten_cons, List.append_assoc, List.singleton_append,
        after_append ha, ih]

lemma lines_firstLines (n : Nat) (bytes : List UInt8) :
    lines (firstLines n bytes) = (lines bytes).take n := by
  rw [lines, firstLines, after_flatten_take, List.map_take, lines]

end Split

namespace Etags

inductive Grown : List Section → List Section → Prop
  | fromNone (sections : List Section) : Grown [] sections
  | fromLast (before : List Section) (last : Section) (entries : List Entry)
      (sections : List Section) :
      Grown (before ++ [last])
        (before ++ { last with entries := last.entries ++ entries } :: sections)

namespace State

lemma lines_ok_append {n : Nat} {s t : State} {ls more : List (List UInt8)}
    (h : s.lines n (ls ++ more) = .ok t) :
    ∃ u, s.lines n ls = .ok u ∧ u.lines (n + ls.length) more = .ok t := by
  rw [lines_append] at h
  cases hls : s.lines n ls with
  | error e =>
    rw [hls] at h
    cases h
  | ok u =>
    rw [hls] at h
    exact ⟨u, rfl, h⟩

lemma lines_error_append {n : Nat} {s : State} {ls : List (List UInt8)} {e : Malformed}
    (h : s.lines n ls = .error e) (more : List (List UInt8)) :
    s.lines n (ls ++ more) = .error e := by
  rw [lines_append, h]
  rfl

lemma lines_concat_error {n : Nat} {s t : State} {ls : List (List UInt8)} {l : List UInt8}
    {e : Malformed} (hls : s.lines n ls = .ok t) (h : s.lines n (ls ++ [l]) = .error e) :
    e.line = n + ls.length := by
  rw [lines_append, hls] at h
  change t.lines (n + ls.length) [l] = .error e at h
  rw [lines] at h
  split at h
  · exact congrArg Malformed.line (Except.error.inj h).symm
  · cases h

lemma lines_error_split {n : Nat} {s : State} {ls : List (List UInt8)} {e : Malformed}
    (h : s.lines n ls = .error e) :
    ∃ before l rest, ls = before ++ l :: rest ∧ e.line = n + before.length ∧
      (∃ t, s.lines n before = .ok t) ∧ s.lines n (before ++ [l]) = .error e := by
  induction ls generalizing n s with
  | nil => cases h
  | cons l ls ih =>
    rw [lines] at h
    split at h
    · next fault hl =>
      refine ⟨[], l, ls, rfl, congrArg Malformed.line (Except.error.inj h).symm, ⟨s, rfl⟩, ?_⟩
      rw [List.nil_append, lines, hl]
      exact h
    · next u hl =>
      obtain ⟨before, l', rest, rfl, hline, ⟨t, ht⟩, hbad⟩ := ih h
      refine ⟨l :: before, l', rest, rfl, ?_, ⟨t, ?_⟩, ?_⟩
      · rw [hline, List.length_cons]
        omega
      · rw [lines, hl]
        exact ht
      · rw [List.cons_append, lines, hl]
        exact hbad

-- The open section moves when a header is read: then the one before it is complete.
lemma lines_grown {n : Nat} {s t : State} {ls : List (List UInt8)} {last : Section}
    {before : List Section} (hs : s.sections = last :: before) (h : s.lines n ls = .ok t) :
    ∃ entries sections, t.sections =
      sections ++ { last with entries := last.entries ++ entries } :: before := by
  induction ls generalizing n s last before with
  | nil =>
    obtain rfl := Except.ok.inj h
    exact ⟨[], [], by simpa using hs⟩
  | cons l ls ih =>
    rw [lines] at h
    split at h
    · cases h
    · next u hl =>
      cases step_of_line hl with
      | mark => exact ih (s := { s with headerNext := true }) hs h
      | passed => exact ih hs h
      | @header sec =>
        have hopen : (State.mk (sec :: s.sections) false).sections = sec :: last :: before := by
          rw [hs]
        obtain ⟨entries, sections, ht⟩ := ih hopen h
        exact ⟨[], sections ++ [{ sec with entries := sec.entries ++ entries }], by simpa using ht⟩
      | @entry _ _ last' before' e _ hsections _ =>
        obtain ⟨rfl, rfl⟩ : last' = last ∧ before' = before := by simpa [hs] using hsections.symm
        obtain ⟨entries, sections, ht⟩ := ih rfl h
        exact ⟨e :: entries, sections, by simpa [Section.push] using ht⟩

lemma grown_of_lines {n : Nat} {s t : State} {ls : List (List UInt8)}
    (h : s.lines n ls = .ok t) : Grown s.sections.reverse t.sections.reverse := by
  cases hs : s.sections with
  | nil => exact .fromNone _
  | cons last before =>
    obtain ⟨entries, sections, ht⟩ := lines_grown hs h
    rw [ht, List.reverse_cons, List.reverse_append, List.reverse_cons, List.append_assoc,
      List.singleton_append]
    exact .fromLast _ _ _ _

end State

lemma parse_eq_ok {input : List UInt8} {sections : List Section} :
    parse input = .ok sections ↔
      ∃ s, State.lines 1 {} (Split.lines input) = .ok s ∧ s.sections.reverse = sections :=
  Sexp.Reader.map_eq_ok

lemma parse_eq_error {input : List UInt8} {e : Malformed} :
    parse input = .error e ↔ State.lines 1 {} (Split.lines input) = .error e := by
  rw [parse]
  cases State.lines 1 {} (Split.lines input) <;> simp [Except.map]

lemma lines_take_error {ls : List (List UInt8)} {e : Malformed}
    (h : State.lines 1 {} ls = .error e) :
    (∃ s, State.lines 1 {} (ls.take (e.line - 1)) = .ok s) ∧
      State.lines 1 {} (ls.take e.line) = .error e := by
  obtain ⟨before, l, rest, rfl, hline, hgood, hbad⟩ := State.lines_error_split h
  have hbefore : (before ++ l :: rest).take (e.line - 1) = before := by
    rw [hline, Nat.add_sub_cancel_left, List.take_left]
  have hupto : (before ++ l :: rest).take e.line = before ++ [l] := by
    rw [hline, Nat.add_comm, List.take_length_add_append, List.take_succ_cons, List.take_zero]
  rw [hbefore, hupto]
  exact ⟨hgood, hbad⟩

lemma lines_error_of_take {ls : List (List UInt8)} {k : Nat} {s : State} {e : Malformed}
    (hgood : State.lines 1 {} (ls.take k) = .ok s)
    (hbad : State.lines 1 {} (ls.take (k + 1)) = .error e) :
    e.line = k + 1 ∧ State.lines 1 {} ls = .error e := by
  constructor
  · rw [List.take_add_one] at hbad
    cases hl : ls[k]? with
    | none =>
      rw [hl, Option.toList_none, List.append_nil, hgood] at hbad
      cases hbad
    | some l =>
      have hlt := (List.getElem?_eq_some_iff.1 hl).1
      rw [hl, Option.toList_some] at hbad
      have hline := State.lines_concat_error hgood hbad
      rw [hline, List.length_take_of_le hlt.le, Nat.add_comm]
  · have hwhole := State.lines_error_append hbad (ls.drop (k + 1))
    rwa [List.take_append_drop] at hwhole

lemma parse_error_iff (input : List UInt8) {n : Nat} (hn : 1 ≤ n) :
    (∃ fault, parse input = .error ⟨n, fault⟩) ↔
      (∃ sections, parse (Split.firstLines (n - 1) input) = .ok sections) ∧
        ∃ e, parse (Split.firstLines n input) = .error e := by
  simp only [parse_eq_ok, parse_eq_error, Split.lines_firstLines]
  constructor
  · rintro ⟨fault, h⟩
    obtain ⟨⟨s, hgood⟩, hbad⟩ := lines_take_error h
    exact ⟨⟨_, s, hgood, rfl⟩, _, hbad⟩
  · rintro ⟨⟨-, s, hgood, -⟩, ⟨line, fault⟩, hbad⟩
    obtain ⟨k, rfl⟩ := Nat.exists_eq_add_of_le' hn
    obtain ⟨rfl, hwhole⟩ := lines_error_of_take hgood hbad
    exact ⟨fault, hwhole⟩

lemma parse_error_of_same_lines {input other : List UInt8} {e : Malformed}
    (h : parse input = .error e)
    (hsame : (Split.lines other).take e.line = (Split.lines input).take e.line) :
    parse other = .error e := by
  rw [parse_eq_error] at h ⊢
  have hbad := State.lines_error_append (lines_take_error h).2 ((Split.lines other).drop e.line)
  rwa [← hsame, List.take_append_drop] at hbad

lemma parse_firstLines {input : List UInt8} {sections : List Section}
    (h : parse input = .ok sections) (n : Nat) :
    ∃ before, parse (Split.firstLines n input) = .ok before ∧ Grown before sections := by
  obtain ⟨s, hs, rfl⟩ := parse_eq_ok.1 h
  rw [← List.take_append_drop n (Split.lines input)] at hs
  obtain ⟨t, ht, hrest⟩ := State.lines_ok_append hs
  refine ⟨t.sections.reverse, ?_, State.grown_of_lines hrest⟩
  rw [parse_eq_ok, Split.lines_firstLines]
  exact ⟨t, ht, rfl⟩

theorem first_bad_line_decides (input : List UInt8) :
    (∀ n, 1 ≤ n → ((∃ fault, parse input = .error ⟨n, fault⟩) ↔
      (∃ sections, parse (Split.firstLines (n - 1) input) = .ok sections) ∧
        ∃ e, parse (Split.firstLines n input) = .error e)) ∧
    (∀ n fault, parse input = .error ⟨n, fault⟩ → ∀ other : List UInt8,
      (Split.lines other).take n = (Split.lines input).take n →
        parse other = .error ⟨n, fault⟩) ∧
    ∀ sections, parse input = .ok sections → ∀ n,
      ∃ before, parse (Split.firstLines n input) = .ok before ∧ Grown before sections := by
  refine ⟨fun n hn => parse_error_iff input hn, ?_, ?_⟩
  · intro n fault h other hsame
    exact parse_error_of_same_lines h hsame
  · intro sections h n
    exact parse_firstLines h n

theorem first_bad_line_decides_fourth :
    let good : List UInt8 := Utf8.encode "\x0C\na,1\nf(\x7Ff\x011,0\n"
    let input := good ++ Utf8.encode "g(\x7Fg\x01x,0\n\x0C\nb"
    let other : List UInt8 := Utf8.encode "\x0C\r\na,1\r\nf(\x7Ff\x011,0\ng(\x7Fg\x01x,0\r\nskipped"
    parse input = .error ⟨4, .badNumber "x"⟩ ∧ parse other = .error ⟨4, .badNumber "x"⟩ ∧
      (∃ sections, parse (Split.firstLines 3 input) = .ok sections) ∧
      parse good = .ok [⟨"a", 1, [⟨Utf8.encode "f(", "f", 1, 0⟩]⟩] ∧
      ∃ before, parse (Split.firstLines 2 good) = .ok before ∧
        Grown before [⟨"a", 1, [⟨Utf8.encode "f(", "f", 1, 0⟩]⟩] := by
  intro good input other
  have hbad : parse input = .error ⟨4, .badNumber "x"⟩ := by decide
  have hgood : parse good = .ok [⟨"a", 1, [⟨Utf8.encode "f(", "f", 1, 0⟩]⟩] := by decide
  obtain ⟨hline, hsame, -⟩ := first_bad_line_decides input
  refine ⟨hbad, hsame 4 _ hbad other (by decide), ((hline 4 (by decide)).1 ⟨_, hbad⟩).1, hgood, ?_⟩
  exact (first_bad_line_decides good).2.2 _ hgood 2

end Etags

end Tagwire
