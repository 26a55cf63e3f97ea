import Mathlib
import Tagwire.Pattern

namespace Tagwire.Pattern

def named (A W E : CharSet) : Pattern :=
  .seq (.capture (.seq (.one A) (.many W))) (.one E)

structure Named (A W E : CharSet) : Prop where
  ne : A ≠ W
  inner : ∀ piece, A.admits piece = true → W.admits piece = true
  closing : ∀ piece, W.admits piece = true → E.admits piece = false

variable {A W E : CharSet}

/-- The name that ends behind a piece, given the one that ends before it; the last byte of a name
comes first. -/
def nameAfter (A W : CharSet) (piece : Utf8.Piece) : Option (List UInt8) → Option (List UInt8)
  | none => if A.admits piece then some piece.bytes.reverse else none
  | some name => if W.admits piece then some (piece.bytes.reverse ++ name) else none

def namesBefore (A W E : CharSet) : Option (List UInt8) → List Utf8.Piece → List (List UInt8)
  | _, [] => []
  | name, piece :: rest =>
    (if E.admits piece then (name.map List.reverse).toList else []) ++
      namesBefore A W E (nameAfter A W piece name) rest

def outside (A W E : CharSet) : Way :=
  ⟨some A, [.piece (.many W), .close, .piece (.one E)], .opened []⟩

def inside (W E : CharSet) (name : List UInt8) : List Way :=
  [⟨some W, [.piece (.many W), .close, .piece (.one E)], .opened name⟩,
    ⟨some E, [], .closed name⟩]

def waysAt (A W E : CharSet) : Option (List UInt8) → List Way
  | none => [outside A W E]
  | some name => inside W E name ++ [outside A W E]

def complete (name : List UInt8) : Way :=
  ⟨none, [], .closed name⟩

lemma start_named : (named A W E).start = waysAt A W E none := rfl

lemma read_outside (piece : Utf8.Piece) :
    (outside A W E).read piece = if A.admits piece then inside W E piece.bytes.reverse else [] := by
  rw [Way.read]
  simp only [outside, Capture.take, List.append_nil]
  rfl

lemma read_inside (piece : Utf8.Piece) (name : List UInt8) :
    (inside W E name).flatMap (Way.read piece) =
      (if W.admits piece then inside W E (piece.bytes.reverse ++ name) else []) ++
        if E.admits piece then [complete name] else [] := by
  simp only [inside, List.flatMap_cons, List.flatMap_nil, List.append_nil]
  rfl

def onward (A W E : CharSet) (piece : Utf8.Piece) (ways : List Way) : List Way :=
  distinct (ways.flatMap (Way.read piece) ++ [outside A W E])

-- A name that starts inside another one has the same left to match; the longer one is preferred.
lemma onward_waysAt (h : Named A W E) {piece : Utf8.Piece} {name : Option (List UInt8)}
    (hopen : name = none ∨ E.admits piece = false) :
    onward A W E piece (waysAt A W E name) = waysAt A W E (nameAfter A W piece name) := by
  have hfirst (taken : List UInt8) :
      distinct (inside W E taken ++ [outside A W E]) = waysAt A W E (some taken) := by
    simp [distinct, inside, outside, waysAt, Way.agrees, h.ne]
  have hsecond (taken taken' : List UInt8) :
      distinct (inside W E taken ++ inside W E taken' ++ [outside A W E]) =
        waysAt A W E (some taken) := by
    simp [distinct, inside, outside, waysAt, Way.agrees, h.ne]
  cases name with
  | none =>
    rw [onward, waysAt, List.flatMap_singleton, read_outside, nameAfter]
    split
    · exact hfirst piece.bytes.reverse
    · rfl
  | some name =>
    have hclosing : E.admits piece = false := hopen.resolve_left (Option.some_ne_none name)
    rw [onward, waysAt, List.flatMap_append, List.flatMap_singleton, read_inside, read_outside,
      nameAfter, hclosing, if_neg Bool.false_ne_true, List.append_nil]
    by_cases hinner : W.admits piece = true
    · rw [if_pos hinner, if_pos hinner]
      split
      · exact hsecond (piece.bytes.reverse ++ name) piece.bytes.reverse
      · rw [List.append_nil]
        exact hfirst (piece.bytes.reverse ++ name)
    · have houter : ¬ A.admits piece = true := fun hA => hinner (h.inner piece hA)
      rw [if_neg hinner, if_neg hinner, if_neg houter]
      rfl

lemma onward_closing (h : Named A W E) {piece : Utf8.Piece} (hclosing : E.admits piece = true)
    (name : List UInt8) :
    onward A W E piece (waysAt A W E (some name)) = [complete name, outside A W E] := by
  have hinner : ¬ W.admits piece = true := fun hW => by
    rw [h.closing piece hW] at hclosing
    cases hclosing
  have houter : ¬ A.admits piece = true := fun hA => hinner (h.inner piece hA)
  rw [onward, waysAt, List.flatMap_append, List.flatMap_singleton, read_inside, read_outside,
    if_neg hinner, if_neg houter, if_pos hclosing]
  simp [distinct, complete, outside, Way.agrees]

lemma search_onward {name : Option (List UInt8)} {piece : Utf8.Piece} {way : Way}
    {ways : List Way} (h : onward A W E piece (waysAt A W E name) = way :: ways) (position : Nat)
    (rest : List Utf8.Piece) :
    search [outside A W E] (waysAt A W E name) none position (piece :: rest) =
      search [outside A W E] (way :: ways) none (position + 1) rest := by
  have hfind : ((waysAt A W E name).find? fun w => w.next = none) = none := by
    cases name <;> rfl
  have hpreferred : ((waysAt A W E name).takeWhile fun w => w.next ≠ none) = waysAt A W E name := by
    cases name <;> rfl
  rw [onward] at h
  rw [search, hfind, hpreferred]
  simp only [Option.map_none, Option.or_none, Option.isSome_none, if_neg Bool.false_ne_true, h]
  rfl

lemma search_complete (name : List UInt8) (fresh ways : List Way) (position : Nat)
    (s : List Utf8.Piece) :
    search fresh (complete name :: ways) none position s = some ⟨.closed name, position, s⟩ := by
  cases s with
  | nil => rfl
  | cons piece rest => simp [search, complete, distinct]

/-- What a search finds at a place behind a given name: nothing when no name follows that stands
before a closing character, and else the first one that does. -/
def Finds (A W E : CharSet) (name : Option (List UInt8)) (position : Nat) (s : List Utf8.Piece) :
    Option Hit → Prop
  | none => namesBefore A W E name s = []
  | some hit => ∃ group, hit.capture.group? = some group ∧ position < hit.stop ∧
      hit.rest.length < s.length ∧
      namesBefore A W E name s = group :: namesBefore A W E none hit.rest

lemma Finds.cons {name : Option (List UInt8)} {piece : Utf8.Piece} {position : Nat}
    {rest : List Utf8.Piece} {found : Option Hit} (hopen : name = none ∨ E.admits piece = false)
    (h : Finds A W E (nameAfter A W piece name) (position + 1) rest found) :
    Finds A W E name position (piece :: rest) found := by
  have hnames : namesBefore A W E name (piece :: rest) =
      namesBefore A W E (nameAfter A W piece name) rest := by
    rcases hopen with rfl | hopen
    · simp [namesBefore]
    · simp [namesBefore, hopen]
  cases found with
  | none => exact hnames.trans h
  | some hit =>
    obtain ⟨group, hgroup, hstop, hrest, hfirst⟩ := h
    exact ⟨group, hgroup, Nat.lt_of_succ_lt hstop, Nat.lt_succ_of_lt hrest, hnames.trans hfirst⟩

lemma finds_search (h : Named A W E) (name : Option (List UInt8)) (position : Nat)
    (s : List Utf8.Piece) :
    Finds A W E name position s (search [outside A W E] (waysAt A W E name) none position s) := by
  induction s generalizing name position with
  | nil =>
    cases name with
    | none => rfl
    | some name => rfl
  | cons piece rest ih =>
    by_cases hopen : name = none ∨ E.admits piece = false
    · have honward := onward_waysAt h hopen
      obtain ⟨way, ways, hways⟩ : ∃ way ways,
          waysAt A W E (nameAfter A W piece name) = way :: ways := by
        cases nameAfter A W piece name <;> exact ⟨_, _, rfl⟩
      rw [search_onward (honward.trans hways), ← hways]
      exact (ih (nameAfter A W piece name) (position + 1)).cons hopen
    · obtain ⟨hname, hclosing⟩ := not_or.1 hopen
      obtain ⟨name, rfl⟩ := Option.ne_none_iff_exists'.1 hname
      rw [Bool.not_eq_false] at hclosing
      rw [search_onward (onward_closing h hclosing name), search_complete]
      refine ⟨name.reverse, rfl, Nat.lt_succ_self position, Nat.lt_succ_self rest.length, ?_⟩
      have hafter : nameAfter A W piece (some name) = none :=
        if_neg fun hinner => by simp [h.closing piece hinner] at hclosing
      rw [namesBefore, hafter, if_pos hclosing]
      rfl

lemma groupsFrom_named (h : Named A W E) {n : Nat} {s : List Utf8.Piece} (hn : s.length < n)
    (adjoins : Bool) :
    ((named A W E).groupsFrom n adjoins s).filterMap id = namesBefore A W E none s := by
  induction n generalizing s adjoins with
  | zero => exact absurd hn (Nat.not_lt_zero s.length)
  | succ n ih =>
    have hfinds := finds_search h none 0 s
    rw [groupsFrom.eq_def]
    simp only [find?, start_named]
    change Finds A W E none 0 s (search (waysAt A W E none) (waysAt A W E none) none 0 s) at hfinds
    cases hfound : search (waysAt A W E none) (waysAt A W E none) none 0 s with
    | none =>
      rw [hfound] at hfinds
      exact hfinds.symm
    | some hit =>
      rw [hfound] at hfinds
      obtain ⟨group, hgroup, hstop, hrest, hnames⟩ := hfinds
      have hmoved : (adjoins && hit.stop == 0) = false := by
        simp [Nat.pos_iff_ne_zero.1 hstop]
      have hleft : hit.rest.length < n := by omega
      simp only [hmoved, Bool.false_eq_true, if_false, hgroup]
      rw [List.filterMap_cons_some (id_eq (some group)), ih hleft, hnames]

theorem groups_named (h : Named A W E) (line : List UInt8) :
    (named A W E).groups line = namesBefore A W E none (Utf8.pieces line) := by
  apply groupsFrom_named h
  omega

end Tagwire.Pattern
