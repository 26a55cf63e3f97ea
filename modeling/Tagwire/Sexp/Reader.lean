import Tagwire.Sexp.Basic

/-! Reading s-expressions. Inside a list a dot that stands alone is passed over. -/

namespace Tagwire.Sexp

inductive ReadError where
  | noForm
  | unexpected (c : Char)
  | endInsideList
  | unterminatedString
  | stringEndsInBackslash
  | integerOutOfRange (digits : String)
  | symbolEndsInBackslash
deriving DecidableEq

def ReadError.message : ReadError → String
  | .noForm => "No s-exp was found in input."
  | .unexpected c =>
    "Unexpected character '" ++ String.singleton c ++
      "' was found in input; beginning of token/list was expected"
  | .endInsideList => "Input unexpectedly ended inside a list."
  | .unterminatedString => "Input contains unterminated quoted string."
  | .stringEndsInBackslash => "Quoted string ends in unescaped backslash."
  | .integerOutOfRange digits => "Integer literal " ++ digits ++ " is out of range"
  | .symbolEndsInBackslash => "Symbol ends in unescaped backslash."

namespace Reader

def skip (s : List Char) : List Char :=
  s.dropWhile isSpace

def unescape (c : Char) : Char :=
  if c = 't' then '\t' else c

def stringBody : List Char → Except ReadError (List Char × List Char)
  | [] => .error .unterminatedString
  | '"' :: rest => .ok ([], rest)
  | ['\\'] => .error .stringEndsInBackslash
  | '\\' :: c :: rest => (stringBody rest).map fun r => (unescape c :: r.1, r.2)
  | c :: rest => (stringBody rest).map fun r => (c :: r.1, r.2)

def symbolBody : List Char → Except ReadError (List Char × List Char)
  | [] => .ok ([], [])
  | ['\\'] => .error .symbolEndsInBackslash
  | '\\' :: c :: rest => (symbolBody rest).map fun r => (unescape c :: r.1, r.2)
  | c :: rest =>
    if isSymbolChar c then (symbolBody rest).map fun r => (c :: r.1, r.2) else .ok ([], c :: rest)

def integerOf (digits : List Char) : Except ReadError Sexp :=
  if Decimal.value digits < UInt64.size then .ok (.integer (UInt64.ofNat (Decimal.value digits)))
  else .error (.integerOutOfRange (String.ofList digits))

def atom (c : Char) (rest : List Char) : Except ReadError (Sexp × List Char) :=
  if c = '"' then (stringBody rest).map fun r => (.string (String.ofList r.1), r.2)
  else if c.isDigit then
    (integerOf (c :: rest.takeWhile Char.isDigit)).map fun v => (v, rest.dropWhile Char.isDigit)
  else if isSymbolChar c || c == '\\' then
    (symbolBody (c :: rest)).map fun r => (.symbol (String.ofList r.1), r.2)
  else .error (.unexpected c)

/-- A dot before one of these, or before the end, is not the start of a symbol. -/
def endsDot : List Char → Bool
  | [] => true
  | c :: _ => isSpace c || c == '(' || c == ')'

theorem skip_length_le (s : List Char) : (skip s).length ≤ s.length :=
  (List.dropWhile_suffix _).length_le

theorem map_eq_ok {ε α β : Type} {f : α → β} {x : Except ε α} {b : β} :
    x.map f = .ok b ↔ ∃ a, x = .ok a ∧ f a = b := by
  cases x <;> simp [Except.map]

theorem stringBody_length {s t rest : List Char} (h : stringBody s = .ok (t, rest)) :
    rest.length < s.length := by
  fun_induction stringBody s generalizing t with
  | case1 => cases h
  | case2 => cases h; simp
  | case3 => cases h
  | case4 c s ih =>
    obtain ⟨⟨u, v⟩, hs, he⟩ := map_eq_ok.1 h
    obtain rfl : v = rest := congrArg Prod.snd he
    have := ih hs
    simp only [List.length_cons]; omega
  | case5 c s _ _ _ ih =>
    obtain ⟨⟨u, v⟩, hs, he⟩ := map_eq_ok.1 h
    obtain rfl : v = rest := congrArg Prod.snd he
    have := ih hs
    simp only [List.length_cons]; omega

theorem symbolBody_length_le {s t rest : List Char} (h : symbolBody s = .ok (t, rest)) :
    rest.length ≤ s.length := by
  fun_induction symbolBody s generalizing t with
  | case1 => cases h; simp
  | case2 => cases h
  | case3 c s ih =>
    obtain ⟨⟨u, v⟩, hs, he⟩ := map_eq_ok.1 h
    obtain rfl : v = rest := congrArg Prod.snd he
    have := ih hs
    simp only [List.length_cons]; omega
  | case4 c s _ _ hc ih =>
    obtain ⟨⟨u, v⟩, hs, he⟩ := map_eq_ok.1 h
    obtain rfl : v = rest := congrArg Prod.snd he
    have := ih hs
    simp only [List.length_cons]; omega
  | case5 => cases h; simp

theorem symbolBody_cons_length {c : Char} {s t rest : List Char}
    (hc : (isSymbolChar c || c == '\\') = true) (h : symbolBody (c :: s) = .ok (t, rest)) :
    rest.length < (c :: s).length := by
  by_cases hb : c = '\\'
  · subst hb
    cases s with
    | nil => cases h
    | cons d s =>
      obtain ⟨⟨u, v⟩, hs, he⟩ := map_eq_ok.1 h
      obtain rfl : v = rest := congrArg Prod.snd he
      have := symbolBody_length_le hs
      simp only [List.length_cons]; omega
  · have hsym : isSymbolChar c = true := by simpa [hb] using hc
    rw [symbolBody, if_pos hsym] at h
    · obtain ⟨⟨u, v⟩, hs, he⟩ := map_eq_ok.1 h
      obtain rfl : v = rest := congrArg Prod.snd he
      have := symbolBody_length_le hs
      simp only [List.length_cons]; omega
    · simp [hb]
    · simp [hb]

theorem atom_length {c : Char} {s rest : List Char} {v : Sexp} (h : atom c s = .ok (v, rest)) :
    rest.length < (c :: s).length := by
  unfold atom at h
  split at h
  · obtain ⟨⟨u, w⟩, hs, he⟩ := map_eq_ok.1 h
    obtain rfl : w = rest := congrArg Prod.snd he
    have := stringBody_length hs
    simp only [List.length_cons]; omega
  · split at h
    · obtain ⟨u, hs, he⟩ := map_eq_ok.1 h
      obtain rfl : s.dropWhile Char.isDigit = rest := congrArg Prod.snd he
      have := (List.dropWhile_suffix Char.isDigit (l := s)).length_le
      simp only [List.length_cons]; omega
    · split at h
      · next hc =>
        obtain ⟨⟨u, w⟩, hs, he⟩ := map_eq_ok.1 h
        obtain rfl : w = rest := congrArg Prod.snd he
        exact symbolBody_cons_length hc hs
      · cases h

/-- What is left of `s` after something was read from it. -/
abbrev Rest (s : List Char) := { r : List Char // r.length < s.length }

def itemsWithin (s : List Char) : Except ReadError (List Sexp × Rest s) :=
  match h : skip s with
  | [] => .error .endInsideList
  | c :: rest =>
    have hs : rest.length < s.length := by
      have := skip_length_le s
      rw [h, List.length_cons] at this
      omega
    if c = ')' then .ok ([], ⟨rest, hs⟩)
    else if c = '.' ∧ endsDot rest then
      match itemsWithin rest with
      | .error e => .error e
      | .ok (vs, ⟨r, hr⟩) => .ok (vs, ⟨r, by omega⟩)
    else if c = '(' then
      match itemsWithin rest with
      | .error e => .error e
      | .ok (inner, ⟨r, hr⟩) =>
        match itemsWithin r with
        | .error e => .error e
        | .ok (vs, ⟨q, hq⟩) => .ok (.list inner :: vs, ⟨q, by omega⟩)
    else
      match ha : atom c rest with
      | .error e => .error e
      | .ok (v, r) =>
        have hr : r.length < s.length := by
          have := atom_length ha
          rw [List.length_cons] at this
          omega
        match itemsWithin r with
        | .error e => .error e
        | .ok (vs, ⟨q, hq⟩) => .ok (v :: vs, ⟨q, by omega⟩)
termination_by s.length

def items (s : List Char) : Except ReadError (List Sexp × List Char) :=
  (itemsWithin s).map fun r => (r.1, r.2.1)

def form (s : List Char) : Except ReadError (Sexp × List Char) :=
  match skip s with
  | [] => .error .noForm
  | c :: rest =>
    if c = '(' then (items rest).map fun r => (.list r.1, r.2) else atom c rest

theorem items_length {s rest : List Char} {vs : List Sexp} (h : items s = .ok (vs, rest)) :
    rest.length < s.length := by
  obtain ⟨⟨ws, r⟩, _, he⟩ := map_eq_ok.1 h
  obtain rfl : r.1 = rest := congrArg Prod.snd he
  exact r.2

theorem form_length {s rest : List Char} {v : Sexp} (h : form s = .ok (v, rest)) :
    rest.length < s.length := by
  unfold form at h
  split at h
  · cases h
  · next c t hskip =>
    have hs : (c :: t).length ≤ s.length := hskip ▸ skip_length_le s
    rw [List.length_cons] at hs
    split at h
    · obtain ⟨⟨vs, u⟩, hi, he⟩ := map_eq_ok.1 h
      obtain rfl : u = rest := congrArg Prod.snd he
      have := items_length hi
      omega
    · have := atom_length h
      rw [List.length_cons] at this
      omega

def forms (s : List Char) : Except ReadError (List Sexp) :=
  if skip s = [] then .ok []
  else
    match h : form s with
    | .error e => .error e
    | .ok (v, rest) =>
      have : rest.length < s.length := form_length h
      (forms rest).map (v :: ·)
termination_by s.length

end Reader

def read (text : String) : Except ReadError Sexp :=
  (Reader.form text.toList).map (·.1)

def readAll (text : String) : Except ReadError (List Sexp) :=
  Reader.forms text.toList

end Tagwire.Sexp
