import Mathlib
import Tagwire.Proofs.Sexp.Reading
import Tagwire.Sexp.Token

/-! A flat scan of a text into tokens, one character at a time. -/

namespace Tagwire.Sexp.Scan

inductive Fault where
  | badCharacter (c : Char)
  | unterminatedString
  | trailingBackslash
  | tooLarge (digits : List Char)
deriving DecidableEq

inductive Place where
  | between
  | text (taken : List Char)
  | textEscape (taken : List Char)
  | number (taken : List Char)
  | name (taken : List Char)
  | nameEscape (taken : List Char)

structure Step where
  emitted : List Token
  place : Place
  depth : Nat

def escaped : Char → Char
  | 't' => '\t'
  | c => c

def separates : Option Char → Bool
  | none => true
  | some c => [' ', '\t', '\r', '\n', '(', ')'].contains c

def begin (depth : Nat) (c : Char) (next : Option Char) : Except Fault Step :=
  if [' ', '\t', '\r', '\n'].contains c then .ok ⟨[], .between, depth⟩
  else if c = '(' then .ok ⟨[.opening], .between, depth + 1⟩
  else if c = ')' then .ok ⟨[.closing], .between, depth - 1⟩
  else if c = '"' then .ok ⟨[], .text [], depth⟩
  else if c.isDigit then .ok ⟨[], .number [c], depth⟩
  else if c = '.' ∧ 0 < depth ∧ separates next then .ok ⟨[], .between, depth⟩
  else if c = '\\' then .ok ⟨[], .nameEscape [], depth⟩
  else if isSymbolChar c then .ok ⟨[], .name [c], depth⟩
  else .error (.badCharacter c)

def integer (digits : List Char) : Except Fault Token :=
  if Decimal.value digits < 2 ^ 64 then .ok (.integer (UInt64.ofNat (Decimal.value digits)))
  else .error (.tooLarge digits)

def Step.after (t : Token) (s : Step) : Step :=
  { s with emitted := t :: s.emitted }

def step (place : Place) (depth : Nat) (c : Char) (next : Option Char) : Except Fault Step :=
  match place with
  | .between => begin depth c next
  | .text taken =>
    if c = '"' then .ok ⟨[.string (String.ofList taken)], .between, depth⟩
    else if c = '\\' then .ok ⟨[], .textEscape taken, depth⟩
    else .ok ⟨[], .text (taken ++ [c]), depth⟩
  | .textEscape taken => .ok ⟨[], .text (taken ++ [escaped c]), depth⟩
  | .number taken =>
    if c.isDigit then .ok ⟨[], .number (taken ++ [c]), depth⟩
    else (integer taken).bind fun t => (begin depth c next).map (.after t)
  | .name taken =>
    if c = '\\' then .ok ⟨[], .nameEscape taken, depth⟩
    else if isSymbolChar c then .ok ⟨[], .name (taken ++ [c]), depth⟩
    else (begin depth c next).map (.after (.symbol (String.ofList taken)))
  | .nameEscape taken => .ok ⟨[], .name (taken ++ [escaped c]), depth⟩

def finish : Place → Except Fault (List Token)
  | .between => .ok []
  | .text _ => .error .unterminatedString
  | .textEscape _ => .error .trailingBackslash
  | .number taken => (integer taken).map ([·])
  | .name taken => .ok [.symbol (String.ofList taken)]
  | .nameEscape _ => .error .trailingBackslash

def run (place : Place) (depth : Nat) : List Char → Except Fault (List Token)
  | [] => finish place
  | c :: rest => (step place depth c rest.head?).bind fun s =>
    (run s.place s.depth rest).map (s.emitted ++ ·)

end Scan

def scan (text : String) : Except Scan.Fault (List Token) :=
  Scan.run .between 0 text.toList

example : scan "(12ab . \"a\"\"b\" c. 7.) ." = .ok [.opening, .integer 12, .symbol "ab",
    .string "a", .string "b", .symbol "c.", .integer 7, .closing, .symbol "."] := by decide

example : scan "(a))" = .ok [.opening, .symbol "a", .closing, .closing] ∧
    scan "\\" = .error .trailingBackslash ∧ scan "\"\\" = .error .trailingBackslash ∧
    scan "x #" = .error (.badCharacter '#') := by decide

namespace Scan

open Reader (skip endsDot stringBody symbolBody atom unescape skip_cons_of_space
  skip_cons_of_not_space)

lemma toOption_map {ε α β : Type} (f : α → β) (x : Except ε α) :
    (x.map f).toOption = x.toOption.map f := by
  cases x <;> rfl

lemma toOption_bind {ε α β : Type} (f : α → Except ε β) (x : Except ε α) :
    (x.bind f).toOption = x.toOption.bind fun a => (f a).toOption := by
  cases x <;> rfl

lemma toOption_eq_some {ε α : Type} {x : Except ε α} {a : α} :
    x.toOption = some a ↔ x = .ok a := by
  cases x <;> simp [Except.toOption]

def tokens? (place : Place) (depth : Nat) (s : List Char) : Option (List Token) :=
  (run place depth s).toOption

variable {place : Place} {depth : Nat} {c : Char} {s : List Char}

lemma tokens?_nil : tokens? .between depth [] = some [] := rfl

lemma tokens?_cons : tokens? place depth (c :: s) =
    (step place depth c s.head?).toOption.bind fun t =>
      (tokens? t.place t.depth s).map (t.emitted ++ ·) := by
  rw [tokens?, run, toOption_bind]
  simp only [toOption_map, tokens?]

lemma tokens?_of_step {t : Step} (h : step place depth c s.head? = .ok t) :
    tokens? place depth (c :: s) = (tokens? t.place t.depth s).map (t.emitted ++ ·) := by
  rw [tokens?_cons, h]
  rfl

lemma tokens?_quiet {place' : Place}
    (h : step place depth c s.head? = .ok ⟨[], place', depth⟩) :
    tokens? place depth (c :: s) = tokens? place' depth s := by
  rw [tokens?_of_step h]
  simp

lemma tokens?_emits {t : Token} {depth' : Nat}
    (h : step place depth c s.head? = .ok ⟨[t], .between, depth'⟩) :
    tokens? place depth (c :: s) = (tokens? .between depth' s).map (t :: ·) :=
  tokens?_of_step h

lemma escaped_eq (c : Char) : escaped c = unescape c := by
  unfold escaped unescape
  split
  · rfl
  · next h => exact (if_neg h).symm

lemma separates_head (s : List Char) : separates s.head? = endsDot s := by
  cases s with
  | nil => rfl
  | cons c s => simp [separates, endsDot, isSpace, Bool.or_assoc, Bool.beq_eq_decide_eq]

lemma contains_space (c : Char) : [' ', '\t', '\r', '\n'].contains c = isSpace c := by
  simp [isSpace, Bool.or_assoc, Bool.beq_eq_decide_eq]

-- A run of digits or of name characters ends at a character that belongs to no token yet.
lemma tokens?_resume {t : Token}
    (h : step place depth c s.head? = (begin depth c s.head?).map (.after t)) :
    tokens? place depth (c :: s) = (tokens? .between depth (c :: s)).map (t :: ·) := by
  rw [tokens?_cons, tokens?_cons, h, step]
  cases begin depth c s.head? with
  | error e => rfl
  | ok u =>
    simp only [Except.map, Except.toOption, Option.bind_some, Option.map_map]
    rfl

lemma tokens?_text (taken : List Char) :
    tokens? (.text taken) depth s = (stringBody s).toOption.bind fun r =>
      (tokens? .between depth r.2).map (.string (String.ofList (taken ++ r.1)) :: ·) := by
  fun_induction stringBody s generalizing taken with
  | case1 => rfl
  | case2 s =>
    have hclose : step (.text taken) depth '"' s.head? =
        .ok ⟨[.string (String.ofList taken)], .between, depth⟩ := rfl
    rw [tokens?_emits hclose]
    simp [Except.toOption]
  | case3 => rfl
  | case4 c s ih =>
    have hback : step (.text taken) depth '\\' (c :: s).head? =
        .ok ⟨[], .textEscape taken, depth⟩ := rfl
    have hchar : step (.textEscape taken) depth c s.head? =
        .ok ⟨[], .text (taken ++ [unescape c]), depth⟩ := by
      rw [step, escaped_eq]
    rw [tokens?_quiet hback, tokens?_quiet hchar, ih, toOption_map]
    simp [Option.bind_map]
  | case5 c s hquote hend hback ih =>
    have hplain : c ≠ '\\' := by
      rintro rfl
      cases s with
      | nil => exact hend rfl rfl
      | cons d s => exact hback d s rfl rfl
    have hchar : step (.text taken) depth c s.head? = .ok ⟨[], .text (taken ++ [c]), depth⟩ := by
      rw [step, if_neg hquote, if_neg hplain]
    rw [tokens?_quiet hchar, ih, toOption_map]
    simp [Option.bind_map]

lemma tokens?_name (taken : List Char) :
    tokens? (.name taken) depth s = (symbolBody s).toOption.bind fun r =>
      (tokens? .between depth r.2).map (.symbol (String.ofList (taken ++ r.1)) :: ·) := by
  fun_induction symbolBody s generalizing taken with
  | case1 => simp [tokens?, run, finish, Except.toOption]
  | case2 => rfl
  | case3 c s ih =>
    have hback : step (.name taken) depth '\\' (c :: s).head? =
        .ok ⟨[], .nameEscape taken, depth⟩ := rfl
    have hchar : step (.nameEscape taken) depth c s.head? =
        .ok ⟨[], .name (taken ++ [unescape c]), depth⟩ := by
      rw [step, escaped_eq]
    rw [tokens?_quiet hback, tokens?_quiet hchar, ih, toOption_map]
    simp [Option.bind_map]
  | case4 c s hend hback hc ih =>
    have hplain : c ≠ '\\' := by
      rintro rfl
      exact absurd hc (by decide)
    have hchar : step (.name taken) depth c s.head? = .ok ⟨[], .name (taken ++ [c]), depth⟩ := by
      rw [step, if_neg hplain, if_pos hc]
    rw [tokens?_quiet hchar, ih, toOption_map]
    simp [Option.bind_map]
  | case5 c s hend hback hc =>
    have hplain : c ≠ '\\' := by
      rintro rfl
      cases s with
      | nil => exact hend rfl rfl
      | cons d s => exact hback d s rfl rfl
    have hover : step (.name taken) depth c s.head? =
        (begin depth c s.head?).map (.after (.symbol (String.ofList taken))) := by
      rw [step, if_neg hplain, if_neg hc]
    rw [tokens?_resume hover]
    simp [Except.toOption]

lemma tokens?_number (taken : List Char) :
    tokens? (.number taken) depth s =
      (integer (taken ++ s.takeWhile Char.isDigit)).toOption.bind fun t =>
        (tokens? .between depth (s.dropWhile Char.isDigit)).map (t :: ·) := by
  induction s generalizing taken with
  | nil =>
    simp only [tokens?, run, finish, toOption_map, List.takeWhile_nil, List.append_nil]
    cases integer taken <;> rfl
  | cons c s ih =>
    by_cases hc : c.isDigit = true
    · have hchar : step (.number taken) depth c s.head? =
          .ok ⟨[], .number (taken ++ [c]), depth⟩ := if_pos hc
      rw [tokens?_quiet hchar, ih, List.takeWhile_cons_of_pos hc, List.dropWhile_cons_of_pos hc,
        List.append_assoc, List.singleton_append]
    · have hstep : step (.number taken) depth c s.head? =
          (integer taken).bind fun t => (begin depth c s.head?).map (.after t) := if_neg hc
      rw [List.takeWhile_cons_of_neg hc, List.dropWhile_cons_of_neg hc, List.append_nil]
      cases hi : integer taken with
      | error e =>
        rw [hi] at hstep
        rw [tokens?_cons, hstep]
        rfl
      | ok t =>
        rw [hi] at hstep
        rw [tokens?_resume hstep]
        rfl

lemma integerOf_tokens (digits : List Char) :
    (Reader.integerOf digits).toOption.map Sexp.tokens = (integer digits).toOption.map ([·]) := by
  rw [Reader.integerOf, integer, show UInt64.size = 2 ^ 64 from rfl]
  split <;> rfl

lemma tokens?_skip (depth : Nat) (s : List Char) :
    tokens? .between depth (skip s) = tokens? .between depth s := by
  induction s with
  | nil => rfl
  | cons c s ih =>
    by_cases hc : isSpace c = true
    · have hstep : step .between depth c s.head? = .ok ⟨[], .between, depth⟩ := by
        rw [step, begin, contains_space, if_pos hc]
      rw [skip_cons_of_space hc, ih, tokens?_quiet hstep]
    · rw [skip_cons_of_not_space (by simpa using hc)]

lemma tokens?_open : tokens? .between depth ('(' :: s) =
    (tokens? .between (depth + 1) s).map (.opening :: ·) :=
  tokens?_emits rfl

lemma tokens?_close : tokens? .between (depth + 1) (')' :: s) =
    (tokens? .between depth s).map (.closing :: ·) :=
  tokens?_emits rfl

lemma tokens?_dot (h : endsDot s = true) :
    tokens? .between (depth + 1) ('.' :: s) = tokens? .between (depth + 1) s := by
  apply tokens?_quiet
  rw [← separates_head] at h
  simp [step, begin, h]

lemma tokens?_atom (depth : Nat) (hspace : isSpace c = false) (hopen : c ≠ '(') (hclose : c ≠ ')')
    (hdot : ¬ (c = '.' ∧ 0 < depth ∧ endsDot s = true)) :
    tokens? .between depth (c :: s) = (atom c s).toOption.bind fun r =>
      (tokens? .between depth r.2).map (r.1.tokens ++ ·) := by
  have hbegin : step .between depth c s.head? =
      if c = '"' then .ok ⟨[], .text [], depth⟩
      else if c.isDigit then .ok ⟨[], .number [c], depth⟩
      else if c = '\\' then .ok ⟨[], .nameEscape [], depth⟩
      else if isSymbolChar c then .ok ⟨[], .name [c], depth⟩
      else .error (.badCharacter c) := by
    rw [step, begin, contains_space, separates_head, if_neg (by simp [hspace]), if_neg hopen,
      if_neg hclose, if_neg hdot]
  by_cases hquote : c = '"'
  · rw [if_pos hquote] at hbegin
    rw [tokens?_quiet hbegin, tokens?_text, atom, if_pos hquote, toOption_map]
    simp [Option.bind_map, Function.comp_def, Sexp.tokens]
  rw [if_neg hquote] at hbegin
  by_cases hdigit : c.isDigit = true
  · rw [if_pos hdigit] at hbegin
    have hint := integerOf_tokens (c :: s.takeWhile Char.isDigit)
    rw [tokens?_quiet hbegin, tokens?_number, atom, if_neg hquote, if_pos hdigit, toOption_map,
      Option.bind_map]
    have hbind := congrArg (fun o => o.bind fun ts =>
      (tokens? .between depth (s.dropWhile Char.isDigit)).map (ts ++ ·)) hint
    simpa [Option.bind_map, Function.comp_def] using hbind.symm
  rw [if_neg hdigit] at hbegin
  rw [atom, if_neg hquote, if_neg hdigit]
  by_cases hname : (isSymbolChar c || c == '\\') = true
  · -- a name starts as it would go on after no characters at all
    have hstep : step .between depth c s.head? = step (.name []) depth c s.head? := by
      rw [hbegin, step]
      split
      · rfl
      · next hplain =>
        have hsym : isSymbolChar c = true := by simpa [hplain] using hname
        rw [if_pos hsym, if_pos hsym]
        rfl
    rw [if_pos hname, tokens?_cons, hstep, ← tokens?_cons, tokens?_name, toOption_map]
    simp [Option.bind_map, Function.comp_def, Sexp.tokens]
  · obtain ⟨hsym, hplain⟩ : isSymbolChar c = false ∧ c ≠ '\\' := by simpa using hname
    rw [if_neg hplain, if_neg (by simp [hsym])] at hbegin
    rw [if_neg hname, tokens?_cons, hbegin]
    rfl

end Scan

end Tagwire.Sexp
