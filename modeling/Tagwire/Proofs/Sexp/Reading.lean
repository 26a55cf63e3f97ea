import Mathlib
import Tagwire.Proofs.Text.Decimal
import Tagwire.Sexp.Reader

namespace Tagwire.Sexp.Reader

lemma skip_cons_of_space {c : Char} (hc : isSpace c = true) (s : List Char) :
    skip (c :: s) = skip s :=
  List.dropWhile_cons_of_pos hc

lemma skip_cons_of_not_space {c : Char} (hc : isSpace c = false) (s : List Char) :
    skip (c :: s) = c :: s :=
  List.dropWhile_cons_of_neg (by simp [hc])

lemma ends_symbol {c : Char} {rest : List Char} (h : endsDot (c :: rest) = true) :
    isSymbolChar c = false ∧ c ≠ '\\' := by
  simp only [endsDot, isSpace, Bool.or_eq_true, beq_iff_eq] at h
  rcases h with ((((rfl | rfl) | rfl) | rfl) | rfl) | rfl <;> decide

lemma isSymbolChar_of_isDigit {c : Char} (h : c.isDigit = true) : isSymbolChar c = true := by
  simp [isSymbolChar, Char.isAlphanum, h]

lemma not_isSpace_of_isSymbolChar {c : Char} (h : isSymbolChar c = true) :
    isSpace c = false := by
  by_contra hs
  simp only [isSpace, Bool.or_eq_true, beq_iff_eq, Bool.not_eq_false] at hs
  rcases hs with ((rfl | rfl) | rfl) | rfl <;> exact absurd h (by decide)

lemma isDigit_eq_false {c : Char} {rest : List Char} (h : endsDot (c :: rest) = true) :
    c.isDigit = false := by
  by_contra hc
  have hsym := isSymbolChar_of_isDigit (by simpa using hc)
  rw [(ends_symbol h).1] at hsym
  cases hsym

lemma takeWhile_isDigit {rest : List Char} (h : endsDot rest = true) :
    rest.takeWhile Char.isDigit = [] := by
  cases rest with
  | nil => rfl
  | cons c rest => exact List.takeWhile_cons_of_neg (by simp [isDigit_eq_false h])

lemma dropWhile_isDigit {rest : List Char} (h : endsDot rest = true) :
    rest.dropWhile Char.isDigit = rest := by
  cases rest with
  | nil => rfl
  | cons c rest => exact List.dropWhile_cons_of_neg (by simp [isDigit_eq_false h])

lemma takeWhile_isDigit_append (s : List Char) {rest : List Char} (h : endsDot rest = true) :
    (s ++ rest).takeWhile Char.isDigit = s.takeWhile Char.isDigit := by
  rw [List.takeWhile_append, takeWhile_isDigit h]
  split
  · next hall =>
    rw [List.append_nil]
    exact ((List.takeWhile_prefix _).eq_of_length hall).symm
  · rfl

lemma dropWhile_isDigit_append (s : List Char) {rest : List Char} (h : endsDot rest = true) :
    (s ++ rest).dropWhile Char.isDigit = s.dropWhile Char.isDigit ++ rest := by
  rw [List.dropWhile_append, dropWhile_isDigit h]
  split
  · next hall => rw [List.isEmpty_iff.1 hall, List.nil_append]
  · rfl

lemma ne_backslash {c : Char} {s : List Char} (hend : c = '\\' → s = [] → False)
    (hescape : ∀ d t, c = '\\' → s = d :: t → False) : c ≠ '\\' := by
  intro hc
  cases s with
  | nil => exact hend hc rfl
  | cons d s => exact hescape d s hc rfl

lemma stringBody_escape (cs rest : List Char) :
    stringBody (escape cs ++ '"' :: rest) = .ok (cs, rest) := by
  induction cs with
  | nil => rfl
  | cons c cs ih =>
    by_cases hc : c = '\\' ∨ c = '"'
    · have hu : unescape c = c := by rcases hc with rfl | rfl <;> rfl
      rw [escape, if_pos hc, List.cons_append, List.cons_append, stringBody, ih, hu]
      rfl
    · obtain ⟨hback, hquote⟩ := not_or.1 hc
      rw [escape, if_neg hc, List.cons_append, stringBody, ih]
      · rfl
      all_goals simp [hback, hquote]

lemma symbolBody_append {cs rest : List Char} (h : ∀ c ∈ cs, isSymbolChar c = true)
    (hr : endsDot rest = true) : symbolBody (cs ++ rest) = .ok (cs, rest) := by
  induction cs with
  | nil =>
    cases rest with
    | nil => rfl
    | cons c rest =>
      obtain ⟨hsym, hback⟩ := ends_symbol hr
      rw [List.nil_append, symbolBody, if_neg (by simp [hsym])]
      all_goals simp [hback]
  | cons c cs ih =>
    have hc := h c List.mem_cons_self
    have hback : c ≠ '\\' := by
      rintro rfl
      exact absurd hc (by decide)
    rw [List.cons_append, symbolBody, if_pos hc, ih fun d hd => h d (List.mem_cons_of_mem _ hd)]
    · rfl
    all_goals simp [hback]

lemma items_eq_error {s : List Char} (h : skip s = []) : items s = .error .endInsideList := by
  rw [items, itemsWithin]
  split
  · rfl
  · simp_all

lemma items_close {s rest : List Char} (h : skip s = ')' :: rest) : items s = .ok ([], rest) := by
  rw [items, itemsWithin]
  split
  · simp_all
  · next c t hs =>
    obtain ⟨rfl, rfl⟩ : c = ')' ∧ t = rest := by simpa [hs] using h
    rfl

lemma items_dot {s rest : List Char} (h : skip s = '.' :: rest) (hd : endsDot rest = true) :
    items s = items rest := by
  rw [items, itemsWithin]
  split
  · simp_all
  · next c t hs =>
    obtain ⟨rfl, rfl⟩ : c = '.' ∧ t = rest := by simpa [hs] using h
    rw [if_neg (by decide), if_pos ⟨rfl, hd⟩, items]
    cases itemsWithin t <;> rfl

lemma items_open {s rest : List Char} (h : skip s = '(' :: rest) :
    items s = (items rest).bind fun r =>
      (items r.2).map fun q => (.list r.1 :: q.1, q.2) := by
  rw [items, itemsWithin]
  split
  · simp_all
  · next c t hs =>
    obtain ⟨rfl, rfl⟩ : c = '(' ∧ t = rest := by simpa [hs] using h
    rw [if_neg (by decide), if_neg (by simp), if_pos rfl, items]
    cases itemsWithin t with
    | error => rfl
    | ok r =>
      simp only [Except.map, Except.bind, items]
      cases itemsWithin r.2.1 <;> rfl

lemma items_atom {s rest : List Char} {c : Char} (h : skip s = c :: rest) (hclose : c ≠ ')')
    (hopen : c ≠ '(') (hdot : ¬ (c = '.' ∧ endsDot rest = true)) :
    items s = (atom c rest).bind fun r => (items r.2).map fun q => (r.1 :: q.1, q.2) := by
  rw [items, itemsWithin]
  split
  · simp_all
  · next d t hs =>
    obtain ⟨rfl, rfl⟩ : d = c ∧ t = rest := by simpa [hs] using h
    rw [if_neg hclose, if_neg hdot, if_neg hopen]
    split
    · next e ha => simp [ha, Except.map, Except.bind]
    · next v r ha =>
      simp only [ha, Except.bind, items]
      cases itemsWithin r <;> rfl

lemma items_congr {s t : List Char} (h : skip s = skip t) : items s = items t := by
  cases ht : skip t with
  | nil => rw [items_eq_error ht, items_eq_error (h.trans ht)]
  | cons c r =>
    have hs : skip s = c :: r := h.trans ht
    by_cases hclose : c = ')'
    · subst hclose
      rw [items_close hs, items_close ht]
    by_cases hdot : c = '.' ∧ endsDot r = true
    · obtain ⟨rfl, hd⟩ := hdot
      rw [items_dot hs hd, items_dot ht hd]
    by_cases hopen : c = '('
    · subst hopen
      rw [items_open hs, items_open ht]
    · rw [items_atom hs hclose hopen hdot, items_atom ht hclose hopen hdot]

lemma form_open {s rest : List Char} (h : skip s = '(' :: rest) :
    form s = (items rest).map fun r => (.list r.1, r.2) := by
  simp [form, h]

lemma form_atom {s rest : List Char} {c : Char} (h : skip s = c :: rest) (hopen : c ≠ '(') :
    form s = atom c rest := by
  simp [form, h, hopen]

lemma form_quoteChars (cs rest : List Char) :
    form (quoteChars cs ++ rest) = .ok (.string (String.ofList cs), rest) := by
  have hs : skip (quoteChars cs ++ rest) = '"' :: (escape cs ++ '"' :: rest) := by
    simp [quoteChars, skip_cons_of_not_space (show isSpace '"' = false by decide)]
  rw [form_atom hs (by decide), atom, if_pos rfl, stringBody_escape]
  rfl

lemma form_digits (n : UInt64) {rest : List Char} (hr : endsDot rest = true) :
    form (Decimal.digits n.toNat ++ rest) = .ok (.integer n, rest) := by
  obtain ⟨d, ds, hd⟩ := List.exists_cons_of_ne_nil (Decimal.digits_ne_nil n.toNat)
  have hdig : ∀ c ∈ d :: ds, c.isDigit = true := fun c hc => Decimal.isDigit_of_mem_digits (hd ▸ hc)
  obtain ⟨hfirst, htail⟩ := List.forall_mem_cons.1 hdig
  have hval : Decimal.value (d :: ds) = n.toNat := hd ▸ Decimal.value_digits _
  have hs : skip (Decimal.digits n.toNat ++ rest) = d :: (ds ++ rest) := by
    rw [hd, List.cons_append]
    exact skip_cons_of_not_space (not_isSpace_of_isSymbolChar (isSymbolChar_of_isDigit hfirst)) _
  rw [form_atom hs (by rintro rfl; exact absurd hfirst (by decide)), atom,
    if_neg (by rintro rfl; exact absurd hfirst (by decide)), if_pos hfirst,
    List.takeWhile_append_of_pos htail, List.dropWhile_append_of_pos htail, takeWhile_isDigit hr,
    dropWhile_isDigit hr, List.append_nil, integerOf, hval, if_pos n.toNat_lt]
  simp [Except.map]

lemma items_of_form {s rest : List Char} {v : Sexp} (h : form s = .ok (v, rest))
    (hdot : ∀ t, skip s = '.' :: t → endsDot t = false) :
    items s = (items rest).map fun q => (v :: q.1, q.2) := by
  cases hs : skip s with
  | nil => simp [form, hs] at h
  | cons c t =>
    by_cases hopen : c = '('
    · subst hopen
      rw [form_open hs] at h
      obtain ⟨⟨inner, r⟩, hi, he⟩ := map_eq_ok.1 h
      obtain ⟨rfl, rfl⟩ : .list inner = v ∧ r = rest := by simpa using he
      rw [items_open hs, hi]
      rfl
    · rw [form_atom hs hopen] at h
      have hclose : c ≠ ')' := by
        rintro rfl
        cases h
      have hlone : ¬ (c = '.' ∧ endsDot t = true) := by
        rintro ⟨rfl, hd⟩
        rw [hdot t hs] at hd
        cases hd
      rw [items_atom hs hclose hopen hlone, h]
      rfl

lemma forms_of_form {s rest : List Char} {v : Sexp} (h : form s = .ok (v, rest)) :
    forms s = (forms rest).map (v :: ·) := by
  have hne : skip s ≠ [] := by
    intro hs
    simp [form, hs] at h
  rw [forms, if_neg hne]
  split
  · next e he => simp [he] at h
  · next w r he =>
    obtain ⟨rfl, rfl⟩ : w = v ∧ r = rest := by simpa [he] using h
    rfl

lemma forms_of_error {s : List Char} {e : ReadError} (hs : skip s ≠ [])
    (h : form s = .error e) : forms s = .error e := by
  rw [forms, if_neg hs]
  split
  · next e' he => simpa [he] using h
  · next he => simp [he] at h

lemma forms_congr {s t : List Char} (h : skip s = skip t) : forms s = forms t := by
  have hform : form s = form t := by simp only [form, h]
  by_cases ht : skip t = []
  · rw [forms, forms, if_pos ht, if_pos (h.trans ht)]
  · cases hf : form t with
    | error e => rw [forms_of_error ht hf, forms_of_error (h ▸ ht) (hform.trans hf)]
    | ok r => rw [forms_of_form hf, forms_of_form (hform.trans hf)]

lemma forms_induction {motive : List Char → Except ReadError (List Sexp) → Prop}
    (blank : ∀ {s}, skip s = [] → motive s (.ok []))
    (bad : ∀ {s e}, skip s ≠ [] → form s = .error e → motive s (.error e))
    (cons : ∀ {s v r}, form s = .ok (v, r) → motive r (forms r) →
      motive s ((forms r).map (v :: ·)))
    (s : List Char) : motive s (forms s) := by
  induction hn : s.length using Nat.strongRecOn generalizing s with
  | ind n ih =>
  subst hn
  by_cases hs : skip s = []
  · rw [forms, if_pos hs]
    exact blank hs
  · cases hf : form s with
    | error e =>
      rw [forms_of_error hs hf]
      exact bad hs hf
    | ok q =>
      rw [forms_of_form hf]
      exact cons hf (ih _ (form_length hf) q.2 rfl)

inductive ItemsRead : List Char → List Sexp → List Char → Prop
  | close {s rest : List Char} (h : skip s = ')' :: rest) : ItemsRead s [] rest
  | dot {s t rest : List Char} {vs : List Sexp} (h : skip s = '.' :: t)
      (hd : endsDot t = true) (ht : ItemsRead t vs rest) : ItemsRead s vs rest
  | sublist {s t r rest : List Char} {inner vs : List Sexp} (h : skip s = '(' :: t)
      (hi : ItemsRead t inner r) (hr : ItemsRead r vs rest) :
      ItemsRead s (.list inner :: vs) rest
  | atom {s t r rest : List Char} {c : Char} {v : Sexp} {vs : List Sexp} (h : skip s = c :: t)
      (ha : Reader.atom c t = .ok (v, r)) (hr : ItemsRead r vs rest) : ItemsRead s (v :: vs) rest

lemma bind_eq_ok {ε α β : Type} {f : α → Except ε β} {x : Except ε α} {b : β} :
    x.bind f = .ok b ↔ ∃ a, x = .ok a ∧ f a = .ok b := by
  cases x <;> simp [Except.bind]

lemma items_induction {motive : List Char → List Sexp → List Char → Prop}
    (close : ∀ {s rest}, skip s = ')' :: rest → motive s [] rest)
    (dot : ∀ {s t rest vs}, skip s = '.' :: t → endsDot t = true → motive t vs rest →
      motive s vs rest)
    (sublist : ∀ {s t r rest inner vs}, skip s = '(' :: t → motive t inner r → motive r vs rest →
      motive s (.list inner :: vs) rest)
    (atom : ∀ {s t r rest c v vs}, skip s = c :: t → c ≠ ')' → c ≠ '(' →
      ¬ (c = '.' ∧ endsDot t = true) → Reader.atom c t = .ok (v, r) → motive r vs rest →
      motive s (v :: vs) rest)
    {s rest : List Char} {vs : List Sexp} (h : items s = .ok (vs, rest)) : motive s vs rest := by
  -- on the length: a nested list and what follows it are both shorter than the text
  induction hn : s.length using Nat.strongRecOn generalizing s vs rest with
  | ind n ih =>
  subst hn
  cases hs : skip s with
  | nil => rw [items_eq_error hs] at h; cases h
  | cons c t =>
    have ht : t.length < s.length := by
      have := skip_length_le s
      rw [hs, List.length_cons] at this
      omega
    by_cases hclose : c = ')'
    · subst hclose
      rw [items_close hs] at h
      cases h
      exact close hs
    by_cases hdot : c = '.' ∧ endsDot t = true
    · obtain ⟨rfl, hd⟩ := hdot
      rw [items_dot hs hd] at h
      exact dot hs hd (ih _ ht h rfl)
    by_cases hopen : c = '('
    · subst hopen
      rw [items_open hs] at h
      obtain ⟨⟨inner, r⟩, hi, h⟩ := bind_eq_ok.1 h
      obtain ⟨⟨ws, q⟩, hr, he⟩ := map_eq_ok.1 h
      cases he
      have hlen := items_length hi
      exact sublist hs (ih _ ht hi rfl) (ih _ (Nat.lt_trans hlen ht) hr rfl)
    · rw [items_atom hs hclose hopen hdot] at h
      obtain ⟨⟨v, r⟩, ha, h⟩ := bind_eq_ok.1 h
      obtain ⟨⟨ws, q⟩, hr, he⟩ := map_eq_ok.1 h
      cases he
      have hlen : r.length < t.length + 1 := atom_length ha
      exact atom hs hclose hopen hdot ha (ih _ (by omega) hr rfl)

lemma itemsRead_of_items {s rest : List Char} {vs : List Sexp} (h : items s = .ok (vs, rest)) :
    ItemsRead s vs rest :=
  items_induction .close .dot .sublist (fun hs _ _ _ ha hr => .atom hs ha hr) h

end Tagwire.Sexp.Reader
