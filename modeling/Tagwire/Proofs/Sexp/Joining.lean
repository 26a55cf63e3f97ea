import Mathlib
import Tagwire.Proofs.Sexp.Spelling

namespace Tagwire.Sexp

namespace Reader

variable {s t r u : List Char}

lemma skip_append {c : Char} (h : skip s = c :: t) (u : List Char) :
    skip (s ++ u) = c :: (t ++ u) := by
  have hs : s.dropWhile isSpace = c :: t := h
  simp [skip, List.dropWhile_append, hs]

lemma skip_append_of_nil (h : skip s = []) (u : List Char) : skip (s ++ u) = skip u := by
  have hs : s.dropWhile isSpace = [] := h
  simp [skip, List.dropWhile_append, hs]

lemma endsDot_append_of_ne_nil (h : t ≠ []) (u : List Char) : endsDot (t ++ u) = endsDot t := by
  cases t with
  | nil => exact absurd rfl h
  | cons c t => rfl

lemma stringBody_append_right {text : List Char} (h : stringBody s = .ok (text, r))
    (u : List Char) : stringBody (s ++ u) = .ok (text, r ++ u) := by
  fun_induction stringBody s generalizing text with
  | case1 => cases h
  | case2 s =>
    cases h
    rfl
  | case3 => cases h
  | case4 c s ih =>
    obtain ⟨⟨w, q⟩, hs, he⟩ := map_eq_ok.1 h
    obtain ⟨rfl, rfl⟩ : unescape c :: w = text ∧ q = r := by simpa using he
    rw [List.cons_append, List.cons_append, stringBody, ih hs]
    rfl
  | case5 c s hquote hend hback ih =>
    obtain ⟨⟨w, q⟩, hs, he⟩ := map_eq_ok.1 h
    obtain ⟨rfl, rfl⟩ : c :: w = text ∧ q = r := by simpa using he
    have hplain := ne_backslash hend hback
    rw [List.cons_append, stringBody, ih hs]
    · rfl
    · exact hquote
    · exact fun hc => absurd hc hplain
    · exact fun _ _ hc => absurd hc hplain

lemma symbolBody_append_right {name : List Char} (h : symbolBody s = .ok (name, r))
    (hu : endsDot u = true) : symbolBody (s ++ u) = .ok (name, r ++ u) := by
  fun_induction symbolBody s generalizing name with
  | case1 =>
    cases h
    exact symbolBody_append (List.forall_mem_nil _) hu
  | case2 => cases h
  | case3 c s ih =>
    obtain ⟨⟨w, q⟩, hs, he⟩ := map_eq_ok.1 h
    obtain ⟨rfl, rfl⟩ : unescape c :: w = name ∧ q = r := by simpa using he
    rw [List.cons_append, List.cons_append, symbolBody, ih hs]
    rfl
  | case4 c s hend hback hc ih =>
    obtain ⟨⟨w, q⟩, hs, he⟩ := map_eq_ok.1 h
    obtain ⟨rfl, rfl⟩ : c :: w = name ∧ q = r := by simpa using he
    have hplain : c ≠ '\\' := by
      rintro rfl
      exact absurd hc (by decide)
    rw [List.cons_append, symbolBody, if_pos hc, ih hs]
    · rfl
    · exact fun hc => absurd hc hplain
    · exact fun _ _ hc => absurd hc hplain
  | case5 c s hend hback hc =>
    cases h
    have hplain := ne_backslash hend hback
    rw [List.cons_append, symbolBody, if_neg hc]
    · exact fun hc => absurd hc hplain
    · exact fun _ _ hc => absurd hc hplain

lemma atom_append_right {c : Char} {v : Sexp} (h : atom c s = .ok (v, r))
    (hu : endsDot u = true) : atom c (s ++ u) = .ok (v, r ++ u) := by
  unfold atom at h ⊢
  split
  · next hquote =>
    rw [if_pos hquote] at h
    obtain ⟨⟨text, q⟩, hs, he⟩ := map_eq_ok.1 h
    obtain ⟨rfl, rfl⟩ : .string (String.ofList text) = v ∧ q = r := by simpa using he
    rw [stringBody_append_right hs]
    rfl
  · next hquote =>
    rw [if_neg hquote] at h
    split
    · next hdigit =>
      rw [if_pos hdigit] at h
      obtain ⟨w, hi, he⟩ := map_eq_ok.1 h
      obtain ⟨rfl, rfl⟩ : w = v ∧ s.dropWhile Char.isDigit = r := by simpa using he
      rw [takeWhile_isDigit_append s hu, dropWhile_isDigit_append s hu, hi]
      rfl
    · next hdigit =>
      rw [if_neg hdigit] at h
      split
      · next hc =>
        rw [if_pos hc] at h
        obtain ⟨⟨name, q⟩, hs, he⟩ := map_eq_ok.1 h
        obtain ⟨rfl, rfl⟩ : .symbol (String.ofList name) = v ∧ q = r := by simpa using he
        have hname := symbolBody_append_right hs hu
        rw [List.cons_append] at hname
        rw [hname]
        rfl
      · next hc =>
        rw [if_neg hc] at h
        cases h

lemma items_append_right {vs : List Sexp} (h : items s = .ok (vs, r)) (hu : endsDot u = true) :
    items (s ++ u) = .ok (vs, r ++ u) := by
  refine items_induction (motive := fun s vs r => items (s ++ u) = .ok (vs, r ++ u))
    ?_ ?_ ?_ ?_ h
  · intro s r hs
    exact items_close (skip_append hs u)
  · intro s t r vs hs hd ih
    rw [items_dot (skip_append hs u) (endsDot_append hd hu)]
    exact ih
  · intro s t q r inner vs hs hi hr
    rw [items_open (skip_append hs u), hi]
    simp only [Except.bind, hr]
    rfl
  · intro s t q r c v vs hs hclose hopen hdot ha hr
    have hlone : ¬ (c = '.' ∧ endsDot (t ++ u) = true) := by
      rintro ⟨hc, hd⟩
      have ht : t ≠ [] := fun ht => hdot ⟨hc, ht ▸ rfl⟩
      exact hdot ⟨hc, endsDot_append_of_ne_nil ht u ▸ hd⟩
    rw [items_atom (skip_append hs u) hclose hopen hlone, atom_append_right ha hu]
    simp only [Except.bind, hr]
    rfl

lemma form_append_right {v : Sexp} (h : form s = .ok (v, r)) (hu : endsDot u = true) :
    form (s ++ u) = .ok (v, r ++ u) := by
  cases hs : skip s with
  | nil => simp [form, hs] at h
  | cons c t =>
    by_cases hopen : c = '('
    · subst hopen
      rw [form_open hs] at h
      obtain ⟨⟨vs, q⟩, hi, he⟩ := map_eq_ok.1 h
      obtain ⟨rfl, rfl⟩ : .list vs = v ∧ q = r := by simpa using he
      rw [form_open (skip_append hs u), items_append_right hi hu]
      rfl
    · rw [form_atom hs hopen] at h
      rw [form_atom (skip_append hs u) hopen]
      exact atom_append_right h hu

lemma spellsAll_of_forms {vs : List Sexp} (h : forms s = .ok vs) {c : Char}
    (hc : isSpace c = true) : SpellsAll (s ++ [c]) vs := by
  refine forms_induction (motive := fun s result => ∀ vs, result = .ok vs → SpellsAll (s ++ [c]) vs)
    ?_ ?_ ?_ s vs h
  · rintro s hs vs ⟨⟩ rest
    rw [← spellsAll_nil rest, List.append_assoc]
    exact forms_congr ((skip_append_of_nil hs _).trans (skip_cons_of_space hc rest))
  · rintro s e - - vs ⟨⟩
  · intro s v r hf ih vs hvs rest
    obtain ⟨ws, hws, rfl⟩ := map_eq_ok.1 hvs
    have hrest := ih ws hws rest
    rw [List.append_assoc] at hrest ⊢
    rw [forms_of_form (form_append_right hf (by simp [endsDot, hc])), hrest]
    cases forms rest <;> rfl

end Reader

lemma readAll_joined {t₁ : String} {vs : List Sexp} (h : readAll t₁ = .ok vs) (t₂ : String) :
    readAll (t₁ ++ "\n" ++ t₂) = (readAll t₂).map (vs ++ ·) := by
  have hjoin := Reader.spellsAll_of_forms h (show isSpace '\n' = true from rfl) t₂.toList
  simpa [readAll] using hjoin

end Tagwire.Sexp
