import Mathlib
import Tagwire.Proofs.Sexp.Scan

/-! The reader accepts exactly the texts that scan into balanced tokens. -/

namespace Tagwire.Sexp

/-- Whether the lists opened here and `depth` lists opened before are all closed, and no more. -/
def balanced : (depth : Nat) → List Token → Bool
  | 0, [] => true
  | _ + 1, [] => false
  | depth, .opening :: ts => balanced (depth + 1) ts
  | 0, .closing :: _ => false
  | depth + 1, .closing :: ts => balanced depth ts
  | depth, .string _ :: ts => balanced depth ts
  | depth, .integer _ :: ts => balanced depth ts
  | depth, .symbol _ :: ts => balanced depth ts

mutual

lemma balanced_tokens (v : Sexp) (depth : Nat) (ts : List Token) :
    balanced depth (v.tokens ++ ts) = balanced depth ts := by
  match v with
  | .string _ => cases depth <;> rfl
  | .integer _ => cases depth <;> rfl
  | .symbol _ => cases depth <;> rfl
  | .list vs =>
    have hitems := balanced_itemTokens vs (depth + 1) (.closing :: ts)
    rw [tokens, List.cons_append, List.append_assoc, balanced.eq_def]
    cases depth <;> simpa [balanced] using hitems

lemma balanced_itemTokens (vs : List Sexp) (depth : Nat) (ts : List Token) :
    balanced depth (itemTokens vs ++ ts) = balanced depth ts := by
  match vs with
  | [] => rfl
  | v :: vs =>
    rw [itemTokens, List.append_assoc, balanced_tokens v, balanced_itemTokens vs]

end

lemma tokens_ne_closing (v : Sexp) (ts us : List Token) : v.tokens ++ ts ≠ .closing :: us := by
  cases v <;> simp [tokens]

mutual

lemma tokens_append_inj {v w : Sexp} {ts us : List Token} (h : v.tokens ++ ts = w.tokens ++ us) :
    v = w ∧ ts = us := by
  match v, w with
  | .string _, .string _ => simpa [tokens] using h
  | .integer _, .integer _ => simpa [tokens] using h
  | .symbol _, .symbol _ => simpa [tokens] using h
  | .list vs, .list ws =>
    have hitems : itemTokens vs ++ .closing :: ts = itemTokens ws ++ .closing :: us := by
      simpa [tokens] using h
    obtain ⟨rfl, rfl⟩ := itemTokens_append_inj hitems
    exact ⟨rfl, rfl⟩
  | .string _, .integer _ | .string _, .symbol _ | .string _, .list _ => simp [tokens] at h
  | .integer _, .string _ | .integer _, .symbol _ | .integer _, .list _ => simp [tokens] at h
  | .symbol _, .string _ | .symbol _, .integer _ | .symbol _, .list _ => simp [tokens] at h
  | .list _, .string _ | .list _, .integer _ | .list _, .symbol _ => simp [tokens] at h

lemma itemTokens_append_inj {vs ws : List Sexp} {ts us : List Token}
    (h : itemTokens vs ++ .closing :: ts = itemTokens ws ++ .closing :: us) :
    vs = ws ∧ ts = us := by
  match vs, ws with
  | [], [] => simpa [itemTokens] using h
  | [], w :: ws =>
    simp only [itemTokens, List.nil_append, List.append_assoc] at h
    exact absurd h.symm (tokens_ne_closing w _ _)
  | v :: vs, [] =>
    simp only [itemTokens, List.nil_append, List.append_assoc] at h
    exact absurd h (tokens_ne_closing v _ _)
  | v :: vs, w :: ws =>
    simp only [itemTokens, List.append_assoc] at h
    obtain ⟨rfl, hrest⟩ := tokens_append_inj h
    obtain ⟨rfl, rfl⟩ := itemTokens_append_inj hrest
    exact ⟨rfl, rfl⟩

end

lemma itemTokens_injective {vs ws : List Sexp} (h : itemTokens vs = itemTokens ws) : vs = ws := by
  have hclosed : itemTokens vs ++ .closing :: [] = itemTokens ws ++ .closing :: [] := by rw [h]
  exact (itemTokens_append_inj hclosed).1

namespace Scan

open Reader (skip endsDot atom items form forms)

lemma not_space_of_skip {s t : List Char} {c : Char} (h : skip s = c :: t) :
    isSpace c = false := by
  have hhead := List.head?_dropWhile_not isSpace s
  rw [show s.dropWhile isSpace = c :: t from h] at hhead
  simpa using hhead

def Unbalanced (depth : Nat) (s : List Char) : Prop :=
  ∀ ts, tokens? .between depth s = some ts → balanced depth ts = false

/-- What the scan makes of a text that the reader takes for items, closing parenthesis included:
their tokens, or tokens that are not balanced when the reader refuses the text. -/
def ScansAs (depth : Nat) (s : List Char) : Except ReadError (List Sexp × List Char) → Prop
  | .ok (vs, rest) =>
    tokens? .between (depth + 1) s =
      (tokens? .between depth rest).map fun ts => itemTokens vs ++ .closing :: ts
  | .error _ => Unbalanced (depth + 1) s

variable {depth : Nat} {s r : List Char}

lemma Unbalanced.congr (h : tokens? .between depth s = tokens? .between depth r)
    (hr : Unbalanced depth r) : Unbalanced depth s := by
  intro ts hts
  exact hr ts (h ▸ hts)

lemma unbalanced_of_none (h : tokens? .between depth s = none) : Unbalanced depth s := by
  intro ts hts
  rw [h] at hts
  cases hts

lemma Unbalanced.cons {v : Sexp}
    (h : tokens? .between depth s = (tokens? .between depth r).map (v.tokens ++ ·))
    (hr : Unbalanced depth r) : Unbalanced depth s := by
  intro ts hts
  rw [h] at hts
  obtain ⟨us, hus, rfl⟩ := Option.map_eq_some_iff.1 hts
  rw [balanced_tokens]
  exact hr us hus

lemma Unbalanced.list (hs : Unbalanced (depth + 1) s) : Unbalanced depth ('(' :: s) := by
  intro ts hts
  rw [tokens?_open] at hts
  obtain ⟨us, hus, rfl⟩ := Option.map_eq_some_iff.1 hts
  have hfalse := hs us hus
  cases depth <;> simpa [balanced] using hfalse

lemma ScansAs.congr {result : Except ReadError (List Sexp × List Char)}
    (h : tokens? .between (depth + 1) s = tokens? .between (depth + 1) r)
    (hr : ScansAs depth r result) : ScansAs depth s result := by
  cases result with
  | error e => exact Unbalanced.congr h hr
  | ok q => exact h.trans hr

lemma ScansAs.cons {v : Sexp} {result : Except ReadError (List Sexp × List Char)}
    (h : tokens? .between (depth + 1) s = (tokens? .between (depth + 1) r).map (v.tokens ++ ·))
    (hr : ScansAs depth r result) :
    ScansAs depth s (result.map fun q => (v :: q.1, q.2)) := by
  cases result with
  | error e => exact Unbalanced.cons h hr
  | ok q =>
    have hq : tokens? .between (depth + 1) r =
      (tokens? .between depth q.2).map fun ts => itemTokens q.1 ++ .closing :: ts := hr
    show tokens? .between (depth + 1) s = _
    rw [h, hq]
    simp [itemTokens, Function.comp_def]

lemma tokens?_list {vs : List Sexp} {rest : List Char} (h : ScansAs depth s (.ok (vs, rest))) :
    tokens? .between depth ('(' :: s) =
      (tokens? .between depth rest).map ((Sexp.list vs).tokens ++ ·) := by
  have hs : tokens? .between (depth + 1) s =
    (tokens? .between depth rest).map fun ts => itemTokens vs ++ .closing :: ts := h
  rw [tokens?_open, hs]
  simp [tokens, Function.comp_def]

lemma scansAs_items (depth : Nat) (s : List Char) : ScansAs depth s (items s) := by
  -- on the length: a nested list and what follows it are both shorter than the text
  induction hn : s.length using Nat.strongRecOn generalizing s depth with
  | ind n ih =>
  subst hn
  have hskip := tokens?_skip (depth + 1) s
  cases hs : skip s with
  | nil =>
    rw [Reader.items_eq_error hs]
    rw [hs, tokens?_nil] at hskip
    intro ts hts
    obtain rfl : [] = ts := Option.some.inj (hskip.trans hts)
    rfl
  | cons c t =>
    have ht : t.length < s.length := by
      have hle := Reader.skip_length_le s
      rw [hs, List.length_cons] at hle
      omega
    rw [hs] at hskip
    by_cases hclose : c = ')'
    · subst hclose
      rw [Reader.items_close hs]
      exact hskip.symm.trans tokens?_close
    by_cases hdot : c = '.' ∧ endsDot t = true
    · obtain ⟨rfl, hd⟩ := hdot
      rw [Reader.items_dot hs hd]
      exact (ih _ ht depth t rfl).congr (hskip.symm.trans (tokens?_dot hd))
    by_cases hopen : c = '('
    · subst hopen
      rw [Reader.items_open hs]
      have hinner := ih _ ht (depth + 1) t rfl
      cases hi : items t with
      | error e =>
        rw [hi] at hinner
        exact Unbalanced.congr hskip.symm (Unbalanced.list hinner)
      | ok q =>
        rw [hi] at hinner
        have hlen := Reader.items_length hi
        exact (ih _ (Nat.lt_trans hlen ht) depth q.2 rfl).cons
          (hskip.symm.trans (tokens?_list hinner))
    · rw [Reader.items_atom hs hclose hopen hdot]
      have hatom := tokens?_atom (depth + 1) (not_space_of_skip hs) hopen hclose
        fun h => hdot ⟨h.1, h.2.2⟩
      cases ha : atom c t with
      | error e =>
        rw [ha] at hatom
        exact unbalanced_of_none (hskip.symm.trans hatom)
      | ok q =>
        rw [ha] at hatom
        have hlen := Reader.atom_length ha
        rw [List.length_cons] at hlen
        exact (ih _ (by omega) depth q.2 rfl).cons (hskip.symm.trans hatom)

def ScansAllAs (s : List Char) : Except ReadError (List Sexp) → Prop
  | .ok fs => tokens? .between 0 s = some (itemTokens fs)
  | .error _ => Unbalanced 0 s

lemma ScansAllAs.cons {v : Sexp} {result : Except ReadError (List Sexp)}
    (h : tokens? .between 0 s = (tokens? .between 0 r).map (v.tokens ++ ·))
    (hr : ScansAllAs r result) : ScansAllAs s (result.map (v :: ·)) := by
  cases result with
  | error e => exact Unbalanced.cons h hr
  | ok fs =>
    have hfs : tokens? .between 0 r = some (itemTokens fs) := hr
    show tokens? .between 0 s = _
    rw [h, hfs]
    rfl

lemma unbalanced_of_form {e : ReadError} {c : Char} {t : List Char} (hs : skip s = c :: t)
    (h : form s = .error e) : Unbalanced 0 s := by
  refine Unbalanced.congr ((tokens?_skip 0 s).symm.trans (congrArg _ hs)) ?_
  by_cases hopen : c = '('
  · subst hopen
    rw [Reader.form_open hs] at h
    have hitems := scansAs_items 0 t
    cases hi : items t with
    | error e' =>
      rw [hi] at hitems
      exact Unbalanced.list hitems
    | ok q =>
      rw [hi] at h
      cases h
  by_cases hclose : c = ')'
  · subst hclose
    intro ts hts
    rw [tokens?_of_step (t := ⟨[.closing], .between, 0⟩) rfl] at hts
    obtain ⟨us, -, rfl⟩ := Option.map_eq_some_iff.1 hts
    rfl
  · rw [Reader.form_atom hs hopen] at h
    apply unbalanced_of_none
    rw [tokens?_atom 0 (not_space_of_skip hs) hopen hclose (by simp), h]
    rfl

lemma tokens?_form {v : Sexp} (h : form s = .ok (v, r)) :
    tokens? .between 0 s = (tokens? .between 0 r).map (v.tokens ++ ·) := by
  rw [← tokens?_skip]
  cases hs : skip s with
  | nil => simp [form, hs] at h
  | cons c t =>
    by_cases hopen : c = '('
    · subst hopen
      rw [Reader.form_open hs] at h
      obtain ⟨⟨vs, q⟩, hi, he⟩ := Reader.map_eq_ok.1 h
      obtain ⟨rfl, rfl⟩ : .list vs = v ∧ q = r := by simpa using he
      have hitems := scansAs_items 0 t
      rw [hi] at hitems
      exact tokens?_list hitems
    · rw [Reader.form_atom hs hopen] at h
      have hclose : c ≠ ')' := by
        rintro rfl
        cases h
      rw [tokens?_atom 0 (not_space_of_skip hs) hopen hclose (by simp), h]
      rfl

lemma scansAllAs_forms (s : List Char) : ScansAllAs s (forms s) := by
  apply Reader.forms_induction
  · intro s hs
    show tokens? .between 0 s = _
    rw [← tokens?_skip, hs]
    rfl
  · intro s e hs hf
    obtain ⟨c, t, hs⟩ := List.exists_cons_of_ne_nil hs
    exact unbalanced_of_form hs hf
  · intro s v r hf ih
    exact ih.cons (tokens?_form hf)

end Scan

lemma scan_eq_ok_iff {text : String} {ts : List Token} :
    scan text = .ok ts ↔ Scan.tokens? .between 0 text.toList = some ts :=
  Scan.toOption_eq_some.symm

lemma scan_of_readAll {text : String} {fs : List Sexp} (h : readAll text = .ok fs) :
    scan text = .ok (itemTokens fs) := by
  have hscan := Scan.scansAllAs_forms text.toList
  rw [show Reader.forms text.toList = .ok fs from h] at hscan
  exact scan_eq_ok_iff.2 hscan

lemma readAll_of_scan {text : String} {ts : List Token} (h : scan text = .ok ts)
    (hb : balanced 0 ts = true) : ∃ fs, readAll text = .ok fs ∧ ts = itemTokens fs := by
  have hscan := Scan.scansAllAs_forms text.toList
  cases hread : readAll text with
  | error e =>
    rw [show Reader.forms text.toList = .error e from hread] at hscan
    rw [hscan ts (scan_eq_ok_iff.1 h)] at hb
    cases hb
  | ok fs =>
    refine ⟨fs, rfl, ?_⟩
    have hok := scan_of_readAll hread
    rw [h] at hok
    exact Except.ok.inj hok

theorem readAll_iff_scan (text : String) :
    (∀ fs, readAll text = .ok fs ↔
      ∃ ts, scan text = .ok ts ∧ balanced 0 ts = true ∧ ts = itemTokens fs) ∧
    ((∃ fs, readAll text = .ok fs) ↔ ∃ ts, scan text = .ok ts ∧ balanced 0 ts = true) := by
  have hbalanced (fs : List Sexp) : balanced 0 (itemTokens fs) = true := by
    have h := balanced_itemTokens fs 0 []
    rwa [List.append_nil] at h
  refine ⟨fun fs => ⟨fun h => ⟨_, scan_of_readAll h, hbalanced fs, rfl⟩, ?_⟩, ?_, ?_⟩
  · rintro ⟨ts, hscan, hb, hts⟩
    obtain ⟨gs, hread, hgs⟩ := readAll_of_scan hscan hb
    rw [hread, itemTokens_injective (hgs.symm.trans hts)]
  · rintro ⟨fs, h⟩
    exact ⟨_, scan_of_readAll h, hbalanced fs⟩
  · rintro ⟨ts, hscan, hb⟩
    obtain ⟨fs, hread, -⟩ := readAll_of_scan hscan hb
    exact ⟨fs, hread⟩

end Tagwire.Sexp
