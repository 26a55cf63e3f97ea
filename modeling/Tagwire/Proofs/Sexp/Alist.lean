import Mathlib
import Tagwire.Proofs.Sexp.RoundTrip
import Tagwire.Sexp.Alist

namespace Tagwire.Alist

open Sexp (field)

lemma ofItems_field (entries : Alist) :
    ofItems (entries.map fun e => field e.1 e.2) = .ok entries := by
  induction entries with
  | nil => rfl
  | cons e entries ih =>
    rw [ofItems] at ih ⊢
    rw [List.map_cons, List.mapM_cons, ih]
    rfl

lemma entry_eq_ok {v : Sexp} {e : String × Sexp} (h : entry v = .ok e) : v = field e.1 e.2 := by
  unfold entry at h
  split at h
  · cases h
    rfl
  · cases h

lemma ofItems_append (a b : List Sexp) :
    ofItems (a ++ b) = (ofItems a).bind fun before => (ofItems b).map (before ++ ·) := by
  rw [ofItems, List.mapM_append, ofItems, ofItems]
  cases a.mapM entry <;> cases b.mapM entry <;> rfl

lemma ofItems_eq_ok_iff {fields : List Sexp} {entries : Alist} :
    ofItems fields = .ok entries ↔ fields = entries.map fun e => field e.1 e.2 := by
  refine ⟨fun h => ?_, fun h => h ▸ ofItems_field entries⟩
  induction fields generalizing entries with
  | nil =>
    cases h
    rfl
  | cons v fields ih =>
    rw [← List.singleton_append, ofItems_append] at h
    cases hv : entry v with
    | error e => simp [ofItems, hv, Except.bind, bind] at h
    | ok e =>
      obtain ⟨rest, hrest, hentries⟩ : ∃ rest, ofItems fields = .ok rest ∧ e :: rest = entries := by
        simpa [ofItems, hv, Except.bind, bind, Sexp.Reader.map_eq_ok, pure, Except.pure] using h
      rw [← hentries, List.map_cons, ← entry_eq_ok hv, ← ih hrest]

lemma ofItems_around {before after : List Sexp} {key : String} {value : Sexp} {entries : Alist}
    (h : ofItems (before ++ field key value :: after) = .ok entries) :
    ∃ front rest, entries = front ++ (key, value) :: rest ∧
      ∀ other, ofItems (before ++ field key other :: after) = .ok (front ++ (key, other) :: rest) := by
  obtain ⟨front, _, rfl, rfl, hrest⟩ := List.map_eq_append_iff.1 (ofItems_eq_ok_iff.1 h).symm
  obtain ⟨⟨key', value'⟩, rest, rfl, he, rfl⟩ := List.map_eq_cons_iff.1 hrest
  obtain ⟨rfl, rfl⟩ : key' = key ∧ value' = value := by simpa [field] using he
  refine ⟨front, rest, rfl, fun other => ?_⟩
  rw [ofItems_eq_ok_iff, List.map_append, List.map_cons]

lemma ofSexp_toSexp (entries : Alist) : ofSexp entries.toSexp = .ok entries :=
  ofItems_field entries

lemma find?_eq_none {key : String} {entries : Alist} (h : ∀ e ∈ entries, e.1 ≠ key) :
    find? key entries = none := by
  induction entries with
  | nil => rfl
  | cons e entries ih =>
    obtain ⟨he, hrest⟩ := List.forall_mem_cons.1 h
    rw [find?, ih hrest]
    simp [he]

lemma find?_last {key : String} {before after : Alist} {value : Sexp}
    (h : ∀ e ∈ after, e.1 ≠ key) : find? key (before ++ (key, value) :: after) = some value := by
  rw [find?_append, find?, find?_eq_none h]
  simp

lemma mem_of_find? {key : String} {entries : Alist} {value : Sexp}
    (h : find? key entries = some value) : (key, value) ∈ entries := by
  induction entries with
  | nil => cases h
  | cons e entries ih =>
    rw [find?] at h
    split at h
    · next hlater => exact List.mem_cons_of_mem e (ih (hlater.trans h))
    · split at h
      · next hkey =>
        obtain rfl : e = (key, value) := Prod.ext hkey (Option.some.inj h)
        exact List.mem_cons_self
      · cases h

lemma find?_of_unique {key : String} {entries : Alist} {value : Sexp} (h : (key, value) ∈ entries)
    (hkey : ∀ e ∈ entries, e.1 = key → e.2 = value) : find? key entries = some value := by
  cases hfind : find? key entries with
  | none =>
    obtain ⟨before, after, rfl⟩ := List.append_of_mem h
    rw [find?_append, find?] at hfind
    cases hlater : find? key after <;> simp [hlater] at hfind
  | some later => exact congrArg some (hkey _ (mem_of_find? hfind) rfl)

lemma find?_perm {a b : Alist} (h : a.Perm b) (hkeys : (a.map Prod.fst).Nodup) (key : String) :
    find? key b = find? key a := by
  have hfound {a b : Alist} (h : a.Perm b) (hkeys : (a.map Prod.fst).Nodup) {value : Sexp}
      (hb : find? key b = some value) : find? key a = some value := by
    have hmem := h.mem_iff.2 (mem_of_find? hb)
    refine find?_of_unique hmem fun e he hkey => ?_
    rw [List.inj_on_of_nodup_map hkeys he hmem hkey]
  cases hb : find? key b with
  | some value => exact (hfound h hkeys hb).symm
  | none =>
    cases ha : find? key a with
    | none => rfl
    | some value =>
      have hkeys' := (h.map Prod.fst).nodup_iff.1 hkeys
      rw [hfound h.symm hkeys' ha] at hb
      cases hb

lemma find?_insert {key other : String} (before after : Alist) (value : Sexp) (h : other ≠ key) :
    find? key (before ++ (other, value) :: after) = find? key (before ++ after) := by
  rw [find?_append, find?_append, find?]
  cases find? key after <;> simp [h]

end Tagwire.Alist
