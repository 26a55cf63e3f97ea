import Mathlib
import Tagwire.Text.Split

namespace Tagwire.Split

variable {α : Type} [DecidableEq α] {x : α}

lemma atFirst_append {a : List α} (h : x ∉ a) (b : List α) :
    atFirst x (a ++ x :: b) = some (a, b) := by
  induction a with
  | nil => exact if_pos rfl
  | cons y a ih =>
    obtain ⟨hy, ha⟩ := List.ne_and_not_mem_of_not_mem_cons h
    rw [List.cons_append, atFirst, if_neg (Ne.symm hy), ih ha]
    rfl

lemma atFirst_spec {l a b : List α} (h : atFirst x l = some (a, b)) :
    l = a ++ x :: b ∧ x ∉ a := by
  induction l generalizing a with
  | nil => cases h
  | cons y l ih =>
    rw [atFirst] at h
    by_cases hy : y = x
    · rw [if_pos hy] at h
      cases h
      exact ⟨by rw [hy, List.nil_append], List.not_mem_nil⟩
    · rw [if_neg hy] at h
      obtain ⟨⟨a', b'⟩, hl, he⟩ := Option.map_eq_some_iff.1 h
      obtain ⟨rfl, rfl⟩ : y :: a' = a ∧ b' = b := by simpa using he
      obtain ⟨rfl, ha⟩ := ih hl
      exact ⟨rfl, List.not_mem_cons_of_ne_of_not_mem (Ne.symm hy) ha⟩

lemma atLast_eq_none_iff {l : List α} : atLast x l = none ↔ x ∉ l := by
  induction l with
  | nil => simp [atLast]
  | cons y l ih =>
    rw [atLast, List.mem_cons, not_or, ← ih]
    cases atLast x l with
    | some p => simp
    | none => simp [eq_comm]

lemma atLast_append (a : List α) {b : List α} (h : x ∉ b) :
    atLast x (a ++ x :: b) = some (a, b) := by
  induction a with
  | nil =>
    rw [List.nil_append, atLast, atLast_eq_none_iff.2 h]
    exact if_pos rfl
  | cons y a ih => rw [List.cons_append, atLast, ih]

lemma atLast_spec {l a b : List α} (h : atLast x l = some (a, b)) :
    l = a ++ x :: b ∧ x ∉ b := by
  induction l generalizing a with
  | nil => cases h
  | cons y l ih =>
    rw [atLast] at h
    split at h
    · next p hl =>
      obtain ⟨rfl, rfl⟩ : y :: p.1 = a ∧ p.2 = b := by simpa using h
      obtain ⟨hcut, hb⟩ := ih hl
      exact ⟨by rw [List.cons_append, ← hcut], hb⟩
    · next hl =>
      split at h
      · next hy =>
        obtain ⟨rfl, rfl⟩ : [] = a ∧ l = b := by simpa using h
        exact ⟨by rw [hy, List.nil_append], atLast_eq_none_iff.1 hl⟩
      · cases h

lemma after_of_notMem {l : List α} (hne : l ≠ []) (h : x ∉ l) : after x l = [l] := by
  induction l with
  | nil => exact absurd rfl hne
  | cons y l ih =>
    obtain ⟨hy, hl⟩ := List.ne_and_not_mem_of_not_mem_cons h
    rw [after, if_neg (Ne.symm hy)]
    cases l with
    | nil => rfl
    | cons z l => rw [ih (List.cons_ne_nil z l) hl]

lemma after_append {a : List α} (h : x ∉ a) (b : List α) :
    after x (a ++ x :: b) = (a ++ [x]) :: after x b := by
  induction a with
  | nil => exact if_pos rfl
  | cons y a ih =>
    obtain ⟨hy, ha⟩ := List.ne_and_not_mem_of_not_mem_cons h
    rw [List.cons_append, after, if_neg (Ne.symm hy), ih ha]
    rfl

lemma after_induction {motive : List α → Prop} (x : α) (nil : motive [])
    (last : ∀ l, l ≠ [] → x ∉ l → motive l)
    (cut : ∀ a b, x ∉ a → motive b → motive (a ++ x :: b)) (l : List α) : motive l := by
  induction hn : l.length using Nat.strongRecOn generalizing l with
  | ind n ih =>
  subst hn
  by_cases hx : x ∈ l
  · obtain ⟨a, b, rfl, ha⟩ := List.eq_append_cons_of_mem hx
    refine cut a b ha (ih _ ?_ b rfl)
    rw [List.length_append, List.length_cons]
    omega
  · by_cases hne : l = []
    · subst hne
      exact nil
    · exact last l hne hx

lemma dropFinal_concat (l : List α) : dropFinal x (l ++ [x]) = l := by
  induction l with
  | nil => exact if_pos rfl
  | cons y l ih =>
    cases l with
    | nil =>
      show y :: dropFinal x [x] = [y]
      rw [dropFinal, if_pos rfl]
    | cons z l => exact congrArg (y :: ·) ih

lemma dropFinal_eq_self {l : List α} (h : l.getLast? ≠ some x) : dropFinal x l = l := by
  induction l with
  | nil => rfl
  | cons y l ih =>
    cases l with
    | nil => exact if_neg fun hy => h (by rw [hy]; rfl)
    | cons z l =>
      refine congrArg (y :: ·) (ih fun hl => h ?_)
      rw [List.getLast?_cons_cons, hl]

lemma mem_of_mem_dropFinal {l : List α} {y : α} (h : y ∈ dropFinal x l) : y ∈ l := by
  fun_induction dropFinal x l with
  | case1 => exact h
  | case2 => cases h
  | case3 => exact h
  | case4 z w l ih =>
    rcases List.mem_cons.1 h with rfl | hy
    · exact List.mem_cons_self
    · exact List.mem_cons_of_mem z (ih hy)

lemma notMem_dropFinal {l piece : List α} (h : piece ∈ after x l) : x ∉ dropFinal x piece := by
  induction l using after_induction x with
  | nil => cases h
  | last l hne hx =>
    rw [after_of_notMem hne hx, List.mem_singleton] at h
    subst h
    exact fun hmem => hx (mem_of_mem_dropFinal hmem)
  | cut a b ha ih =>
    rw [after_append ha, List.mem_cons] at h
    rcases h with rfl | hb
    · rwa [dropFinal_concat]
    · exact ih hb

lemma length_after_concat (l : List α) : (after x (l ++ [x])).length = l.count x + 1 := by
  induction l using after_induction x with
  | nil => simp [after]
  | last l hne hx =>
    rw [after_append hx, List.count_eq_zero_of_not_mem hx]
    rfl
  | cut a b ha ih =>
    rw [List.append_assoc, List.cons_append, after_append ha, List.length_cons, ih,
      List.count_append, List.count_eq_zero_of_not_mem ha]
    simp

def Ended (x : α) (l : List α) : Prop :=
  l = [] ∨ l.getLast? = some x

omit [DecidableEq α] in
lemma ended_concat (l : List α) : Ended x (l ++ [x]) :=
  .inr (List.getLast?_concat ..)

omit [DecidableEq α] in
lemma Ended.append {a b : List α} (ha : Ended x a) (hb : Ended x b) : Ended x (a ++ b) := by
  rcases hb with rfl | hb
  · rwa [List.append_nil]
  · refine .inr ?_
    rw [List.getLast?_append, hb]
    rfl

omit [DecidableEq α] in
lemma Ended.of_append_cons {a b : List α} (h : Ended x (a ++ x :: b)) : Ended x b := by
  cases b with
  | nil => exact .inl rfl
  | cons y b =>
    rcases h with h | h
    · simp at h
    · refine .inr ?_
      rwa [List.getLast?_append_cons, List.getLast?_cons_cons] at h

lemma after_ended_append {a : List α} (h : Ended x a) (b : List α) :
    after x (a ++ b) = after x a ++ after x b := by
  induction a using after_induction x with
  | nil => rfl
  | last l hne hx =>
    rcases h with h | h
    · exact absurd h hne
    · exact absurd (List.mem_of_getLast? h) hx
  | cut p q hp ih =>
    rw [List.append_assoc, List.cons_append, after_append hp, after_append hp,
      ih h.of_append_cons, List.cons_append]

lemma length_after_ended {a : List α} (h : Ended x a) : (after x a).length = a.count x := by
  rcases h with rfl | h
  · rfl
  · obtain ⟨l, rfl⟩ := List.getLast?_eq_some_iff.1 h
    rw [length_after_concat, List.count_append, List.count_singleton_self]

-- Before the piece of index `i` there are `i` whole pieces, and each of them holds one separator.
lemma after_take {l : List α} {i : Nat} (h : i < (after x l).length) :
    Ended x ((after x l).take i).flatten ∧ ((after x l).take i).flatten.count x = i ∧
      ((after x l).take i).flatten.length < l.length := by
  induction l using after_induction x generalizing i with
  | nil => cases h
  | last l hne hx =>
    rw [after_of_notMem hne hx] at h ⊢
    obtain rfl : i = 0 := by simpa using h
    simpa [Ended] using List.length_pos_iff.2 hne
  | cut a b ha ih =>
    rw [after_append ha] at h ⊢
    cases i with
    | zero => simp [Ended]
    | succ i =>
      obtain ⟨hended, hcount, hlength⟩ := ih (Nat.lt_of_succ_lt_succ h)
      rw [List.take_succ_cons, List.flatten_cons]
      refine ⟨(ended_concat a).append hended, ?_, ?_⟩
      · rw [List.count_append, hcount, List.count_append, List.count_eq_zero_of_not_mem ha]
        simp [Nat.add_comm]
      · simp only [List.length_append, List.length_cons, List.length_nil]
        omega

omit [DecidableEq α] in
lemma getLast?_append_ne {a b : List α} (hne : b ≠ []) (h : x ∉ b) :
    (a ++ b).getLast? ≠ some x := by
  intro hlast
  rw [List.getLast?_append_of_ne_nil a hne] at hlast
  exact h (List.mem_of_getLast? hlast)

lemma chomp_concat {line : List UInt8} (h : line.getLast? ≠ some carriageReturn) :
    chomp (line ++ [lineFeed]) = line := by
  rw [chomp, dropFinal_concat, dropFinal_eq_self h]

lemma lineFeed_notMem_chomp {bytes line : List UInt8} (h : line ∈ after lineFeed bytes) :
    lineFeed ∉ chomp line :=
  fun hmem => notMem_dropFinal h (mem_of_mem_dropFinal hmem)

lemma lineFeed_notMem_lines {bytes line : List UInt8} (h : line ∈ lines bytes) :
    lineFeed ∉ line := by
  obtain ⟨piece, hpiece, rfl⟩ := List.mem_map.1 h
  exact lineFeed_notMem_chomp hpiece

lemma lines_ended_append {a : List UInt8} (h : Ended lineFeed a) (b : List UInt8) :
    lines (a ++ b) = lines a ++ lines b := by
  rw [lines, after_ended_append h, List.map_append]
  rfl

lemma length_lines_ended {a : List UInt8} (h : Ended lineFeed a) :
    (lines a).length = a.count lineFeed := by
  rw [lines, List.length_map, length_after_ended h]

lemma lines_flatMap {ls : List (List UInt8)}
    (h : ∀ l ∈ ls, lineFeed ∉ l ∧ l.getLast? ≠ some carriageReturn) :
    lines (ls.flatMap (· ++ [lineFeed])) = ls := by
  induction ls with
  | nil => rfl
  | cons l ls ih =>
    obtain ⟨⟨hfeed, hreturn⟩, hls⟩ := List.forall_mem_cons.1 h
    have hrest := ih hls
    rw [lines] at hrest ⊢
    rw [List.flatMap_cons, List.append_assoc, List.singleton_append, after_append hfeed,
      List.map_cons, chomp_concat hreturn, hrest]

end Tagwire.Split
