import Mathlib
import Tagwire.Manager

namespace Tagwire

def Cursor.front (c : Cursor) : Nat :=
  match c.current with
  | none => c.next
  | some _ => c.next - 1

inductive Cursor.Within (candidates : List Endpoint) : Cursor → Prop
  | fresh : Within candidates {}
  | reached {i : Nat} {e : Endpoint} (h : candidates[i]? = some e) : Within candidates ⟨some e, i + 1⟩

lemma Cursor.Within.front_lt {candidates : List Endpoint} {c : Cursor}
    (h : c.Within candidates) (hne : candidates ≠ []) : c.front < candidates.length := by
  cases h with
  | fresh => exact List.length_pos_of_ne_nil hne
  | reached h => exact (List.getElem?_eq_some_iff.1 h).1

lemma Cursor.Within.current_eq_none {c : Cursor} (h : c.Within []) : c.current = none := by
  cases h with
  | fresh => rfl
  | reached h => cases h

def Program.Contact.Failed (c : Program.Contact) : Prop :=
  ∃ fault, c.outcome = .error fault

namespace Manager

open Program

/-- Contacts with the candidates from an index on, the reply they lead to, and the cursor left. -/
inductive Walk (key : Key) (candidates : List Endpoint) :
    Nat → List Contact → Except TagError String → Cursor → Prop
  | answered {i : Nat} {c : Contact} {reply : String} (h : candidates[i]? = some c.endpoint)
      (ho : c.outcome = .ok reply) :
      Walk key candidates i [c] (.ok reply) ⟨some c.endpoint, i + 1⟩
  | exhausted {i : Nat} {c : Contact} {fault : IoFault} (h : candidates[i]? = some c.endpoint)
      (ho : c.outcome = .error fault) (hlast : candidates.length = i + 1) :
      Walk key candidates i [c] (.error (.noAvailableServer key.language key.callType))
        ⟨some c.endpoint, i + 1⟩
  | moved {i : Nat} {c : Contact} {cs : List Contact} {fault : IoFault}
      {result : Except TagError String} {cursor : Cursor} (h : candidates[i]? = some c.endpoint)
      (ho : c.outcome = .error fault) (hrest : Walk key candidates (i + 1) cs result cursor) :
      Walk key candidates i (c :: cs) result cursor

variable {key : Key} {candidates : List Endpoint} {i : Nat} {cs : List Contact}
  {result : Except TagError String} {cursor : Cursor}

lemma Walk.ne_nil (h : Walk key candidates i cs result cursor) : cs ≠ [] := by
  cases h <;> exact List.cons_ne_nil _ _

lemma Walk.within (h : Walk key candidates i cs result cursor) : cursor.Within candidates := by
  induction h with
  | answered h => exact .reached h
  | exhausted h => exact .reached h
  | moved _ _ _ ih => exact ih

lemma Walk.front_add_one (h : Walk key candidates i cs result cursor) :
    cursor.front + 1 = i + cs.length := by
  induction h with
  | answered => rfl
  | exhausted => rfl
  | moved _ _ _ ih =>
    rw [ih, List.length_cons]
    omega

lemma Walk.endpoint_eq (h : Walk key candidates i cs result cursor) {j : Nat} {c : Contact}
    (hc : cs[j]? = some c) : candidates[i + j]? = some c.endpoint := by
  induction h generalizing j with
  | answered h =>
    obtain ⟨rfl, rfl⟩ : j = 0 ∧ _ = c := by simpa [List.getElem?_singleton] using hc
    exact h
  | exhausted h =>
    obtain ⟨rfl, rfl⟩ : j = 0 ∧ _ = c := by simpa [List.getElem?_singleton] using hc
    exact h
  | moved h _ _ ih =>
    cases j with
    | zero =>
      obtain rfl := Option.some.inj hc
      exact h
    | succ j =>
      have hnext := ih (by simpa using hc)
      rwa [Nat.add_assoc, Nat.add_comm 1 j] at hnext

lemma Walk.failed_of_lt (h : Walk key candidates i cs result cursor) {j : Nat} {c : Contact}
    (hc : cs[j]? = some c) (hj : j + 1 < cs.length) : c.Failed := by
  induction h generalizing j with
  | answered => simp at hj
  | exhausted => simp at hj
  | moved _ ho _ ih =>
    cases j with
    | zero =>
      obtain rfl := Option.some.inj hc
      exact ⟨_, ho⟩
    | succ j => exact ih (by simpa using hc) (by simpa using hj)

lemma Walk.of_error (h : Walk key candidates i cs result cursor) {e : TagError}
    (he : result = .error e) : i + cs.length = candidates.length ∧ ∀ c ∈ cs, c.Failed := by
  induction h with
  | answered => cases he
  | exhausted _ ho hlast => exact ⟨hlast.symm, by simpa using ⟨_, ho⟩⟩
  | moved _ ho _ ih =>
    obtain ⟨hlen, hall⟩ := ih he
    refine ⟨?_, List.forall_mem_cons.2 ⟨⟨_, ho⟩, hall⟩⟩
    rw [List.length_cons]
    omega

lemma setCursor_setCursor (m : Manager) (key : Key) (c d : Cursor) :
    (m.setCursor key c).setCursor key d = m.setCursor key d := by
  unfold setCursor
  congr 1
  funext k
  by_cases hk : k = key <;> simp [hk]

lemma setCursor_self (m : Manager) (key : Key) : m.setCursor key (m.cursors key) = m := by
  unfold setCursor
  congr 1
  funext k
  by_cases hk : k = key <;> simp [hk]

lemma setCursor_cursors_of_ne (m : Manager) {key k : Key} (c : Cursor) (hk : k ≠ key) :
    (m.setCursor key c).cursors k = m.cursors k := by
  simp [setCursor, hk]

lemma advance_of_getElem? {m : Manager} {key : Key} {e : Endpoint}
    (h : (m.candidates key)[(m.cursors key).next]? = some e) :
    m.advance key = (.ok e, m.setCursor key ⟨some e, (m.cursors key).next + 1⟩) := by
  have hne : m.candidates key ≠ [] := by
    intro hnil
    simp [hnil] at h
  simp [advance, hne, h]

lemma advance_to_next {m : Manager} {key : Key} {e f : Endpoint} {i : Nat}
    (hf : (m.candidates key)[i + 1]? = some f) :
    (m.setCursor key ⟨some e, i + 1⟩).advance key = (.ok f, m.setCursor key ⟨some f, i + 1 + 1⟩) := by
  have hnext : ((m.setCursor key ⟨some e, i + 1⟩).cursors key).next = i + 1 := by simp
  have h := advance_of_getElem? (m := m.setCursor key ⟨some e, i + 1⟩) (hnext ▸ hf)
  rwa [hnext, setCursor_setCursor] at h

lemma advance_past_last {m : Manager} {key : Key} {e : Endpoint} {i : Nat}
    (hlast : (m.candidates key).length = i + 1) :
    (m.setCursor key ⟨some e, i + 1⟩).advance key =
      (.error (.noAvailableServer key.language key.callType),
        m.setCursor key ⟨some e, i + 1⟩) := by
  have hne : m.candidates key ≠ [] := List.ne_nil_of_length_pos (by omega)
  simp [advance, hne, List.getElem?_eq_none hlast.le]

lemma select_at {m : Manager} {key : Key} {e : Endpoint}
    (hc : (m.cursors key).Within (m.candidates key))
    (he : (m.candidates key)[(m.cursors key).front]? = some e) :
    m.select key = (.ok e, m.setCursor key ⟨some e, (m.cursors key).front + 1⟩) := by
  cases hcur : (m.cursors key).current with
  | none =>
    have hfront : (m.cursors key).front = (m.cursors key).next := by simp [Cursor.front, hcur]
    rw [hfront] at he ⊢
    simp only [select, hcur]
    exact advance_of_getElem? he
  | some f =>
    generalize hk : m.cursors key = c at hc hcur he
    cases hc with
    | fresh => cases hcur
    | @reached i g h =>
      have hg : g = e := Option.some.inj (h.symm.trans he)
      subst hg
      simp only [select, hk]
      rw [Cursor.front, Nat.add_sub_cancel, ← hk, setCursor_self]

lemma select_empty {m : Manager} {key : Key} (hcur : (m.cursors key).current = none)
    (hnil : m.candidates key = []) :
    m.select key = (.error (.noConfiguredServers key.language key.callType), m) := by
  simp [select, hcur, advance, hnil]

lemma sendDirect_of_error {m m' : Manager} {key : Key} {command : String} {timeouts : Timeouts}
    {e : TagError} (h : m.select key = (.error e, m')) :
    m.sendDirect key command timeouts = .done (.error e, m') := by
  rw [sendDirect]
  split
  · next e₁ m₁ he =>
    obtain ⟨rfl, rfl⟩ : e₁ = e ∧ m₁ = m' := by simpa [h] using he.symm
    rfl
  · next he => simp [h] at he

lemma sendDirect_of_ok {m m' : Manager} {key : Key} {command : String} {timeouts : Timeouts}
    {e : Endpoint} (h : m.select key = (.ok e, m')) :
    m.sendDirect key command timeouts = .ask (.exchange e command timeouts) fun
      | .ok reply => .done (.ok reply, m')
      | .error _ =>
        match m'.advance key with
        | (.error e, m'') => .done (.error e, m'')
        | (.ok _, m'') => m''.sendDirect key command timeouts := by
  rw [sendDirect]
  split
  · next he => simp [h] at he
  · next e₁ m₁ he =>
    obtain ⟨rfl, rfl⟩ : e₁ = e ∧ m₁ = m' := by simpa [h] using he.symm
    congr 1
    funext answer
    cases answer with
    | ok reply => rfl
    | error fault =>
      simp only
      split <;> rename_i ha <;> simp only [ha]

lemma run_ask {σ α : Type} {handler : Handler σ} {q : Request} {next : q.Answer → Program α}
    {w w' : σ} {answer : q.Answer} (h : handler q w = (answer, w')) :
    (Program.ask q next).run handler w =
      { (next answer).run handler w' with
        events := ⟨q, answer⟩ :: ((next answer).run handler w').events } := by
  simp [Program.run, h]

lemma sendDirect_walk {σ : Type} (handler : Handler σ) {m : Manager} {key : Key} (command : String)
    (timeouts : Timeouts) (hc : (m.cursors key).Within (m.candidates key))
    (hlt : (m.cursors key).front < (m.candidates key).length) (w : σ) :
    ∃ cursor, Walk key (m.candidates key) (m.cursors key).front
        (contacts ((m.sendDirect key command timeouts).run handler w).events)
        ((m.sendDirect key command timeouts).run handler w).result.1 cursor ∧
      ((m.sendDirect key command timeouts).run handler w).result.2 = m.setCursor key cursor := by
  -- on the number of candidates from the front on: a failure moves the front by one
  induction hn : (m.candidates key).length - (m.cursors key).front generalizing m w with
  | zero => omega
  | succ n ih =>
    generalize hi : (m.cursors key).front = i at hlt hn ⊢
    have he := List.getElem?_eq_getElem hlt
    generalize (m.candidates key)[i] = e at he
    have hselect := select_at hc (hi.symm ▸ he)
    rw [hi] at hselect
    rw [sendDirect_of_ok hselect]
    rcases ha : handler (.exchange e command timeouts) w with ⟨fault | reply, w'⟩
    · rw [run_ask ha]
      by_cases hlast : (m.candidates key).length = i + 1
      · simp only [advance_past_last hlast]
        exact ⟨_, .exhausted he rfl hlast, rfl⟩
      · obtain ⟨f, hf⟩ : ∃ f, (m.candidates key)[i + 1]? = some f :=
          ⟨_, List.getElem?_eq_getElem (by omega)⟩
        simp only [advance_to_next hf]
        have hcur : (m.setCursor key ⟨some f, i + 1 + 1⟩).cursors key = ⟨some f, i + 1 + 1⟩ :=
          setCursor_cursors_self m key _
        have hfront : ((m.setCursor key ⟨some f, i + 1 + 1⟩).cursors key).front = i + 1 := by
          rw [hcur, Cursor.front, Nat.add_sub_cancel]
        obtain ⟨cursor, hwalk, hend⟩ := ih (m := m.setCursor key ⟨some f, i + 1 + 1⟩)
          (by rw [hcur]; exact .reached hf) (by rw [hfront, setCursor_candidates]; omega) w'
          (by rw [hfront, setCursor_candidates]; omega)
        rw [hfront, setCursor_candidates] at hwalk
        rw [setCursor_setCursor] at hend
        exact ⟨cursor, .moved he rfl hwalk, hend⟩
    · rw [run_ask ha]
      exact ⟨_, .answered he rfl, rfl⟩

lemma sendDirect_empty {m : Manager} {key : Key} (command : String) (timeouts : Timeouts)
    (hc : (m.cursors key).Within (m.candidates key)) (hnil : m.candidates key = []) :
    m.sendDirect key command timeouts =
      .done (.error (.noConfiguredServers key.language key.callType), m) := by
  rw [hnil] at hc
  exact sendDirect_of_error (select_empty hc.current_eq_none hnil)

end Manager

end Tagwire
