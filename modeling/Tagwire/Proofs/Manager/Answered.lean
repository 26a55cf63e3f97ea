import Mathlib
import Tagwire.Proofs.Manager.History
import Tagwire.Proofs.Mixer.Starting

namespace Tagwire.Manager

open Program

structure Answered (cs : List Contact) (reply : String) (failed : List Contact) (last : Contact) :
    Prop where
  eq : cs = failed ++ [last]
  failed : ∀ c ∈ failed, c.Failed
  outcome : last.outcome = .ok reply

lemma Answered.single {c : Contact} {reply : String} (h : c.outcome = .ok reply) :
    Answered [c] reply [] c :=
  ⟨rfl, by simp, h⟩

lemma Answered.cons {c last : Contact} {cs failed : List Contact} {reply : String}
    (hc : c.Failed) (h : Answered cs reply failed last) :
    Answered (c :: cs) reply (c :: failed) last :=
  ⟨by rw [h.eq]; rfl, List.forall_mem_cons.2 ⟨hc, h.failed⟩, h.outcome⟩

def GaveUp (result : Except TagError String) : Prop :=
  ∃ e, result = .error e ∧ e.isTransport = true

def cursorsAfter (m : Manager) (key : Key) (failed : List Contact) (last : Contact) :
    Key → Cursor :=
  match m.route with
  | .direct =>
    let chosen := (m.select key).2
    (chosen.setCursor key ⟨some last.endpoint, (chosen.cursors key).next + failed.length⟩).cursors
  | _ => m.cursors

lemma select_current {m m' : Manager} {key : Key} {e : Endpoint}
    (h : m.select key = (.ok e, m')) : (m'.cursors key).current = some e := by
  unfold select at h
  split at h
  · next hcur =>
    cases h
    exact hcur
  · simp [advance_of_ok h]

lemma select_candidates (m : Manager) (key : Key) :
    (m.select key).2.candidates = m.candidates := by
  unfold select
  split
  · rfl
  · rcases advance_cases m key with ⟨e, -, h⟩ | ⟨e, -, h⟩
    · rw [h, setCursor_candidates]
    · rw [h]

section Runs

variable {σ : Type} (handler : Handler σ)

lemma sendDirect_ends (m : Manager) (key : Key) (command : String) (timeouts : Timeouts) (w : σ) :
    let r := (m.sendDirect key command timeouts).run handler w
    let chosen := (m.select key).2
    GaveUp r.result.1 ∨ ∃ reply failed last, r.result.1 = .ok reply ∧
      Answered (contacts r.events) reply failed last ∧
      r.result.2 = chosen.setCursor key
        ⟨some last.endpoint, (chosen.cursors key).next + failed.length⟩ := by
  -- on the number of candidates not handed out, as in the loop itself
  induction hu : m.untried key using Nat.strong_induction_on generalizing m w with
  | _ u ih =>
    subst hu
    rcases hs : m.select key with ⟨e | endpoint, chosen⟩
    · rw [sendDirect_of_error hs]
      exact .inl ⟨e, rfl, (select_of_error hs).1⟩
    · rw [sendDirect_of_ok hs]
      rcases ha : handler (.exchange endpoint command timeouts) w with ⟨fault | reply, w'⟩
      · rw [run_ask ha]
        rcases hn : chosen.advance key with ⟨e | endpoint', next⟩
        · exact .inl ⟨e, rfl, (advance_of_error hn).1⟩
        · have hlt := Nat.lt_of_lt_of_le (untried_advance_lt hn) (untried_select_le hs)
          obtain rfl := advance_of_ok hn
          rcases ih _ hlt _ w' rfl with hgave | ⟨reply, failed, last, hr, hcs, hleft⟩
          · exact .inl hgave
          · refine .inr ⟨reply, _, last, hr, hcs.cons ⟨fault, rfl⟩, ?_⟩
            simp only [select, setCursor_cursors_self, setCursor_setCursor] at hleft
            rw [List.length_cons, Nat.add_comm failed.length, ← Nat.add_assoc]
            exact hleft
      · rw [run_ask ha]
        refine .inr ⟨reply, [], _, rfl, .single rfl, ?_⟩
        have hself : (⟨some endpoint, (chosen.cursors key).next⟩ : Cursor) = chosen.cursors key := by
          rw [← select_current hs]
        exact ((congrArg (chosen.setCursor key) hself).trans (setCursor_self chosen key)).symm

lemma sendRetrying_ends (endpoint : Endpoint) (command : String) (timeouts : Timeouts)
    (pause retries : Nat) (w : σ) :
    let r := (sendRetrying endpoint command timeouts pause retries).run handler w
    GaveUp r.result ∨ ∃ reply failed last, r.result = .ok reply ∧
      Answered (contacts r.events) reply failed last := by
  induction retries generalizing w with
  | zero =>
    rcases ha : handler (.exchange endpoint command timeouts) w with ⟨fault | reply, w'⟩
    · rw [sendRetrying, run_ask ha]
      exact .inl ⟨_, rfl, rfl⟩
    · rw [sendRetrying, run_ask ha]
      exact .inr ⟨reply, [], _, rfl, .single rfl⟩
  | succ retries ih =>
    rcases ha : handler (.exchange endpoint command timeouts) w with ⟨fault | reply, w'⟩
    · rw [sendRetrying, run_ask ha]
      rcases ih (handler (.pause pause) w').2 with hgave | ⟨reply, failed, last, hr, hcs⟩
      · exact .inl hgave
      · exact .inr ⟨reply, _, last, hr, hcs.cons ⟨fault, rfl⟩⟩
    · rw [sendRetrying, run_ask ha]
      exact .inr ⟨reply, [], _, rfl, .single rfl⟩

lemma sendMixer_ends (m : Manager) (command : String) (timeouts : Timeouts) (w : σ) :
    let r := (m.sendMixer command timeouts).run handler w
    GaveUp r.result.1 ∨ ∃ reply failed last, r.result.1 = .ok reply ∧
      Answered (contacts r.events) reply failed last := by
  simp only [sendMixer, bind_eq, pure_eq, run_bind, run_done, List.append_nil, contacts_append,
    Mixer.contacts_ensureLaunched, List.nil_append]
  apply sendRetrying_ends

lemma sendProxy_ends (m : Manager) (proxy : Endpoint) (key : Key) (command : String)
    (timeouts : Timeouts) (w : σ) :
    let r := (m.sendProxy proxy key command timeouts).run handler w
    GaveUp r.result.1 ∨ ∃ reply failed last, r.result.1 = .ok reply ∧
      Answered (contacts r.events) reply failed last := by
  rcases ha : handler (.exchange proxy command timeouts) w with ⟨fault | reply, w'⟩
  · rw [sendProxy, run_ask ha]
    exact .inl ⟨_, rfl, rfl⟩
  · rw [sendProxy, run_ask ha]
    exact .inr ⟨reply, [], _, rfl, .single rfl⟩

lemma sendWithTimeouts_ends (m : Manager) (key : Key) (command : String) (timeouts : Timeouts)
    (w : σ) :
    let r := (m.sendWithTimeouts key command timeouts).run handler w
    GaveUp r.result.1 ∨ ∃ reply failed last, r.result.1 = .ok reply ∧
      Answered (contacts r.events) reply failed last ∧
      r.result.2.candidates = m.candidates ∧
      r.result.2.cursors = m.cursorsAfter key failed last := by
  unfold sendWithTimeouts cursorsAfter
  cases m.route with
  | direct =>
    apply (sendDirect_ends handler m key command timeouts w).imp id
    rintro ⟨reply, failed, last, hr, hcs, hleft⟩
    refine ⟨reply, failed, last, hr, hcs, ?_, congrArg cursors hleft⟩
    rw [hleft, setCursor_candidates, select_candidates]
  | proxy endpoint =>
    apply (sendProxy_ends handler m endpoint key command timeouts w).imp id
    rintro ⟨reply, failed, last, hr, hcs⟩
    have hsame := sendProxy_frame handler m endpoint key command timeouts w
    exact ⟨reply, failed, last, hr, hcs, congrArg candidates hsame, congrArg cursors hsame⟩
  | mixer =>
    apply (sendMixer_ends handler m command timeouts w).imp id
    rintro ⟨reply, failed, last, hr, hcs⟩
    obtain ⟨hcand, hcur⟩ := sendMixer_frame handler m command timeouts w
    exact ⟨reply, failed, last, hr, hcs, hcand, hcur⟩

end Runs

end Tagwire.Manager
