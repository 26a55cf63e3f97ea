import Mathlib
import Tagwire.Host.Memory
import Tagwire.Proofs.Host.Requests
import Tagwire.Proofs.Manager.Answered

namespace Tagwire

def Cursor.origin (c : Cursor) : Nat :=
  if c.current = none then 0 else c.next - 1

lemma Cursor.Within.front_eq {candidates : List Endpoint} {c : Cursor}
    (h : c.Within candidates) : c.front = c.origin := by
  cases h <;> rfl

namespace Manager

open Program

section Walks

variable {key : Key} {candidates : List Endpoint} {i : Nat} {cs : List Contact}
  {result : Except TagError String} {cursor : Cursor}

lemma drop_of_getElem? {e : Endpoint} (h : candidates[i]? = some e) :
    candidates.drop i = e :: candidates.drop (i + 1) := by
  obtain ⟨hlt, rfl⟩ := List.getElem?_eq_some_iff.1 h
  exact List.drop_eq_getElem_cons hlt

/-- Contacts with the candidates from an index on, one after the other, up to the first that
answers or else to the last of them; the result and the cursor that this leads to. -/
inductive Descent (key : Key) (candidates : List Endpoint) (i : Nat) (cs : List Contact) :
    Except TagError String → Cursor → Prop
  | answered {j : Nat} {reply : String} {failed : List Contact} {last : Contact} (hj : i ≤ j)
      (hlast : candidates[j]? = some last.endpoint)
      (hcs : cs.map (·.endpoint) = (candidates.take (j + 1)).drop i)
      (h : Answered cs reply failed last) :
      Descent key candidates i cs (.ok reply) ⟨candidates[j]?, j + 1⟩
  | exhausted (hi : i < candidates.length) (hcs : cs.map (·.endpoint) = candidates.drop i)
      (h : ∀ c ∈ cs, c.Failed) :
      Descent key candidates i cs (.error (.noAvailableServer key.language key.callType))
        ⟨candidates.getLast?, candidates.length⟩

lemma Walk.descent (h : Walk key candidates i cs result cursor) :
    Descent key candidates i cs result cursor := by
  induction h with
  | @answered i c reply h ho =>
    have hcs : [c].map (·.endpoint) = (candidates.take (i + 1)).drop i := by
      rw [List.drop_take, drop_of_getElem? h, Nat.add_sub_cancel_left]
      rfl
    rw [← h]
    exact .answered le_rfl h hcs (.single ho)
  | @exhausted i c fault h ho hlast =>
    have hcs : [c].map (·.endpoint) = candidates.drop i := by
      rw [drop_of_getElem? h, List.drop_eq_nil_of_le hlast.le]
      rfl
    have hcur : candidates.getLast? = some c.endpoint := by
      rw [List.getLast?_eq_getElem?, hlast, Nat.add_sub_cancel, h]
    rw [← hcur, ← hlast]
    exact .exhausted (by omega) hcs (by simpa using ⟨fault, ho⟩)
  | @moved i c cs fault _ _ h ho _ ih =>
    cases ih with
    | @answered j reply failed last hj hlast hcs ha =>
      have hcs' : (c :: cs).map (·.endpoint) = (candidates.take (j + 1)).drop i := by
        have hfirst : (candidates.take (j + 1))[i]? = some c.endpoint := by
          rw [List.getElem?_take_of_lt (by omega), h]
        rw [drop_of_getElem? hfirst, List.map_cons, hcs]
      exact .answered (by omega) hlast hcs' (ha.cons ⟨fault, ho⟩)
    | exhausted hi hcs hall =>
      have hcs' : (c :: cs).map (·.endpoint) = candidates.drop i := by
        rw [drop_of_getElem? h, List.map_cons, hcs]
      exact .exhausted (by omega) hcs' (List.forall_mem_cons.2 ⟨⟨fault, ho⟩, hall⟩)

end Walks

structure SentDirectly (m : Manager) (key : Key) (command : String) (timeouts : Timeouts)
    (cs : List Contact) (result : Except TagError String) (left : Manager) : Prop where
  asked : ∀ c ∈ cs, c.command = command ∧ c.timeouts = timeouts
  timeouts_eq : left.timeouts = m.timeouts
  unconfigured : m.candidates key = [] →
    cs = [] ∧ result = .error (.noConfiguredServers key.language key.callType) ∧ left = m
  configured : m.candidates key ≠ [] → ∃ cursor,
    Descent key (m.candidates key) (m.cursors key).origin cs result cursor ∧
      left = m.setCursor key cursor

section Runs

variable {σ : Type} (handler : Handler σ)

lemma sendDirect_asks (m : Manager) (key : Key) (command : String) (timeouts : Timeouts) :
    Asks (Sends command timeouts) (m.sendDirect key command timeouts) := by
  -- on the number of candidates not handed out, as in the loop itself
  induction hu : m.untried key using Nat.strong_induction_on generalizing m with
  | _ u ih =>
    subst hu
    rcases hs : m.select key with ⟨e | endpoint, chosen⟩
    · rw [sendDirect_of_error hs]
      exact .done _
    · rw [sendDirect_of_ok hs]
      apply Asks.ask ⟨endpoint, rfl⟩
      rintro (fault | reply)
      · rcases hn : chosen.advance key with ⟨e | endpoint', next⟩
        · exact .done _
        · exact ih _ (Nat.lt_of_lt_of_le (untried_advance_lt hn) (untried_select_le hs)) _ rfl
      · exact .done _

lemma sendDirect_sent {m : Manager} (hm : m.Consistent) (key : Key) (command : String)
    (timeouts : Timeouts) (w : σ) :
    let r := (m.sendDirect key command timeouts).run handler w
    m.SentDirectly key command timeouts (contacts r.events) r.result.1 r.result.2 := by
  intro r
  have hasked := (sendDirect_asks m key command timeouts).contacts handler w
  by_cases hnil : m.candidates key = []
  · have hr : r = ⟨(.error (.noConfiguredServers key.language key.callType), m), w, []⟩ := by
      simp only [r, sendDirect_empty command timeouts (hm key) hnil, run_done]
    rw [hr]
    refine ⟨?_, rfl, fun _ => ⟨rfl, rfl, rfl⟩, fun hne => absurd hnil hne⟩
    rintro c ⟨⟩
  · obtain ⟨cursor, hwalk, hleft⟩ := sendDirect_walk handler command timeouts (hm key)
      ((hm key).front_lt hnil) w
    have hdescent := hwalk.descent
    rw [(hm key).front_eq] at hdescent
    have htimeouts : r.result.2.timeouts = (m.setCursor key cursor).timeouts := by rw [hleft]
    exact ⟨hasked, htimeouts, fun h => absurd h hnil, fun _ => ⟨cursor, hdescent, hleft⟩⟩

theorem direct_send_walks_remaining (world : σ) (operations : List Operation) (key : Key)
    (command : String) (data : Option Nat) :
    let s := afterAll handler ({}, world) operations
    s.1.proxy = none → s.1.mixer.settings.enabled = false →
      ∀ sent ∈ [(Operation.send key command, s.1.timeouts),
          (.sendWithin key command data, { s.1.timeouts with data })],
        ∃ result, (record handler s sent.1).outcome = .reply result ∧
          s.1.SentDirectly key command sent.2 (contacts (record handler s sent.1).events) result
            (after handler s sent.1).1 := by
  intro s hproxy hmixer sent hsent
  have hroute : s.1.route = .direct := by simp [route, hproxy, hmixer]
  have hm := consistent_afterAll handler (s := ({}, world)) consistent_new operations
  have hrun (timeouts : Timeouts) :
      s.1.sendWithTimeouts key command timeouts = s.1.sendDirect key command timeouts := by
    rw [sendWithTimeouts, hroute]
  simp only [List.mem_cons, List.not_mem_nil, or_false] at hsent
  rcases hsent with rfl | rfl
  · have hp := performed_send handler s key command
    simp only [record, after, hp, hrun]
    exact ⟨_, rfl, sendDirect_sent handler hm key command _ s.2⟩
  · have hp := performed_sendWithin handler s key command data
    simp only [record, after, hp, hrun]
    exact ⟨_, rfl, sendDirect_sent handler hm key command _ s.2⟩

end Runs

theorem direct_send_walks_remaining_sticky :
    let key : Key := ⟨"c", .definition⟩
    let operations : List Operation := [.add key (.localhost 1), .add key (.localhost 2),
      .add key (.localhost 3), .setProxy (some (.localhost 9)), .setProxy none, .send key "a"]
    let s := afterAll Memory.handle
      ({}, { peers := [⟨2, false, false, [[[40]]], []⟩] }) operations
    let cs := contacts (record Memory.handle s (.sendWithin key "b" none)).events
    s.1.proxy = none ∧ s.1.mixer.settings.enabled = false ∧
      (s.1.cursors key).origin = 1 ∧ cs.map (·.endpoint) = [.localhost 2] ∧
      ∀ c ∈ cs, c.command = "b" ∧ c.timeouts = ⟨10000, none⟩ := by
  intro key operations s cs
  have hproxy : s.1.proxy = none := by cbv
  have hmixer : s.1.mixer.settings.enabled = false := by cbv
  have htimeouts : s.1.timeouts = {} := by cbv
  have hmem : (Operation.sendWithin key "b" none, (⟨10000, none⟩ : Timeouts)) ∈
      [(Operation.send key "b", s.1.timeouts),
        (.sendWithin key "b" none, { s.1.timeouts with data := none })] := by
    rw [htimeouts]
    simp
  obtain ⟨result, -, hsent⟩ := direct_send_walks_remaining Memory.handle
    { peers := [⟨2, false, false, [[[40]]], []⟩] } operations key "b" none hproxy hmixer
    (.sendWithin key "b" none, ⟨10000, none⟩) hmem
  have hcs : (contacts (record Memory.handle s (.sendWithin key "b" none)).events).map
      (·.endpoint) = [.localhost 2] := by cbv
  exact ⟨hproxy, hmixer, by cbv, hcs, hsent.asked⟩

end Manager

end Tagwire
