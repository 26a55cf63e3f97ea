import Mathlib
import Tagwire.Host.Memory
import Tagwire.Proofs.Manager.History
import Tagwire.Proofs.Manager.Lockstep

/-! What a key sees of a manager, and that no other key changes it. -/

namespace Tagwire.Manager

open Program

def Operation.key? : Operation → Option Key
  | .add key _ | .remove key _ | .select key | .advance key => some key
  | .send key _ | .sendWithin key _ _ => some key
  | _ => none

lemma target?_of_key? {operation : Operation} (h : operation.key? = none) :
    operation.target? = none := by
  cases operation <;> first | rfl | cases h

namespace Step

def Rerouted (s : Step) : Prop :=
  s.operation.target? ≠ none ∧ s.before.route ≠ .direct

instance (s : Step) : Decidable s.Rerouted :=
  inferInstanceAs (Decidable (_ ∧ _))

def Own (s : Step) (key : Key) : Prop :=
  s.operation.key? = some key ∧ ¬ s.Rerouted

instance (s : Step) (key : Key) : Decidable (s.Own key) :=
  inferInstanceAs (Decidable (_ ∧ _))

/-- The step is on no key, as when the proxy is set, or on this one and not rerouted. -/
def Concerns (s : Step) (key : Key) : Prop :=
  s.operation.key? = none ∨ s.Own key

instance (s : Step) (key : Key) : Decidable (s.Concerns key) :=
  inferInstanceAs (Decidable (_ ∨ _))

end Step

structure Observation where
  operation : Operation
  outcome : Outcome
  contacts : List Contact

def observed (key : Key) (steps : List Step) : List Observation :=
  (steps.filter fun s => s.Own key).map fun s => ⟨s.operation, s.outcome, contacts s.events⟩

def retained (key : Key) (steps : List Step) : List Operation :=
  (steps.filter fun s => s.Concerns key).map (·.operation)

section Stripping

variable {key : Key} {st : Step} {steps : List Step}

lemma observed_cons_of_own (h : st.Own key) :
    observed key (st :: steps) =
      ⟨st.operation, st.outcome, contacts st.events⟩ :: observed key steps := by
  simp [observed, h]

lemma observed_cons_of_not_own (h : ¬ st.Own key) :
    observed key (st :: steps) = observed key steps := by
  simp [observed, h]

lemma retained_cons_of_concerns (h : st.Concerns key) :
    retained key (st :: steps) = st.operation :: retained key steps := by
  simp [retained, h]

lemma retained_cons_of_not_concerns (h : ¬ st.Concerns key) :
    retained key (st :: steps) = retained key steps := by
  simp [retained, h]

end Stripping

structure View where
  candidates : List Endpoint
  cursor : Cursor
  timeouts : Timeouts
  proxy : Option Endpoint
  settings : Mixer.Settings

def view (m : Manager) (key : Key) : View :=
  ⟨m.candidates key, m.cursors key, m.timeouts, m.proxy, m.mixer.settings⟩

variable {m n : Manager} {key k : Key}

lemma view_eq_iff : m.view key = n.view key ↔
    m.candidates key = n.candidates key ∧ m.cursors key = n.cursors key ∧
      m.timeouts = n.timeouts ∧ m.proxy = n.proxy ∧ m.mixer.settings = n.mixer.settings := by
  simp [view]

lemma route_eq_of_view (h : m.view key = n.view key) : m.route = n.route := by
  obtain ⟨-, -, -, hproxy, hsettings⟩ := view_eq_iff.1 h
  simp [route, hproxy, hsettings]

lemma view_setCursor_of_ne (m : Manager) (cursor : Cursor) (hk : key ≠ k) :
    (m.setCursor k cursor).view key = m.view key := by
  simp [view, setCursor, hk]

lemma view_replaceList_of_ne (m : Manager) (endpoints : List Endpoint) (hk : key ≠ k) :
    (m.replaceList k endpoints).view key = m.view key := by
  simp [view, replaceList, setCandidates, setCursor, hk]

lemma view_setCursor_congr (h : m.view key = n.view key) (cursor : Cursor) :
    (m.setCursor key cursor).view key = (n.setCursor key cursor).view key := by
  simp only [view, View.mk.injEq] at h
  simp [view, setCursor, h]

lemma view_replaceList_congr (h : m.view key = n.view key) (endpoints : List Endpoint) :
    (m.replaceList key endpoints).view key = (n.replaceList key endpoints).view key := by
  simp only [view, View.mk.injEq] at h
  simp [view, replaceList, setCandidates, setCursor, h]

lemma view_mixer_congr (h : m.view key = n.view key) {x y : Mixer}
    (hxy : x.settings = y.settings) :
    ({ m with mixer := x } : Manager).view key = ({ n with mixer := y } : Manager).view key := by
  simp only [view, View.mk.injEq] at h
  simp [view, h, hxy]

lemma setPort_settings (x : Mixer) (port : UInt16) :
    (x.setPort port).settings = { x.settings with port } := by
  unfold Mixer.setPort
  split
  · next h => rw [h]
  · rfl

lemma tellsFailures_eq : TellsFailures (· = ·) := by
  rintro a _ rfl
  rfl

section Unmoved

variable {σ : Type} (handler : Handler σ)

lemma sendDirect_moves_cursor (m : Manager) (key : Key) (command : String) (timeouts : Timeouts)
    (w : σ) :
    ∃ cursor, ((m.sendDirect key command timeouts).run handler w).result.2 =
      m.setCursor key cursor := by
  -- the send beside itself, in the same world
  obtain ⟨⟨-, cursor, h, -⟩, -⟩ := (sendDirect_beside tellsFailures_eq command timeouts
    (rfl : m.candidates key = _) rfl).run handler handler w w (concordant_of_map_eq rfl)
  exact ⟨cursor, h⟩

lemma view_sendWithTimeouts (m : Manager) (command : String) (timeouts : Timeouts) (w : σ)
    (h : key = k → m.route ≠ .direct) :
    ((m.sendWithTimeouts k command timeouts).run handler w).result.2.view key = m.view key := by
  unfold sendWithTimeouts
  cases hroute : m.route with
  | direct =>
    obtain ⟨cursor, hr⟩ := sendDirect_moves_cursor handler m k command timeouts w
    rw [hr]
    exact view_setCursor_of_ne m cursor fun hk => h hk hroute
  | proxy endpoint => rw [sendProxy_frame]
  | mixer => simp [sendMixer, run_bind, view, Mixer.ensureLaunched_settings]

lemma view_after_of_not_concerns {s : Manager × σ} {operation : Operation}
    (h : ¬ (record handler s operation).Concerns key) :
    (after handler s operation).1.view key = s.1.view key := by
  obtain ⟨hnone, hown⟩ := not_or.1 h
  have hne : operation.target? = none → ∀ k, operation.key? = some k → key ≠ k := by
    rintro ht _ hk rfl
    exact hown ⟨hk, fun hr => hr.1 ht⟩
  cases operation with
  | add k endpoint =>
    have hk := hne rfl k rfl
    exact view_replaceList_of_ne s.1 _ hk
  | remove k endpoint =>
    have hk := hne rfl k rfl
    by_cases hmem : endpoint ∈ s.1.candidates k
    · simp [after, performed, perform, remove, hmem, view_replaceList_of_ne _ _ hk]
    · simp [after, performed, perform, remove, hmem]
  | select k =>
    have hk := hne rfl k rfl
    obtain ⟨result, cursor, hs, -⟩ := select_beside (rfl : s.1.candidates k = _) rfl
    simp [after, performed, perform, hs, view_setCursor_of_ne _ _ hk]
  | advance k =>
    have hk := hne rfl k rfl
    obtain ⟨result, cursor, hs, -⟩ := advance_beside (rfl : s.1.candidates k = _) rfl
    simp [after, performed, perform, hs, view_setCursor_of_ne _ _ hk]
  | send k command =>
    simp only [after, performed_send]
    apply view_sendWithTimeouts
    rintro rfl hroute
    exact hown ⟨rfl, fun hr => hr.2 hroute⟩
  | sendWithin k command data =>
    simp only [after, performed_sendWithin]
    apply view_sendWithTimeouts
    rintro rfl hroute
    exact hown ⟨rfl, fun hr => hr.2 hroute⟩
  | setTimeouts | setProxy | setMixer | useMixer | setMixerPort | invalidateMixer
    | restartMixer => exact absurd rfl hnone

end Unmoved

lemma sendWithTimeouts_of_view (h : m.view key = n.view key) (hroute : m.route = .direct)
    (command : String) (timeouts : Timeouts) :
    Lockstep (· = ·) (fun r s => r.1 = s.1 ∧ r.2.view key = s.2.view key)
      (m.sendWithTimeouts key command timeouts) (n.sendWithTimeouts key command timeouts) := by
  have hroute' : n.route = .direct := (route_eq_of_view h).symm.trans hroute
  obtain ⟨hcand, hcur, -⟩ := view_eq_iff.1 h
  simp only [sendWithTimeouts, hroute, hroute']
  apply (sendDirect_beside tellsFailures_eq command timeouts hcand hcur).mono
  rintro r s ⟨hreply, cursor, hr, hs⟩
  refine ⟨hreply.eq, ?_⟩
  rw [hr, hs]
  exact view_setCursor_congr h cursor

lemma perform_common_beside (h : m.view key = n.view key) {operation : Operation}
    (hkey : operation.key? = none) :
    Lockstep (fun _ _ => True) (fun r s => r.2.view key = s.2.view key)
      (m.perform operation) (n.perform operation) := by
  obtain ⟨hcand, hcur, htimeouts, hproxy, hsettings⟩ := view_eq_iff.1 h
  cases operation with
  | add | remove | select | advance | send | sendWithin => cases hkey
  | setTimeouts timeouts =>
    exact .done (view_eq_iff.2 ⟨hcand, hcur, rfl, hproxy, hsettings⟩)
  | setProxy proxy =>
    exact .done (view_eq_iff.2 ⟨hcand, hcur, htimeouts, rfl, hsettings⟩)
  | setMixer settings => exact .done (view_mixer_congr h rfl)
  | useMixer enabled =>
    apply Lockstep.done
    apply view_mixer_congr h
    simp only [hsettings]
  | setMixerPort port =>
    apply Lockstep.done
    apply view_mixer_congr h
    rw [setPort_settings, setPort_settings, hsettings]
  | invalidateMixer => exact .done (view_mixer_congr h hsettings)
  | restartMixer =>
    apply (Mixer.restart_beside m.mixer n.mixer).bind
    rintro ⟨r, x⟩ ⟨s, y⟩ ⟨hx, hy⟩
    exact .done (view_mixer_congr h (hx.trans (hsettings.trans hy.symm)))

lemma perform_own_beside (h : m.view key = n.view key) {operation : Operation}
    (hkey : operation.key? = some key) (hroute : operation.target? ≠ none → m.route = .direct) :
    Lockstep (· = ·) (fun r s => r.1 = s.1 ∧ r.2.view key = s.2.view key)
      (m.perform operation) (n.perform operation) := by
  obtain ⟨hcand, hcur, htimeouts, -⟩ := view_eq_iff.1 h
  cases operation with
  | add k endpoint =>
    obtain rfl := Option.some.inj hkey
    refine .done ⟨rfl, ?_⟩
    rw [add, add, hcand]
    exact view_replaceList_congr h _
  | remove k endpoint =>
    obtain rfl := Option.some.inj hkey
    simp only [perform, remove, hcand]
    split
    · exact .done ⟨rfl, view_replaceList_congr h _⟩
    · exact .done ⟨rfl, h⟩
  | select k =>
    obtain rfl := Option.some.inj hkey
    obtain ⟨result, cursor, hm, hn⟩ := select_beside hcand hcur
    simp only [perform, hm, hn]
    exact .done ⟨rfl, view_setCursor_congr h cursor⟩
  | advance k =>
    obtain rfl := Option.some.inj hkey
    obtain ⟨result, cursor, hm, hn⟩ := advance_beside hcand hcur
    simp only [perform, hm, hn]
    exact .done ⟨rfl, view_setCursor_congr h cursor⟩
  | send k command =>
    obtain rfl := Option.some.inj hkey
    have hsend := sendWithTimeouts_of_view h (hroute (Option.some_ne_none _)) command m.timeouts
    simp only [perform, send, ← htimeouts]
    apply hsend.bind
    rintro r s ⟨hreply, hview⟩
    exact .done ⟨congrArg Outcome.reply hreply, hview⟩
  | sendWithin k command data =>
    obtain rfl := Option.some.inj hkey
    have hsend := sendWithTimeouts_of_view h (hroute (Option.some_ne_none _)) command
      { m.timeouts with data }
    simp only [perform, sendWithin, ← htimeouts]
    apply hsend.bind
    rintro r s ⟨hreply, hview⟩
    exact .done ⟨congrArg Outcome.reply hreply, hview⟩
  | setTimeouts | setProxy | setMixer | useMixer | setMixerPort | invalidateMixer
    | restartMixer => cases hkey

section Runs

variable {σ τ : Type} (handler : Handler σ) (handler' : Handler τ)

lemma operation_record (s : Manager × σ) (operation : Operation) :
    (record handler s operation).operation = operation := rfl

lemma own_record_iff {s : Manager × σ} {t : Manager × τ} (h : s.1.view key = t.1.view key)
    (operation : Operation) :
    (record handler s operation).Own key ↔ (record handler' t operation).Own key := by
  simp [Step.Own, Step.Rerouted, record, route_eq_of_view h]

lemma after_common_beside {s : Manager × σ} {t : Manager × τ} (h : s.1.view key = t.1.view key)
    {operation : Operation} (hkey : operation.key? = none) :
    (after handler s operation).1.view key = (after handler' t operation).1.view key :=
  ((perform_common_beside h hkey).run handler handler' s.2 t.2 fun _ _ _ _ _ _ => trivial).1

lemma record_own_beside {s : Manager × σ} {t : Manager × τ} (h : s.1.view key = t.1.view key)
    {operation : Operation} (hown : (record handler s operation).Own key)
    (hE : Concordant (· = ·) (contacts (record handler s operation).events)
      (contacts (record handler' t operation).events)) :
    (after handler s operation).1.view key = (after handler' t operation).1.view key ∧
      (record handler s operation).outcome = (record handler' t operation).outcome ∧
      contacts (record handler s operation).events =
        contacts (record handler' t operation).events := by
  have hroute : operation.target? ≠ none → s.1.route = .direct :=
    fun ht => not_not.1 fun hr => hown.2 ⟨ht, hr⟩
  obtain ⟨⟨hout, hview⟩, hcontacts⟩ :=
    (perform_own_beside h hown.1 hroute).run handler handler' s.2 t.2 hE
  exact ⟨hview, hout, hcontacts.eq⟩

lemma isolated_history {s : Manager × σ} {t : Manager × τ} (h : s.1.view key = t.1.view key)
    (operations : List Operation)
    (hE : Concordant (· = ·)
      ((observed key (history handler s operations)).flatMap (·.contacts))
      ((observed key (history handler' t
        (retained key (history handler s operations)))).flatMap (·.contacts))) :
    let kept := retained key (history handler s operations)
    (afterAll handler s operations).1.view key = (afterAll handler' t kept).1.view key ∧
      observed key (history handler s operations) = observed key (history handler' t kept) ∧
      ∀ st ∈ history handler' t kept, ¬ st.Rerouted := by
  -- equal views are the invariant; a step is the key's own, common to all keys, or left out
  induction operations generalizing s t with
  | nil => exact ⟨h, rfl, by simp [history, retained]⟩
  | cons operation operations ih =>
    have hiff := own_record_iff handler handler' h operation
    by_cases hown : (record handler s operation).Own key
    · have hown' := hiff.1 hown
      simp only [history, retained_cons_of_concerns (.inr hown), operation_record,
        observed_cons_of_own hown, observed_cons_of_own hown', List.flatMap_cons] at hE ⊢
      obtain ⟨hview, hout, hcontacts⟩ := record_own_beside handler handler' h hown hE.left
      obtain ⟨hend, hobs, hdirect⟩ := ih hview (hE.right (congrArg List.length hcontacts))
      refine ⟨hend, ?_, List.forall_mem_cons.2 ⟨hown'.2, hdirect⟩⟩
      rw [hobs, hout, hcontacts]
    · have hown' := mt hiff.2 hown
      by_cases hnone : operation.key? = none
      · have hc : (record handler s operation).Concerns key := .inl hnone
        simp only [history, retained_cons_of_concerns hc, operation_record,
          observed_cons_of_not_own hown, observed_cons_of_not_own hown'] at hE ⊢
        obtain ⟨hend, hobs, hdirect⟩ := ih (after_common_beside handler handler' h hnone) hE
        refine ⟨hend, hobs, List.forall_mem_cons.2 ⟨?_, hdirect⟩⟩
        exact fun hr => hr.1 (target?_of_key? hnone)
      · have hc : ¬ (record handler s operation).Concerns key := not_or.2 ⟨hnone, hown⟩
        simp only [history, retained_cons_of_not_concerns hc,
          observed_cons_of_not_own hown] at hE ⊢
        exact ih ((view_after_of_not_concerns handler hc).trans h) hE

theorem isolation_of_key (m : Manager) (key : Key) (operations : List Operation) (world : σ)
    (world' : τ) :
    let full := history handler (m, world) operations
    let reduced := history handler' (m, world') (retained key full)
    Concordant (· = ·) ((observed key full).flatMap (·.contacts))
        ((observed key reduced).flatMap (·.contacts)) →
      let atEnd := (afterAll handler (m, world) operations).1
      let atEnd' := (afterAll handler' (m, world') (retained key full)).1
      atEnd'.candidates key = atEnd.candidates key ∧ atEnd'.cursors key = atEnd.cursors key ∧
        observed key reduced = observed key full ∧ ∀ s ∈ reduced, ¬ s.Rerouted := by
  intro full reduced hE atEnd atEnd'
  obtain ⟨hview, hobs, hdirect⟩ :=
    isolated_history handler handler' (s := (m, world)) (t := (m, world')) rfl operations hE
  obtain ⟨hcand, hcur, -⟩ := view_eq_iff.1 hview
  exact ⟨hcand.symm, hcur.symm, hobs.symm, hdirect⟩

end Runs

theorem isolation_of_key_mixed_run :
    let key : Key := ⟨"c", .definition⟩
    let other : Key := ⟨"c", .callgraph⟩
    let operations : List Operation := [.add key (.localhost 1), .add other (.localhost 2),
      .add key (.localhost 2), .send other "a", .send key "b", .setProxy (some (.localhost 3)),
      .send key "c", .setProxy none, .remove other (.localhost 2), .advance key, .send key "d"]
    let full := history Memory.handle
      ({}, { peers := [⟨2, false, false, [[[40]], [[41]], [[42]]], []⟩] }) operations
    let reduced := history Memory.handle
      ({}, { peers := [⟨2, false, false, [[[41]], [[42]]], []⟩] }) (retained key full)
    full.length = 11 ∧ reduced.length = 7 ∧ observed key reduced = observed key full := by
  intro key other operations full reduced
  have hE : Concordant (· = ·) ((observed key full).flatMap (·.contacts))
      ((observed key reduced).flatMap (·.contacts)) :=
    concordant_of_map_eq (f := id) (by cbv)
  obtain ⟨-, -, hobs, -⟩ := isolation_of_key Memory.handle Memory.handle {} key operations _ _ hE
  exact ⟨by cbv, by cbv, hobs⟩

end Tagwire.Manager
