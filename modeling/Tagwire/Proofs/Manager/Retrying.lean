import Mathlib
import Tagwire.Host.Memory
import Tagwire.Proofs.Manager.Launches

namespace Tagwire.Manager

open Program

section Attempts

variable {σ : Type} (handler : Handler σ) (endpoint : Endpoint) (command : String)
  (timeouts : Timeouts) (pause : Nat)

/-- The outcomes of exchanges with a pause after each, from the first one on. Whether they are all
made is left open. -/
def attempted : σ → Nat → Except IoFault String
  | w, 0 => (handler (.exchange endpoint command timeouts) w).1
  | w, k + 1 =>
    attempted (handler (.pause pause) (handler (.exchange endpoint command timeouts) w).2).2 k

def attempts (w : σ) (n : Nat) : List Contact :=
  (List.range n).map fun k =>
    ⟨endpoint, command, timeouts, attempted handler endpoint command timeouts pause w k⟩

variable {endpoint} {command} {timeouts}

lemma attempted_zero {w w' : σ} {outcome : Except IoFault String}
    (h : handler (.exchange endpoint command timeouts) w = (outcome, w')) :
    attempted handler endpoint command timeouts pause w 0 = outcome := by
  rw [attempted, h]

lemma attempted_succ {w w' : σ} {outcome : Except IoFault String}
    (h : handler (.exchange endpoint command timeouts) w = (outcome, w')) (k : Nat) :
    attempted handler endpoint command timeouts pause w (k + 1) =
      attempted handler endpoint command timeouts pause (handler (.pause pause) w').2 k := by
  rw [attempted, h]

lemma attempts_succ {w w' : σ} {outcome : Except IoFault String}
    (h : handler (.exchange endpoint command timeouts) w = (outcome, w')) (n : Nat) :
    attempts handler endpoint command timeouts pause w (n + 1) =
      ⟨endpoint, command, timeouts, outcome⟩ ::
        attempts handler endpoint command timeouts pause (handler (.pause pause) w').2 n := by
  rw [attempts, List.range_succ_eq_map, List.map_cons, List.map_map,
    attempted_zero handler pause h, attempts]
  congr 1
  apply List.map_congr_left
  intro k _
  exact congrArg _ (attempted_succ handler pause h k)

end Attempts

inductive Ending (outcome : Nat → Except IoFault String) (endpoint : Endpoint) (retries : Nat) :
    Nat → Except TagError String → Prop
  | answered {k : Nat} {reply : String} (hk : k ≤ retries) (h : outcome k = .ok reply) :
      Ending outcome endpoint retries k (.ok reply)
  | exhausted {fault : IoFault} (h : outcome retries = .error fault) :
      Ending outcome endpoint retries retries (.error (.transport endpoint fault))

lemma Ending.succ {outcome later : Nat → Except IoFault String} {endpoint : Endpoint}
    {retries k : Nat} {result : Except TagError String}
    (hlater : ∀ j, outcome (j + 1) = later j) (h : Ending later endpoint retries k result) :
    Ending outcome endpoint (retries + 1) (k + 1) result := by
  cases h with
  | answered hk h => exact .answered (Nat.succ_le_succ hk) ((hlater _).trans h)
  | exhausted h => exact .exhausted ((hlater _).trans h)

lemma Ending.of_first {outcome : Nat → Except IoFault String} {endpoint : Endpoint}
    {retries n k : Nat} {result : Except TagError String} {reply : String}
    (h : Ending outcome endpoint retries n result) (hn : ∀ j < n, ∃ fault, outcome j = .error fault)
    (hk : k ≤ retries) (hfailed : ∀ j < k, ∃ fault, outcome j = .error fault)
    (hok : outcome k = .ok reply) : n = k ∧ result = .ok reply := by
  have hkn : ¬ k < n := by
    intro hlt
    obtain ⟨fault, hfault⟩ := hn k hlt
    simp [hok] at hfault
  cases h with
  | answered _ hanswer =>
    have hnk : ¬ n < k := by
      intro hlt
      obtain ⟨fault, hfault⟩ := hfailed n hlt
      simp [hanswer] at hfault
    obtain rfl : n = k := by omega
    rw [hok] at hanswer
    exact ⟨rfl, congrArg Except.ok (Except.ok.inj hanswer).symm⟩
  | exhausted hfault =>
    obtain rfl : k = retries := by omega
    simp [hok] at hfault

lemma Ending.of_all_failed {outcome : Nat → Except IoFault String} {endpoint : Endpoint}
    {retries n : Nat} {result : Except TagError String} {fault : IoFault}
    (h : Ending outcome endpoint retries n result)
    (hfailed : ∀ j < retries, ∃ fault, outcome j = .error fault)
    (hlast : outcome retries = .error fault) :
    n = retries ∧ result = .error (.transport endpoint fault) := by
  cases h with
  | answered hn hanswer =>
    rcases hn.lt_or_eq with hlt | rfl
    · obtain ⟨fault, hfault⟩ := hfailed n hlt
      simp [hanswer] at hfault
    · simp [hanswer] at hlast
  | exhausted hfault =>
    rw [hlast] at hfault
    exact ⟨rfl, by rw [Except.error.inj hfault]⟩

section Runs

variable {σ : Type} (handler : Handler σ)

lemma sendRetrying_ending (endpoint : Endpoint) (command : String) (timeouts : Timeouts)
    (pause retries : Nat) (w : σ) :
    let outcome := attempted handler endpoint command timeouts pause w
    let r := (sendRetrying endpoint command timeouts pause retries).run handler w
    ∃ k, (∀ j < k, ∃ fault, outcome j = .error fault) ∧
      contacts r.events = attempts handler endpoint command timeouts pause w (k + 1) ∧
      Ending outcome endpoint retries k r.result := by
  induction retries generalizing w with
  | zero =>
    rcases ha : handler (.exchange endpoint command timeouts) w with ⟨fault | reply, w'⟩
    · rw [sendRetrying, run_ask ha]
      exact ⟨0, by simp, (attempts_succ handler pause ha 0).symm,
        .exhausted (attempted_zero handler pause ha)⟩
    · rw [sendRetrying, run_ask ha]
      exact ⟨0, by simp, (attempts_succ handler pause ha 0).symm,
        .answered le_rfl (attempted_zero handler pause ha)⟩
  | succ retries ih =>
    rcases ha : handler (.exchange endpoint command timeouts) w with ⟨fault | reply, w'⟩
    · rw [sendRetrying, run_ask ha]
      obtain ⟨k, hfailed, hcs, hending⟩ := ih (handler (.pause pause) w').2
      refine ⟨k + 1, ?_, ?_, hending.succ (attempted_succ handler pause ha)⟩
      · rintro (_ | j) hj
        · exact ⟨fault, attempted_zero handler pause ha⟩
        · rw [attempted_succ handler pause ha]
          exact hfailed j (Nat.lt_of_succ_lt_succ hj)
      · rw [attempts_succ handler pause ha, ← hcs]
        rfl
    · rw [sendRetrying, run_ask ha]
      exact ⟨0, by simp, (attempts_succ handler pause ha 0).symm,
        .answered (Nat.zero_le _) (attempted_zero handler pause ha)⟩

end Runs

lemma toNat_succ_of_lt {attempt retries : UInt32} (h : attempt < retries) :
    (attempt + 1).toNat = attempt.toNat + 1 := by
  have hlt := UInt32.lt_iff_toNat_lt.1 h
  have hmax := retries.toNat_lt
  rw [UInt32.toNat_add, UInt32.toNat_one]
  omega

/-- The same attempts with the counter that is compared with the limit. -/
def sendCounting (endpoint : Endpoint) (command : String) (timeouts : Timeouts) (pause : Nat)
    (retries attempt : UInt32) : Program (Except TagError String × UInt32) :=
  .ask (.exchange endpoint command timeouts) fun
    | .ok reply => .done (.ok reply, attempt)
    | .error fault =>
      if h : attempt < retries then
        .ask (.pause pause) fun _ =>
          sendCounting endpoint command timeouts pause retries (attempt + 1)
      else .done (.error (.transport endpoint fault), attempt)
termination_by retries.toNat - attempt.toNat
decreasing_by
  have hlt := UInt32.lt_iff_toNat_lt.1 h
  rw [toNat_succ_of_lt h]
  omega

section Counter

variable {retries attempt : UInt32}

@[elab_as_elim]
lemma counter_induction {motive : UInt32 → Prop} (limit : motive retries)
    (below : ∀ a, a < retries → motive (a + 1) → motive a) (h : attempt ≤ retries) :
    motive attempt := by
  induction hn : retries.toNat - attempt.toNat generalizing attempt with
  | zero =>
    have hle := UInt32.le_iff_toNat_le.1 h
    obtain rfl : attempt = retries := UInt32.toNat_inj.1 (by omega)
    exact limit
  | succ n ih =>
    have hlt : attempt < retries := by
      rw [UInt32.lt_iff_toNat_lt]
      omega
    have hnext := toNat_succ_of_lt hlt
    refine below attempt hlt (ih ?_ (by omega))
    rw [UInt32.le_iff_toNat_le]
    omega

variable (endpoint : Endpoint) (command : String) (timeouts : Timeouts) (pause : Nat)

lemma sendCounting_eq (h : attempt ≤ retries) :
    (sendCounting endpoint command timeouts pause retries attempt).bind (fun r => .done r.1) =
      sendRetrying endpoint command timeouts pause (retries.toNat - attempt.toNat) := by
  refine counter_induction ?limit ?below h
  case limit =>
    rw [Nat.sub_self, sendCounting, sendRetrying, ask_bind]
    congr 1
    funext answer
    cases answer with
    | ok reply => rfl
    | error fault => simp
  case below =>
    intro attempt hlt ih
    have hleft : retries.toNat - attempt.toNat = retries.toNat - (attempt + 1).toNat + 1 := by
      have := UInt32.lt_iff_toNat_lt.1 hlt
      rw [toNat_succ_of_lt hlt]
      omega
    rw [hleft, sendCounting, sendRetrying, ask_bind]
    congr 1
    funext answer
    cases answer with
    | ok reply => rfl
    | error fault =>
      simp only [hlt, dite_true, ask_bind]
      rw [ih]

lemma sendCounting_counter {σ : Type} (handler : Handler σ) (h : attempt ≤ retries) (w : σ) :
    let r := (sendCounting endpoint command timeouts pause retries attempt).run handler w
    r.result.2 ≤ retries ∧ attempt.toNat + (contacts r.events).length = r.result.2.toNat + 1 := by
  revert w
  refine counter_induction ?limit ?below h
  case limit =>
    intro w
    rw [sendCounting]
    rcases ha : handler (.exchange endpoint command timeouts) w with ⟨fault | reply, w'⟩
    · rw [run_ask ha]
      simp [contacts, Event.contact?]
    · rw [run_ask ha]
      simp [contacts, Event.contact?]
  case below =>
    intro attempt hlt ih w
    rw [sendCounting]
    rcases ha : handler (.exchange endpoint command timeouts) w with ⟨fault | reply, w'⟩
    · rw [run_ask ha]
      obtain ⟨hbound, hcount⟩ := ih (handler (.pause pause) w').2
      rw [toNat_succ_of_lt hlt, Nat.add_assoc, Nat.add_comm 1] at hcount
      simp only [hlt, dite_true]
      exact ⟨hbound, hcount⟩
    · rw [run_ask ha]
      simp [UInt32.le_of_lt hlt, contacts, Event.contact?]

end Counter

def sendMixerCounting (m : Manager) (command : String) (timeouts : Timeouts) :
    Program ((Except TagError String × Manager) × UInt32) := do
  let mixer ← m.mixer.ensureLaunched
  let settings := mixer.settings
  let (result, attempt) ← sendCounting (.localhost settings.port) command timeouts
    settings.retryDelay.toNat settings.retries 0
  return ((result, { m with mixer }), attempt)

lemma sendMixerCounting_eq (m : Manager) (command : String) (timeouts : Timeouts) :
    (m.sendMixerCounting command timeouts).bind (fun r => .done r.1) =
      m.sendMixer command timeouts := by
  have hzero (retries : UInt32) : 0 ≤ retries := UInt32.le_iff_toNat_le.2 (Nat.zero_le _)
  simp only [sendMixerCounting, sendMixer, bind_eq, pure_eq, bind_assoc, done_bind]
  congr 1
  funext mixer
  have h := sendCounting_eq (.localhost mixer.settings.port) command timeouts
    mixer.settings.retryDelay.toNat (hzero mixer.settings.retries)
  rw [UInt32.toNat_zero, Nat.sub_zero] at h
  rw [← h, bind_assoc]
  rfl

section Sends

variable {σ : Type} (handler : Handler σ)

def mixerAttempted (m : Manager) (command : String) (timeouts : Timeouts) (w : σ) :
    Nat → Except IoFault String :=
  attempted handler (.localhost m.mixer.settings.port) command timeouts
    m.mixer.settings.retryDelay.toNat (m.mixer.ensureLaunched.run handler w).world

lemma sendMixer_ending (m : Manager) (command : String) (timeouts : Timeouts) (w : σ) :
    let endpoint := Endpoint.localhost m.mixer.settings.port
    let outcome := m.mixerAttempted handler command timeouts w
    let r := (m.sendMixer command timeouts).run handler w
    ∃ k, (∀ j < k, ∃ fault, outcome j = .error fault) ∧
      contacts r.events =
        (List.range (k + 1)).map (fun j => ⟨endpoint, command, timeouts, outcome j⟩) ∧
      Ending outcome endpoint m.mixer.settings.retries.toNat k r.result.1 := by
  simp only [sendMixer, bind_eq, pure_eq, run_bind, run_done, List.append_nil, contacts_append,
    Mixer.contacts_ensureLaunched, List.nil_append, Mixer.ensureLaunched_settings]
  exact sendRetrying_ending handler _ command timeouts _ _ _

lemma sendMixerCounting_counter (m : Manager) (command : String) (timeouts : Timeouts) (w : σ) :
    let r := (m.sendMixerCounting command timeouts).run handler w
    r.result.2 ≤ m.mixer.settings.retries ∧
      (contacts r.events).length = r.result.2.toNat + 1 := by
  have hzero : 0 ≤ m.mixer.settings.retries := UInt32.le_iff_toNat_le.2 (Nat.zero_le _)
  obtain ⟨hbound, hcount⟩ := sendCounting_counter (.localhost m.mixer.settings.port) command
    timeouts m.mixer.settings.retryDelay.toNat handler hzero
    (m.mixer.ensureLaunched.run handler w).world
  rw [UInt32.toNat_zero, Nat.zero_add] at hcount
  simp only [sendMixerCounting, bind_eq, pure_eq, run_bind, run_done, List.append_nil,
    contacts_append, Mixer.contacts_ensureLaunched, List.nil_append, Mixer.ensureLaunched_settings]
  exact ⟨hbound, hcount⟩

theorem mixer_retries_bounded (m : Manager) (henabled : m.mixer.settings.enabled = true)
    (hproxy : m.proxy = none) (key : Key) (command : String) (timeouts : Timeouts) (w : σ) :
    let retries := m.mixer.settings.retries
    let endpoint := Endpoint.localhost m.mixer.settings.port
    let outcome := m.mixerAttempted handler command timeouts w
    let sent := (m.sendWithTimeouts key command timeouts).run handler w
    let counted := (m.sendMixerCounting command timeouts).run handler w
    (∃ n, contacts sent.events =
      (List.range n).map fun k => ⟨endpoint, command, timeouts, outcome k⟩) ∧
    (∀ k reply, k ≤ retries.toNat → (∀ j < k, ∃ fault, outcome j = .error fault) →
      outcome k = .ok reply →
        (contacts sent.events).length = k + 1 ∧ sent.result.1 = .ok reply) ∧
    (∀ fault, (∀ j < retries.toNat, ∃ fault, outcome j = .error fault) →
      outcome retries.toNat = .error fault →
        (contacts sent.events).length = retries.toNat + 1 ∧
          sent.result.1 = .error (.transport endpoint fault)) ∧
    (m.sendWithTimeouts key command timeouts =
        (m.sendMixerCounting command timeouts).bind fun r => .done r.1) ∧
    counted.result.2 ≤ retries ∧ (contacts sent.events).length = counted.result.2.toNat + 1 ∧
    sent.result.2.candidates = m.candidates ∧ sent.result.2.cursors = m.cursors := by
  intro retries endpoint outcome sent counted
  have hroute : m.sendWithTimeouts key command timeouts = m.sendMixer command timeouts := by
    rw [sendWithTimeouts, route_eq_mixer_iff.2 ⟨henabled, hproxy⟩]
  have hcounting := hroute.trans (sendMixerCounting_eq m command timeouts).symm
  have hevents : contacts sent.events = contacts counted.events := by
    simp only [sent, counted, hcounting, run_bind, run_done, List.append_nil]
  obtain ⟨hbound, hcount⟩ := sendMixerCounting_counter handler m command timeouts w
  obtain ⟨hcandidates, hcursors⟩ := sendMixer_frame handler m command timeouts w
  obtain ⟨n, hfailed, hcs, hending⟩ := sendMixer_ending handler m command timeouts w
  rw [← hroute] at hcandidates hcursors hcs hending
  have hlength : (contacts sent.events).length = n + 1 := by simp [sent, hcs]
  refine ⟨⟨n + 1, hcs⟩, ?_, ?_, hcounting, hbound, hevents ▸ hcount, hcandidates, hcursors⟩
  · intro k reply hk hbefore hok
    obtain ⟨rfl, hresult⟩ := hending.of_first hfailed hk hbefore hok
    exact ⟨hlength, hresult⟩
  · intro fault hbefore hlast
    obtain ⟨rfl, hresult⟩ := hending.of_all_failed hbefore hlast
    exact ⟨hlength, hresult⟩

end Sends

theorem mixer_retries_bounded_third_attempt :
    let key : Key := ⟨"c", .definition⟩
    let m : Manager := { mixer.settings := { enabled := true, retries := 4294967295 } }
    let w : Memory := { peers := [⟨2220, false, true, [[], [], [[0x28]]], []⟩] }
    let sent := (m.sendWithTimeouts key "a" {}).run Memory.handle w
    let alone : Manager := { mixer.settings := { enabled := true, retries := 0 } }
    let failed := (alone.sendWithTimeouts key "a" {}).run Memory.handle {}
    (contacts sent.events).length = 3 ∧ sent.result.1 = .ok "(" ∧
      (contacts failed.events).length = 1 ∧
      failed.result.1 = .error (.transport (.localhost 2220) .refused) := by
  intro key m w sent alone failed
  obtain ⟨-, hanswered, -⟩ := mixer_retries_bounded Memory.handle m rfl rfl key "a" {} w
  obtain ⟨-, -, hexhausted, -⟩ := mixer_retries_bounded Memory.handle alone rfl rfl key "a" {} {}
  have hlate (j : Nat) (hj : j < 2) :
      ∃ fault, m.mixerAttempted Memory.handle "a" {} w j = .error fault := by
    obtain rfl | rfl : j = 0 ∨ j = 1 := by omega
    · exact ⟨.tryAgain, by decide +kernel⟩
    · exact ⟨.tryAgain, by decide +kernel⟩
  have hreply : m.mixerAttempted Memory.handle "a" {} w 2 = .ok "(" := by decide +kernel
  have hrefused : alone.mixerAttempted Memory.handle "a" {} {} 0 = .error .refused := by
    decide +kernel
  obtain ⟨hthree, hreply⟩ := hanswered 2 "(" (by decide) hlate hreply
  obtain ⟨hone, hrefused⟩ := hexhausted .refused (by simp [alone]) hrefused
  exact ⟨hthree, hreply, hone, hrefused⟩

end Tagwire.Manager
