import Mathlib
import Tagwire.Host.Memory
import Tagwire.Proofs.Manager.DirectSend
import Tagwire.Proofs.Manager.Isolation

/-! Each start of the mixer but the first uses up an invalidation that came before it. -/

namespace Tagwire

namespace Manager

open Program

variable {σ : Type} (handler : Handler σ)

lemma sendRetrying_asks {P : Request → Prop} {endpoint : Endpoint} {command : String}
    {timeouts : Timeouts} {pause : Nat} (hexchange : P (.exchange endpoint command timeouts))
    (hpause : P (.pause pause)) (retries : Nat) :
    Asks P (sendRetrying endpoint command timeouts pause retries) := by
  induction retries with
  | zero =>
    rw [sendRetrying]
    refine .ask hexchange ?_
    rintro (fault | reply) <;> exact .done _
  | succ retries ih =>
    rw [sendRetrying]
    refine .ask hexchange ?_
    rintro (fault | reply)
    · exact .ask hpause fun _ => ih
    · exact .done _

lemma sendProxy_asks (m : Manager) (proxy : Endpoint) (key : Key) (command : String)
    (timeouts : Timeouts) :
    Asks (Sends command timeouts) (m.sendProxy proxy key command timeouts) := by
  apply Asks.ask ⟨proxy, rfl⟩
  rintro (fault | reply) <;> exact .done _

lemma isStart_of_sends {command : String} {timeouts : Timeouts} (q : Request)
    (h : Sends command timeouts q) : q.isStart = false := by
  obtain ⟨endpoint, rfl⟩ := h
  rfl

lemma sendMixer_starts (m : Manager) (command : String) (timeouts : Timeouts) (w : σ) :
    let r := (m.sendMixer command timeouts).run handler w
    r.result.2.mixer.launched = true ∧
      r.result.2.mixer.attempts = m.mixer.attempts + .ofNat (starts r.events) ∧
      starts r.events = if m.mixer.launched then 0 else 1 := by
  simp only [sendMixer, bind_eq, pure_eq, run_bind, run_done, List.append_nil, starts_append]
  rw [starts_eq_zero (sendRetrying_asks (P := fun q => q.isStart = false) rfl rfl _), Nat.add_zero]
  exact Mixer.ensureLaunched_run handler m.mixer w

lemma mixer_of_not_needed {m : Manager} (hroute : m.route ≠ .mixer) (key : Key) (command : String)
    (timeouts : Timeouts) (w : σ) :
    let r := (m.sendWithTimeouts key command timeouts).run handler w
    r.result.2.mixer = m.mixer ∧ starts r.events = 0 := by
  unfold sendWithTimeouts
  cases h : m.route with
  | direct =>
    have hasks := (sendDirect_asks m key command timeouts).mono isStart_of_sends
    obtain ⟨cursor, hr⟩ := sendDirect_moves_cursor handler m key command timeouts w
    refine ⟨?_, starts_eq_zero hasks handler w⟩
    simp only [hr]
    rfl
  | proxy endpoint =>
    have hasks := (sendProxy_asks m endpoint key command timeouts).mono isStart_of_sends
    refine ⟨?_, starts_eq_zero hasks handler w⟩
    simp only [sendProxy_frame]
  | mixer => exact absurd h hroute

namespace Step

def NeedsMixer (s : Step) : Prop :=
  s.operation.target? ≠ none ∧ s.before.route = .mixer

def invalidates (s : Step) : Bool :=
  match s.operation with
  | .invalidateMixer => true
  | .setMixerPort port => port ≠ s.before.mixer.settings.port
  | .setMixer settings => settings.port ≠ s.before.mixer.settings.port
  | _ => false

/-- A send past the mixer, a setting that keeps the port, or a restart that failed. -/
def sparesMixer (s : Step) : Bool :=
  match s.operation, s.outcome with
  | .send .., _ | .sendWithin .., _ => s.before.route ≠ .mixer
  | .setMixerPort port, _ => port = s.before.mixer.settings.port
  | .setMixer settings, _ => settings.port = s.before.mixer.settings.port
  | .restartMixer, .restarted (.error _) => true
  | _, _ => false

end Step

inductive MixerEffect (s : Step) (m : Manager) : Prop
  | needed (hs : s.NeedsMixer)
      (hstarts : starts s.events = if s.before.mixer.launched then 0 else 1)
      (hattempts : m.mixer.attempts = s.before.mixer.attempts + .ofNat (starts s.events))
      (hlaunched : m.mixer.launched = true)
  | restarted (hs : s.operation = .restartMixer) (hout : s.outcome = .restarted (.ok ()))
      (hstarts : starts s.events = 0) (hm : m.mixer = { s.before.mixer with launched := true })
  | invalidated (hs : s.invalidates = true) (hstarts : starts s.events = 0)
      (hattempts : m.mixer.attempts = s.before.mixer.attempts)
      (hlaunched : m.mixer.launched = false)
  | kept (hs : ¬ s.NeedsMixer) (hinv : s.invalidates = false) (hstarts : starts s.events = 0)
      (hattempts : m.mixer.attempts = s.before.mixer.attempts)
      (hlaunched : m.mixer.launched = s.before.mixer.launched)

lemma route_eq_mixer_iff {m : Manager} :
    m.route = .mixer ↔ m.mixer.settings.enabled = true ∧ m.proxy = none := by
  unfold route
  cases m.proxy <;> cases m.mixer.settings.enabled <;> simp

lemma Step.invalidates_of_target {s : Step} (h : s.operation.target? ≠ none) :
    s.invalidates = false := by
  unfold Step.invalidates
  split <;> rename_i hop
  · exact absurd (by rw [hop]; rfl) h
  · exact absurd (by rw [hop]; rfl) h
  · exact absurd (by rw [hop]; rfl) h
  · rfl

lemma Step.spared_spec {s : Step} (h : s.sparesMixer = true) :
    ¬ s.NeedsMixer ∧ s.invalidates = false ∧
      ¬ (s.operation = .restartMixer ∧ s.outcome = .restarted (.ok ())) := by
  unfold Step.sparesMixer at h
  split at h
  · next hop =>
    exact ⟨fun hn => of_decide_eq_true h hn.2, by simp [Step.invalidates, hop], by simp [hop]⟩
  · next hop =>
    exact ⟨fun hn => of_decide_eq_true h hn.2, by simp [Step.invalidates, hop], by simp [hop]⟩
  · next hop =>
    have hport := of_decide_eq_true h
    exact ⟨fun hn => hn.1 (by rw [hop]; rfl), by simp [Step.invalidates, hop, hport],
      by simp [hop]⟩
  · next hop =>
    have hport := of_decide_eq_true h
    exact ⟨fun hn => hn.1 (by rw [hop]; rfl), by simp [Step.invalidates, hop, hport],
      by simp [hop]⟩
  · next hop hout =>
    exact ⟨fun hn => hn.1 (by rw [hop]; rfl), by simp [Step.invalidates, hop], by simp [hout]⟩
  · cases h

lemma effect_of_send (s : Manager × σ) {operation : Operation} {k : Key}
    (htarget : operation.target? = some k) :
    MixerEffect (record handler s operation) (after handler s operation).1 := by
  have hsends : operation.target? ≠ none := by simp [htarget]
  have hinv : (record handler s operation).invalidates = false :=
    Step.invalidates_of_target hsends
  obtain ⟨command, timeouts, hrecord, hafter⟩ := exists_send handler s htarget
  by_cases hroute : s.1.route = .mixer
  · obtain ⟨hlaunched, hattempts, hstarts⟩ := sendMixer_starts handler s.1 command timeouts s.2
    simp only [sendWithTimeouts, hroute] at hrecord hafter
    rw [hrecord, hafter]
    exact .needed ⟨hsends, hroute⟩ hstarts hattempts hlaunched
  · obtain ⟨hmixer, hstarts⟩ := mixer_of_not_needed handler hroute k command timeouts s.2
    rw [hrecord] at hinv ⊢
    rw [hafter]
    exact .kept (fun h => hroute h.2) hinv hstarts (by rw [hmixer]) (by rw [hmixer])

lemma effect_idle {s : Step} {m : Manager} (htarget : s.operation.target? = none)
    (hinv : s.invalidates = false) (hev : s.events = [])
    (hmixer : m.mixer.attempts = s.before.mixer.attempts ∧
      m.mixer.launched = s.before.mixer.launched) : MixerEffect s m :=
  .kept (fun h => h.1 htarget) hinv (by rw [hev]; rfl) hmixer.1 hmixer.2

lemma effect_port {s : Step} {m : Manager} {port : UInt16} (htarget : s.operation.target? = none)
    (hinv : s.invalidates = decide (port ≠ s.before.mixer.settings.port)) (hev : s.events = [])
    (hattempts : m.mixer.attempts = (s.before.mixer.setPort port).attempts)
    (hlaunched : m.mixer.launched = (s.before.mixer.setPort port).launched) :
    MixerEffect s m := by
  unfold Mixer.setPort at hattempts hlaunched
  by_cases hport : port = s.before.mixer.settings.port
  · rw [if_pos hport] at hattempts hlaunched
    exact effect_idle htarget (by simp [hinv, hport]) hev ⟨hattempts, hlaunched⟩
  · rw [if_neg hport] at hattempts hlaunched
    exact .invalidated (by simp [hinv, hport]) (by rw [hev]; rfl) hattempts hlaunched

lemma mixerEffect_record (s : Manager × σ) (operation : Operation) :
    MixerEffect (record handler s operation) (after handler s operation).1 := by
  cases operation with
  | add k endpoint => exact effect_idle rfl rfl rfl ⟨rfl, rfl⟩
  | remove k endpoint =>
    apply effect_idle rfl rfl rfl
    by_cases hmem : endpoint ∈ s.1.candidates k
    · simp [after, performed, perform, remove, hmem, record, replaceList, setCandidates, setCursor]
    · simp [after, performed, perform, remove, hmem, record]
  | select k =>
    obtain ⟨result, cursor, hs, -⟩ := select_beside (rfl : s.1.candidates k = _) rfl
    apply effect_idle rfl rfl rfl
    simp [after, performed, perform, hs, record, setCursor]
  | advance k =>
    obtain ⟨result, cursor, hs, -⟩ := advance_beside (rfl : s.1.candidates k = _) rfl
    apply effect_idle rfl rfl rfl
    simp [after, performed, perform, hs, record, setCursor]
  | send k | sendWithin k => exact effect_of_send handler s rfl
  | setTimeouts timeouts => exact effect_idle rfl rfl rfl ⟨rfl, rfl⟩
  | setProxy proxy => exact effect_idle rfl rfl rfl ⟨rfl, rfl⟩
  | useMixer enabled => exact effect_idle rfl rfl rfl ⟨rfl, rfl⟩
  | setMixer settings => exact effect_port rfl rfl rfl rfl rfl
  | setMixerPort port => exact effect_port rfl rfl rfl rfl rfl
  | invalidateMixer => exact .invalidated rfl rfl rfl rfl
  | restartMixer =>
    have hp : performed handler s .restartMixer =
        ⟨(.restarted (s.1.mixer.restart.run handler s.2).result.1,
          { s.1 with mixer := (s.1.mixer.restart.run handler s.2).result.2 }),
          (s.1.mixer.restart.run handler s.2).world,
          (s.1.mixer.restart.run handler s.2).events⟩ := by
      simp [performed, perform, run_bind]
    obtain ⟨hstarts, ⟨e, hr⟩ | hr⟩ := Mixer.restart_run handler s.1.mixer s.2
    · refine .kept (fun h => h.1 rfl) rfl ?_ ?_ ?_
      · simpa only [record, hp] using hstarts
      · simp only [after, record, hp, hr]
      · simp only [after, record, hp, hr]
    · refine .restarted rfl ?_ ?_ ?_
      · simp only [record, hp, hr]
      · simpa only [record, hp] using hstarts
      · simp only [after, record, hp, hr]

/-- Without an invalidation one start is still to come, unless the mixer counts as started. -/
def due (x : Mixer) : Nat :=
  if x.launched then 0 else 1

def startsOf (steps : List Step) : Nat :=
  (steps.map fun s => starts s.events).sum

lemma MixerEffect.needed_of_starts {s : Step} {m : Manager} (h : MixerEffect s m)
    (hs : starts s.events ≠ 0) : s.NeedsMixer := by
  cases h with
  | needed hn => exact hn
  | restarted _ _ hstarts | invalidated _ hstarts | kept _ _ hstarts => exact absurd hstarts hs

lemma MixerEffect.launched_of_needed {s : Step} {m : Manager} (h : MixerEffect s m)
    (hn : s.NeedsMixer) : m.mixer.launched = true := by
  cases h with
  | needed _ _ _ hlaunched => exact hlaunched
  | restarted _ _ _ hm => rw [hm]
  | invalidated hs =>
    rw [Step.invalidates_of_target hn.1] at hs
    cases hs
  | kept hs => exact absurd hn hs

lemma MixerEffect.launched_of_spared {s : Step} {m : Manager} (h : MixerEffect s m)
    (hspared : s.sparesMixer = true) : m.mixer.launched = s.before.mixer.launched := by
  obtain ⟨hneeds, hinv, hrestart⟩ := Step.spared_spec hspared
  cases h with
  | needed hn => exact absurd hn hneeds
  | restarted hs hout => exact absurd ⟨hs, hout⟩ hrestart
  | invalidated hs =>
    rw [hinv] at hs
    cases hs
  | kept _ _ _ _ hlaunched => exact hlaunched

lemma MixerEffect.accounts {s : Step} {m : Manager} (h : MixerEffect s m) :
    m.mixer.attempts = s.before.mixer.attempts + .ofNat (starts s.events) ∧
      starts s.events + due m.mixer ≤ due s.before.mixer + if s.invalidates then 1 else 0 := by
  unfold due
  cases h with
  | needed _ hstarts hattempts hlaunched =>
    refine ⟨hattempts, ?_⟩
    rw [hstarts, hlaunched, if_pos rfl, Nat.add_zero]
    exact Nat.le_add_right _ _
  | restarted _ _ hstarts hm =>
    rw [hstarts, hm]
    exact ⟨(UInt32.add_zero _).symm, by simp⟩
  | invalidated hs hstarts hattempts hlaunched =>
    rw [hstarts, hattempts, hlaunched, hs]
    exact ⟨(UInt32.add_zero _).symm, by simp⟩
  | kept _ hinv hstarts hattempts hlaunched =>
    rw [hstarts, hattempts, hlaunched, hinv]
    exact ⟨(UInt32.add_zero _).symm, by simp⟩

lemma startsOf_cons (s : Step) (steps : List Step) :
    startsOf (s :: steps) = starts s.events + startsOf steps := rfl

lemma accounts_history (s : Manager × σ) (operations : List Operation) :
    let steps := history handler s operations
    let left := (afterAll handler s operations).1
    left.mixer.attempts = s.1.mixer.attempts + .ofNat (startsOf steps) ∧
      startsOf steps + due left.mixer ≤ due s.1.mixer + steps.countP Step.invalidates := by
  intro steps left
  simp only [steps, left]
  induction operations generalizing s with
  | nil => exact ⟨(UInt32.add_zero _).symm, by simp [history, afterAll, startsOf]⟩
  | cons operation operations ih =>
    obtain ⟨hattempts, hdue⟩ := (mixerEffect_record handler s operation).accounts
    obtain ⟨hattempts', hdue'⟩ := ih (after handler s operation)
    have hleft : afterAll handler s (operation :: operations) =
        afterAll handler (after handler s operation) operations := rfl
    have hbefore : (record handler s operation).before = s.1 := rfl
    rw [hbefore] at hattempts hdue
    rw [history, hleft, startsOf_cons, List.countP_cons]
    refine ⟨?_, by omega⟩
    rw [hattempts', hattempts, UInt32.ofNat_add, UInt32.add_assoc]

lemma startsOf_append (before behind : List Step) :
    startsOf (before ++ behind) = startsOf before + startsOf behind := by
  simp [startsOf]

lemma startsOf_eq_zero {steps : List Step} (h : ∀ s ∈ steps, starts s.events = 0) :
    startsOf steps = 0 := by
  apply List.sum_eq_zero
  intro n hn
  obtain ⟨s, hs, rfl⟩ := List.mem_map.1 hn
  exact h s hs

-- The last start finds the mixer not started, so it was still due after the steps before it.
lemma startsOf_le {world : σ} {operations : List Operation} {before behind : List Step} {s : Step}
    (h : history handler ({}, world) operations = before ++ s :: behind)
    (hs : starts s.events ≠ 0) (hbehind : ∀ t ∈ behind, starts t.events = 0) :
    startsOf (before ++ s :: behind) ≤ 1 + before.countP Step.invalidates := by
  obtain ⟨a, operation, b, -, rfl, rfl⟩ := history_cons_split handler h
  obtain ⟨-, hdue⟩ := accounts_history handler ({}, world) a
  have hfresh : due (({}, world) : Manager × σ).1.mixer = 1 := rfl
  have hlast : starts (record handler (afterAll handler ({}, world) a) operation).events =
      due (afterAll handler ({}, world) a).1.mixer := by
    cases mixerEffect_record handler (afterAll handler ({}, world) a) operation with
    | needed _ hstarts => exact hstarts
    | restarted _ _ hstarts | invalidated _ hstarts | kept _ _ hstarts => exact absurd hstarts hs
  rw [startsOf_append, startsOf_cons, startsOf_eq_zero hbehind, hlast]
  omega

theorem mixer_launch_accounting (world : σ) (operations : List Operation) :
    let steps := history handler ({}, world) operations
    let s := afterAll handler ({}, world) operations
    s.1.mixer.attempts = UInt32.ofNat (startsOf steps) ∧
    (∀ before st behind, steps = before ++ st :: behind → starts st.events ≠ 0 →
      (∀ t ∈ behind, starts t.events = 0) →
        startsOf steps ≤ 1 + before.countP Step.invalidates) ∧
    ∀ operation,
      let st := record handler s operation
      let left := (after handler s operation).1
      (starts st.events ≠ 0 → operation.target? ≠ none ∧
        s.1.mixer.settings.enabled = true ∧ s.1.proxy = none) ∧
      (operation.target? ≠ none → s.1.mixer.settings.enabled = true → s.1.proxy = none →
        left.mixer.launched = true) ∧
      (st.sparesMixer = true → left.mixer.launched = s.1.mixer.launched) := by
  intro steps s
  obtain ⟨hattempts, -⟩ := accounts_history handler ({}, world) operations
  refine ⟨by simpa using hattempts, ?_, fun operation => ?_⟩
  · intro before st behind h hst hbehind
    rw [h]
    exact startsOf_le handler h hst hbehind
  · have heffect := mixerEffect_record handler s operation
    refine ⟨fun hst => ?_, fun htarget henabled hproxy => ?_, heffect.launched_of_spared⟩
    · have hneeds := heffect.needed_of_starts hst
      exact ⟨hneeds.1, route_eq_mixer_iff.1 hneeds.2⟩
    · exact heffect.launched_of_needed ⟨htarget, route_eq_mixer_iff.2 ⟨henabled, hproxy⟩⟩

theorem mixer_launch_accounting_no_program :
    let key : Key := ⟨"c", .definition⟩
    let operations : List Operation :=
      [.setMixer { enabled := true, command := "/gone", retries := 0 }, .send key "a",
        .invalidateMixer, .send key "b"]
    let steps := history Memory.handle ({}, {}) operations
    let s := afterAll Memory.handle ({}, {}) operations
    s.1.mixer.attempts = 2 ∧ startsOf steps ≤ 1 + (steps.take 3).countP Step.invalidates ∧
      (steps.take 3).countP Step.invalidates = 1 ∧
      (after Memory.handle s (.send key "c")).1.mixer.launched = true ∧
      (after Memory.handle s .restartMixer).1.mixer.launched = s.1.mixer.launched := by
  intro key operations steps s
  obtain ⟨-, hbound, hstep⟩ := mixer_launch_accounting Memory.handle {} operations
  have hlength : steps.length = 4 := by decide +kernel
  have hsplit : steps = steps.take 3 ++ [steps[3]] := by
    rw [List.take_append_getElem, List.take_of_length_le hlength.le]
  have hstart : starts steps[3].events ≠ 0 := by decide +kernel
  have hsends : (Operation.send key "c").target? ≠ none := Option.some_ne_none key
  have henabled : s.1.mixer.settings.enabled = true := by decide +kernel
  have hproxy : s.1.proxy = none := by decide +kernel
  have hfailed : (record Memory.handle s .restartMixer).sparesMixer = true := by decide +kernel
  refine ⟨by decide +kernel, ?_, by decide +kernel, ?_, ?_⟩
  · exact hbound (steps.take 3) steps[3] [] hsplit hstart (by simp)
  · exact (hstep (.send key "c")).2.1 hsends henabled hproxy
  · simp only [s]
    exact (hstep .restartMixer).2.2 hfailed

end Manager

end Tagwire
