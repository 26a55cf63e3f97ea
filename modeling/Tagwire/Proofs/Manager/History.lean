import Mathlib
import Tagwire.Proofs.Manager.Walk

namespace Tagwire.Manager

open Program

def Operation.target? : Operation → Option Key
  | .send key _ => some key
  | .sendWithin key _ _ => some key
  | _ => none

structure Step where
  before : Manager
  operation : Operation
  outcome : Outcome
  events : List Event

namespace Step

def Direct (s : Step) (key : Key) : Prop :=
  s.operation.target? = some key ∧ s.before.route = .direct

instance (s : Step) (key : Key) : Decidable (s.Direct key) :=
  inferInstanceAs (Decidable (_ ∧ _))

def changes (s : Step) (key : Key) : Bool :=
  match s.operation, s.outcome with
  | .add k _, _ => k = key
  | .remove k _, .removed true => k = key
  | _, _ => false

end Step

structure Visit where
  index : Nat
  contact : Contact

/-- The exchanges of a direct send. They start at the front of the cursor, one index after the
other. -/
def Step.visits (s : Step) (key : Key) : List Visit :=
  if s.Direct key then
    (contacts s.events).mapIdx fun j c => ⟨(s.before.cursors key).front + j, c⟩
  else []

section Runs

variable {σ : Type} (handler : Handler σ)

def performed (s : Manager × σ) (operation : Operation) : Run σ (Outcome × Manager) :=
  (s.1.perform operation).run handler s.2

def record (s : Manager × σ) (operation : Operation) : Step :=
  ⟨s.1, operation, (performed handler s operation).result.1, (performed handler s operation).events⟩

def after (s : Manager × σ) (operation : Operation) : Manager × σ :=
  ((performed handler s operation).result.2, (performed handler s operation).world)

def history (s : Manager × σ) : List Operation → List Step
  | [] => []
  | operation :: rest => record handler s operation :: history (after handler s operation) rest

def afterAll (s : Manager × σ) (operations : List Operation) : Manager × σ :=
  operations.foldl (after handler) s

lemma history_concat (s : Manager × σ) (operations : List Operation) (operation : Operation) :
    history handler s (operations ++ [operation]) =
      history handler s operations ++ [record handler (afterAll handler s operations) operation] := by
  induction operations generalizing s with
  | nil => rfl
  | cons op operations ih =>
    rw [List.cons_append, history, ih, history]
    rfl

lemma afterAll_concat (s : Manager × σ) (operations : List Operation) (operation : Operation) :
    afterAll handler s (operations ++ [operation]) =
      after handler (afterAll handler s operations) operation :=
  List.foldl_concat _ _ _ _

lemma history_append_split {s : Manager × σ} {operations : List Operation} {pre post : List Step}
    (h : history handler s operations = pre ++ post) :
    ∃ a b, operations = a ++ b ∧ pre = history handler s a ∧
      post = history handler (afterAll handler s a) b := by
  induction pre generalizing s operations with
  | nil => exact ⟨[], operations, rfl, rfl, h.symm⟩
  | cons st pre ih =>
    cases operations with
    | nil => cases h
    | cons op operations =>
      obtain ⟨rfl, hrest⟩ := List.cons_eq_cons.1 h
      obtain ⟨a, b, rfl, rfl, hpost⟩ := ih hrest
      exact ⟨op :: a, b, rfl, rfl, hpost⟩

lemma history_cons_split {s : Manager × σ} {operations : List Operation} {pre post : List Step}
    {step : Step} (h : history handler s operations = pre ++ step :: post) :
    ∃ a operation b, operations = a ++ operation :: b ∧ pre = history handler s a ∧
      step = record handler (afterAll handler s a) operation := by
  obtain ⟨a, b, rfl, hpre, hpost⟩ := history_append_split handler h
  cases b with
  | nil => cases hpost
  | cons operation b => exact ⟨a, operation, b, rfl, hpre, (List.cons_eq_cons.1 hpost).1⟩

end Runs

/-- What a step can do to one key: `m` is the manager it leaves. -/
inductive Effect (key : Key) (s : Step) (m : Manager) : Prop
  | changed (hs : s.changes key = true) (hd : ¬ s.Direct key) (hcur : m.cursors key = {})
  | kept (hs : s.changes key = false) (hd : ¬ s.Direct key)
      (hcand : m.candidates key = s.before.candidates key)
      (hcur : m.cursors key = s.before.cursors key)
  | selected {e : Endpoint} (hs : s.changes key = false) (hd : ¬ s.Direct key)
      (he : (s.before.candidates key)[(s.before.cursors key).front]? = some e)
      (hm : m = s.before.setCursor key ⟨some e, (s.before.cursors key).front + 1⟩)
  | advanced {e : Endpoint} (hs : s.operation = .advance key)
      (he : (s.before.candidates key)[(s.before.cursors key).next]? = some e)
      (hm : m = s.before.setCursor key ⟨some e, (s.before.cursors key).next + 1⟩)
  | refused (hd : s.Direct key) (hnil : s.before.candidates key = [])
      (hev : contacts s.events = [])
      (hout : s.outcome = .reply (.error (.noConfiguredServers key.language key.callType)))
      (hm : m = s.before)
  | walked {result : Except TagError String} {cursor : Cursor} (hd : s.Direct key)
      (hwalk : Walk key (s.before.candidates key) (s.before.cursors key).front
        (contacts s.events) result cursor)
      (hout : s.outcome = .reply result) (hm : m = s.before.setCursor key cursor)

lemma replaceList_cursors_self (m : Manager) (key : Key) (endpoints : List Endpoint) :
    (m.replaceList key endpoints).cursors key = {} := by
  simp [replaceList]

lemma replaceList_of_ne (m : Manager) {key k : Key} (endpoints : List Endpoint) (hk : k ≠ key) :
    (m.replaceList key endpoints).candidates k = m.candidates k ∧
      (m.replaceList key endpoints).cursors k = m.cursors k := by
  simp [replaceList, setCandidates, setCursor, hk]

lemma advance_cases (m : Manager) (key : Key) :
    (∃ e, (m.candidates key)[(m.cursors key).next]? = some e ∧
        m.advance key = (.ok e, m.setCursor key ⟨some e, (m.cursors key).next + 1⟩)) ∨
      ∃ e, e.isTransport = true ∧ m.advance key = (.error e, m) := by
  unfold advance
  split
  · exact .inr ⟨_, rfl, rfl⟩
  · split
    · exact .inr ⟨_, rfl, rfl⟩
    · next e he => exact .inl ⟨e, he, rfl⟩

lemma advance_of_error {m m' : Manager} {key : Key} {e : TagError}
    (h : m.advance key = (.error e, m')) : e.isTransport = true ∧ m' = m := by
  rcases advance_cases m key with ⟨_, -, hadv⟩ | ⟨_, he, hadv⟩
  · cases hadv.symm.trans h
  · cases hadv.symm.trans h
    exact ⟨he, rfl⟩

lemma advance_of_ok {m m' : Manager} {key : Key} {e : Endpoint}
    (h : m.advance key = (.ok e, m')) :
    m' = m.setCursor key ⟨some e, (m.cursors key).next + 1⟩ := by
  rcases advance_cases m key with ⟨_, -, hadv⟩ | ⟨_, -, hadv⟩
  · cases hadv.symm.trans h
    rfl
  · cases hadv.symm.trans h

lemma select_of_error {m m' : Manager} {key : Key} {e : TagError}
    (h : m.select key = (.error e, m')) : e.isTransport = true ∧ m' = m := by
  unfold select at h
  split at h
  · cases h
  · exact advance_of_error h

section Effects

variable {σ : Type} (handler : Handler σ)

lemma sendMixer_frame (m : Manager) (command : String) (timeouts : Timeouts) (w : σ) :
    ((m.sendMixer command timeouts).run handler w).result.2.candidates = m.candidates ∧
      ((m.sendMixer command timeouts).run handler w).result.2.cursors = m.cursors := by
  simp [sendMixer, run_bind]

lemma sendProxy_frame (m : Manager) (proxy : Endpoint) (key : Key) (command : String)
    (timeouts : Timeouts) (w : σ) :
    ((m.sendProxy proxy key command timeouts).run handler w).result.2 = m := by
  rcases ha : handler (.exchange proxy command timeouts) w with ⟨fault | reply, w'⟩
  · rw [sendProxy, run_ask ha]
    rfl
  · rw [sendProxy, run_ask ha]
    rfl

def Consistent (m : Manager) : Prop :=
  ∀ key, (m.cursors key).Within (m.candidates key)

lemma sendDirect_other {m : Manager} (hm : m.Consistent) {key k : Key} (hk : key ≠ k)
    (command : String) (timeouts : Timeouts) (w : σ) :
    let r := (m.sendDirect k command timeouts).run handler w
    r.result.2.candidates key = m.candidates key ∧ r.result.2.cursors key = m.cursors key := by
  intro r
  by_cases hnil : m.candidates k = []
  · have hr : r.result.2 = m := by
      simp only [r, sendDirect_empty command timeouts (hm k) hnil]
      rfl
    simp [hr]
  · obtain ⟨cursor, -, hr⟩ := sendDirect_walk handler command timeouts (hm k)
      ((hm k).front_lt hnil) w
    rw [show r.result.2 = m.setCursor k cursor from hr]
    exact ⟨rfl, setCursor_cursors_of_ne m cursor hk⟩

lemma changes_of_target {s : Step} {k : Key} (h : s.operation.target? = some k) (key : Key) :
    s.changes key = false := by
  unfold Step.changes
  split
  · next hop => simp [hop, Operation.target?] at h
  · next hop _ => simp [hop, Operation.target?] at h
  · rfl

lemma effect_send {s : Step} (hm : s.before.Consistent) {k : Key} {command : String}
    {timeouts : Timeouts} {w : σ} {r : Run σ (Except TagError String × Manager)}
    (hr : (s.before.sendWithTimeouts k command timeouts).run handler w = r)
    (htarget : s.operation.target? = some k) (hout : s.outcome = .reply r.result.1)
    (hev : s.events = r.events) (key : Key) : Effect key s r.result.2 := by
  subst hr
  have hsame := changes_of_target htarget key
  unfold sendWithTimeouts at hout hev ⊢
  cases hroute : s.before.route with
  | direct =>
    simp only [hroute] at hout hev ⊢
    by_cases hk : key = k
    · subst hk
      have hd : s.Direct key := ⟨htarget, hroute⟩
      by_cases hnil : s.before.candidates key = []
      · rw [sendDirect_empty command timeouts (hm key) hnil] at hout hev ⊢
        exact .refused hd hnil (by rw [hev]; rfl) hout rfl
      · obtain ⟨cursor, hwalk, hend⟩ := sendDirect_walk handler command timeouts (hm key)
          ((hm key).front_lt hnil) w
        exact .walked hd (hev ▸ hwalk) hout hend
    · have hd : ¬ s.Direct key := fun hd => hk (Option.some.inj (hd.1.symm.trans htarget))
      obtain ⟨hcand, hcur⟩ := sendDirect_other handler hm hk command timeouts w
      exact .kept hsame hd hcand hcur
  | proxy endpoint =>
    simp only
    have hd : ¬ s.Direct key := fun hd => absurd hd.2 (by simp [hroute])
    rw [sendProxy_frame]
    exact .kept hsame hd rfl rfl
  | mixer =>
    simp only
    have hd : ¬ s.Direct key := fun hd => absurd hd.2 (by simp [hroute])
    obtain ⟨hcand, hcur⟩ := sendMixer_frame handler s.before command timeouts w
    exact .kept hsame hd (by rw [hcand]) (by rw [hcur])

lemma not_direct_of_target {s : Step} (h : s.operation.target? = none) (key : Key) :
    ¬ s.Direct key := by
  rintro ⟨htarget, -⟩
  rw [h] at htarget
  cases htarget

lemma performed_send (s : Manager × σ) (k : Key) (command : String) :
    let r := (s.1.sendWithTimeouts k command s.1.timeouts).run handler s.2
    performed handler s (.send k command) =
      ⟨(.reply r.result.1, r.result.2), r.world, r.events⟩ := by
  simp [performed, perform, send, run_bind]

lemma performed_sendWithin (s : Manager × σ) (k : Key) (command : String) (data : Option Nat) :
    let r := (s.1.sendWithTimeouts k command { s.1.timeouts with data }).run handler s.2
    performed handler s (.sendWithin k command data) =
      ⟨(.reply r.result.1, r.result.2), r.world, r.events⟩ := by
  simp [performed, perform, sendWithin, run_bind]

lemma exists_send (s : Manager × σ) {operation : Operation} {k : Key}
    (h : operation.target? = some k) : ∃ command timeouts,
      let r := (s.1.sendWithTimeouts k command timeouts).run handler s.2
      record handler s operation = ⟨s.1, operation, .reply r.result.1, r.events⟩ ∧
        after handler s operation = (r.result.2, r.world) := by
  cases operation with
  | send k' command =>
    obtain rfl := Option.some.inj h
    exact ⟨command, s.1.timeouts, by simp only [record, performed_send],
      by simp only [after, performed_send]⟩
  | sendWithin k' command data =>
    obtain rfl := Option.some.inj h
    exact ⟨command, { s.1.timeouts with data }, by simp only [record, performed_sendWithin],
      by simp only [after, performed_sendWithin]⟩
  | _ => cases h

lemma effect_of_frame {s : Step} {m : Manager} {key : Key} (hs : s.changes key = false)
    (hd : ¬ s.Direct key) (hm : m.candidates = s.before.candidates ∧ m.cursors = s.before.cursors) :
    Effect key s m :=
  .kept hs hd (by rw [hm.1]) (by rw [hm.2])

lemma effect_select {m : Manager} {key k : Key} (hm : (m.cursors k).Within (m.candidates k))
    {s : Step} (hbefore : s.before = m) (hs : s.changes key = false) (hd : ¬ s.Direct key) :
    Effect key s (m.select k).2 := by
  subst hbefore
  by_cases hnil : s.before.candidates k = []
  · rw [hnil] at hm
    rw [select_empty hm.current_eq_none hnil]
    exact effect_of_frame hs hd ⟨rfl, rfl⟩
  · have hlt := hm.front_lt hnil
    have he := List.getElem?_eq_getElem hlt
    rw [select_at hm he]
    by_cases hk : key = k
    · subst hk
      exact .selected hs hd he rfl
    · exact .kept hs hd rfl (setCursor_cursors_of_ne _ _ hk)

lemma effect_of_target {s : Manager × σ} (hm : s.1.Consistent) {operation : Operation} {k : Key}
    (h : operation.target? = some k) (key : Key) :
    Effect key (record handler s operation) (after handler s operation).1 := by
  obtain ⟨command, timeouts, hrecord, hafter⟩ := exists_send handler s h
  rw [hrecord, hafter]
  exact effect_send handler hm rfl h rfl rfl key

lemma effect_record {s : Manager × σ} (hm : s.1.Consistent) (operation : Operation) (key : Key) :
    Effect key (record handler s operation) (after handler s operation).1 := by
  cases operation with
  | add k endpoint =>
    have hd := not_direct_of_target (s := record handler s (.add k endpoint)) rfl key
    by_cases hk : key = k
    · subst hk
      exact .changed (by simp [Step.changes, record]) hd (replaceList_cursors_self _ _ _)
    · obtain ⟨hcand, hcur⟩ := replaceList_of_ne s.1 (s.1.candidates k ++ [endpoint]) hk
      exact .kept (by simp [Step.changes, record, Ne.symm hk]) hd hcand hcur
  | remove k endpoint =>
    have hd := not_direct_of_target (s := record handler s (.remove k endpoint)) rfl key
    by_cases hmem : endpoint ∈ s.1.candidates k
    · have hp : performed handler s (.remove k endpoint) = ⟨(.removed true,
          s.1.replaceList k ((s.1.candidates k).erase endpoint)), s.2, []⟩ := by
        simp [performed, perform, remove, hmem]
      by_cases hk : key = k
      · subst hk
        refine .changed (by simp [Step.changes, record, hp]) hd ?_
        simp only [after, hp, replaceList_cursors_self]
      · obtain ⟨hcand, hcur⟩ := replaceList_of_ne s.1 ((s.1.candidates k).erase endpoint) hk
        refine .kept (by simp [Step.changes, record, hp, Ne.symm hk]) hd ?_ ?_
        · simp only [after, hp]
          exact hcand
        · simp only [after, hp]
          exact hcur
    · have hp : performed handler s (.remove k endpoint) = ⟨(.removed false, s.1), s.2, []⟩ := by
        simp [performed, perform, remove, hmem]
      exact effect_of_frame (by simp [Step.changes, record, hp]) hd (by simp [after, hp, record])
  | select k =>
    have hd := not_direct_of_target (s := record handler s (.select k)) rfl key
    exact effect_select (hm k) rfl rfl hd
  | advance k =>
    have hd := not_direct_of_target (s := record handler s (.advance k)) rfl key
    rcases advance_cases s.1 k with ⟨e, he, heq⟩ | ⟨e, -, heq⟩
    · have hadv : (s.1.advance k).2 = _ := congrArg Prod.snd heq
      by_cases hk : key = k
      · subst hk
        exact .advanced rfl he hadv
      · refine .kept rfl hd ?_ ?_
        · exact congrArg (fun m => m.candidates key) hadv
        · exact (congrArg (fun m => m.cursors key) hadv).trans (setCursor_cursors_of_ne _ _ hk)
    · have hadv : (s.1.advance k).2 = s.1 := congrArg Prod.snd heq
      exact effect_of_frame rfl hd ⟨congrArg candidates hadv, congrArg cursors hadv⟩
  | send k | sendWithin k => exact effect_of_target handler hm rfl key
  | setTimeouts timeouts => exact effect_of_frame rfl (not_direct_of_target rfl key) ⟨rfl, rfl⟩
  | setProxy proxy => exact effect_of_frame rfl (not_direct_of_target rfl key) ⟨rfl, rfl⟩
  | setMixer settings => exact effect_of_frame rfl (not_direct_of_target rfl key) ⟨rfl, rfl⟩
  | useMixer enabled => exact effect_of_frame rfl (not_direct_of_target rfl key) ⟨rfl, rfl⟩
  | setMixerPort port => exact effect_of_frame rfl (not_direct_of_target rfl key) ⟨rfl, rfl⟩
  | invalidateMixer => exact effect_of_frame rfl (not_direct_of_target rfl key) ⟨rfl, rfl⟩
  | restartMixer =>
    refine effect_of_frame rfl (not_direct_of_target rfl key) ?_
    simp [after, performed, perform, record, run_bind]

lemma Effect.within {key : Key} {s : Step} {m : Manager} (h : Effect key s m)
    (hw : (s.before.cursors key).Within (s.before.candidates key)) :
    (m.cursors key).Within (m.candidates key) := by
  cases h with
  | changed _ _ hcur =>
    rw [hcur]
    exact .fresh
  | kept _ _ hcand hcur =>
    rw [hcur, hcand]
    exact hw
  | selected _ _ he hm =>
    rw [hm, setCursor_cursors_self, setCursor_candidates]
    exact .reached he
  | advanced _ he hm =>
    rw [hm, setCursor_cursors_self, setCursor_candidates]
    exact .reached he
  | refused _ _ _ _ hm => exact hm ▸ hw
  | walked _ hwalk _ hm =>
    rw [hm, setCursor_cursors_self, setCursor_candidates]
    exact hwalk.within

lemma consistent_new : Consistent {} :=
  fun _ => .fresh

lemma consistent_after {s : Manager × σ} (hm : s.1.Consistent) (operation : Operation) :
    (after handler s operation).1.Consistent :=
  fun key => (effect_record handler hm operation key).within (hm key)

lemma consistent_afterAll {s : Manager × σ} (hm : s.1.Consistent) (operations : List Operation) :
    (afterAll handler s operations).1.Consistent := by
  induction operations generalizing s with
  | nil => exact hm
  | cons operation operations ih => exact ih (consistent_after handler hm operation)

end Effects

end Tagwire.Manager
