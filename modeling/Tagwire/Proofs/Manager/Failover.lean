import Mathlib
import Tagwire.Host.Memory
import Tagwire.Proofs.Manager.History

/-! Failover over whole runs. Every candidate above the front of a cursor has failed. -/

namespace Tagwire.Manager

open Program

def sinceChange (key : Key) (steps : List Step) : List Step :=
  steps.rtakeWhile fun s => !s.changes key

def visitsOf (key : Key) (steps : List Step) : List Visit :=
  steps.flatMap (·.visits key)

lemma sinceChange_concat (key : Key) (steps : List Step) (s : Step) :
    sinceChange key (steps ++ [s]) =
      if s.changes key then [] else sinceChange key steps ++ [s] := by
  rw [sinceChange, List.rtakeWhile_concat]
  cases s.changes key <;> rfl

lemma sinceChange_append {key : Key} {steps recent : List Step}
    (h : ∀ s ∈ recent, s.changes key = false) :
    sinceChange key (steps ++ recent) = sinceChange key steps ++ recent := by
  induction recent using List.reverseRecOn with
  | nil => simp
  | append_singleton recent s ih =>
    have hs : s.changes key = false := h s (by simp)
    rw [← List.append_assoc, sinceChange_concat, hs, ih fun t ht => h t (by simp [ht])]
    simp

structure Tracked (candidates : List Endpoint) (front : Nat) (visits : List Visit) : Prop where
  listed : ∀ v ∈ visits, candidates[v.index]? = some v.contact.endpoint
  sorted : visits.Pairwise fun v w => v.index ≤ w.index
  le_front : ∀ v ∈ visits, v.index ≤ front
  failed : ∀ i < front, ∃ v ∈ visits, v.index = i ∧ v.contact.Failed

lemma tracked_nil (candidates : List Endpoint) : Tracked candidates 0 [] where
  listed := by simp
  sorted := .nil
  le_front := by simp
  failed := by simp

lemma Step.mem_visits {s : Step} {key : Key} {v : Visit} (h : v ∈ s.visits key) :
    s.Direct key ∧ ∃ j, (contacts s.events)[j]? = some v.contact ∧
      v.index = (s.before.cursors key).front + j := by
  unfold Step.visits at h
  split at h
  · next hd =>
    obtain ⟨j, hj, rfl⟩ := List.mem_mapIdx.1 h
    exact ⟨hd, j, List.getElem?_eq_getElem hj, rfl⟩
  · cases h

lemma Step.visits_of_not_direct {s : Step} {key : Key} (h : ¬ s.Direct key) :
    s.visits key = [] :=
  if_neg h

lemma Step.exists_visit {s : Step} {key : Key} (hd : s.Direct key) {j : Nat} {c : Contact}
    (hc : (contacts s.events)[j]? = some c) :
    ⟨(s.before.cursors key).front + j, c⟩ ∈ s.visits key := by
  obtain ⟨hj, rfl⟩ := List.getElem?_eq_some_iff.1 hc
  rw [Step.visits, if_pos hd]
  exact List.mem_mapIdx.2 ⟨j, hj, rfl⟩

lemma Step.visits_sorted (s : Step) (key : Key) :
    (s.visits key).Pairwise fun v w => v.index ≤ w.index := by
  unfold Step.visits
  split
  · refine List.pairwise_iff_getElem.2 fun i j hi hj hij => ?_
    simp only [List.getElem_mapIdx]
    omega
  · exact .nil

lemma front_at (e : Endpoint) (i : Nat) : (⟨some e, i + 1⟩ : Cursor).front = i := rfl

lemma Tracked.exists_failed {key : Key} {s : Step} {visits : List Visit}
    {candidates : List Endpoint} (ht : Tracked candidates (s.before.cursors key).front visits)
    (hd : s.Direct key) {i : Nat}
    (hi : i < (s.before.cursors key).front + (contacts s.events).length)
    (hs : ∀ j c, (contacts s.events)[j]? = some c → i = (s.before.cursors key).front + j →
      c.Failed) :
    ∃ v ∈ visits ++ s.visits key, v.index = i ∧ v.contact.Failed := by
  -- an index above the front failed in an earlier step, any other one in this step
  by_cases hlt : i < (s.before.cursors key).front
  · obtain ⟨v, hv, hindex, hfailed⟩ := ht.failed i hlt
    exact ⟨v, List.mem_append_left _ hv, hindex, hfailed⟩
  · obtain ⟨j, rfl⟩ := Nat.exists_eq_add_of_le (Nat.le_of_not_lt hlt)
    have hc := List.getElem?_eq_getElem (l := contacts s.events) (i := j) (by omega)
    exact ⟨_, List.mem_append_right _ (Step.exists_visit hd hc), rfl, hs j _ hc rfl⟩

lemma Tracked.walk {key : Key} {s : Step} {visits : List Visit} {candidates : List Endpoint}
    {result : Except TagError String} {cursor : Cursor}
    (ht : Tracked candidates (s.before.cursors key).front visits) (hd : s.Direct key)
    (hw : Walk key candidates (s.before.cursors key).front (contacts s.events) result cursor) :
    Tracked candidates cursor.front (visits ++ s.visits key) where
  listed v hv := by
    rcases List.mem_append.1 hv with hold | hnew
    · exact ht.listed v hold
    · obtain ⟨-, j, hc, hj⟩ := Step.mem_visits hnew
      rw [hj]
      exact hw.endpoint_eq hc
  sorted := by
    refine List.pairwise_append.2 ⟨ht.sorted, s.visits_sorted key, fun v hv w hmem => ?_⟩
    obtain ⟨-, j, -, hj⟩ := Step.mem_visits hmem
    have hle := ht.le_front v hv
    omega
  le_front v hv := by
    have hend := hw.front_add_one
    have hpos := List.length_pos_of_ne_nil hw.ne_nil
    rcases List.mem_append.1 hv with hold | hnew
    · have hle := ht.le_front v hold
      omega
    · obtain ⟨-, j, hc, hj⟩ := Step.mem_visits hnew
      have hlt := (List.getElem?_eq_some_iff.1 hc).1
      omega
  failed i hi := by
    have hend := hw.front_add_one
    refine ht.exists_failed hd (by omega) fun j c hc hj => ?_
    exact hw.failed_of_lt hc (by omega)

lemma Tracked.step {key : Key} {s : Step} {m : Manager} {visits : List Visit}
    (ht : Tracked (s.before.candidates key) (s.before.cursors key).front visits)
    (he : Effect key s m) (hop : s.operation ≠ .advance key) :
    Tracked (m.candidates key) (m.cursors key).front
      (if s.changes key then [] else visits ++ s.visits key) := by
  cases he with
  | changed hs _ hcur =>
    rw [hs, hcur]
    exact tracked_nil _
  | kept hs hd hcand hcur =>
    rw [hs, hcand, hcur, Step.visits_of_not_direct hd]
    simpa using ht
  | selected hs hd _ hm =>
    rw [hs, hm, setCursor_candidates, setCursor_cursors_self, front_at,
      Step.visits_of_not_direct hd]
    simpa using ht
  | advanced hs => exact absurd hs hop
  | refused hd _ hev _ hm =>
    rw [changes_of_target hd.1 key, hm, Step.visits, if_pos hd, hev]
    simpa using ht
  | walked hd hwalk _ hm =>
    rw [changes_of_target hd.1 key, hm, setCursor_candidates, setCursor_cursors_self]
    exact ht.walk hd hwalk

lemma Tracked.all_failed {key : Key} {s : Step} {visits : List Visit} {candidates : List Endpoint}
    {e : TagError} {cursor : Cursor}
    (ht : Tracked candidates (s.before.cursors key).front visits) (hd : s.Direct key)
    (hw : Walk key candidates (s.before.cursors key).front (contacts s.events) (.error e) cursor)
    {i : Nat} (hi : i < candidates.length) :
    ∃ v ∈ visits ++ s.visits key,
      v.index = i ∧ candidates[i]? = some v.contact.endpoint ∧ v.contact.Failed := by
  obtain ⟨hlen, hall⟩ := hw.of_error rfl
  rw [← hlen] at hi
  obtain ⟨v, hv, rfl, hfailed⟩ := ht.exists_failed hd hi fun j c hc _ =>
    hall c (List.mem_of_getElem? hc)
  exact ⟨v, hv, rfl, (ht.walk hd hw).listed v hv, hfailed⟩

lemma Effect.of_direct {key : Key} {s : Step} {m : Manager} (he : Effect key s m)
    (hd : s.Direct key) :
    (contacts s.events = [] ∧
        s.outcome = .reply (.error (.noConfiguredServers key.language key.callType))) ∨
      ∃ result cursor, s.outcome = .reply result ∧
        Walk key (s.before.candidates key) (s.before.cursors key).front (contacts s.events)
          result cursor := by
  cases he with
  | changed _ hn => exact absurd hd hn
  | kept _ hn => exact absurd hd hn
  | selected _ hn => exact absurd hd hn
  | advanced hs =>
    have htarget := hd.1
    rw [hs] at htarget
    cases htarget
  | refused _ _ hev hout => exact .inl ⟨hev, hout⟩
  | walked _ hwalk hout => exact .inr ⟨_, _, hout, hwalk⟩

section Runs

variable {σ : Type} (handler : Handler σ) (world : σ)

lemma tracked_history (key : Key) {operations : List Operation}
    (hops : ∀ operation ∈ operations, operation ≠ .advance key) :
    let m := (afterAll handler ({}, world) operations).1
    Tracked (m.candidates key) (m.cursors key).front
      (visitsOf key (sinceChange key (history handler ({}, world) operations))) := by
  intro m
  induction operations using List.reverseRecOn with
  | nil => exact tracked_nil _
  | append_singleton operations operation ih =>
    have hold := ih fun op hop => hops op (List.mem_append_left _ hop)
    have hm := consistent_afterAll handler (s := ({}, world)) consistent_new operations
    have hstep := hold.step (effect_record handler hm operation key)
      (hops operation (by simp))
    simp only [m]
    rw [history_concat, sinceChange_concat, afterAll_concat]
    split at hstep
    · next hs =>
      rw [if_pos hs]
      exact hstep
    · next hs =>
      rw [if_neg hs, visitsOf, List.flatMap_append]
      simpa [visitsOf] using hstep

lemma listed_of_mem_history (key : Key) {operations : List Operation} {s : Step} {v : Visit}
    (hs : s ∈ history handler ({}, world) operations) (hv : v ∈ s.visits key) :
    (s.before.candidates key)[v.index]? = some v.contact.endpoint := by
  obtain ⟨pre, post, hsplit⟩ := List.append_of_mem hs
  obtain ⟨a, operation, -, -, -, rfl⟩ := history_cons_split handler hsplit
  have hm := consistent_afterAll handler (s := ({}, world)) consistent_new a
  obtain ⟨hd, j, hc, hj⟩ := Step.mem_visits hv
  rw [hj]
  rcases (effect_record handler hm operation key).of_direct hd with ⟨hnil, -⟩ | ⟨_, _, -, hwalk⟩
  · simp [hnil] at hc
  · exact hwalk.endpoint_eq hc

lemma sorted_of_history {key : Key} {operations : List Operation} {pre mid post : List Step}
    (hops : ∀ operation ∈ operations, operation ≠ .advance key)
    (h : history handler ({}, world) operations = pre ++ mid ++ post)
    (hmid : ∀ s ∈ mid, s.changes key = false) :
    (visitsOf key mid).Pairwise fun v w => v.index ≤ w.index := by
  obtain ⟨a, b, rfl, ha, -⟩ := history_append_split handler h
  have ht := (tracked_history handler world key
    fun op hop => hops op (List.mem_append_left _ hop)).sorted
  rw [← ha, sinceChange_append hmid, visitsOf, List.flatMap_append] at ht
  exact (List.pairwise_append.1 ht).2.1

lemma all_failed_of_history {key : Key} {operations : List Operation} {pre post : List Step}
    {s : Step} {l : String} {c : CallType}
    (hops : ∀ operation ∈ operations, operation ≠ .advance key)
    (h : history handler ({}, world) operations = pre ++ s :: post) (hd : s.Direct key)
    (hout : s.outcome = .reply (.error (.noAvailableServer l c))) {i : Nat}
    (hi : i < (s.before.candidates key).length) :
    ∃ v ∈ visitsOf key (sinceChange key (pre ++ [s])),
      v.index = i ∧ (s.before.candidates key)[i]? = some v.contact.endpoint ∧
        v.contact.Failed := by
  obtain ⟨a, operation, b, rfl, rfl, rfl⟩ := history_cons_split handler h
  have ht := tracked_history handler world key
    fun op hop => hops op (List.mem_append_left _ hop)
  have hm := consistent_afterAll handler (s := ({}, world)) consistent_new a
  have hsame := changes_of_target hd.1 key
  rw [sinceChange_concat, hsame, visitsOf]
  simp only [Bool.false_eq_true, if_false, List.flatMap_append, List.flatMap_singleton]
  rcases (effect_record handler hm operation key).of_direct hd with ⟨-, hr⟩ | ⟨_, _, hr, hwalk⟩
  · rw [hout] at hr
    cases hr
  · rw [hout] at hr
    obtain rfl := Outcome.reply.inj hr
    exact ht.all_failed hd hwalk hi

theorem failover_safety (key : Key) (operations : List Operation)
    (hops : ∀ operation ∈ operations, operation ≠ .advance key) :
    let steps := history handler ({}, world) operations
    (∀ s ∈ steps, ∀ v ∈ s.visits key,
      (s.before.candidates key)[v.index]? = some v.contact.endpoint) ∧
    (∀ pre mid post, steps = pre ++ mid ++ post → (∀ s ∈ mid, s.changes key = false) →
      (visitsOf key mid).Pairwise fun v w => v.index ≤ w.index) ∧
    (∀ pre s post, steps = pre ++ s :: post → s.Direct key →
      (∃ l c, s.outcome = .reply (.error (.noAvailableServer l c))) →
      ∀ i < (s.before.candidates key).length,
        ∃ v ∈ visitsOf key (sinceChange key (pre ++ [s])),
          v.index = i ∧ (s.before.candidates key)[i]? = some v.contact.endpoint ∧
            v.contact.Failed) := by
  refine ⟨fun s hs v hv => listed_of_mem_history handler world key hs hv, ?_, ?_⟩
  · intro pre mid post h hmid
    exact sorted_of_history handler world hops h hmid
  · rintro pre s post h hd ⟨l, c, hout⟩ i hi
    exact all_failed_of_history handler world hops h hd hout hi

theorem failover_safety_nobody_listens :
    let key : Key := ⟨"c", .definition⟩
    let steps := history Memory.handle ({}, {})
      [.add key (.localhost 1), .add key (.localhost 2), .send key "a"]
    steps[2].outcome = .reply (.error (.noAvailableServer "c" .definition)) ∧
      ∀ i < 2, ∃ v ∈ visitsOf key (sinceChange key steps), v.index = i ∧ v.contact.Failed := by
  intro key steps
  have hout : steps[2].outcome = .reply (.error (.noAvailableServer "c" .definition)) := by cbv
  refine ⟨hout, fun i hi => ?_⟩
  obtain ⟨-, -, h⟩ := failover_safety Memory.handle {} key
    [.add key (.localhost 1), .add key (.localhost 2), .send key "a"] (by simp)
  obtain ⟨v, hv, hindex, -, hfailed⟩ := h [steps[0], steps[1]] steps[2] [] rfl (by decide)
    ⟨_, _, hout⟩ i hi
  exact ⟨v, hv, hindex, hfailed⟩

end Runs

end Tagwire.Manager
