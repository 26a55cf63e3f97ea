import Mathlib
import Tagwire.Client
import Tagwire.Host.Memory
import Tagwire.Proofs.Manager.Answered
import Tagwire.Proofs.Manager.Lockstep

/-! Only the pattern of failed exchanges decides which endpoints a session contacts. -/

namespace Tagwire.Client

open Program Manager

structure Turn where
  before : Client
  key : Key
  query : Query
  answer : Except TagError Query.Answer
  contacts : List Contact
  after : Client

def limits (c : Client) (q : Query) : Timeouts :=
  if q.isUnbounded then { c.manager.timeouts with data := none } else c.manager.timeouts

lemma query_eq (c : Client) (key : Key) (q : Query) :
    c.query key q =
      (c.manager.sendWithTimeouts key (c.command q.kind q.params key).text (c.limits q)).bind
        fun r => .done (r.1.bind (c.decode q), { c with manager := r.2 }) := by
  unfold query limits
  cases q.isUnbounded with
  | true => simp [sendUnbounded, sendWithin, Program.bind_assoc]
  | false => simp [sendRaw, send, Program.bind_assoc]

lemma query_beside {E : Except IoFault String → Except IoFault String → Prop}
    (hE : TellsFailures E) (c : Client) (key : Key) (q : Query) :
    Lockstep E (fun r s => r.2 = s.2) (c.query key q) (c.query key q) := by
  rw [query_eq]
  apply (sendWithTimeouts_beside hE c.manager key _ (c.limits q)).bind
  intro r s h
  apply Lockstep.done
  simp only [h]

section Sessions

variable {σ τ : Type} (handler : Handler σ) (handler' : Handler τ)

def turn (s : Client × σ) (key : Key) (q : Query) : Turn :=
  let r := (s.1.query key q).run handler s.2
  ⟨s.1, key, q, r.result.1, contacts r.events, r.result.2⟩

def session (s : Client × σ) : List (Key × Query) → List Turn
  | [] => []
  | (key, q) :: rest =>
    turn handler s key q ::
      session ((turn handler s key q).after, ((s.1.query key q).run handler s.2).world) rest

lemma turn_beside (c : Client) (key : Key) (q : Query) (world : σ) (world' : τ)
    (hE : Concordant (fun a b => a.isOk = b.isOk) (turn handler (c, world) key q).contacts
      (turn handler' (c, world') key q).contacts) :
    (turn handler (c, world) key q).after = (turn handler' (c, world') key q).after ∧
      Parallel (fun a b => a.isOk = b.isOk) (turn handler (c, world) key q).contacts
        (turn handler' (c, world') key q).contacts :=
  (query_beside (fun _ _ h => h) c key q).run handler handler' world world' hE

lemma session_beside (c : Client) (queries : List (Key × Query)) (world : σ) (world' : τ)
    (hE : Concordant (fun a b => a.isOk = b.isOk)
      ((session handler (c, world) queries).flatMap (·.contacts))
      ((session handler' (c, world') queries).flatMap (·.contacts))) :
    List.Forall₂ (fun t t' => List.Forall₂ Contact.SameRequest t.contacts t'.contacts ∧
        t.after = t'.after)
      (session handler (c, world) queries) (session handler' (c, world') queries) := by
  induction queries generalizing c world world' with
  | nil => exact .nil
  | cons ask queries ih =>
    obtain ⟨key, q⟩ := ask
    simp only [session, List.flatMap_cons] at hE ⊢
    obtain ⟨hafter, hcontacts⟩ := turn_beside handler handler' c key q world world' hE.left
    have hrest := hE.right hcontacts.length_eq
    rw [← hafter] at hrest ⊢
    exact .cons ⟨hcontacts.imp fun _ _ h => h.1, hafter⟩ (ih _ _ _ hrest)

lemma turn_of_decode_error (s : Client × σ) (key : Key) (q : Query) {e : TagError}
    (h : (turn handler s key q).answer = .error e) (he : e.isTransport = false) :
    ∃ reply failed last, Answered (turn handler s key q).contacts reply failed last ∧
      s.1.decode q reply = .error e ∧
      (turn handler s key q).after.manager.candidates = s.1.manager.candidates ∧
      (turn handler s key q).after.manager.cursors =
        s.1.manager.cursorsAfter key failed last := by
  simp only [turn, query_eq, run_bind, run_done, List.append_nil] at h ⊢
  rcases sendWithTimeouts_ends handler s.1.manager key (s.1.command q.kind q.params key).text
      (s.1.limits q) s.2 with ⟨e', hr, he'⟩ | ⟨reply, failed, last, hr, hcs, hleft⟩
  · rw [hr] at h
    cases h
    rw [he] at he'
    cases he'
  · rw [hr] at h
    exact ⟨reply, failed, last, hcs, h, hleft⟩

lemma mem_session {s : Client × σ} {queries : List (Key × Query)} {t : Turn}
    (h : t ∈ session handler s queries) : ∃ s' key q, t = turn handler s' key q := by
  induction queries generalizing s with
  | nil => cases h
  | cons ask queries ih =>
    rcases List.mem_cons.1 h with rfl | hrest
    · exact ⟨s, _, _, rfl⟩
    · exact ih hrest

theorem routing_ignores_replies (c : Client) (queries : List (Key × Query)) (world : σ)
    (world' : τ) :
    let turns := session handler (c, world) queries
    let turns' := session handler' (c, world') queries
    Concordant (fun a b => a.isOk = b.isOk) (turns.flatMap (·.contacts))
        (turns'.flatMap (·.contacts)) →
      List.Forall₂ (fun t t' => List.Forall₂ Contact.SameRequest t.contacts t'.contacts ∧
          t.after = t'.after) turns turns' ∧
        ∀ t ∈ turns, ∀ e, t.answer = .error e → e.isTransport = false →
          ∃ reply failed last, Answered t.contacts reply failed last ∧
            t.before.decode t.query reply = .error e ∧
            t.after.manager.candidates = t.before.manager.candidates ∧
            t.after.manager.cursors = t.before.manager.cursorsAfter t.key failed last := by
  intro turns turns' hE
  refine ⟨session_beside handler handler' c queries world world' hE, ?_⟩
  intro t ht e hanswer he
  obtain ⟨s, key, q, rfl⟩ := mem_session handler ht
  exact turn_of_decode_error handler s key q hanswer he

end Sessions

def answering (port : UInt16) (reply : String) : Handler Memory
  | .exchange endpoint _ _, m =>
    (if endpoint.port = port then .ok reply else .error .refused, m)
  | q, m => Memory.handle q m

theorem routing_ignores_replies_malformed :
    let key : Key := ⟨"c", .definition⟩
    let c : Client := { manager := (Manager.add {} key (.localhost 1)).add key (.localhost 2) }
    let queries : List (Key × Query) := [(key, .exact "f"), (key, .ping)]
    let turns := session (answering 2 "x") (c, {}) queries
    let turns' := session (answering 2 "((value nil))") (c, {}) queries
    List.Forall₂ (fun t t' => List.Forall₂ Contact.SameRequest t.contacts t'.contacts ∧
        t.after = t'.after) turns turns' ∧
      ∃ reply failed last, Answered turns[0].contacts reply failed last ∧
        turns[0].after.manager.cursors = c.manager.cursorsAfter key failed last := by
  intro key c queries
  have hpattern (reply : String) : ((session (answering 2 reply) (c, {}) queries).flatMap
      (·.contacts)).map (fun c => c.outcome.isOk) = [false, true, true] := by
    simp only [queries, session, turn, query_eq, run_bind, run_done, List.flatMap_cons,
      List.flatMap_nil]
    cbv
  have hanswer : (turn (answering 2 "x") (c, {}) key (.exact "f")).answer =
      .error (.violation (.alist (.notAList (.symbol "x")))) := by cbv
  obtain ⟨hsame, herror⟩ := routing_ignores_replies (answering 2 "x")
    (answering 2 "((value nil))") c queries {} {}
    (concordant_of_map_eq ((hpattern _).trans (hpattern _).symm))
  obtain ⟨reply, failed, last, hcs, -, -, hcur⟩ := herror _ List.mem_cons_self _ hanswer rfl
  exact ⟨hsame, reply, failed, last, hcs, hcur⟩

end Tagwire.Client
