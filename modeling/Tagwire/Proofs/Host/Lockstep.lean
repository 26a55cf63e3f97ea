import Mathlib
import Tagwire.Proofs.Host.Requests

/-! Programs that make the same exchanges as long as the outcomes are related. -/

namespace Tagwire.Program

variable {α β γ δ σ τ : Type} {E : Except IoFault String → Except IoFault String → Prop}
  {R : α → β → Prop} {S : γ → δ → Prop}

structure Contact.SameRequest (c d : Contact) : Prop where
  endpoint : c.endpoint = d.endpoint
  command : c.command = d.command
  timeouts : c.timeouts = d.timeouts

lemma Contact.SameRequest.eq {c d : Contact} (h : c.SameRequest d) (ho : c.outcome = d.outcome) :
    c = d := by
  obtain ⟨he, hc, ht⟩ := h
  cases c
  cases d
  simp_all

/-- Where two sequences of contacts ask the same at the same place, the outcomes are related. -/
def Concordant (E : Except IoFault String → Except IoFault String → Prop)
    (cs ds : List Contact) : Prop :=
  ∀ (j : Nat) (c d : Contact), cs[j]? = some c → ds[j]? = some d → c.SameRequest d →
    E c.outcome d.outcome

def Parallel (E : Except IoFault String → Except IoFault String → Prop)
    (cs ds : List Contact) : Prop :=
  List.Forall₂ (fun c d => c.SameRequest d ∧ E c.outcome d.outcome) cs ds

lemma Concordant.head {c d : Contact} {cs ds : List Contact}
    (h : Concordant E (c :: cs) (d :: ds)) (hcd : c.SameRequest d) : E c.outcome d.outcome :=
  h 0 c d rfl rfl hcd

lemma Concordant.tail {c d : Contact} {cs ds : List Contact}
    (h : Concordant E (c :: cs) (d :: ds)) : Concordant E cs ds := by
  intro j c' d' hc hd
  exact h (j + 1) c' d' hc hd

lemma Concordant.left {cs ds cs' ds' : List Contact}
    (h : Concordant E (cs ++ cs') (ds ++ ds')) : Concordant E cs ds := by
  intro j c d hc hd
  apply h j c d
  · rw [List.getElem?_append_left (List.getElem?_eq_some_iff.1 hc).1, hc]
  · rw [List.getElem?_append_left (List.getElem?_eq_some_iff.1 hd).1, hd]

lemma Concordant.right {cs ds cs' ds' : List Contact}
    (h : Concordant E (cs ++ cs') (ds ++ ds')) (hlen : cs.length = ds.length) :
    Concordant E cs' ds' := by
  intro j c d hc hd
  apply h (cs.length + j) c d
  · rw [List.getElem?_append_right (Nat.le_add_right _ _), Nat.add_sub_cancel_left, hc]
  · rw [hlen, List.getElem?_append_right (Nat.le_add_right _ _), Nat.add_sub_cancel_left, hd]

lemma concordant_of_map_eq {γ : Type} {f : Except IoFault String → γ} {cs ds : List Contact}
    (h : cs.map (fun c => f c.outcome) = ds.map (fun d => f d.outcome)) :
    Concordant (fun a b => f a = f b) cs ds := by
  intro j c d hc hd _
  have hj := congrArg (fun l => l[j]?) h
  simpa [hc, hd] using hj

lemma Parallel.eq {cs ds : List Contact} (h : Parallel (· = ·) cs ds) : cs = ds := by
  induction h with
  | nil => rfl
  | cons h _ ih => rw [h.1.eq h.2, ih]

inductive Lockstep (E : Except IoFault String → Except IoFault String → Prop) (R : α → β → Prop) :
    Program α → Program β → Prop
  | done {a : α} {b : β} (h : R a b) : Lockstep E R (.done a) (.done b)
  | exchange {endpoint : Endpoint} {command : String} {timeouts : Timeouts}
      {f : Except IoFault String → Program α} {g : Except IoFault String → Program β}
      (h : ∀ a b, E a b → Lockstep E R (f a) (g b)) :
      Lockstep E R (.ask (.exchange endpoint command timeouts) f)
        (.ask (.exchange endpoint command timeouts) g)
  | left {q : Request} {f : q.Answer → Program α} {p : Program β}
      (hq : Silent q) (h : ∀ a, Lockstep E R (f a) p) :
      Lockstep E R (.ask q f) p
  | right {q : Request} {p : Program α} {g : q.Answer → Program β}
      (hq : Silent q) (h : ∀ b, Lockstep E R p (g b)) :
      Lockstep E R p (.ask q g)

lemma Lockstep.both {q r : Request} {f : q.Answer → Program α} {g : r.Answer → Program β}
    (hq : Silent q)
    (hr : Silent r) (h : ∀ a b, Lockstep E R (f a) (g b)) :
    Lockstep E R (.ask q f) (.ask r g) := by
  apply Lockstep.left hq
  intro a
  apply Lockstep.right hr
  intro b
  exact h a b

lemma Lockstep.bind {p : Program α} {q : Program β} (h : Lockstep E R p q)
    {f : α → Program γ} {g : β → Program δ} (hfg : ∀ a b, R a b → Lockstep E S (f a) (g b)) :
    Lockstep E S (p.bind f) (q.bind g) := by
  induction h with
  | done h => exact hfg _ _ h
  | exchange _ ih => exact .exchange ih
  | left hq _ ih => exact .left hq ih
  | right hq _ ih => exact .right hq ih

lemma Lockstep.mono {R' : α → β → Prop} {p : Program α} {q : Program β} (h : Lockstep E R p q)
    (hR : ∀ a b, R a b → R' a b) : Lockstep E R' p q := by
  induction h with
  | done h => exact .done (hR _ _ h)
  | exchange _ ih => exact .exchange ih
  | left hq _ ih => exact .left hq ih
  | right hq _ ih => exact .right hq ih

lemma Lockstep.of_silent {p : Program α} {q : Program β} (hp : Asks Silent p)
    (hq : Asks Silent q) : Lockstep E (fun _ _ => True) p q := by
  induction hp with
  | done a =>
    induction hq with
    | done b => exact .done trivial
    | ask hr _ ih => exact .right hr ih
  | ask hr _ ih => exact .left hr ih

lemma contacts_append (a b : List Event) : contacts (a ++ b) = contacts a ++ contacts b :=
  List.filterMap_append

lemma contacts_ask_exchange (handler : Handler σ) {endpoint : Endpoint} {command : String}
    {timeouts : Timeouts} (next : Except IoFault String → Program α) (w : σ) :
    let q : Request := .exchange endpoint command timeouts
    contacts ((Program.ask q next).run handler w).events =
      ⟨endpoint, command, timeouts, (handler q w).1⟩ ::
        contacts ((next (handler q w).1).run handler (handler q w).2).events := by
  rfl

lemma contacts_ask_of_none (handler : Handler σ) {q : Request} (next : q.Answer → Program α) (w : σ)
    (hq : Silent q) :
    contacts ((Program.ask q next).run handler w).events =
      contacts ((next (handler q w).1).run handler (handler q w).2).events := by
  have hnone : Event.contact? ⟨q, (handler q w).1⟩ = none := hq _
  simp [Program.run, contacts, hnone]

lemma Lockstep.run {p : Program α} {q : Program β} (h : Lockstep E R p q) (handler : Handler σ)
    (handler' : Handler τ) (w : σ) (v : τ)
    (hE : Concordant E (contacts (p.run handler w).events) (contacts (q.run handler' v).events)) :
    R (p.run handler w).result (q.run handler' v).result ∧
      Parallel E (contacts (p.run handler w).events) (contacts (q.run handler' v).events) := by
  induction h generalizing w v with
  | done h => exact ⟨h, .nil⟩
  | exchange _ ih =>
    rw [contacts_ask_exchange, contacts_ask_exchange] at hE ⊢
    have ho := hE.head ⟨rfl, rfl, rfl⟩
    obtain ⟨hR, hrest⟩ := ih _ _ ho _ _ hE.tail
    exact ⟨hR, .cons ⟨⟨rfl, rfl, rfl⟩, ho⟩ hrest⟩
  | left hq _ ih =>
    rw [contacts_ask_of_none handler _ _ hq] at hE ⊢
    exact ih _ _ _ hE
  | right hq _ ih =>
    rw [contacts_ask_of_none handler' _ _ hq] at hE ⊢
    exact ih _ _ _ hE

end Tagwire.Program
