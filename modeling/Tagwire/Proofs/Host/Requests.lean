import Mathlib
import Tagwire.Host.Program

namespace Tagwire.Program

variable {α β σ : Type} {P : Request → Prop}

inductive Asks (P : Request → Prop) : Program α → Prop
  | done (a : α) : Asks P (.done a)
  | ask {q : Request} {next : q.Answer → Program α} (hq : P q)
      (h : ∀ answer, Asks P (next answer)) : Asks P (.ask q next)

lemma Asks.mono {Q : Request → Prop} {p : Program α} (h : Asks P p) (hPQ : ∀ q, P q → Q q) :
    Asks Q p := by
  induction h with
  | done a => exact .done a
  | ask hq _ ih => exact .ask (hPQ _ hq) ih

lemma Asks.bind {p : Program α} {f : α → Program β} (h : Asks P p) (hf : ∀ a, Asks P (f a)) :
    Asks P (p.bind f) := by
  induction h with
  | done a => exact hf a
  | ask hq _ ih => exact .ask hq ih

lemma Asks.events {p : Program α} (h : Asks P p) (handler : Handler σ) (w : σ) :
    ∀ e ∈ (p.run handler w).events, P e.request := by
  induction h generalizing w with
  | done a => simp
  | ask hq _ ih =>
    intro e he
    rcases List.mem_cons.1 he with rfl | hrest
    · exact hq
    · exact ih _ _ e hrest

lemma Asks.keeps {I : σ → Prop} {p : Program α} (h : Asks P p) {handler : Handler σ}
    (hstep : ∀ q w, P q → I w → I (handler q w).2) {w : σ} (hw : I w) :
    I (p.run handler w).world := by
  induction h generalizing w with
  | done a => exact hw
  | ask hq _ ih => exact ih _ (hstep _ _ hq hw)

def Silent (q : Request) : Prop :=
  ∀ answer, Event.contact? ⟨q, answer⟩ = none

lemma Asks.contacts_eq_nil {p : Program α} (h : Asks Silent p) (handler : Handler σ) (w : σ) :
    contacts (p.run handler w).events = [] :=
  List.filterMap_eq_nil_iff.2 fun e he => h.events handler w e he e.answer

def Sends (command : String) (timeouts : Timeouts) (q : Request) : Prop :=
  ∃ endpoint, q = .exchange endpoint command timeouts

lemma Asks.contacts {command : String} {timeouts : Timeouts} {p : Program α}
    (h : Asks (Sends command timeouts) p) (handler : Handler σ) (w : σ) :
    ∀ c ∈ contacts (p.run handler w).events, c.command = command ∧ c.timeouts = timeouts := by
  intro c hc
  obtain ⟨⟨q, answer⟩, he, hcontact⟩ := List.mem_filterMap.1 hc
  obtain ⟨endpoint, hq⟩ := h.events handler w _ he
  change q = _ at hq
  subst hq
  obtain rfl := Option.some.inj hcontact
  exact ⟨rfl, rfl⟩

end Tagwire.Program
