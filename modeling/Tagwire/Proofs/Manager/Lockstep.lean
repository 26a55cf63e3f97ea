import Mathlib
import Tagwire.Proofs.Manager.Walk
import Tagwire.Proofs.Mixer.Starting

namespace Tagwire.Manager

open Program

variable {E : Except IoFault String → Except IoFault String → Prop} {m n : Manager} {key : Key}

def TellsFailures (E : Except IoFault String → Except IoFault String → Prop) : Prop :=
  ∀ a b, E a b → a.isOk = b.isOk

inductive Alike (E : Except IoFault String → Except IoFault String → Prop) :
    Except TagError String → Except TagError String → Prop
  | replied {r s : String} (h : E (.ok r) (.ok s)) : Alike E (.ok r) (.ok s)
  | failed (e : TagError) : Alike E (.error e) (.error e)

lemma Alike.eq {r s : Except TagError String} (h : Alike (· = ·) r s) : r = s := by
  cases h with
  | replied h =>
    cases h
    rfl
  | failed e => rfl

lemma unmoved_beside (hcur : m.cursors key = n.cursors key) (found : Except TagError Endpoint) :
    ∃ result cursor, (found, m) = (result, m.setCursor key cursor) ∧
      (found, n) = (result, n.setCursor key cursor) := by
  refine ⟨found, n.cursors key, ?_, ?_⟩
  · rw [← hcur, setCursor_self]
  · rw [setCursor_self]

lemma advance_beside (hcand : m.candidates key = n.candidates key)
    (hcur : m.cursors key = n.cursors key) :
    ∃ result cursor, m.advance key = (result, m.setCursor key cursor) ∧
      n.advance key = (result, n.setCursor key cursor) := by
  unfold advance
  rw [hcand, hcur]
  split
  · exact unmoved_beside hcur _
  · split
    · exact unmoved_beside hcur _
    · exact ⟨_, _, rfl, rfl⟩

lemma select_beside (hcand : m.candidates key = n.candidates key)
    (hcur : m.cursors key = n.cursors key) :
    ∃ result cursor, m.select key = (result, m.setCursor key cursor) ∧
      n.select key = (result, n.setCursor key cursor) := by
  unfold select
  rw [hcur]
  split
  · exact unmoved_beside hcur _
  · exact advance_beside hcand hcur

lemma sendDirect_beside (hE : TellsFailures E) (command : String) (timeouts : Timeouts)
    (hcand : m.candidates key = n.candidates key) (hcur : m.cursors key = n.cursors key) :
    Lockstep E (fun r s => Alike E r.1 s.1 ∧
        ∃ cursor, r.2 = m.setCursor key cursor ∧ s.2 = n.setCursor key cursor)
      (m.sendDirect key command timeouts) (n.sendDirect key command timeouts) := by
  -- on the number of candidates not handed out: a failure that is not the last one uses up one
  induction hu : m.untried key using Nat.strong_induction_on generalizing m n with
  | _ u ih =>
    subst hu
    obtain ⟨result, cursor, hm, hn⟩ := select_beside hcand hcur
    cases result with
    | error e =>
      rw [sendDirect_of_error hm, sendDirect_of_error hn]
      exact .done ⟨.failed e, cursor, rfl, rfl⟩
    | ok endpoint =>
      rw [sendDirect_of_ok hm, sendDirect_of_ok hn]
      apply Lockstep.exchange
      intro a b hab
      cases a with
      | ok reply =>
        cases b with
        | ok reply' => exact .done ⟨.replied hab, cursor, rfl, rfl⟩
        | error => cases hE _ _ hab
      | error fault =>
        cases b with
        | ok reply' => cases hE _ _ hab
        | error fault' =>
          have hcand' : (m.setCursor key cursor).candidates key =
              (n.setCursor key cursor).candidates key := hcand
          have hcur' : (m.setCursor key cursor).cursors key =
              (n.setCursor key cursor).cursors key := by simp
          obtain ⟨next, cursor', hm', hn'⟩ := advance_beside hcand' hcur'
          simp only [setCursor_setCursor] at hm' hn'
          cases next with
          | error e =>
            simp only [hm', hn']
            exact .done ⟨.failed e, cursor', rfl, rfl⟩
          | ok endpoint' =>
            simp only [hm', hn']
            have hlt := Nat.lt_of_lt_of_le (untried_advance_lt hm') (untried_select_le hm)
            have hrest := @ih _ hlt (m.setCursor key cursor') (n.setCursor key cursor')
              hcand (by simp) rfl
            simpa only [setCursor_setCursor] using hrest

lemma sendRetrying_beside (hE : TellsFailures E) (endpoint : Endpoint) (command : String)
    (timeouts : Timeouts) (pause retries : Nat) :
    Lockstep E (fun _ _ => True)
      (sendRetrying endpoint command timeouts pause retries)
      (sendRetrying endpoint command timeouts pause retries) := by
  induction retries with
  | zero =>
    apply Lockstep.exchange
    intro a b _
    cases a <;> cases b <;> exact .done trivial
  | succ retries ih =>
    apply Lockstep.exchange
    intro a b hab
    have hok := hE a b hab
    cases a <;> cases b
    · exact .both (fun _ => rfl) (fun _ => rfl) fun _ _ => ih
    · cases hok
    · cases hok
    · exact .done trivial

lemma sendMixer_beside (hE : TellsFailures E) (m : Manager) (command : String)
    (timeouts : Timeouts) :
    Lockstep E (fun r s => r.2 = s.2) (m.sendMixer command timeouts)
      (m.sendMixer command timeouts) := by
  unfold sendMixer
  refine m.mixer.ensureLaunched_beside.bind ?_
  rintro mixer _ rfl
  refine (sendRetrying_beside hE _ command timeouts _ _).bind ?_
  intro r s _
  exact .done rfl

lemma sendProxy_beside (m : Manager) (proxy : Endpoint) (key : Key)
    (command : String) (timeouts : Timeouts) :
    Lockstep E (fun r s => r.2 = s.2) (m.sendProxy proxy key command timeouts)
      (m.sendProxy proxy key command timeouts) := by
  apply Lockstep.exchange
  intro a b _
  cases a <;> cases b <;> exact .done rfl

lemma sendWithTimeouts_beside (hE : TellsFailures E) (m : Manager) (key : Key) (command : String)
    (timeouts : Timeouts) :
    Lockstep E (fun r s => r.2 = s.2) (m.sendWithTimeouts key command timeouts)
      (m.sendWithTimeouts key command timeouts) := by
  unfold sendWithTimeouts
  cases m.route with
  | direct =>
    apply (sendDirect_beside hE command timeouts rfl rfl).mono
    rintro r s ⟨-, cursor, hr, hs⟩
    rw [hr, hs]
  | proxy endpoint => exact sendProxy_beside m endpoint key command timeouts
  | mixer => exact sendMixer_beside hE m command timeouts

end Tagwire.Manager
