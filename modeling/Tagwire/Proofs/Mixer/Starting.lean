import Mathlib
import Tagwire.Mixer
import Tagwire.Proofs.Host.Lockstep

namespace Tagwire

/-- A start of the mixer that does not take over from a running one. -/
def Request.isStart : Request → Bool
  | .launch _ arguments => !arguments.contains "--replace"
  | _ => false

namespace Program

def starts (events : List Event) : Nat :=
  events.countP fun e => e.request.isStart

lemma starts_append (a b : List Event) : starts (a ++ b) = starts a + starts b :=
  List.countP_append

lemma starts_eq_zero {σ α : Type} {p : Program α} (h : Asks (fun q => q.isStart = false) p)
    (handler : Handler σ) (w : σ) : starts (p.run handler w).events = 0 := by
  apply List.countP_eq_zero.2
  intro e he
  simp [h.events handler w e he]

end Program

namespace Mixer

open Program

section Requests

variable {P : Request → Prop} (x : Mixer)

lemma program_asks (hwhich : ∀ name, P (.which name)) : Asks P x.program := by
  unfold program
  split
  · exact .done _
  · exact .ask (hwhich _) fun _ => .done _

lemma start_asks (extra : List String) (hwhich : ∀ name, P (.which name))
    (hlaunch : ∀ program, P (.launch program (x.portArgument :: extra))) :
    Asks P (x.start extra) := by
  refine (x.program_asks hwhich).bind fun program => .ask (hlaunch program) ?_
  rintro (fault | ok) <;> exact .done _

lemma ensureLaunched_asks (hwhich : ∀ name, P (.which name))
    (hlaunch : ∀ program arguments, P (.launch program arguments))
    (hpause : ∀ milliseconds, P (.pause milliseconds)) : Asks P x.ensureLaunched := by
  unfold ensureLaunched
  split
  · exact .done _
  · refine (x.start_asks [] hwhich fun program => hlaunch program _).bind ?_
    rintro (e | ok)
    · exact .done _
    · exact .ask (hpause _) fun _ => .done _

lemma start_silent (extra : List String) : Asks Silent (x.start extra) :=
  x.start_asks extra (fun _ _ => rfl) fun _ _ => rfl

end Requests

section Runs

variable {σ : Type} (handler : Handler σ) (x : Mixer) (w : σ)

lemma contacts_ensureLaunched : contacts (x.ensureLaunched.run handler w).events = [] :=
  (x.ensureLaunched_asks (P := Silent) (fun _ _ => rfl) (fun _ _ _ => rfl)
    fun _ _ => rfl).contacts_eq_nil handler w

lemma ensureLaunched_settings : (x.ensureLaunched.run handler w).result.settings = x.settings := by
  unfold ensureLaunched
  split
  · rfl
  · simp only [bind_eq, run_bind]
    cases ((x.start []).run handler w).result <;> rfl

lemma portArgument_ne_replace : x.portArgument ≠ "--replace" := by
  intro h
  have hchars := congrArg String.toList h
  simp [portArgument] at hchars

lemma starts_start : starts ((x.start []).run handler w).events = 1 := by
  have hlookup := starts_eq_zero (x.program_asks fun _ => rfl) handler w
  have hlaunch (program : String) :
      (Request.launch program [x.portArgument]).isStart = true := by
    simp [Request.isStart, x.portArgument_ne_replace.symm]
  simp only [start, bind_eq, run_bind, starts_append, hlookup, Nat.zero_add]
  simp only [request, run]
  split <;> simp [starts, hlaunch]

lemma ensureLaunched_run :
    let r := x.ensureLaunched.run handler w
    r.result.launched = true ∧ r.result.attempts = x.attempts + .ofNat (starts r.events) ∧
      starts r.events = if x.launched then 0 else 1 := by
  unfold ensureLaunched
  cases hx : x.launched with
  | true => exact ⟨hx, (UInt32.add_zero _).symm, rfl⟩
  | false =>
    have hstart := x.starts_start handler w
    simp only [Bool.false_eq_true, if_false, bind_eq, run_bind, starts_append, hstart]
    cases ((x.start []).run handler w).result with
    | error e => exact ⟨rfl, rfl, rfl⟩
    | ok => exact ⟨rfl, rfl, rfl⟩

lemma restart_run :
    let r := x.restart.run handler w
    starts r.events = 0 ∧ ((∃ e, r.result = (.error e, x)) ∨
      r.result = (.ok (), { x with launched := true })) := by
  have hstart := starts_eq_zero
    (x.start_asks ["--replace"] (fun _ => rfl) fun _ => by simp [Request.isStart])
    handler w
  simp only [restart, bind_eq, run_bind, starts_append, hstart]
  cases ((x.start ["--replace"]).run handler w).result with
  | error e => exact ⟨rfl, .inl ⟨e, rfl⟩⟩
  | ok => exact ⟨rfl, .inr rfl⟩

end Runs

section Beside

variable {E : Except IoFault String → Except IoFault String → Prop}

lemma ensureLaunched_beside (x : Mixer) :
    Lockstep E (· = ·) x.ensureLaunched x.ensureLaunched := by
  unfold ensureLaunched
  split
  · exact .done rfl
  · -- a start that fails is not followed by a pause, and nothing else depends on it
    refine (Lockstep.of_silent (x.start_silent []) (x.start_silent [])).bind fun a b _ => ?_
    cases a <;> cases b
    · exact .done rfl
    · exact .right (fun _ => rfl) fun _ => .done rfl
    · exact .left (fun _ => rfl) fun _ => .done rfl
    · exact .both (fun _ => rfl) (fun _ => rfl) fun _ _ => .done rfl

lemma restart_beside (x y : Mixer) :
    Lockstep E (fun r s => r.2.settings = x.settings ∧ s.2.settings = y.settings)
      x.restart y.restart := by
  refine (Lockstep.of_silent (x.start_silent _) (y.start_silent _)).bind fun a b _ => ?_
  cases a <;> cases b
  · exact .done ⟨rfl, rfl⟩
  · exact .right (fun _ => rfl) fun _ => .done ⟨rfl, rfl⟩
  · exact .left (fun _ => rfl) fun _ => .done ⟨rfl, rfl⟩
  · exact .both (fun _ => rfl) (fun _ => rfl) fun _ _ => .done ⟨rfl, rfl⟩

end Beside

end Mixer

end Tagwire
