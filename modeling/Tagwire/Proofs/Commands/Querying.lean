import Mathlib
import Tagwire.Commands
import Tagwire.Host.Memory
import Tagwire.Proofs.Client.Routing
import Tagwire.Proofs.Context.Candidates
import Tagwire.Proofs.Manager.DirectSend

namespace Tagwire

open Program (Contact Handler Run contacts)

def Key.unserved (key : Key) (endpoints : List Endpoint) : TagError :=
  if endpoints = [] then .noConfiguredServers key.language key.callType
  else .noAvailableServer key.language key.callType

namespace Manager

def Fresh (m : Manager) : Prop :=
  ∀ key, m.cursors key = {}

lemma Fresh.consistent {m : Manager} (h : m.Fresh) : m.Consistent :=
  fun key => (h key).symm ▸ .fresh

lemma Fresh.add {m : Manager} (h : m.Fresh) (key : Key) (endpoint : Endpoint) :
    (m.add key endpoint).Fresh := by
  intro k
  by_cases hk : k = key
  · simp [Manager.add, replaceList, hk]
  · exact (setCursor_cursors_of_ne _ _ hk).trans (h k)

section Registering

variable {α : Type} (key : α → Key) (endpoint : α → Endpoint)

lemma Fresh.foldl_add (xs : List α) {m : Manager} (h : m.Fresh) :
    (xs.foldl (fun m x => m.add (key x) (endpoint x)) m).Fresh := by
  induction xs generalizing m with
  | nil => exact h
  | cons x xs ih => exact ih (h.add (key x) (endpoint x))

lemma foldl_add_settings (xs : List α) (m : Manager) :
    let registered := xs.foldl (fun m x => m.add (key x) (endpoint x)) m
    registered.proxy = m.proxy ∧ registered.mixer = m.mixer := by
  induction xs generalizing m with
  | nil => exact ⟨rfl, rfl⟩
  | cons x xs ih => exact ih (m.add (key x) (endpoint x))

end Registering

lemma sendWithTimeouts_direct {m : Manager} (hproxy : m.proxy = none)
    (hmixer : m.mixer.settings.enabled = false) (key : Key) (command : String)
    (timeouts : Timeouts) :
    m.sendWithTimeouts key command timeouts = m.sendDirect key command timeouts := by
  have hroute : m.route = .direct := by simp [route, hproxy, hmixer]
  rw [sendWithTimeouts, hroute]

lemma SentDirectly.of_all_failed {m left : Manager} {key : Key} {command : String}
    {timeouts : Timeouts} {cs : List Contact} {result : Except TagError String}
    (h : m.SentDirectly key command timeouts cs result left) (hfresh : m.Fresh)
    (hall : ∀ c ∈ cs, c.Failed) :
    cs.map (·.endpoint) = m.candidates key ∧
      result = .error (key.unserved (m.candidates key)) := by
  unfold Key.unserved
  by_cases hnil : m.candidates key = []
  · obtain ⟨rfl, rfl, -⟩ := h.unconfigured hnil
    rw [if_pos hnil, hnil]
    exact ⟨rfl, rfl⟩
  · obtain ⟨cursor, hdescent, -⟩ := h.configured hnil
    rw [hfresh key] at hdescent
    rw [if_neg hnil]
    cases hdescent with
    | answered _ _ _ ha =>
      obtain ⟨fault, hfault⟩ := hall _ (ha.eq ▸ List.mem_append_right _ List.mem_cons_self)
      rw [ha.outcome] at hfault
      cases hfault
    | exhausted _ hcs _ => exact ⟨hcs, rfl⟩

end Manager

namespace Context

variable {config : Config} {g : Globals} {environment : Environment} {context : Context}

structure Overrides (config : Config) (g : Globals) (context : Context) : Prop where
  servers : g.servers.mapM Endpoint.read = .ok context.servers
  proxy : g.proxy.mapM Endpoint.read = .ok context.proxy
  mixer : context.mixer = g.mixer
  config : context.config = { config with corpus := g.corpus.getD config.corpus }

lemma overrides_of_ofGlobals (h : ofGlobals config g = .ok context) :
    Overrides config g context := by
  unfold ofGlobals at h
  cases hservers : g.servers.mapM Endpoint.read with
  | error e =>
    rw [hservers] at h
    cases h
  | ok servers =>
    cases hproxy : g.proxy.mapM Endpoint.read with
    | error e =>
      rw [hservers, hproxy] at h
      cases h
    | ok proxy =>
      rw [hservers, hproxy] at h
      cases h
      exact ⟨hservers, hproxy, rfl, rfl⟩

lemma mapM_read {texts : List String} {endpoints : List Endpoint}
    (h : List.Forall₂ (fun text e => Endpoint.read text = .ok e) texts endpoints) :
    texts.mapM Endpoint.read = .ok endpoints := by
  induction h with
  | nil => rfl
  | cons hread _ ih =>
    rw [List.mapM_cons, hread, ih]
    rfl

lemma exists_ofGlobals {endpoints : List Endpoint}
    (hservers : List.Forall₂ (fun text e => Endpoint.read text = .ok e) g.servers endpoints)
    (hgiven : ∀ text, g.proxy = some text → ∃ e, Endpoint.read text = .ok e) :
    ∃ context, ofGlobals config g = .ok context := by
  obtain ⟨proxy, hproxy⟩ : ∃ proxy, g.proxy.mapM Endpoint.read = .ok proxy := by
    cases hp : g.proxy with
    | none => exact ⟨none, rfl⟩
    | some text =>
      obtain ⟨e, he⟩ := hgiven text hp
      exact ⟨some e, by rw [Option.mapM_some, he]; rfl⟩
  obtain ⟨context, hcontext, -⟩ := ofGlobals_eq config (mapM_read hservers) hproxy
  exact ⟨context, hcontext⟩

lemma client_fresh {client : Client} {configured : Option Endpoint}
    (hconfigured : context.config.effectiveProxy environment.proxy = .ok configured)
    (h : context.client environment = .ok client) :
    client.manager.Fresh ∧ client.manager.proxy = context.proxy.or configured ∧
      client.manager.mixer.settings.enabled = (context.mixer || context.config.mixer.enabled) := by
  have hregistered (m : Manager) (hm : m.Fresh) :
      let registered := context.servers.foldl (fun m e => m.add context.key e)
        (Config.addServers m context.config.servers)
      registered.Fresh ∧ registered.proxy = m.proxy ∧ registered.mixer = m.mixer := by
    have hconfig := Manager.foldl_add_settings Config.Server.key Config.Server.endpoint
      context.config.servers m
    have hgiven := Manager.foldl_add_settings (fun _ => context.key) id context.servers
      (Config.addServers m context.config.servers)
    exact ⟨(hm.foldl_add _ _ _).foldl_add (fun _ => context.key) id _,
      hgiven.1.trans hconfig.1, hgiven.2.trans hconfig.2⟩
  simp only [Context.client, Config.client, Config.configure, hconfigured, bind,
    Except.bind, pure, Except.pure] at h
  cases h
  obtain ⟨hfresh, hproxy, hmixer⟩ := hregistered
    { timeouts := context.config.limits.timeouts
      mixer := Mixer.setSettings {} context.config.mixer, proxy := configured } fun _ => rfl
  have heither := congrArg (context.proxy.or ·) hproxy
  cases context.mixer with
  | false => exact ⟨hfresh, heither, congrArg (fun x => x.settings.enabled) hmixer⟩
  | true => exact ⟨hfresh, heither, rfl⟩

end Context

def Action.query? : Action → Option Query
  | .lookup tag mode _ _ => some (mode.query tag)
  | .file path => some (.inFile path)
  | .ping => some .ping
  | .reload path => some (.reload path)
  | .update path => some (.update path)
  | .restartMixer | .ports | .resolve .. | .convert .. | .inspect _ | .callgraph .. => none

section Runs

variable {σ : Type} (handler : Handler σ)

/-- A run of a command that no server of the key has answered: all of them were asked in their
order, and the error says whether there were any. -/
structure Unanswered {α : Type} (key : Key) (endpoints : List Endpoint)
    (r : Run σ (Except TagError α)) : Prop where
  contacted : (contacts r.events).map (·.endpoint) = endpoints
  unconfigured : r.result = .error (.noConfiguredServers key.language key.callType) ↔ endpoints = []
  unavailable : endpoints ≠ [] → r.result = .error (.noAvailableServer key.language key.callType)

lemma Attempt.run_query (client : Client) (key : Key) (q : Query) (w : σ) :
    (Attempt.query client key q).run.run handler w =
      let r := (client.query key q).run handler w
      ⟨r.result.1, r.world, r.events⟩ := by
  change ((client.query key q).bind _).run handler w = _
  simp [Program.run_bind]

lemma Attempt.run_bind {α β : Type} (p : Attempt α) (f : α → Attempt β) (w : σ) :
    (p >>= f).run.run handler w =
      let r := p.run.run handler w
      match r.result with
      | .ok a =>
        let s := (f a).run.run handler r.world
        { s with events := r.events ++ s.events }
      | .error e => ⟨.error e, r.world, r.events⟩ := by
  rw [ExceptT.run_bind, Program.bind_eq, Program.run_bind]
  generalize p.run.run handler w = r
  obtain ⟨e | a, world, events⟩ := r
  · simp
  · rfl

lemma Unanswered.of_error {α : Type} {key : Key} {endpoints : List Endpoint}
    {r : Run σ (Except TagError α)} (hcontacted : (contacts r.events).map (·.endpoint) = endpoints)
    (hresult : r.result = .error (key.unserved endpoints)) : Unanswered key endpoints r := by
  rw [Key.unserved] at hresult
  refine ⟨hcontacted, ?_, fun hne => by rw [hresult, if_neg hne]⟩
  rw [hresult]
  by_cases hnil : endpoints = [] <;> simp [hnil]

section Unserved

variable {client : Client} (hfresh : client.manager.Fresh) (hproxy : client.manager.proxy = none)
  (hmixer : client.manager.mixer.settings.enabled = false) (key : Key) (q : Query)
include hfresh hproxy hmixer

lemma Client.query_unanswered (w : σ) :
    let r := (client.query key q).run handler w
    (∀ c ∈ contacts r.events, c.Failed) →
      (contacts r.events).map (·.endpoint) = client.manager.candidates key ∧
        r.result.1 = .error (key.unserved (client.manager.candidates key)) := by
  simp only [query_eq, Manager.sendWithTimeouts_direct hproxy hmixer, Program.run_bind,
    Program.run_done, List.append_nil]
  intro hall
  obtain ⟨hcontacted, hresult⟩ := (Manager.sendDirect_sent handler hfresh.consistent key
    (client.command q.kind q.params key).text (client.limits q) w).of_all_failed hfresh hall
  refine ⟨hcontacted, ?_⟩
  rw [hresult]
  rfl

lemma Attempt.query_unanswered (f : Query.Answer → Attempt String) (w : σ) :
    let r := (Attempt.query client key q >>= f).run.run handler w
    (∀ c ∈ contacts r.events, c.Failed) →
      Unanswered key (client.manager.candidates key) r := by
  have hquery := Client.query_unanswered handler hfresh hproxy hmixer key q w
  simp only [run_bind, run_query] at hquery ⊢
  generalize (client.query key q).run handler w = r at hquery ⊢
  intro hall
  obtain ⟨⟨e | answer, left⟩, world, events⟩ := r
  · obtain ⟨hcontacted, hresult⟩ := hquery hall
    exact .of_error hcontacted (congrArg Except.error (Except.error.inj hresult))
  · -- with an answer to go on with, one of the exchanges has not failed
    simp only [Program.contacts_append, List.forall_mem_append] at hall
    cases (hquery hall.1).2

end Unserved

end Runs

namespace Commands

def unreachable : Handler Memory
  | .exchange .., m => (.error .refused, m)
  | q, m => Memory.handle q m

lemma failed_of_unreachable {α : Type} (p : Program α) (m : Memory) :
    ∀ c ∈ contacts (p.run unreachable m).events, c.Failed := by
  induction p generalizing m with
  | done a => simp [contacts]
  | ask q next ih =>
    have hrest := ih (unreachable q m).1 (unreachable q m).2
    intro c hc
    obtain ⟨e, he, hcontact⟩ := List.mem_filterMap.1 hc
    rcases List.mem_cons.1 he with rfl | hlater
    · cases q <;> cases hcontact
      exact ⟨.refused, rfl⟩
    · exact hrest c (List.mem_filterMap.2 ⟨e, hlater, hcontact⟩)

lemma perform_query {environment : Environment} {context : Context} {client : Client}
    (hclient : context.client environment = .ok client) {action : Action} {q : Query}
    (h : action.query? = some q) : ∃ f : Query.Answer → Attempt String,
      perform environment context action = Attempt.query client context.key q >>= f := by
  have houtcome : Attempt.outcome (context.client environment) = pure client := by
    rw [hclient]
    rfl
  cases action <;> cases h
  case lookup tag mode names tagsFile =>
    simp only [perform, lookup, houtcome, pure_bind]
    exact ⟨_, rfl⟩
  all_goals
    simp only [perform, file, maintain, houtcome, pure_bind]
    exact ⟨_, rfl⟩

theorem attempts_follow_configuration {config : Config} {g : Globals} {environment : Environment}
    {endpoints : List Endpoint} {configured : Option Endpoint}
    (hservers : List.Forall₂ (fun text e => Endpoint.read text = .ok e) g.servers endpoints)
    (hconfigured : config.effectiveProxy environment.proxy = .ok configured) :
    ((∀ text, g.proxy = some text → ∃ e, Endpoint.read text = .ok e) →
      ∃ context, Context.ofGlobals config g = .ok context) ∧
    ∀ context, Context.ofGlobals config g = .ok context →
      ∃ client, context.client environment = .ok client ∧
        (∀ language callType, client.manager.candidates ⟨language, callType⟩ =
          ((config.servers.filter fun s => s.language = language ∧ s.callType = callType).map
            fun s => ⟨s.host, s.port⟩) ++
          if context.language = language ∧ context.callType = callType then endpoints else []) ∧
        (configured = none → g.proxy = none → config.mixer.enabled = false → g.mixer = false →
          ∀ (action : Action) (q : Query), action.query? = some q →
            ∀ {σ : Type} (handler : Handler σ) (w : σ),
              let r := (perform environment context action).run.run handler w
              (∀ c ∈ contacts r.events, c.Failed) →
                Unanswered context.key (client.manager.candidates context.key) r) := by
  refine ⟨Context.exists_ofGlobals hservers, fun context hcontext => ?_⟩
  have hover := Context.overrides_of_ofGlobals hcontext
  have hconfigured' : context.config.effectiveProxy environment.proxy = .ok configured := by
    rw [hover.config]
    exact hconfigured
  obtain ⟨client, hclient, hcandidates⟩ := Context.client_candidates hconfigured'
  obtain ⟨hfresh, hproxy, hmixer⟩ := Context.client_fresh hconfigured' hclient
  refine ⟨client, hclient, ?_, ?_⟩
  · intro language callType
    obtain rfl : context.servers = endpoints :=
      Except.ok.inj (hover.servers.symm.trans (Context.mapM_read hservers))
    rw [hcandidates, hover.config]
    simp only [Config.Server.key, Context.key, Key.mk.injEq]
    rfl
  · intro hnone hgiven henabled hflag action q hquery σ handler w
    have hdirect : client.manager.proxy = none := by
      have hg := hover.proxy
      rw [hgiven] at hg
      rw [hproxy, hnone, ← Except.ok.inj hg]
      rfl
    have hoff : client.manager.mixer.settings.enabled = false := by
      rw [hmixer, hover.mixer, hover.config, hflag, henabled]
      rfl
    obtain ⟨f, hf⟩ := perform_query hclient hquery
    rw [hf]
    exact Attempt.query_unanswered handler hfresh hdirect hoff context.key q f w

theorem attempts_follow_configuration_interleaved :
    let config : Config := { servers := [⟨"c++", .definition, "a", 1⟩,
      ⟨"java", .definition, "b", 2⟩, ⟨"c++", .callgraph, "c", 3⟩, ⟨"c++", .definition, "a", 1⟩,
      ⟨"C++", .definition, "d", 4⟩] }
    let g : Globals := { language := some "cpp", servers := ["e:5", "::1:6"] }
    let endpoints : List Endpoint := [⟨"e", 5⟩, ⟨"::1", 6⟩]
    List.Forall₂ (fun text e => Endpoint.read text = .ok e) g.servers endpoints ∧
      config.effectiveProxy none = .ok none ∧ ∃ context, Context.ofGlobals config g = .ok context ∧
        let action : Action := .lookup "f" .exact false (some "tags")
        let r := (perform {} context action).run.run unreachable {}
        (contacts r.events).map (·.endpoint) = [⟨"a", 1⟩, ⟨"a", 1⟩, ⟨"e", 5⟩, ⟨"::1", 6⟩] ∧
          r.result = .error (.noAvailableServer "c++" .definition) := by
  intro config g endpoints
  have hservers : List.Forall₂ (fun text e => Endpoint.read text = .ok e) g.servers endpoints :=
    .cons rfl (.cons rfl .nil)
  have hconfigured : config.effectiveProxy ({} : Environment).proxy = .ok none := rfl
  have hproxy : g.proxy.mapM Endpoint.read = .ok none := rfl
  obtain ⟨context, hcontext, -, -, -, hkey⟩ :=
    Context.ofGlobals_eq config (Context.mapM_read hservers) hproxy
  have hcpp : context.key = ⟨"c++", .definition⟩ := by
    rw [hkey]
    decide +kernel
  obtain ⟨client, -, hcandidates, hunanswered⟩ :=
    (attempts_follow_configuration hservers hconfigured).2 context hcontext
  have h := hunanswered rfl rfl rfl rfl (.lookup "f" .exact false (some "tags")) (.exact "f") rfl
    unreachable {} (failed_of_unreachable _ _)
  have hlist : client.manager.candidates context.key =
      [⟨"a", 1⟩, ⟨"a", 1⟩, ⟨"e", 5⟩, ⟨"::1", 6⟩] := by
    rw [hcpp, hcandidates, if_pos (by simpa [Context.key] using hcpp)]
    rfl
  refine ⟨hservers, hconfigured, context, hcontext, h.contacted.trans hlist, ?_⟩
  have hresult := h.unavailable (by rw [hlist]; exact List.cons_ne_nil _ _)
  rwa [hcpp] at hresult

end Commands

end Tagwire
