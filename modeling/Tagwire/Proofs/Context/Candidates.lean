import Mathlib
import Tagwire.Context

namespace Tagwire

namespace Language

def AskedAsWritten (name : String) : Prop :=
  name ∈ ["c++", "java", "python"] ∨
    name.map Char.toLower ∉ ["c++", "cpp", "c", "java", "python", "py"]

instance (name : String) : Decidable (AskedAsWritten name) :=
  inferInstanceAs (Decidable (_ ∨ _))

lemma ofName?_eq_none_iff (name : String) :
    ofName? name = none ↔ name.map Char.toLower ∉ ["c++", "cpp", "c", "java", "python", "py"] := by
  unfold ofName?
  split <;> simp_all

lemma ofName?_of_ofFiletype? {name : String} {language : Language}
    (h : ofFiletype? name = some language) : ofName? name = some language := by
  unfold ofFiletype? at h
  split at h
  case h_5 => cases h
  all_goals
    rw [← h]
    decide +kernel

lemma wireName_of_known {name : String} {language : Language}
    (h : ofName? name = some language) : wireName name = language.name := by
  rw [wireName, h]
  rfl

lemma wireName_of_unknown {name : String} (h : ofName? name = none) : wireName name = name := by
  have hfiletype : ofFiletype? name = none := by
    cases hf : ofFiletype? name with
    | none => rfl
    | some language => rw [ofName?_of_ofFiletype? hf] at h; cases h
  rw [wireName, h, hfiletype]
  rfl

lemma wireName_eq_self_iff (name : String) : wireName name = name ↔ AskedAsWritten name := by
  rw [AskedAsWritten, ← ofName?_eq_none_iff]
  constructor
  · intro h
    cases hname : ofName? name with
    | none => exact .inr rfl
    | some language =>
      rw [wireName_of_known hname] at h
      rw [← h]
      cases language <;> decide
  · rintro (h | h)
    · simp only [List.mem_cons, List.not_mem_nil, or_false] at h
      rcases h with rfl | rfl | rfl <;> decide +kernel
    · exact wireName_of_unknown h

end Language

namespace Manager

lemma candidates_add (m : Manager) (key k : Key) (endpoint : Endpoint) :
    (m.add key endpoint).candidates k =
      m.candidates k ++ if key = k then [endpoint] else [] := by
  by_cases h : key = k
  · subst h
    simp [add, replaceList, setCandidates, setCursor]
  · simp [add, replaceList, setCandidates, setCursor, h, Ne.symm h]

lemma candidates_foldl_add {α : Type} (key : α → Key) (endpoint : α → Endpoint) (k : Key)
    (xs : List α) (m : Manager) :
    (xs.foldl (fun m x => m.add (key x) (endpoint x)) m).candidates k =
      m.candidates k ++ (xs.filter fun x => key x = k).map endpoint := by
  induction xs generalizing m with
  | nil => simp
  | cons x xs ih =>
    rw [List.foldl_cons, ih, candidates_add, List.append_assoc]
    by_cases h : key x = k <;> simp [h]

lemma candidates_foldl_add_same (key k : Key) (endpoints : List Endpoint) (m : Manager) :
    (endpoints.foldl (fun m e => m.add key e) m).candidates k =
      m.candidates k ++ if key = k then endpoints else [] := by
  have h := candidates_foldl_add (fun _ => key) (fun e => e) k endpoints m
  by_cases hk : key = k <;> simpa [hk] using h

end Manager

namespace Context

variable {config : Config} {g : Globals} {environment : Environment} {endpoints : List Endpoint}
  {proxy configured : Option Endpoint}

lemma ofGlobals_eq (config : Config) (hservers : g.servers.mapM Endpoint.read = .ok endpoints)
    (hproxy : g.proxy.mapM Endpoint.read = .ok proxy) :
    ∃ context, ofGlobals config g = .ok context ∧ context.servers = endpoints ∧
      context.config.servers = config.servers ∧ context.config.proxy = config.proxy ∧
      context.key =
        ⟨Language.wireName (g.language.getD config.defaultLanguage), .ofCallers g.callers⟩ := by
  simp only [ofGlobals, hservers, hproxy, bind, Except.bind, pure, Except.pure]
  exact ⟨_, rfl, rfl, rfl, rfl, rfl⟩

lemma client_candidates {context : Context}
    (hconfigured : context.config.effectiveProxy environment.proxy = .ok configured) :
    ∃ client, context.client environment = .ok client ∧ ∀ key, client.manager.candidates key =
      (context.config.servers.filter fun s => s.key = key).map Config.Server.endpoint ++
        if context.key = key then context.servers else [] := by
  have hregistered (m : Manager) (key : Key) :
      (context.servers.foldl (fun m e => m.add context.key e)
        (Config.addServers m context.config.servers)).candidates key =
      m.candidates key ++
        ((context.config.servers.filter fun s => s.key = key).map Config.Server.endpoint ++
          if context.key = key then context.servers else []) := by
    rw [Manager.candidates_foldl_add_same, Config.addServers, Manager.candidates_foldl_add,
      List.append_assoc]
  simp only [client, Config.client, Config.configure, hconfigured, bind, Except.bind, pure,
    Except.pure]
  refine ⟨_, rfl, fun key => ?_⟩
  -- the proxy and the mixer of the command line change no candidate
  cases context.mixer with
  | false => exact hregistered _ key
  | true => exact hregistered _ key

theorem configured_server_found_iff {server : Config.Server} (hserver : server ∈ config.servers)
    (hlanguage : g.language = some server.language)
    (hcallers : CallType.ofCallers g.callers = server.callType)
    (hservers : g.servers.mapM Endpoint.read = .ok endpoints)
    (hproxy : g.proxy.mapM Endpoint.read = .ok proxy)
    (hconfigured : config.effectiveProxy environment.proxy = .ok configured) :
    ∃ context client, ofGlobals config g = .ok context ∧
      context.client environment = .ok client ∧
      (server.endpoint ∈ client.manager.candidates context.key ↔
        Language.AskedAsWritten server.language ∨
        (∃ s ∈ config.servers, s ≠ server ∧ s.key = context.key ∧
          s.endpoint = server.endpoint) ∨
        server.endpoint ∈ endpoints) := by
  obtain ⟨context, hcontext, rfl, hentries, hdocument, hkey⟩ :=
    ofGlobals_eq config hservers hproxy
  have hconfigured' : context.config.effectiveProxy environment.proxy = .ok configured := by
    rwa [Config.effectiveProxy, hdocument]
  obtain ⟨client, hclient, hcandidates⟩ := client_candidates hconfigured'
  have hown : server.key = context.key ↔ Language.AskedAsWritten server.language := by
    rw [hkey, hlanguage, hcallers, ← Language.wireName_eq_self_iff]
    simp [Config.Server.key, eq_comm]
  have hmem : server.endpoint ∈ (config.servers.filter fun s => s.key = context.key).map
      Config.Server.endpoint ↔
        ∃ s ∈ config.servers, s.key = context.key ∧ s.endpoint = server.endpoint := by
    simp [and_assoc]
  refine ⟨context, client, hcontext, hclient, ?_⟩
  rw [hcandidates, if_pos rfl, hentries, List.mem_append, hmem, ← hown]
  constructor
  · rintro (⟨s, hs, hskey, he⟩ | h)
    · by_cases hsame : s = server
      · exact .inl (hsame ▸ hskey)
      · exact .inr (.inl ⟨s, hs, hsame, hskey, he⟩)
    · exact .inr (.inr h)
  · rintro (h | ⟨s, hs, -, hskey, he⟩ | h)
    · exact .inl ⟨server, hserver, h, rfl⟩
    · exact .inl ⟨s, hs, hskey, he⟩
    · exact .inr h

theorem configured_server_found_unlisted_language :
    let server : Config.Server := ⟨"Go", .callgraph, "h", 7⟩
    let config : Config := { servers := [⟨"cpp", .callgraph, "i", 7⟩, server] }
    let g : Globals :=
      { language := some "Go", callers := true, servers := ["x:1"], proxy := some "p:2" }
    let environment : Environment := { proxy := some " " }
    ∃ context client, ofGlobals config g = .ok context ∧
      context.client environment = .ok client ∧
      server.endpoint ∈ client.manager.candidates context.key := by
  intro server config g environment
  have hserver : server ∈ config.servers := by decide
  have hlanguage : g.language = some server.language := rfl
  have hblank : config.effectiveProxy environment.proxy = .ok none := rfl
  obtain ⟨context, client, hcontext, hclient, hfound⟩ :=
    configured_server_found_iff hserver hlanguage rfl rfl rfl hblank
  exact ⟨context, client, hcontext, hclient, hfound.2 (.inl (by decide +kernel))⟩

theorem configured_alias_not_found :
    let server : Config.Server := ⟨"cpp", .definition, "127.0.0.1", 2223⟩
    let config : Config := { servers := [server] }
    let g : Globals := { language := some "cpp" }
    CallType.ofCallers g.callers = server.callType ∧
    ∃ context client, ofGlobals config g = .ok context ∧ context.client {} = .ok client ∧
      server.endpoint ∉ client.manager.candidates context.key := by
  intro server config g
  refine ⟨rfl, _, _, rfl, rfl, ?_⟩
  decide +kernel

end Context

end Tagwire
