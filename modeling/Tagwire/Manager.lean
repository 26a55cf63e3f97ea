import Tagwire.Mixer

/-! Routing of commands: to a proxy, to the mixer, or to the candidates of a key in turn. -/

namespace Tagwire

structure Key where
  language : String
  callType : CallType
deriving DecidableEq

/-- The endpoint in use, and the index of the first one not yet handed out. -/
structure Cursor where
  current : Option Endpoint := none
  next : Nat := 0
deriving DecidableEq

structure Manager where
  candidates : Key → List Endpoint := fun _ => []
  cursors : Key → Cursor := fun _ => {}
  timeouts : Timeouts := {}
  proxy : Option Endpoint := none
  mixer : Mixer := {}

namespace Manager

def setCandidates (m : Manager) (key : Key) (endpoints : List Endpoint) : Manager :=
  { m with candidates := fun k => if k = key then endpoints else m.candidates k }

def setCursor (m : Manager) (key : Key) (cursor : Cursor) : Manager :=
  { m with cursors := fun k => if k = key then cursor else m.cursors k }

def replaceList (m : Manager) (key : Key) (endpoints : List Endpoint) : Manager :=
  (m.setCandidates key endpoints).setCursor key {}

def add (m : Manager) (key : Key) (endpoint : Endpoint) : Manager :=
  m.replaceList key (m.candidates key ++ [endpoint])

def remove (m : Manager) (key : Key) (endpoint : Endpoint) : Bool × Manager :=
  if endpoint ∈ m.candidates key then
    (true, m.replaceList key ((m.candidates key).erase endpoint))
  else (false, m)

def advance (m : Manager) (key : Key) : Except TagError Endpoint × Manager :=
  if m.candidates key = [] then
    (.error (.noConfiguredServers key.language key.callType), m)
  else
    match (m.candidates key)[(m.cursors key).next]? with
    | none => (.error (.noAvailableServer key.language key.callType), m)
    | some endpoint =>
      (.ok endpoint, m.setCursor key ⟨some endpoint, (m.cursors key).next + 1⟩)

def select (m : Manager) (key : Key) : Except TagError Endpoint × Manager :=
  match (m.cursors key).current with
  | some endpoint => (.ok endpoint, m)
  | none => m.advance key

def untried (m : Manager) (key : Key) : Nat :=
  (m.candidates key).length - (m.cursors key).next

@[simp] theorem setCursor_candidates (m : Manager) (key : Key) (c : Cursor) :
    (m.setCursor key c).candidates = m.candidates := rfl

@[simp] theorem setCursor_cursors_self (m : Manager) (key : Key) (c : Cursor) :
    (m.setCursor key c).cursors key = c := by
  simp [setCursor]

theorem untried_advance_lt {m m' : Manager} {key : Key} {e : Endpoint}
    (h : m.advance key = (.ok e, m')) : m'.untried key < m.untried key := by
  unfold advance at h
  split at h
  · cases h
  · split at h
    · cases h
    · next hget =>
      cases h
      have := (List.getElem?_eq_some_iff.1 hget).1
      simp [untried]
      omega

theorem untried_select_le {m m' : Manager} {key : Key} {e : Endpoint}
    (h : m.select key = (.ok e, m')) : m'.untried key ≤ m.untried key := by
  unfold select at h
  split at h
  · cases h; exact Nat.le_refl _
  · exact Nat.le_of_lt (untried_advance_lt h)

def sendDirect (m : Manager) (key : Key) (command : String) (timeouts : Timeouts) :
    Program (Except TagError String × Manager) :=
  match hs : m.select key with
  | (.error e, m') => .done (.error e, m')
  | (.ok endpoint, m') =>
    .ask (.exchange endpoint command timeouts) fun
      | .ok reply => .done (.ok reply, m')
      | .error _ =>
        match ha : m'.advance key with
        | (.error e, m'') => .done (.error e, m'')
        | (.ok _, m'') =>
          have : m''.untried key < m.untried key :=
            Nat.lt_of_lt_of_le (untried_advance_lt ha) (untried_select_le hs)
          sendDirect m'' key command timeouts
termination_by m.untried key

def sendRetrying (endpoint : Endpoint) (command : String) (timeouts : Timeouts) (pause : Nat) :
    Nat → Program (Except TagError String)
  | 0 =>
    .ask (.exchange endpoint command timeouts) fun
      | .ok reply => .done (.ok reply)
      | .error fault => .done (.error (.transport endpoint fault))
  | retries + 1 =>
    .ask (.exchange endpoint command timeouts) fun
      | .ok reply => .done (.ok reply)
      | .error _ => .ask (.pause pause) fun _ =>
        sendRetrying endpoint command timeouts pause retries

def sendMixer (m : Manager) (command : String) (timeouts : Timeouts) :
    Program (Except TagError String × Manager) := do
  let mixer ← m.mixer.ensureLaunched
  let settings := mixer.settings
  let result ← sendRetrying (.localhost settings.port) command timeouts
    settings.retryDelay.toNat settings.retries.toNat
  return (result, { m with mixer })

def sendProxy (m : Manager) (proxy : Endpoint) (key : Key) (command : String)
    (timeouts : Timeouts) : Program (Except TagError String × Manager) :=
  .ask (.exchange proxy command timeouts) fun
    | .ok reply => .done (.ok reply, m)
    | .error _ => .done (.error (.noAvailableServer key.language key.callType), m)

inductive Route where
  | direct
  | proxy (endpoint : Endpoint)
  | mixer
deriving DecidableEq

def route (m : Manager) : Route :=
  match m.proxy with
  | some endpoint => .proxy endpoint
  | none => if m.mixer.settings.enabled then .mixer else .direct

def sendWithTimeouts (m : Manager) (key : Key) (command : String) (timeouts : Timeouts) :
    Program (Except TagError String × Manager) :=
  match m.route with
  | .direct => m.sendDirect key command timeouts
  | .proxy endpoint => m.sendProxy endpoint key command timeouts
  | .mixer => m.sendMixer command timeouts

def send (m : Manager) (key : Key) (command : String) :
    Program (Except TagError String × Manager) :=
  m.sendWithTimeouts key command m.timeouts

def sendWithin (m : Manager) (key : Key) (command : String) (data : Option Nat) :
    Program (Except TagError String × Manager) :=
  m.sendWithTimeouts key command { m.timeouts with data }

inductive Operation where
  | add (key : Key) (endpoint : Endpoint)
  | remove (key : Key) (endpoint : Endpoint)
  | select (key : Key)
  | advance (key : Key)
  | setTimeouts (timeouts : Timeouts)
  | setProxy (proxy : Option Endpoint)
  | setMixer (settings : Mixer.Settings)
  | useMixer (enabled : Bool)
  | setMixerPort (port : UInt16)
  | invalidateMixer
  | restartMixer
  | send (key : Key) (command : String)
  | sendWithin (key : Key) (command : String) (data : Option Nat)

inductive Outcome where
  | done
  | removed (found : Bool)
  | endpoint (result : Except TagError Endpoint)
  | reply (result : Except TagError String)
  | restarted (result : Except TagError Unit)

def perform (m : Manager) : Operation → Program (Outcome × Manager)
  | .add key endpoint => return (.done, m.add key endpoint)
  | .remove key endpoint =>
    let (found, m') := m.remove key endpoint
    return (.removed found, m')
  | .select key =>
    let (result, m') := m.select key
    return (.endpoint result, m')
  | .advance key =>
    let (result, m') := m.advance key
    return (.endpoint result, m')
  | .setTimeouts timeouts => return (.done, { m with timeouts })
  | .setProxy proxy => return (.done, { m with proxy })
  | .setMixer settings => return (.done, { m with mixer := m.mixer.setSettings settings })
  | .useMixer enabled => return (.done, { m with mixer.settings.enabled := enabled })
  | .setMixerPort port => return (.done, { m with mixer := m.mixer.setPort port })
  | .invalidateMixer => return (.done, { m with mixer := m.mixer.invalidate })
  | .restartMixer => do
    let (result, mixer) ← m.mixer.restart
    return (.restarted result, { m with mixer })
  | .send key command => do
    let (result, m') ← m.send key command
    return (.reply result, m')
  | .sendWithin key command data => do
    let (result, m') ← m.sendWithin key command data
    return (.reply result, m')

end Manager

end Tagwire
