import ApiObservatory.Foundation.AsyncLock
import ApiObservatory.Foundation.Run
import ApiObservatory.Foundation.Tasks
import Mathlib.Data.Finset.Card
import Mathlib.Data.Finset.Option
import Mathlib.Data.String.Basic

/-
The logins of the MCP client (`services/mcp/auth_client.py`, `services/mcp/ingestor_client.py`):
requests on one event loop that share a token.

A step is what one task does between two suspensions; the lock is held while a login is under way.
`get_valid_token` looks at the cache again when it gets the lock. `force_relogin` drops whatever token
is cached before it asks for the lock, and then logs in without a look.
-/

namespace ApiObservatory.Mcp

open Foundation

/-- `_TokenState`. -/
structure TokenState where
  accessToken : String
  expiresAt : Int
deriving DecidableEq

/-- Where a `_request` is suspended. A login is forced after a 401, and then a second API request
follows. -/
inductive Phase where
  | waiting (forced : Bool)
  | loggingIn (forced : Bool)
  | requesting (second : Bool) (token : String)
  | done
deriving DecidableEq

def Phase.isLoggingIn : Phase → Bool
  | .loggingIn _ => true
  | _ => false

def Phase.isRequesting : Phase → Bool
  | .requesting .. => true
  | _ => false

/-- The cached token and the login lock of the event loop. -/
structure Client where
  tokenState : Option TokenState := none
  loginLock : AsyncLock := {}

/-! ### What a task does between two suspensions -/

namespace Client

variable (client : Client) (task : Nat) (now : Int)

/-- The cached token, if it has not expired. -/
def validToken : Option String :=
  (client.tokenState.filter fun state => decide (now < state.expiresAt)).map TokenState.accessToken

/-- `get_valid_token` behind the lock. -/
def getValidTokenLocked : Client × Phase :=
  match client.validToken now with
  | some token => ({ client with loginLock := client.loginLock.release }, .requesting false token)
  | none => (client, .loggingIn false)

/-- `get_valid_token`, and what follows it in `_request`. -/
def getValidToken : Client × Phase :=
  match client.validToken now with
  | some token => (client, .requesting false token)
  | none =>
      if client.loginLock.Free then
        { client with loginLock := client.loginLock.take }.getValidTokenLocked now
      else ({ client with loginLock := client.loginLock.wait task }, .waiting false)

/-- `force_relogin`. -/
def forceRelogin : Client × Phase :=
  let client := { client with tokenState := none }
  if client.loginLock.Free then
    ({ client with loginLock := client.loginLock.take }, .loggingIn true)
  else ({ client with loginLock := client.loginLock.wait task }, .waiting true)

/-- A task that waits for the lock gets it. -/
def granted (forced : Bool) : Option (Client × Phase) :=
  (client.loginLock.grant task).map fun loginLock =>
    let client := { client with loginLock }
    if forced then (client, .loggingIn true) else client.getValidTokenLocked now

/-- The rest of `_login`, and what follows it. -/
def loggedIn (lifetime : Int) (forced : Bool) (token : String) : Client × Phase :=
  ({ tokenState := some ⟨token, now + lifetime⟩, loginLock := client.loginLock.release },
    .requesting forced token)

/-- The answer to an API request: a status, or none if the request raises. -/
def responded (second : Bool) (status : Option Nat) : Client × Phase :=
  if status = some 401 ∧ second = false then client.forceRelogin task else (client, .done)

end Client

/-! ### Steps -/

structure State where
  client : Client := {}
  tasks : List Phase := []
  clock : Int

inductive Label where
  | request (now : Int)
  | granted (task : Nat) (now : Int)
  | loggedIn (task : Nat) (token : String) (now : Int)
  | responded (task : Nat) (status : Option Nat) (now : Int)
deriving DecidableEq

def Label.now : Label → Int
  | .request now | .granted _ now | .loggedIn _ _ now | .responded _ _ now => now

/-- The task that takes the step. -/
def Label.task (state : State) : Label → Nat
  | .request _ => state.tasks.length
  | .granted task _ | .loggedIn task _ _ | .responded task _ _ => task

section Steps

/- `jwt_expiry_minutes * 60 - token_refresh_skew_seconds`. -/
variable (lifetime : Int)

/-- What the task that takes the step comes to. -/
def move (state : State) : Label → Option (Client × Phase)
  | .request now => some (state.client.getValidToken state.tasks.length now)
  | .granted task now =>
      match state.tasks[task]? with
      | some (.waiting forced) => state.client.granted task now forced
      | _ => none
  | .loggedIn task token now =>
      match state.tasks[task]? with
      | some (.loggingIn forced) => some (state.client.loggedIn now lifetime forced token)
      | _ => none
  | .responded task status _ =>
      match state.tasks[task]? with
      | some (.requesting second _) => some (state.client.responded task second status)
      | _ => none

/-- The tasks after the step. -/
def State.place (state : State) (label : Label) (phase : Phase) : List Phase :=
  match label with
  | .request _ => state.tasks ++ [phase]
  | .granted task _ | .loggedIn task _ _ | .responded task _ _ => state.tasks.set task phase

/-- The clock does not go back. -/
def next (state : State) (label : Label) : Option State :=
  if state.clock ≤ label.now then
    (move lifetime state label).map fun result =>
      { client := result.1, tasks := state.place label result.2, clock := label.now }
  else none

/-! ### What is counted -/

/-- The step sends a login request. -/
def sendsLogin (state : State) (label : Label) : Bool :=
  (move lifetime state label).any fun result => result.2.isLoggingIn

/-- The step sends an API request. -/
def sendsRequest (state : State) (label : Label) : Bool :=
  (move lifetime state label).any fun result => result.2.isRequesting

abbrev History := List (State × Label)

def logins (history : History) : Nat :=
  history.countP fun entry => sendsLogin lifetime entry.1 entry.2

/-- The API requests of one `_request`. -/
def requests (task : Nat) (history : History) : Nat :=
  history.countP fun entry =>
    decide (entry.2.task entry.1 = task) && sendsRequest lifetime entry.1 entry.2

/-- The tokens that logins have given, the last one first. -/
def issued (history : History) : List TokenState :=
  history.filterMap fun entry =>
    match entry.2 with
    | .loggedIn _ token now => some ⟨token, now + lifetime⟩
    | _ => none

/-- The tokens that API requests were answered with 401 for. -/
def rejected (history : History) : List String :=
  history.filterMap fun entry =>
    match entry.2 with
    | .responded task (some 401) _ =>
        match entry.1.tasks[task]? with
        | some (.requesting _ token) => some token
        | _ => none
    | _ => none

/-- The distinct tokens that have expired, or were answered with 401. -/
def spent (history : History) (clock : Int) : Finset String :=
  (((issued lifetime history).filter fun state => decide (state.expiresAt ≤ clock)).map
    TokenState.accessToken ++ rejected history).toFinset

/-- One login, and one more for each spent token. -/
def Bounded (history : History) (state : State) : Prop :=
  logins lifetime history ≤ 1 + (spent lifetime history state.clock).card

/-- The step does not bring a token that was issued before. -/
def FreshToken (earlier : History) (_ : State) : Label → Prop
  | .loggedIn _ token _ => ∀ state ∈ issued lifetime earlier, state.accessToken ≠ token
  | _ => True

/-- `force_relogin` drops the cached token, or gets the lock after a wait. -/
def Forces (state : State) : Label → Prop
  | .granted task _ => state.tasks[task]? = some (.waiting true)
  | .responded task status _ =>
      status = some 401 ∧ ∃ token, state.tasks[task]? = some (.requesting false token)
  | _ => False

/-- Where `force_relogin` goes on, the cached token has expired or was itself answered with 401. -/
def FindsSpent (earlier : History) (state : State) (label : Label) : Prop :=
  Forces state label → ∀ cached ∈ state.client.tokenState,
    cached.expiresAt ≤ label.now ∨ cached.accessToken ∈ rejected ((state, label) :: earlier)

/-- The first API request of the `_request` was answered with 401. -/
def Unauthorized (task : Nat) (history : History) : Prop :=
  ∃ before now token, (before, .responded task (some 401) now) ∈ history ∧
    before.tasks[task]? = some (.requesting false token)

/-- A `_request` sends two API requests at most, the second one after a 401. -/
def AtMostTwo (history : History) : Prop :=
  ∀ task, requests lifetime task history ≤ 2 ∧
    (requests lifetime task history = 2 → Unauthorized task history)

end Steps

/-! ### The moves of a task -/

/-- What a task can do. -/
inductive Move (lifetime : Int) (state : State) : Label → Client × Phase → Prop where
  | reuses {now : Int} {token : String} : state.client.validToken now = some token →
      Move lifetime state (.request now) (state.client, .requesting false token)
  | logsIn {now : Int} : state.client.validToken now = none → state.client.loginLock.Free →
      Move lifetime state (.request now)
        ({ state.client with loginLock := state.client.loginLock.take }, .loggingIn false)
  | waits {now : Int} : state.client.validToken now = none →
      Move lifetime state (.request now)
        ({ state.client with loginLock := state.client.loginLock.wait state.tasks.length },
          .waiting false)
  | grantedForced {task : Nat} {now : Int} {loginLock : AsyncLock} :
      state.tasks[task]? = some (.waiting true) →
      state.client.loginLock.grant task = some loginLock →
      Move lifetime state (.granted task now) ({ state.client with loginLock }, .loggingIn true)
  | grantedReuses {task : Nat} {now : Int} {loginLock : AsyncLock} {token : String} :
      state.tasks[task]? = some (.waiting false) →
      state.client.loginLock.grant task = some loginLock →
      state.client.validToken now = some token →
      Move lifetime state (.granted task now)
        ({ state.client with loginLock := loginLock.release }, .requesting false token)
  | grantedLogsIn {task : Nat} {now : Int} {loginLock : AsyncLock} :
      state.tasks[task]? = some (.waiting false) →
      state.client.loginLock.grant task = some loginLock →
      state.client.validToken now = none →
      Move lifetime state (.granted task now) ({ state.client with loginLock }, .loggingIn false)
  | loggedIn {task : Nat} {token : String} {now : Int} {forced : Bool} :
      state.tasks[task]? = some (.loggingIn forced) →
      Move lifetime state (.loggedIn task token now)
        ({ tokenState := some ⟨token, now + lifetime⟩
           loginLock := state.client.loginLock.release }, .requesting forced token)
  | forces {task : Nat} {now : Int} {token : String} :
      state.tasks[task]? = some (.requesting false token) → state.client.loginLock.Free →
      Move lifetime state (.responded task (some 401) now)
        ({ tokenState := none, loginLock := state.client.loginLock.take }, .loggingIn true)
  | forcedWaits {task : Nat} {now : Int} {token : String} :
      state.tasks[task]? = some (.requesting false token) →
      Move lifetime state (.responded task (some 401) now)
        ({ tokenState := none, loginLock := state.client.loginLock.wait task }, .waiting true)
  | finishes {task : Nat} {status : Option Nat} {now : Int} {second : Bool} {token : String} :
      state.tasks[task]? = some (.requesting second token) →
      Move lifetime state (.responded task status now) (state.client, .done)

theorem move_cases {lifetime : Int} {state : State} {label : Label} {result : Client × Phase}
    (moved : move lifetime state label = some result) : Move lifetime state label result := by
  cases label with
  | request now =>
    obtain rfl := Option.some.inj moved
    unfold Client.getValidToken
    cases valid : state.client.validToken now with
    | some token => exact .reuses valid
    | none =>
      by_cases free : state.client.loginLock.Free
      · have again : { state.client with loginLock := state.client.loginLock.take }.validToken now =
          none := valid
        simp only [if_pos free, Client.getValidTokenLocked, again]
        exact .logsIn valid free
      · simp only [if_neg free]
        exact .waits valid
  | granted task now =>
    simp only [move] at moved
    split at moved
    · rename_i forced found
      obtain ⟨loginLock, granted, rfl⟩ := Option.map_eq_some_iff.mp moved
      cases forced with
      | true => exact .grantedForced found granted
      | false =>
        simp only [Bool.false_eq_true, if_false, Client.getValidTokenLocked]
        cases valid : state.client.validToken now with
        | some token =>
          have again : { state.client with loginLock }.validToken now = some token := valid
          simp only [again]
          exact .grantedReuses found granted valid
        | none =>
          have again : { state.client with loginLock }.validToken now = none := valid
          simp only [again]
          exact .grantedLogsIn found granted valid
    · cases moved
  | loggedIn task token now =>
    simp only [move] at moved
    split at moved
    · rename_i forced found
      obtain rfl := Option.some.inj moved
      exact .loggedIn found
    · cases moved
  | responded task status now =>
    simp only [move] at moved
    split at moved
    · rename_i second token found
      obtain rfl := Option.some.inj moved
      unfold Client.responded
      by_cases unauthorized : status = some 401 ∧ second = false
      · obtain ⟨rfl, rfl⟩ := unauthorized
        rw [if_pos ⟨rfl, rfl⟩]
        unfold Client.forceRelogin
        by_cases free : state.client.loginLock.Free
        · simp only [if_pos free]
          exact .forces found free
        · simp only [if_neg free]
          exact .forcedWaits found
      · rw [if_neg unauthorized]
        exact .finishes found
    · cases moved

section Moves

variable {lifetime : Int} {history : History} {state state' : State} {label : Label}
  {result : Client × Phase} {task : Nat}

theorem next_move (step : next lifetime state label = some state') :
    state.clock ≤ label.now ∧ ∃ result, move lifetime state label = some result ∧
      state' = { client := result.1, tasks := state.place label result.2, clock := label.now } := by
  unfold next at step
  split at step
  · rename_i forward
    obtain ⟨result, moved, rfl⟩ := Option.map_eq_some_iff.mp step
    exact ⟨forward, result, moved, rfl⟩
  · cases step

def Label.endsLogin : Label → Bool
  | .loggedIn .. => true
  | _ => false

theorem Move.placed (moved : Move lifetime state label result) :
    (state.place label result.2)[task]? =
      if task = label.task state then some result.2 else state.tasks[task]? := by
  have newcomer : ∀ phase : Phase, (state.tasks ++ [phase])[task]? =
      if task = state.tasks.length then some phase else state.tasks[task]? := by
    intro phase
    by_cases here : task = state.tasks.length
    · simp [here]
    · rw [if_neg here]
      rcases Nat.lt_or_gt_of_ne here with old | beyond
      · rw [List.getElem?_append_left old]
      · rw [List.getElem?_eq_none (by simp; omega), List.getElem?_eq_none (by omega)]
  have mover : ∀ {before after : Phase} {mover : Nat}, state.tasks[mover]? = some before →
      (state.tasks.set mover after)[task]? =
        if task = mover then some after else state.tasks[task]? := by
    intro before after mover found
    by_cases here : task = mover
    · rw [if_pos here, here, getElem?_set_of_some found]
    · rw [if_neg here, List.getElem?_set_ne (Ne.symm here)]
  cases moved with
  | reuses | logsIn | waits => exact newcomer _
  | grantedForced found | grantedReuses found | grantedLogsIn found | loggedIn found
  | forces found | forcedWaits found | finishes found => exact mover found

/-- A login is under way where a task is told so. -/
theorem Move.countP (moved : Move lifetime state label result) :
    (state.place label result.2).countP Phase.isLoggingIn + (if label.endsLogin then 1 else 0) =
      state.tasks.countP Phase.isLoggingIn + (if result.2.isLoggingIn then 1 else 0) := by
  cases moved with
  | reuses | logsIn | waits =>
    simp [State.place, Label.endsLogin, Phase.isLoggingIn]
  | grantedForced found | grantedReuses found | grantedLogsIn found | loggedIn found
  | forces found | forcedWaits found | finishes found =>
    exact countP_set_add Phase.isLoggingIn found _

/-- The lock is taken for a login, and given back after it. -/
theorem Move.holders (moved : Move lifetime state label result)
    (held : state.tasks.countP Phase.isLoggingIn = state.client.loginLock.holders) :
    result.1.loginLock.holders + (if label.endsLogin then 1 else 0) =
      state.client.loginLock.holders + (if result.2.isLoggingIn then 1 else 0) := by
  have after_wait : ∀ {task : Nat} {loginLock : AsyncLock},
      state.client.loginLock.grant task = some loginLock →
      state.client.loginLock.holders = 0 ∧ loginLock.holders = 1 := by
    intro task loginLock granted
    obtain ⟨before, after, -⟩ := AsyncLock.grant_eq_some granted
    simp [AsyncLock.holders, before, after]
  cases moved with
  | reuses | waits | forcedWaits | finishes => rfl
  | logsIn _ free | forces _ free =>
    rw [free.holders]
    rfl
  | grantedForced _ granted | grantedLogsIn _ granted =>
    rw [(after_wait granted).1, (after_wait granted).2]
    rfl
  | grantedReuses _ granted =>
    rw [(after_wait granted).1]
    rfl
  | loggedIn found =>
    have some_login : 0 < state.tasks.countP Phase.isLoggingIn :=
      List.countP_pos_iff.mpr ⟨_, List.mem_of_getElem? found, rfl⟩
    have one_holder : state.client.loginLock.holders ≤ 1 := by
      unfold AsyncLock.holders
      split <;> omega
    simp only [AsyncLock.holders_release, Label.endsLogin, Phase.isLoggingIn, if_true]
    simp only [Bool.false_eq_true, if_false]
    omega

variable (history) in
theorem logins_cons (moved : move lifetime state label = some result) :
    logins lifetime ((state, label) :: history) =
      logins lifetime history + (if result.2.isLoggingIn then 1 else 0) := by
  simp only [logins, List.countP_cons, sendsLogin, moved, Option.any_some]

variable (task history) in
theorem requests_cons (moved : move lifetime state label = some result) :
    requests lifetime task ((state, label) :: history) = requests lifetime task history +
      (if label.task state = task ∧ result.2.isRequesting = true then 1 else 0) := by
  simp only [requests, List.countP_cons, sendsRequest, moved, Option.any_some, Bool.and_eq_true,
    decide_eq_true_eq]

variable (lifetime history state label) in
theorem length_issued_cons :
    (issued lifetime ((state, label) :: history)).length =
      (issued lifetime history).length + (if label.endsLogin then 1 else 0) := by
  cases label <;> rfl

theorem issued_cons_subset :
    issued lifetime history ⊆ issued lifetime ((state, label) :: history) := by
  intro token mem
  cases label with
  | loggedIn => exact List.mem_cons_of_mem _ mem
  | request | granted | responded => exact mem

theorem rejected_cons_subset : rejected history ⊆ rejected ((state, label) :: history) := by
  intro token mem
  unfold rejected at mem ⊢
  rw [List.filterMap_cons]
  split
  · exact mem
  · exact List.mem_cons_of_mem _ mem

/-- What a 401 adds to the rejected tokens. -/
theorem mem_rejected_cons {token : String} (mem : token ∈ rejected ((state, label) :: history)) :
    token ∈ rejected history ∨ ∃ second, .requesting second token ∈ state.tasks := by
  unfold rejected at mem ⊢
  obtain ⟨entry, here, gives⟩ := List.mem_filterMap.mp mem
  rcases List.mem_cons.mp here with rfl | before
  · right
    split at gives
    · split at gives
      · rename_i second sent found
        obtain rfl := Option.some.inj gives
        exact ⟨second, List.mem_of_getElem? found⟩
      · cases gives
    · cases gives
  · exact .inl (List.mem_filterMap.mpr ⟨entry, before, gives⟩)

theorem validToken_eq_some {client : Client} {now : Int} {token : String}
    (valid : client.validToken now = some token) :
    ∃ cached, client.tokenState = some cached ∧ cached.accessToken = token := by
  obtain ⟨cached, kept, rfl⟩ := Option.map_eq_some_iff.mp valid
  exact ⟨cached, (Option.filter_eq_some_iff.mp kept).1, rfl⟩

theorem expired_of_validToken {client : Client} {now : Int} {cached : TokenState}
    (valid : client.validToken now = none) (here : client.tokenState = some cached) :
    cached.expiresAt ≤ now := by
  by_contra early
  have lasts : now < cached.expiresAt := by omega
  simp [Client.validToken, here, Option.filter, lasts] at valid

variable (history) in
/-- The cached token was cached before, or the step brings it. -/
theorem Move.cached (moved : Move lifetime state label result) {cached : TokenState}
    (here : result.1.tokenState = some cached) :
    state.client.tokenState = some cached ∨
      cached ∈ issued lifetime ((state, label) :: history) := by
  cases moved with
  | loggedIn => exact .inr (Option.some.inj here ▸ List.mem_cons_self)
  | forces | forcedWaits => cases here
  | reuses | logsIn | waits | grantedForced | grantedReuses | grantedLogsIn | finishes =>
    exact .inl here

/-- An API request is sent with the cached token. -/
theorem Move.sends (moved : Move lifetime state label result) {second : Bool} {token : String}
    (sent : result.2 = .requesting second token) :
    ∃ cached, result.1.tokenState = some cached ∧ cached.accessToken = token := by
  cases moved with
  | reuses valid | grantedReuses _ _ valid =>
    cases sent
    exact validToken_eq_some valid
  | loggedIn =>
    cases sent
    exact ⟨_, rfl, rfl⟩
  | logsIn | waits | grantedForced | grantedLogsIn | forces | forcedWaits | finishes => cases sent

theorem mem_place {phase : Phase} (mem : phase ∈ state.place label result.2) :
    phase = result.2 ∨ phase ∈ state.tasks := by
  cases label with
  | request =>
    rcases List.mem_append.mp mem with old | new
    · exact .inr old
    · exact .inl (List.mem_singleton.mp new)
  | granted | loggedIn | responded =>
    rcases List.mem_or_eq_of_mem_set mem with old | new
    · exact .inr old
    · exact .inl new

end Moves

/-! ### Every run -/

/-- A login is sent for every token, and one is under way while the lock is held. -/
structure Counted (lifetime : Int) (history : History) (state : State) : Prop where
  holders : state.tasks.countP Phase.isLoggingIn = state.client.loginLock.holders
  logins : logins lifetime history =
    (issued lifetime history).length + state.client.loginLock.holders
  cached : ∀ cached, state.client.tokenState = some cached → cached ∈ issued lifetime history
  sent : ∀ second token, .requesting second token ∈ state.tasks →
    ∃ given ∈ issued lifetime history, given.accessToken = token
  rejected : ∀ token ∈ rejected history,
    ∃ given ∈ issued lifetime history, given.accessToken = token

/-- A token that is not spent is the cached one, and then no login is under way. -/
structure OnePerToken (lifetime : Int) (history : History) (state : State) : Prop where
  distinct : ((issued lifetime history).map TokenState.accessToken).Nodup
  unspent : ∀ token ∈ issued lifetime history,
    token.expiresAt ≤ state.clock ∨ token.accessToken ∈ rejected history ∨
      state.client.tokenState = some token ∧ state.client.loginLock.locked = false

/-- The cached token, while no login is under way. -/
def Client.reusable (client : Client) : Finset String :=
  if client.loginLock.locked then ∅ else (client.tokenState.map TokenState.accessToken).toFinset

theorem Client.card_reusable (client : Client) :
    client.reusable.card + client.loginLock.holders ≤ 1 := by
  unfold Client.reusable AsyncLock.holders
  split
  · simp
  · cases client.tokenState <;> simp

/-- How many API requests a task in this phase has sent. -/
def Phase.Sent (sent : Nat) (unauthorized : Prop) : Phase → Prop
  | .waiting false | .loggingIn false => sent = 0
  | .waiting true | .loggingIn true => sent = 1 ∧ unauthorized
  | .requesting false _ => sent = 1
  | .requesting true _ => sent = 2 ∧ unauthorized
  | .done => sent ≤ 2 ∧ (sent = 2 → unauthorized)

theorem Phase.Sent.mono {phase : Phase} {count : Nat} {p q : Prop} (sent : phase.Sent count p)
    (imp : p → q) : phase.Sent count q := by
  cases phase with
  | waiting forced | loggingIn forced =>
    cases forced with
    | false => exact sent
    | true => exact sent.imp_right imp
  | requesting second =>
    cases second with
    | false => exact sent
    | true => exact sent.imp_right imp
  | done => exact ⟨sent.1, fun twice => imp (sent.2 twice)⟩

theorem Phase.Sent.atMost {phase : Phase} {count : Nat} {p : Prop} (sent : phase.Sent count p) :
    count ≤ 2 ∧ (count = 2 → p) := by
  cases phase with
  | waiting forced | loggingIn forced =>
    cases forced with
    | false =>
      obtain rfl : count = 0 := sent
      exact ⟨Nat.zero_le 2, nofun⟩
    | true => exact ⟨sent.1.le.trans (Nat.le_succ 1), fun _ => sent.2⟩
  | requesting second =>
    cases second with
    | false =>
      obtain rfl : count = 1 := sent
      exact ⟨Nat.le_succ 1, nofun⟩
    | true => exact ⟨sent.1.le, fun _ => sent.2⟩
  | done => exact sent

section Steps

variable {lifetime : Int} {history : History} {state : State} {label : Label}
  {result : Client × Phase}

theorem counted_init (clock : Int) : Counted lifetime [] ⟨{}, [], clock⟩ :=
  ⟨rfl, rfl, nofun, nofun, nofun⟩

theorem Counted.step (counted : Counted lifetime history state)
    (moves : move lifetime state label = some result) :
    Counted lifetime ((state, label) :: history)
      { client := result.1, tasks := state.place label result.2, clock := label.now } := by
  have moved := move_cases moves
  have cached : ∀ cached, result.1.tokenState = some cached →
      cached ∈ issued lifetime ((state, label) :: history) := by
    intro cached here
    rcases moved.cached history here with before | new
    · exact issued_cons_subset (counted.cached cached before)
    · exact new
  have sent : ∀ second token, .requesting second token ∈ state.tasks →
      ∃ given ∈ issued lifetime ((state, label) :: history), given.accessToken = token := by
    intro second token mem
    obtain ⟨given, mem, same⟩ := counted.sent second token mem
    exact ⟨given, issued_cons_subset mem, same⟩
  have locks := moved.holders counted.holders
  have tasks := moved.countP
  have tokens := length_issued_cons lifetime history state label
  have sends := logins_cons history moves
  have before := counted.logins
  have held := counted.holders
  refine ⟨by simp only; omega, by simp only; omega, cached, ?_, ?_⟩
  · intro second token mem
    rcases mem_place mem with new | old
    · obtain ⟨given, here, same⟩ := moved.sends new.symm
      exact ⟨given, cached given here, same⟩
    · exact sent second token old
  · intro token mem
    rcases mem_rejected_cons mem with before | ⟨second, found⟩
    · obtain ⟨given, mem, same⟩ := counted.rejected token before
      exact ⟨given, issued_cons_subset mem, same⟩
    · exact sent second token found

/-- **A token leaves the cache spent.** -/
theorem Move.keeps (moved : Move lifetime state label result)
    (held : state.tasks.countP Phase.isLoggingIn = state.client.loginLock.holders)
    (finds : FindsSpent history state label) {token : TokenState}
    (cached : state.client.tokenState = some token)
    (unlocked : state.client.loginLock.locked = false) :
    token.expiresAt ≤ label.now ∨ token.accessToken ∈ rejected ((state, label) :: history) ∨
      result.1.tokenState = some token ∧ result.1.loginLock.locked = false := by
  have forced : Forces state label → token.expiresAt ≤ label.now ∨
      token.accessToken ∈ rejected ((state, label) :: history) ∨
        result.1.tokenState = some token ∧ result.1.loginLock.locked = false := fun forces =>
    (finds forces token cached).imp_right .inl
  cases moved with
  | reuses | finishes => exact .inr (.inr ⟨cached, unlocked⟩)
  | logsIn valid | waits valid | grantedLogsIn _ _ valid =>
    exact .inl (expired_of_validToken valid cached)
  | grantedReuses => exact .inr (.inr ⟨cached, rfl⟩)
  | grantedForced found => exact forced found
  | forces found | forcedWaits found => exact forced ⟨rfl, _, found⟩
  | loggedIn found =>
    have some_login : 0 < state.tasks.countP Phase.isLoggingIn :=
      List.countP_pos_iff.mpr ⟨_, List.mem_of_getElem? found, rfl⟩
    have no_holder : state.client.loginLock.holders = 0 := by
      rw [AsyncLock.holders, unlocked]
      rfl
    omega

theorem OnePerToken.step (invariant : OnePerToken lifetime history state)
    (held : state.tasks.countP Phase.isLoggingIn = state.client.loginLock.holders)
    (forward : state.clock ≤ label.now) (moved : Move lifetime state label result)
    (fresh : FreshToken lifetime history state label) (finds : FindsSpent history state label) :
    OnePerToken lifetime ((state, label) :: history)
      { client := result.1, tasks := state.place label result.2, clock := label.now } := by
  have old : ∀ token ∈ issued lifetime history, token.expiresAt ≤ label.now ∨
      token.accessToken ∈ rejected ((state, label) :: history) ∨
        result.1.tokenState = some token ∧ result.1.loginLock.locked = false := by
    intro token given
    rcases invariant.unspent token given with expired | refused | ⟨cached, unlocked⟩
    · exact .inl (expired.trans forward)
    · exact .inr (.inl (rejected_cons_subset refused))
    · exact moved.keeps held finds cached unlocked
  cases label with
  | loggedIn task token now =>
    refine ⟨List.nodup_cons.mpr ⟨?_, invariant.distinct⟩, ?_⟩
    · intro again
      obtain ⟨given, mem, same⟩ := List.mem_map.mp again
      exact fresh given mem same
    · intro given mem
      rcases List.mem_cons.mp mem with rfl | before
      · cases moved with
        | loggedIn => exact .inr (.inr ⟨rfl, rfl⟩)
      · exact old given before
  | request | granted | responded => exact ⟨invariant.distinct, old⟩

/-- Every token but the cached one is spent, and so there is room for a login under way. -/
theorem OnePerToken.bounded (invariant : OnePerToken lifetime history state)
    (counted : Counted lifetime history state) : Bounded lifetime history state := by
  have covered : ((issued lifetime history).map TokenState.accessToken).toFinset ⊆
      spent lifetime history state.clock ∪ state.client.reusable := by
    intro name mem
    obtain ⟨token, given, rfl⟩ := List.mem_map.mp (List.mem_toFinset.mp mem)
    rw [Finset.mem_union]
    rcases invariant.unspent token given with expired | refused | ⟨cached, unlocked⟩
    · left
      rw [spent, List.mem_toFinset, List.mem_append, List.mem_map]
      exact .inl ⟨token, List.mem_filter.mpr ⟨given, decide_eq_true expired⟩, rfl⟩
    · left
      rw [spent, List.mem_toFinset, List.mem_append]
      exact .inr refused
    · right
      simp [Client.reusable, cached, unlocked]
  have room := state.client.card_reusable
  have tokens := List.toFinset_card_of_nodup invariant.distinct
  rw [List.length_map] at tokens
  have fewer := (Finset.card_le_card covered).trans (Finset.card_union_le _ _)
  have sent := counted.logins
  unfold Bounded
  omega

theorem unauthorized_cons {task : Nat} (before : Unauthorized task history) :
    Unauthorized task ((state, label) :: history) := by
  obtain ⟨earlier, now, token, mem, found⟩ := before
  exact ⟨earlier, now, token, List.mem_cons_of_mem _ mem, found⟩

/-- An API request is sent on the way from one phase to the next. -/
theorem Move.sent (moved : Move lifetime state label result) {count : Nat}
    (known : ∀ phase, state.tasks[label.task state]? = some phase →
      phase.Sent count (Unauthorized (label.task state) history))
    (new : state.tasks[label.task state]? = none → count = 0) :
    result.2.Sent (count + (if result.2.isRequesting then 1 else 0))
      (Unauthorized (label.task state) ((state, label) :: history)) := by
  cases moved with
  | reuses | logsIn | waits =>
    obtain rfl := new (List.getElem?_eq_none (Nat.le_refl _))
    exact rfl
  | grantedForced found =>
    obtain ⟨once, refused⟩ := known _ found
    exact ⟨once, unauthorized_cons refused⟩
  | grantedReuses found | grantedLogsIn found =>
    obtain rfl : count = 0 := known _ found
    exact rfl
  | @loggedIn task token now forced found =>
    cases forced with
    | true =>
      obtain ⟨rfl, refused⟩ := known _ found
      exact ⟨rfl, unauthorized_cons refused⟩
    | false =>
      obtain rfl : count = 0 := known _ found
      exact rfl
  | forces found | forcedWaits found =>
    obtain rfl : count = 1 := known _ found
    exact ⟨rfl, _, _, _, List.mem_cons_self, found⟩
  | @finishes task status now second token found =>
    cases second with
    | true =>
      obtain ⟨rfl, refused⟩ := known _ found
      exact ⟨Nat.le_refl 2, fun _ => unauthorized_cons refused⟩
    | false =>
      obtain rfl : count = 1 := known _ found
      exact ⟨by simp [Phase.isRequesting], nofun⟩

end Steps

section Runs

variable {lifetime : Int} {clock : Int} {history : History} {state : State}

theorem counted_run (run : Run (next lifetime) ⟨{}, [], clock⟩ history state) :
    Counted lifetime history state := by
  induction run with
  | init => exact counted_init clock
  | snoc run step ih =>
    obtain ⟨-, result, moves, rfl⟩ := next_move step
    exact ih.step moves

/-- **One login per token**, in a run where a forced login finds the cached token spent. -/
theorem onePerToken_run (run : Run (next lifetime) ⟨{}, [], clock⟩ history state)
    (steps : Meets (fun earlier state label =>
      FreshToken lifetime earlier state label ∧ FindsSpent earlier state label) history) :
    OnePerToken lifetime history state := by
  induction run with
  | init => exact ⟨List.nodup_nil, nofun⟩
  | snoc run step ih =>
    obtain ⟨⟨fresh, finds⟩, before⟩ := steps
    obtain ⟨forward, result, moves, rfl⟩ := next_move step
    exact (ih before).step (counted_run run).holders forward (move_cases moves) fresh finds

theorem bounded_run (run : Run (next lifetime) ⟨{}, [], clock⟩ history state)
    (steps : Meets (fun earlier state label =>
      FreshToken lifetime earlier state label ∧ FindsSpent earlier state label) history) :
    Throughout (Bounded lifetime) history state := by
  induction run with
  | init => exact Nat.zero_le _
  | snoc run step ih =>
    exact ⟨(onePerToken_run (run.snoc step) steps).bounded (counted_run (run.snoc step)),
      ih steps.2⟩

theorem sent_run (run : Run (next lifetime) ⟨{}, [], clock⟩ history state) (task : Nat) :
    (∀ phase, state.tasks[task]? = some phase →
      phase.Sent (requests lifetime task history) (Unauthorized task history)) ∧
    (state.tasks[task]? = none → requests lifetime task history = 0) := by
  induction run with
  | init => exact ⟨nofun, fun _ => rfl⟩
  | @snoc history state state' label run step ih =>
    obtain ⟨known, new⟩ := ih
    obtain ⟨-, result, moves, rfl⟩ := next_move step
    have moved := move_cases moves
    have sends := requests_cons history task moves
    simp only [moved.placed]
    by_cases mover : task = label.task state
    · subst mover
      simp only [true_and] at sends
      rw [if_pos rfl, sends]
      exact ⟨fun phase here => Option.some.inj here ▸ moved.sent known new, nofun⟩
    · rw [if_neg mover]
      rw [if_neg fun here => mover here.1.symm, Nat.add_zero] at sends
      rw [sends]
      refine ⟨fun phase found => ?_, new⟩
      exact (known phase found).mono unauthorized_cons

theorem atMostTwo_run (run : Run (next lifetime) ⟨{}, [], clock⟩ history state) :
    AtMostTwo lifetime history := by
  intro task
  obtain ⟨known, new⟩ := sent_run run task
  cases found : state.tasks[task]? with
  | none => simp [new found]
  | some phase => exact (known phase found).atMost

/-- **The logins of the client.** In a run where no login brings a token again, and `force_relogin` finds
the cached token spent wherever it goes on, there is one login at most for each spent token, and one
more; and in every run a `_request` sends two API requests at most. -/
theorem logins_bounded (run : Run (next lifetime) ⟨{}, [], clock⟩ history state) :
    (Meets (fun earlier state label =>
        FreshToken lifetime earlier state label ∧ FindsSpent earlier state label) history →
      Throughout (Bounded lifetime) history state) ∧
    AtMostTwo lifetime history :=
  ⟨bounded_run run, atMostTwo_run run⟩

end Runs

/-- A forced login that finds the first token rejected, and one that finds it expired. -/
theorem logins_bounded_forced : ∃ history state, Run (next 1740) ⟨{}, [], 0⟩ history state ∧
    logins 1740 history = 3 ∧ requests 1740 0 history = 2 ∧
      Throughout (Bounded 1740) history state := by
  have run : Run (next 1740) ⟨{}, [], 0⟩ _ _ := execute_run .init
    (rfl : execute (next 1740) [] ⟨{}, [], 0⟩
      [.request 0, .loggedIn 0 "t1" 0, .responded 0 (some 401) 1, .loggedIn 0 "t2" 2,
        .responded 0 (some 200) 3, .request 1742] = some (_, _))
  have quiet : ∀ earlier state now, FindsSpent earlier state (.request now) := nofun
  have login : ∀ earlier state task token now, FindsSpent earlier state (.loggedIn task token now) :=
    nofun
  refine ⟨_, _, run, rfl, rfl, (logins_bounded run).1
    ⟨⟨trivial, quiet _ _ _⟩, ⟨trivial, fun forces => absurd forces.1 (by decide)⟩,
      ⟨by unfold FreshToken; decide, login _ _ _ _ _⟩, ⟨trivial, fun _ cached here => ?_⟩,
      ⟨nofun, login _ _ _ _ _⟩, ⟨trivial, quiet _ _ _⟩, trivial⟩⟩
  obtain rfl := Option.some.inj here
  exact .inr (by decide)

/-- **Two requests find the same token rejected**, and the login of each follows. -/
theorem rejected_token_two_logins : ∃ history state, Run (next 1740) ⟨{}, [], 0⟩ history state ∧
    (issued 1740 history).map TokenState.accessToken = ["t2", "t1"] ∧
      rejected history = ["t1", "t1"] ∧ logins 1740 history = 3 ∧
        ¬ Bounded 1740 history state := by
  have run : Run (next 1740) ⟨{}, [], 0⟩ _ _ := execute_run .init
    (rfl : execute (next 1740) [] ⟨{}, [], 0⟩
      [.request 0, .loggedIn 0 "t1" 0, .request 1, .responded 0 (some 401) 2,
        .responded 1 (some 401) 2, .loggedIn 0 "t2" 3, .granted 1 3] = some (_, _))
  exact ⟨_, _, run, rfl, rfl, rfl, by unfold Bounded; decide⟩

end ApiObservatory.Mcp
