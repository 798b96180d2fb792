import ApiObservatory.Foundation.Noninterference
import ApiObservatory.Jobs.Outage
import ApiObservatory.Repositories.UrlValidation

/-
The addresses that the jobs of a source send their requests to.

A job validates the target URL and hands the same URL to its client, which resolves the
host name itself. So two resolutions decide: the one that is checked, and the one that the
connection is opened with. The check says nothing about the second
(`requests_permitted_iff`), unless it gives the addresses of the first
(`permitted_of_pinned`).
-/

namespace ApiObservatory.Jobs

open Foundation Health

/-- One run of a job, with its two resolutions. A connection that the client kept alive was
opened with an earlier answer, which is then the second one. -/
structure Attempt where
  job : Job
  sourceId : Nat
  check : Resolver
  connect : Resolver
  io : ProbeIo

/-- A run of a job, or a change of the registry between two of them. -/
inductive Event where
  | attempt (attempt : Attempt)
  | edit (sources : Rows SourceProfile)

section Sending

variable (unicode : UnicodeData) (settings : SsrfSettings)

/-- What the run gets from outside, with `validate_source_base_url` as its check. -/
def Attempt.validated (attempt : Attempt) : ProbeIo :=
  { attempt.io with
    validate := fun url => validateSourceBaseUrl unicode settings attempt.check url }

/-- The addresses the request may be sent to: those the client connects to. -/
def sentTo (world : World) (attempt : Attempt) : List String :=
  match requestUrl world.breakers world.db.sources attempt.sourceId
      (attempt.validated unicode settings) with
  | none => []
  | some url =>
      match checkedTarget unicode settings url false with
      | .error _ => []
      | .ok (hostname, port) =>
          match attempt.connect hostname port with
          | .error _ => []
          | .ok addresses => addresses

/-- The world after a run of a job. -/
def afterAttempt (world : World) (attempt : Attempt) : World :=
  let io := attempt.validated unicode settings
  match attempt.job with
  | .probe =>
      let (breakers, db, _) := runSourceProbe world.breakers world.db attempt.sourceId io
      ⟨breakers, db⟩
  | .contractSnapshot =>
      let (breakers, _) :=
        runSourceContractSnapshot world.breakers world.db.sources attempt.sourceId io
      { world with breakers }

def step (world : World) : Event → World × List String
  | .attempt attempt =>
      (afterAttempt unicode settings world attempt, sentTo unicode settings world attempt)
  | .edit sources => ({ world with db := { world.db with sources } }, [])

/-- The run reaches its request: the source is active, its breaker is not open, the text of
the target URL is accepted, and so are the addresses that are checked. -/
structure Sends (world : World) (attempt : Attempt) (profile : SourceProfile) (hostname : String)
    (port : Nat) : Prop where
  active : activeProfile world.db.sources attempt.sourceId = some profile
  closed : (getSourceProbeBreaker world.breakers attempt.sourceId).isOpen = false
  target : checkedTarget unicode settings (targetUrl profile) false = .ok (hostname, port)
  checked : PermittedAnswer (attempt.check hostname port)

/-- Every request is sent to an address that the validation accepts. -/
def RequestsPermitted (world : World) (events : List Event) : Prop :=
  Every (step unicode settings)
    (fun world event => ∀ address ∈ (step unicode settings world event).2, Permitted address)
    world events

/-- No run that reaches its request gets a forbidden address from the second resolution. -/
def NeverRebound (world : World) (events : List Event) : Prop :=
  Every (step unicode settings)
    (fun world event => ∀ attempt, event = .attempt attempt → ∀ profile hostname port,
      Sends unicode settings world attempt profile hostname port →
        ∀ addresses, attempt.connect hostname port = .ok addresses →
          ∀ address ∈ addresses, Permitted address)
    world events

end Sending

/-! ### Which addresses -/

section Requests

variable {unicode : UnicodeData} {settings : SsrfSettings} {world : World} {attempt : Attempt}

theorem validate_validated (url : String) :
    (attempt.validated unicode settings).validate url =
      validateSourceBaseUrl unicode settings attempt.check url := rfl

/-- **The addresses of a request** come from the second resolution, after the first one
was accepted. -/
theorem mem_sentTo {address : String} :
    address ∈ sentTo unicode settings world attempt ↔
      ∃ profile hostname port addresses,
        Sends unicode settings world attempt profile hostname port ∧
          attempt.connect hostname port = .ok addresses ∧ address ∈ addresses := by
  unfold sentTo
  constructor
  · intro sent
    split at sent
    · cases sent
    rename_i url requested
    obtain ⟨profile, active, closed, validated, rfl⟩ := requestUrl_eq_some.mp requested
    rw [validate_validated] at validated
    obtain ⟨hostname, port, target, checked⟩ := validateSourceBaseUrl_ok.mp validated
    simp only [target] at sent
    split at sent
    · cases sent
    rename_i addresses answered
    exact ⟨profile, hostname, port, addresses, ⟨active, closed, target, checked⟩, answered, sent⟩
  · rintro ⟨profile, hostname, port, addresses, sends, answered, mem⟩
    have validated : (attempt.validated unicode settings).validate (targetUrl profile) =
        .ok () := by
      rw [validate_validated]
      exact validateSourceBaseUrl_ok.mpr ⟨hostname, port, sends.target, sends.checked⟩
    have requested : requestUrl world.breakers world.db.sources attempt.sourceId
        (attempt.validated unicode settings) = some (targetUrl profile) :=
      requestUrl_eq_some.mpr ⟨profile, sends.active, sends.closed, validated, rfl⟩
    simp only [requested, sends.target, answered]
    exact mem

/-- **Request-time protection** over any run of the jobs and any sequence of answers: every
request is sent to an accepted address exactly when no run that reaches its request is
rebound. -/
theorem requests_permitted_iff (unicode : UnicodeData) (settings : SsrfSettings) (world : World)
    (events : List Event) :
    RequestsPermitted unicode settings world events ↔
      NeverRebound unicode settings world events := by
  refine Every.congr fun world event => ?_
  cases event with
  | edit sources =>
    refine iff_of_true (fun address mem => absurd mem List.not_mem_nil) fun attempt is => ?_
    cases is
  | attempt attempt =>
    constructor
    · intro permitted _ is profile hostname port sends addresses answered address mem
      cases is
      exact permitted address
        (mem_sentTo.mpr ⟨profile, hostname, port, addresses, sends, answered, mem⟩)
    · intro clean address sent
      obtain ⟨profile, hostname, port, addresses, sends, answered, mem⟩ := mem_sentTo.mp sent
      exact clean attempt rfl profile hostname port sends addresses answered address mem

/-- A client that connects to the checked addresses is protected. -/
theorem permitted_of_pinned {events : List Event}
    (pinned : ∀ attempt, .attempt attempt ∈ events → attempt.connect = attempt.check) :
    NeverRebound unicode settings world events := by
  refine Every.of_forall fun world event mem attempt is profile hostname port sends addresses
    answered => ?_
  subst is
  obtain ⟨checked, same, -, permitted⟩ := sends.checked
  rw [pinned attempt mem, same] at answered
  cases answered
  exact permitted

end Requests

/-! ### A rebound host -/

def statusSource : SourceProfile where
  id := 1
  name := "status"
  baseUrl := "https://status.example.com"
  tenantId := some 1

def freshWorld : World where
  breakers _ := none
  db := { sources := Rows.single 1 statusSource, samples := Rows.empty, incidents := Rows.empty }

/-- The functions of the Unicode database, on ASCII texts. -/
def asciiUnicode : UnicodeData where
  normalize := id
  lower := List.map Char.toLower

/-- The first answer is a public address, the second one is the loopback address. -/
def reboundAttempt (job : Job) : Attempt where
  job := job
  sourceId := 1
  check _ _ := .ok ["93.184.216.34"]
  connect _ _ := .ok ["127.0.0.1"]
  io :=
    { validate := fun _ => .ok ()
      enteredAt := 0
      outcome := .ok { statusCode := 200 }
      leftAt := 1
      sampledAt := 0
      latencyMs := 1
      now := fun _ => 1
      checkedAt := fun _ => 1 }

theorem rebound_sends (job : Job) :
    Sends asciiUnicode {} freshWorld (reboundAttempt job) statusSource "status.example.com"
      443 where
  active := by cases job <;> decide
  closed := rfl
  target := rfl
  checked := ⟨["93.184.216.34"], rfl, by decide, fun address mem => by
    rw [List.mem_singleton.mp mem]
    rfl⟩

/-- Both jobs send their request to the loopback address. -/
theorem rebound_to_loopback :
    ¬ RequestsPermitted asciiUnicode {} freshWorld [.attempt (reboundAttempt .probe)] ∧
      ¬ RequestsPermitted asciiUnicode {} freshWorld
        [.attempt (reboundAttempt .contractSnapshot)] := by
  have forbidden : ¬ Permitted "127.0.0.1" := by
    intro permitted
    cases permitted
  have reaches : ∀ job, ¬ RequestsPermitted asciiUnicode {} freshWorld
      [.attempt (reboundAttempt job)] := by
    intro job permitted
    have sent : "127.0.0.1" ∈ sentTo asciiUnicode {} freshWorld (reboundAttempt job) :=
      mem_sentTo.mpr ⟨statusSource, "status.example.com", 443, ["127.0.0.1"], rebound_sends job,
        rfl, List.mem_singleton_self _⟩
    exact forbidden (permitted.1 "127.0.0.1" sent)
  exact ⟨reaches .probe, reaches .contractSnapshot⟩

end ApiObservatory.Jobs
