import ApiObservatory.Foundation.ReadCommitted
import ApiObservatory.ContractDrift.History

/-
Snapshot ingestion and acceptance for one source, statement by statement
(`create_contract_snapshot` and the acceptance route).

A `SELECT … FOR UPDATE` finds the active baseline among the rows that are
committed when it starts, waits for the holder of the row and then checks its
`WHERE` clause again on the new version. When that fails it returns nothing, and
it never sees a row inserted after it started. `contract_baselines` has two
unique constraints, on the source and version and on the active key; an `INSERT`
that finds its key taken fails, and the call with it.

An ingestion first locks the row of its source, an acceptance does not. The rows
of the tables are those of one source, and a worker makes one call.
-/

namespace ApiObservatory.ContractDrift.Overlap

open Foundation

abbrev Worker := Nat

/-- What the `SELECT` of the active baseline returns. -/
abbrev Selected := Option (Nat × ContractBaseline)

/-- The request of an acceptance, with its actor. -/
structure Acceptance where
  actor : String
  acceptanceNote : Option String := none
  candidateSnapshotId : Option Nat := none

/-- Where a call stands. `awaitingBaseline` and `acceptAwaiting` have found the
row `id` and take its lock next; `violated` has met a unique constraint. -/
inductive Phase where
  | idle
  | submitted (payload : ContractSnapshotCreate)
  | sourceLocked (payload : ContractSnapshotCreate)
  | snapshotInserted (payload : ContractSnapshotCreate) (createdAt : Int) (snapshotId : Nat)
  | awaitingBaseline (payload : ContractSnapshotCreate) (createdAt : Int) (snapshotId id : Nat)
  | baselineSelected (payload : ContractSnapshotCreate) (createdAt : Int) (snapshotId : Nat)
      (selected : Selected)
  | createWritten (payload : ContractSnapshotCreate) (createdAt : Int) (snapshotId : Nat)
      (selected : Selected)
  | stored (payload : ContractSnapshotCreate) (snapshotId : Nat)
  | violated
  | failed (text : String)
  | acceptRequested (acceptance : Acceptance)
  | acceptAwaiting (acceptance : Acceptance) (id : Nat)
  | acceptSelected (acceptance : Acceptance) (id : Nat) (baseline : ContractBaseline)
  | superseding (acceptance : Acceptance) (id : Nat) (baseline : ContractBaseline)
      (candidateId : Nat) (now : Int)
  | promoting (id : Nat) (baseline : ContractBaseline)
  | accepted
  | refused (text : String)

/-- The tables, the lock on the row of the source and the calls. -/
structure State where
  sourceHolder : Option Worker
  snapshots : Table Worker ContractSnapshot
  baselines : Table Worker ContractBaseline
  driftEvents : Table Worker DriftEvent
  phase : Worker → Phase

inductive Label where
  | create (w : Worker) (payload : ContractSnapshotCreate)
  | accept (w : Worker) (acceptance : Acceptance)
  | advance (w : Worker) (now : Int)

def Label.worker : Label → Worker
  | .create w _ => w
  | .accept w _ => w
  | .advance w _ => w

/-- Both constraints: the row takes a key of `new`. -/
def takesKeyOf (new row : ContractBaseline) : Bool :=
  (row.sourceId == new.sourceId && row.version == new.version) ||
    (new.activeKey.isSome && row.activeKey == new.activeKey)

/-- Another transaction has an uncommitted version of the row. -/
def rewritten (T : Table Worker ContractBaseline) (w : Worker) (id : Nat) : Bool :=
  match T.holder id with
  | none => false
  | some t => decide (t ≠ w) && (T.pending t id).isSome

namespace State

def moveTo (s : State) (w : Worker) (p : Phase) : State :=
  { s with phase := Function.update s.phase w p }

def commit (s : State) (w : Worker) (p : Phase) : State :=
  { s with
    sourceHolder := if s.sourceHolder = some w then none else s.sourceHolder
    snapshots := s.snapshots.commit w
    baselines := s.baselines.commit w
    driftEvents := s.driftEvents.commit w }.moveTo w p

def rollback (s : State) (w : Worker) (p : Phase) : State :=
  { s with
    sourceHolder := if s.sourceHolder = some w then none else s.sourceHolder
    snapshots := s.snapshots.rollback w
    baselines := s.baselines.rollback w
    driftEvents := s.driftEvents.rollback w }.moveTo w p

/-- The start of `SELECT … FOR UPDATE`: the row it finds. -/
def findBaseline (s : State) (w : Worker) (sourceId : Nat) : Selected :=
  (s.baselines.select w fun _ baseline => baseline.isActive sourceId).head?

/-- The rest of `SELECT … FOR UPDATE`, with the lock on the row. -/
def lockBaseline (s : State) (w : Worker) (sourceId id : Nat) (next : Selected → Phase) :
    Option State :=
  if s.baselines.free w id then
    match (s.baselines.visible w id).filter (·.isActive sourceId) with
    | none => some (s.moveTo w (next none))
    | some baseline =>
        some ({ s with baselines := s.baselines.lock w [id] }.moveTo w (next (some (id, baseline))))
  else none

/-- The `INSERT` of a baseline. It waits for other transactions that write a row
with one of its keys. -/
def insertBaseline (s : State) (w : Worker) (new : ContractBaseline) (p : Phase) :
    Option State :=
  if s.baselines.contested w (takesKeyOf new) then none
  else
    match (s.baselines.select w fun _ row => takesKeyOf new row).head? with
    | none => some ({ s with baselines := s.baselines.insert w new }.moveTo w p)
    | some (id, _) => if rewritten s.baselines w id then none else some (s.rollback w .violated)

/-- The flush after a comparison: the snapshot, the baseline and the drift event. -/
def writeComparison (sha256 : String → String) (s : State) (w : Worker)
    (payload : ContractSnapshotCreate) (createdAt : Int) (snapshotId id : Nat)
    (baseline : ContractBaseline) (base : ContractSnapshot) (now : Int) : State :=
  let diff := diffContract (structureOf base.payloadSchema) (structureOf payload.payloadSchema)
  let snapshot := { newSnapshot sha256 payload createdAt with
    compatibilityScore := compatibilityScore diff }
  let after := afterComparison sha256 payload baseline diff snapshotId s.driftEvents.rows.nextId now
  { s with
    snapshots := s.snapshots.write w snapshotId snapshot
    baselines := s.baselines.write w id after.1
    driftEvents :=
      match after.2 with
      | none => s.driftEvents
      | some event => s.driftEvents.insert w event }.moveTo w
    (.createWritten payload createdAt snapshotId (some (id, baseline)))

end State

/-- The checks of `accept_contract_baseline`: its `ValueError`, or the candidate. -/
def checkAcceptance (snapshot : Nat → Option ContractSnapshot) (baseline : ContractBaseline)
    (candidateSnapshotId : Option Nat) : Except String Nat :=
  match selectedSnapshotId candidateSnapshotId baseline, baseline.candidateSnapshotId with
  | some selected, some current =>
      if selected ≠ current then
        .error "The selected snapshot is not the current contract candidate."
      else
        match (snapshot selected).filter (·.sourceId == baseline.sourceId) with
        | none => .error "The candidate snapshot is unavailable."
        | some _ => .ok selected
  | _, _ => .error "No candidate contract is available for acceptance."

/-- The checks are those of a call that runs alone. -/
theorem acceptContractBaseline_eq (db : ContractDb) (id : Nat) (baseline : ContractBaseline)
    (actor : String) (acceptanceNote : Option String) (candidateSnapshotId : Option Nat)
    (now : Int) :
    acceptContractBaseline db id baseline actor acceptanceNote candidateSnapshotId now =
      (checkAcceptance db.snapshots.get baseline candidateSnapshotId).map fun selected =>
        { db with
          baselines := (db.baselines.modify id fun _ => supersededBaseline baseline now).insert
            (promotedBaseline id baseline selected actor acceptanceNote now) } := by
  unfold acceptContractBaseline checkAcceptance
  cases selectedSnapshotId candidateSnapshotId baseline with
  | none => rfl
  | some selected =>
    cases baseline.candidateSnapshotId with
    | none => rfl
    | some current =>
      simp only
      split
      · rfl
      · cases (db.snapshots.get selected).filter (·.sourceId == baseline.sourceId) with
        | none => rfl
        | some candidate => rfl

section Machine

variable (sha256 : String → String) (source : SourceProfile)

/-- The next statement of a call. -/
def advance (s : State) (w : Worker) (now : Int) : Option State :=
  match s.phase w with
  | .submitted payload =>
      if s.sourceHolder = none then
        some ({ s with sourceHolder := some w }.moveTo w (.sourceLocked payload))
      else none
  | .sourceLocked payload =>
      some ({ s with snapshots := s.snapshots.insert w (newSnapshot sha256 payload now) }.moveTo w
        (.snapshotInserted payload now s.snapshots.rows.nextId))
  | .snapshotInserted payload createdAt snapshotId =>
      match s.findBaseline w payload.sourceId with
      | none => some (s.moveTo w (.baselineSelected payload createdAt snapshotId none))
      | some (id, _) => some (s.moveTo w (.awaitingBaseline payload createdAt snapshotId id))
  | .awaitingBaseline payload createdAt snapshotId id =>
      s.lockBaseline w payload.sourceId id (.baselineSelected payload createdAt snapshotId)
  | .baselineSelected payload createdAt snapshotId none =>
      s.insertBaseline w (firstBaseline source payload.sourceId snapshotId now)
        (.createWritten payload createdAt snapshotId none)
  | .baselineSelected payload createdAt snapshotId (some (id, baseline)) =>
      match s.snapshots.visible w baseline.baselineSnapshotId with
      | none => some (s.rollback w
          (.failed s!"Accepted baseline snapshot {baseline.baselineSnapshotId} is missing."))
      | some base => some (s.writeComparison sha256 w payload createdAt snapshotId id baseline base now)
  | .createWritten payload _ snapshotId _ => some (s.commit w (.stored payload snapshotId))
  | .acceptRequested acceptance =>
      match s.findBaseline w source.id with
      | none => some (s.rollback w (.refused "Contract baseline not established."))
      | some (id, _) => some (s.moveTo w (.acceptAwaiting acceptance id))
  | .acceptAwaiting acceptance id =>
      s.lockBaseline w source.id id fun selected =>
        match selected with
        | none => .refused "Contract baseline not established."
        | some (id, baseline) => .acceptSelected acceptance id baseline
  | .acceptSelected acceptance id baseline =>
      match checkAcceptance (s.snapshots.visible w) baseline acceptance.candidateSnapshotId with
      | .error text => some (s.rollback w (.refused text))
      | .ok candidateId =>
          some ({ s with
            baselines := s.baselines.write w id (supersededBaseline baseline now) }.moveTo w
            (.superseding acceptance id baseline candidateId now))
  | .superseding acceptance id baseline candidateId acceptedAt =>
      s.insertBaseline w (promotedBaseline id baseline candidateId acceptance.actor
        acceptance.acceptanceNote acceptedAt) (.promoting id baseline)
  | .promoting _ _ => some (s.commit w .accepted)
  | _ => none

/-- One statement of one call. A call is for the source. -/
def next (s : State) (label : Label) : Option State :=
  match s.phase label.worker, label with
  | .idle, .create w payload =>
      if payload.sourceId = source.id then some (s.moveTo w (.submitted payload)) else none
  | .idle, .accept w acceptance => some (s.moveTo w (.acceptRequested acceptance))
  | _, .advance w now => advance sha256 source s w now
  | _, _ => none

end Machine

/-- No snapshot and no call. -/
def initial : State where
  sourceHolder := none
  snapshots := .ofRows .empty
  baselines := .ofRows .empty
  driftEvents := .ofRows .empty
  phase _ := .idle

end ApiObservatory.ContractDrift.Overlap
