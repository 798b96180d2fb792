import ApiObservatory.Jobs.PriorityQueue

/-
`peek` and `dequeue` of the priority queue (`services/ingestor/jobs/queue.py`).

`peek` reads the root of the heap, whose priorities are those of the last `enqueue` or `dequeue`.
`dequeue` computes them anew first. A deadline that comes near in between moves its command to the
front for `dequeue` only.
-/

namespace ApiObservatory.PriorityJobQueue

open Foundation

variable {Request : Type} {total_seconds : Int → Rat} {deadlineBoostSecs : Int}
  {history : List (Queue Request × Call Request)} {queue : Queue Request}

/-- The command at the root is the first one waiting at `now`, if any is waiting. -/
def RootFirst (total_seconds : Int → Rat) (deadlineBoostSecs now : Int) (queue : Queue Request) : Prop :=
  ∀ root ∈ queue.heap.head?, ∃ entry ∈ queue.heap, entry.cmd = root.cmd ∧
    ∀ other ∈ queue.heap, Before total_seconds deadlineBoostSecs now entry other

/-- The stored priorities are those that the commands have at `now`. -/
def UpToDate (total_seconds : Int → Rat) (deadlineBoostSecs now : Int) (queue : Queue Request) : Prop :=
  ∀ entry ∈ queue.heap, entry.effective = effectivePriority total_seconds deadlineBoostSecs now entry.cmd

instance (now : Int) : Decidable (UpToDate total_seconds deadlineBoostSecs now queue) :=
  inferInstanceAs (Decidable (∀ entry ∈ queue.heap,
    entry.effective = effectivePriority total_seconds deadlineBoostSecs now entry.cmd))

theorem before_iff_refresh {now : Int} {entry other : Entry Request} :
    Before total_seconds deadlineBoostSecs now entry other ↔
      (entry.refresh total_seconds deadlineBoostSecs now).key ≤
        (other.refresh total_seconds deadlineBoostSecs now).key := by
  rw [Prod.Lex.le_iff]
  exact Iff.rfl

/-- Entries that come before each other are one entry. -/
theorem Kept.eq_of_before (kept : Kept total_seconds deadlineBoostSecs history queue) {now : Int}
    {entry other : Entry Request} (mem : entry ∈ queue.heap) (mem' : other ∈ queue.heap)
    (before : Before total_seconds deadlineBoostSecs now entry other)
    (after : Before total_seconds deadlineBoostSecs now other entry) : entry = other := by
  rw [before_iff_refresh] at before after
  have same : entry.ctr = other.ctr := congrArg (fun key => (ofLex key).2) (before.antisymm after)
  exact List.inj_on_of_nodup_map kept.distinct mem mem' same

/-- What `dequeue` returns is the first of the commands waiting. -/
theorem dequeue_first (now : Int) (filled : queue.heap ≠ []) :
    ∃ entry ∈ queue.heap, (dequeue total_seconds deadlineBoostSecs now queue).1 = some entry.cmd ∧
      ∀ other ∈ queue.heap, Before total_seconds deadlineBoostSecs now entry other := by
  obtain ⟨taken, heap, answer, entries, -, least⟩ := dequeue_of_ne_nil
    total_seconds deadlineBoostSecs now filled
  obtain ⟨entry, mem, rfl⟩ := List.mem_map.mp (entries.subset List.mem_cons_self)
  refine ⟨entry, mem, by rw [answer]; rfl, fun other mem' => before_iff_refresh.mpr ?_⟩
  rcases List.mem_cons.mp (entries.symm.subset (List.mem_map_of_mem mem')) with same | later
  · rw [same]
  · exact least _ later

/-- **Up-to-date priorities** leave the first command at the root. -/
theorem Kept.rootFirst (kept : Kept total_seconds deadlineBoostSecs history queue) {now : Int}
    (current : UpToDate total_seconds deadlineBoostSecs now queue) :
    RootFirst total_seconds deadlineBoostSecs now queue := by
  have stored : ∀ entry ∈ queue.heap, entry.refresh total_seconds deadlineBoostSecs now = entry := by
    intro entry mem
    rw [Entry.refresh, ← current entry mem]
  intro root first
  have mem := List.mem_of_head? first
  refine ⟨root, mem, rfl, fun other mem' => before_iff_refresh.mpr ?_⟩
  rw [stored root mem, stored other mem']
  have isHeap := kept.isHeap
  cases heap : queue.heap with
  | nil => rw [heap] at mem'; cases mem'
  | cons front rest =>
    rw [heap] at first mem' isHeap
    cases first
    rcases List.mem_cons.mp mem' with rfl | later
    · exact le_rfl
    · exact isHeap.root_le other later

/-- **`peek` agrees with `dequeue`** exactly when the command at the root is the first one waiting at
the time, as it is when no stored priority is out of date. -/
theorem peek_agrees_iff (run : Run (next total_seconds deadlineBoostSecs) {} history queue) (now : Int) :
    (peek queue = (dequeue total_seconds deadlineBoostSecs now queue).1 ↔
      RootFirst total_seconds deadlineBoostSecs now queue) ∧
      (UpToDate total_seconds deadlineBoostSecs now queue →
        RootFirst total_seconds deadlineBoostSecs now queue) := by
  have kept := kept_of_run run
  refine ⟨?_, kept.rootFirst⟩
  unfold peek RootFirst
  cases atRoot : queue.heap.head? with
  | none =>
    have empty := List.head?_eq_none_iff.mp atRoot
    rw [dequeue_of_nil total_seconds deadlineBoostSecs now empty]
    exact iff_of_true rfl nofun
  | some root =>
    have filled : queue.heap ≠ [] := by
      intro empty
      rw [empty] at atRoot
      cases atRoot
    obtain ⟨first, mem, answer, before⟩ := @dequeue_first _ total_seconds deadlineBoostSecs _ now filled
    rw [answer, Option.map_some, Option.some.injEq]
    constructor
    · rintro same _ ⟨⟩
      exact ⟨first, mem, same.symm, before⟩
    · intro rootFirst
      obtain ⟨entry, mem', same, before'⟩ := rootFirst root rfl
      rw [← same, kept.eq_of_before mem' mem (before' first mem) (before entry mem')]

/-- Two commands; the second has a deadline at 100 s. -/
def twoCommands : List (Call String) :=
  [.enqueue 0 ⟨"a", 5, none⟩, .enqueue 0 ⟨"b", 7, some 100000000⟩]

theorem peek_agrees_iff_waiting : ∃ history queue,
    Run (next (fun us => us / 1000000) 30) ({} : Queue String) history queue ∧
      UpToDate (fun us => us / 1000000) 30 60000000 queue ∧
      peek queue = (dequeue (fun us => us / 1000000) 30 60000000 queue).1 := by
  obtain ⟨history, run⟩ := run_of_isSome (show (finalState (next (fun us => us / 1000000) 30)
    ({} : Queue String) twoCommands).isSome = true by decide)
  obtain ⟨agrees, rootFirst⟩ := peek_agrees_iff run 60000000
  exact ⟨history, _, run, by decide +kernel, agrees.mpr (rootFirst (by decide +kernel))⟩

/-- At 80 s the second command is critical, and `dequeue` takes it before the one `peek` shows. -/
theorem peek_stale : ∃ history queue,
    Run (next (fun us => us / 1000000) 30) ({} : Queue String) history queue ∧
      peek queue ≠ (dequeue (fun us => us / 1000000) 30 80000000 queue).1 := by
  obtain ⟨history, run⟩ := run_of_isSome (show (finalState (next (fun us => us / 1000000) 30)
    ({} : Queue String) twoCommands).isSome = true by decide)
  exact ⟨history, _, run, by decide +kernel⟩

end ApiObservatory.PriorityJobQueue
