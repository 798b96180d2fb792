import ApiObservatory.Foundation.Window

/-
Reading a table page by page behind a key.

A page behind the key `after` holds the first `limit` rows with a larger key and, when
there are more, the key of its last row, where the next page starts. The table may change
between two pages. A walk from no key at all to a page with no next key then returns keys
in strictly increasing order, and every key that was in the table at each page
(`PageWalk.complete`): a page passes over no key between its start and its last row.
-/

namespace ApiObservatory.Foundation

universe u v

variable {α : Type u} {κ : Type v} [LinearOrder κ]

/-- The rows with a key larger than `after`; all rows without one. -/
def rowsAfter (key : α → κ) (after : Option κ) (rows : List α) : List α :=
  rows.filter fun row => after.all fun start => decide (start < key row)

/-- `ORDER BY key LIMIT limit` behind a key. -/
def pageAfter (key : α → κ) (limit : Nat) (after : Option κ) (rows : List α) : List α :=
  (orderBy key (rowsAfter key after rows)).take limit

/-- Where the next page starts, if there are rows behind this one. -/
def nextAfter (key : α → κ) (limit : Nat) (after : Option κ) (rows : List α) : Option κ :=
  if limit < (rowsAfter key after rows).length then
    (pageAfter key limit after rows).getLast?.map key
  else none

/-- The walk that reads one page from each of some tables, starting behind a key, and ends
at the first page with no next key. -/
inductive PageWalk (key : α → κ) (limit : Nat) : Option κ → List (List α) → List (List α) → Prop where
  | last {after : Option κ} {rows : List α} : nextAfter key limit after rows = none →
      PageWalk key limit after [rows] [pageAfter key limit after rows]
  | more {after : Option κ} {rows : List α} {next : κ} {tables pages : List (List α)} :
      nextAfter key limit after rows = some next → PageWalk key limit (some next) tables pages →
      PageWalk key limit after (rows :: tables) (pageAfter key limit after rows :: pages)

variable {key : α → κ} {limit : Nat} {after : Option κ} {rows : List α}

/-! ### One page -/

theorem mem_rowsAfter {row : α} :
    row ∈ rowsAfter key after rows ↔ row ∈ rows ∧ ∀ start ∈ after, start < key row := by
  cases after <;> simp [rowsAfter]

@[simp] theorem rowsAfter_none (key : α → κ) (rows : List α) : rowsAfter key none rows = rows :=
  List.filter_eq_self.mpr fun _ _ => rfl

theorem rowsAfter_distinct (distinct : (rows.map key).Nodup) :
    ((rowsAfter key after rows).map key).Nodup :=
  (List.filter_sublist.map key).nodup distinct

theorem mem_pageAfter {row : α} (mem : row ∈ pageAfter key limit after rows) :
    row ∈ rowsAfter key after rows :=
  mem_orderBy.mp (List.mem_of_mem_take mem)

theorem pageAfter_strict (distinct : (rows.map key).Nodup) :
    (pageAfter key limit after rows).Pairwise fun a b => key a < key b :=
  (orderBy_strict (rowsAfter_distinct distinct)).sublist (List.take_sublist _ _)

theorem length_orderBy (key : α → κ) (rows : List α) : (orderBy key rows).length = rows.length :=
  (orderBy_perm key rows).length_eq

/-- A last page holds all the rows behind its start. -/
theorem pageAfter_of_last (last : nextAfter key limit after rows = none) (positive : 1 ≤ limit) :
    pageAfter key limit after rows = orderBy key (rowsAfter key after rows) := by
  refine List.take_of_length_le ?_
  rw [length_orderBy]
  by_contra more
  rw [nextAfter, if_pos (by omega), Option.map_eq_none_iff, List.getLast?_eq_none_iff] at last
  have length := congrArg List.length last
  rw [pageAfter, List.length_take, length_orderBy, List.length_nil] at length
  omega

/-- A page that is not the last is full. -/
theorem length_pageAfter {next : κ} (more : nextAfter key limit after rows = some next) :
    (pageAfter key limit after rows).length = limit := by
  rw [nextAfter] at more
  split at more
  · rename_i lt
    rw [pageAfter, List.length_take, length_orderBy]
    omega
  · cases more

theorem nextAfter_eq_some {next : κ} (more : nextAfter key limit after rows = some next) :
    ∃ row, (pageAfter key limit after rows).getLast? = some row ∧ key row = next := by
  rw [nextAfter] at more
  split at more
  · exact Option.map_eq_some_iff.mp more
  · cases more

/-- **What a page splits**: of the rows behind its start it holds those up to the next. -/
theorem mem_pageAfter_iff {next : κ} (distinct : (rows.map key).Nodup)
    (more : nextAfter key limit after rows = some next) {row : α} :
    row ∈ pageAfter key limit after rows ↔ row ∈ rowsAfter key after rows ∧ key row ≤ next := by
  obtain ⟨final, isLast, rfl⟩ := nextAfter_eq_some more
  obtain ⟨front, split⟩ := List.getLast?_eq_some_iff.mp isLast
  have strict : (orderBy key (rowsAfter key after rows)).Pairwise fun a b => key a < key b :=
    orderBy_strict (rowsAfter_distinct distinct)
  rw [← List.take_append_drop limit (orderBy key (rowsAfter key after rows)),
    List.pairwise_append] at strict
  obtain ⟨inside, -, across⟩ := strict
  change (pageAfter key limit after rows).Pairwise _ at inside
  rw [split, List.pairwise_append] at inside
  constructor
  · intro mem
    refine ⟨mem_pageAfter mem, ?_⟩
    rw [split, List.mem_append, List.mem_singleton] at mem
    rcases mem with before | rfl
    · exact (inside.2.2 row before final (List.mem_singleton_self _)).le
    · exact le_rfl
  · rintro ⟨behind, upTo⟩
    have sorted : row ∈ orderBy key (rowsAfter key after rows) := mem_orderBy.mpr behind
    rw [← List.take_append_drop limit (orderBy key (rowsAfter key after rows)),
      List.mem_append] at sorted
    refine sorted.resolve_right fun later => ?_
    have mem : final ∈ pageAfter key limit after rows := by simp [split]
    exact absurd (across final mem row later) (not_lt.mpr upTo)

/-- The next page starts behind this one. -/
theorem lt_nextAfter {next start : κ}
    (more : nextAfter key limit (some start) rows = some next) : start < next := by
  obtain ⟨final, isLast, rfl⟩ := nextAfter_eq_some more
  exact (mem_rowsAfter.mp (mem_pageAfter (List.mem_of_getLast? isLast))).2 start rfl

/-- Of an ordered list a filter that leaves one key keeps one row. -/
theorem filter_eq_singleton (strict : rows.Pairwise fun a b => key a < key b) {p : α → Bool} {row : α}
    (mem : row ∈ rows) (kept : p row = true)
    (one : ∀ other ∈ rows, p other = true → key other = key row) : rows.filter p = [row] := by
  have found := List.mem_filter.mpr ⟨mem, kept⟩
  have only : ∀ other ∈ rows.filter p, key other = key row := fun other mem =>
    one other (List.mem_filter.mp mem).1 (List.mem_filter.mp mem).2
  have ordered := strict.filter p
  match filtered : rows.filter p with
  | [] => simp [filtered] at found
  | [other] =>
    rw [filtered, List.mem_singleton] at found
    rw [found]
  | first :: second :: rest =>
    rw [filtered] at only ordered
    have lt := (List.pairwise_cons.mp ordered).1 second List.mem_cons_self
    rw [only first List.mem_cons_self, only second (by simp)] at lt
    exact absurd lt (lt_irrefl _)

/-! ### A walk -/

namespace PageWalk

variable {tables pages : List (List α)}

/-- The pages before the last are full. -/
theorem full (walk : PageWalk key limit after tables pages) :
    ∀ page ∈ pages.dropLast, page.length = limit := by
  induction walk with
  | last => simp
  | more more rest ih =>
    intro page mem
    rw [List.dropLast_cons_of_ne_nil (by cases rest <;> simp), List.mem_cons] at mem
    rcases mem with rfl | mem
    · exact length_pageAfter more
    · exact ih page mem

/-- No page holds more rows than the limit. -/
theorem bounded (walk : PageWalk key limit after tables pages) :
    ∀ page ∈ pages, page.length ≤ limit := by
  induction walk with
  | last => simp [pageAfter]
  | more more rest ih => exact List.forall_mem_cons.mpr ⟨List.length_take_le _ _, ih⟩

/-- A returned row is a row of a table that was read, behind the start. -/
theorem sound (walk : PageWalk key limit after tables pages) {row : α}
    (mem : row ∈ pages.flatten) :
    (∃ rows ∈ tables, row ∈ rows) ∧ ∀ start ∈ after, start < key row := by
  induction walk with
  | @last after rows last =>
    rw [List.flatten_singleton] at mem
    obtain ⟨stored, behind⟩ := mem_rowsAfter.mp (mem_pageAfter mem)
    exact ⟨⟨rows, List.mem_singleton_self _, stored⟩, behind⟩
  | @more after rows next tables pages more rest ih =>
    rw [List.flatten_cons, List.mem_append] at mem
    rcases mem with here | later
    · obtain ⟨stored, behind⟩ := mem_rowsAfter.mp (mem_pageAfter here)
      exact ⟨⟨rows, List.mem_cons_self, stored⟩, behind⟩
    · obtain ⟨⟨rows', mem', stored⟩, behind⟩ := ih later
      refine ⟨⟨rows', List.mem_cons_of_mem _ mem', stored⟩, ?_⟩
      rintro start rfl
      exact (lt_nextAfter more).trans (behind next rfl)

/-- **No key is returned twice**: the keys of a walk increase. -/
theorem strict (walk : PageWalk key limit after tables pages)
    (distinct : ∀ rows ∈ tables, (rows.map key).Nodup) :
    pages.flatten.Pairwise fun a b => key a < key b := by
  induction walk with
  | last =>
    rw [List.flatten_singleton]
    exact pageAfter_strict (distinct _ (List.mem_singleton_self _))
  | @more after rows next tables pages more rest ih =>
    have later : ∀ rows ∈ tables, (rows.map key).Nodup := fun rows mem =>
      distinct rows (List.mem_cons_of_mem _ mem)
    have here := distinct rows List.mem_cons_self
    rw [List.flatten_cons, List.pairwise_append]
    refine ⟨pageAfter_strict here, ih later, fun a before b behind => ?_⟩
    have upTo := ((mem_pageAfter_iff here more).mp before).2
    exact upTo.trans_lt ((rest.sound behind).2 next rfl)

/-- **No key is missed** that every table has. -/
theorem complete (walk : PageWalk key limit after tables pages) (positive : 1 ≤ limit)
    (distinct : ∀ rows ∈ tables, (rows.map key).Nodup) {k : κ} (behind : ∀ start ∈ after, start < k)
    (throughout : ∀ rows ∈ tables, ∃ row ∈ rows, key row = k) :
    ∃ row ∈ pages.flatten, key row = k := by
  induction walk with
  | @last after rows last =>
    obtain ⟨row, stored, rfl⟩ := throughout rows (List.mem_singleton_self _)
    refine ⟨row, ?_, rfl⟩
    rw [List.flatten_singleton, pageAfter_of_last last positive, mem_orderBy]
    exact mem_rowsAfter.mpr ⟨stored, behind⟩
  | @more after rows next tables pages more rest ih =>
    obtain ⟨row, stored, rfl⟩ := throughout rows List.mem_cons_self
    rcases le_or_gt (key row) next with upTo | beyond
    · have here := (mem_pageAfter_iff (distinct rows List.mem_cons_self) more).mpr
        ⟨mem_rowsAfter.mpr ⟨stored, behind⟩, upTo⟩
      exact ⟨row, List.mem_append_left _ here, rfl⟩
    · obtain ⟨found, mem, same⟩ :=
        ih (fun rows mem => distinct rows (List.mem_cons_of_mem _ mem))
          (fun _ isNext => Option.some.inj isNext ▸ beyond)
          fun rows mem => throughout rows (List.mem_cons_of_mem _ mem)
      exact ⟨found, List.mem_append_right _ mem, same⟩

/-- A walk over a table that does not change returns its rows in order. -/
theorem of_unchanged (walk : PageWalk key limit after tables pages) (positive : 1 ≤ limit)
    (distinct : (rows.map key).Nodup) (unchanged : ∀ table ∈ tables, table = rows) :
    pages.flatten = orderBy key (rowsAfter key after rows) := by
  have distinctAll : ∀ table ∈ tables, (table.map key).Nodup := by
    intro table mem
    rw [unchanged table mem]
    exact distinct
  have irrefl : Std.Irrefl fun a b : α => key a < key b := ⟨fun a => lt_irrefl (key a)⟩
  have antisymm : Std.Antisymm fun a b : α => key a < key b :=
    ⟨fun a b ab ba => absurd (ab.trans ba) (lt_irrefl (key a))⟩
  refine (walk.strict distinctAll).eq_of_mem_iff (orderBy_strict (rowsAfter_distinct distinct))
    fun row => ?_
  rw [mem_orderBy, mem_rowsAfter]
  constructor
  · intro mem
    obtain ⟨⟨table, read, stored⟩, behind⟩ := walk.sound mem
    exact ⟨unchanged table read ▸ stored, behind⟩
  · rintro ⟨stored, behind⟩
    obtain ⟨found, mem, same⟩ := walk.complete positive distinctAll behind
      fun table read => ⟨row, (unchanged table read).symm ▸ stored, rfl⟩
    obtain ⟨⟨table, read, foundStored⟩, -⟩ := walk.sound mem
    rw [unchanged table read] at foundStored
    exact List.inj_on_of_nodup_map distinct foundStored stored same ▸ mem

/-- A walk over a table that does not change ends. -/
theorem exists_unchanged (key : α → κ) (limit : Nat) (rows : List α) (after : Option κ) :
    ∃ n pages, PageWalk key limit after (List.replicate n rows) pages := by
  generalize size : (rowsAfter key after rows).length = count
  induction count using Nat.strongRecOn generalizing after with
  | ind count ih =>
    cases more : nextAfter key limit after rows with
    | none => exact ⟨1, _, .last more⟩
    | some next =>
      obtain ⟨final, isLast, rfl⟩ := nextAfter_eq_some more
      have mem := mem_pageAfter (List.mem_of_getLast? isLast)
      have fewer : (rowsAfter key (some (key final)) rows).length < count := by
        rw [← size]
        have narrowed : rowsAfter key (some (key final)) rows =
            (rowsAfter key after rows).filter fun row => decide (key final < key row) := by
          rw [rowsAfter, rowsAfter, List.filter_filter]
          refine List.filter_congr fun row _ => ?_
          have chain : key final < key row → ∀ start ∈ after, start < key row := fun lt start isStart =>
            ((mem_rowsAfter.mp mem).2 start isStart).trans lt
          cases after <;> simp_all
        rw [narrowed, List.length_filter_lt_length_iff_exists]
        exact ⟨final, mem, by simp⟩
      obtain ⟨n, pages, rest⟩ := ih _ fewer (some (key final)) rfl
      exact ⟨n + 1, _, PageWalk.more more rest⟩

end PageWalk

end ApiObservatory.Foundation
