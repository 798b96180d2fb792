import ApiObservatory.Foundation.Glob
import ApiObservatory.Repositories.Incidents
import Mathlib.Logic.Function.Basic
import Std.Data.String.ToInt

/-
The cache of observation lists (`services/ingestor/cache.py`).

A page stands in Redis under its source, offset and size, and the pages of a source are dropped by a
glob pattern that the source is written into as it is. Redis matches patterns and keys byte by byte;
its matcher is a parameter, with the rules of glob patterns as its laws. No call of Redis fails here, and
no other client writes.
-/

namespace ApiObservatory.Observations

open Foundation

/-! ### Keys and pages -/

/-- `CACHE_KEY_LIST_PREFIX`. -/
def cacheKeyListPrefix : String := "dp:observations:list"

/-- `CACHE_TTL_LIST`. -/
def cacheTtlList : Int := 30

/-- `CACHE_LIST_MAX_SKIP`. -/
def cacheListMaxSkip : Int := 500

/-- `CACHE_LIST_MAX_LIMIT`. -/
def cacheListMaxLimit : Int := 50

/-- `_list_cache_key`. -/
def listCacheKey (source : String) (skip limit : Int) : String :=
  s!"{cacheKeyListPrefix}:{source}:{skip}:{limit}"

/-- `_should_skip_list_cache`. -/
def shouldSkipListCache (skip limit : Int) : Bool :=
  decide (skip > cacheListMaxSkip ∨ limit > cacheListMaxLimit)

/-- The values of Redis under their keys, with the times at which they expire. -/
abbrev ListStore (Page : Type) := String → Option (Page × Int)

variable {Page : Type}

section Functions

variable (store : ListStore Page) (source : String) (skip limit now : Int)

/-- `get_observations_list`. -/
def getObservationsList : Option Page :=
  if shouldSkipListCache skip limit then none
  else
    match store (listCacheKey source skip limit) with
    | none => none
    | some (page, expires) => if now < expires then some page else none

/-- `set_observations_list`. -/
def setObservationsList (data : Page) : ListStore Page :=
  if shouldSkipListCache skip limit then store
  else
    Function.update store (listCacheKey source skip limit) (some (data, now + seconds cacheTtlList))

/-- The bytes that Redis has of a text. -/
def bytesOf (text : String) : List UInt8 := text.toByteArray.data.toList

/-- The pattern of `invalidate_observations_list_by_source`. -/
def listPattern : String := s!"{cacheKeyListPrefix}:{source}:*"

/-- `invalidate_observations_list_by_source`: the scan, and the deletion of what it finds. -/
def invalidateObservationsListBySource (glob : List UInt8 → List UInt8 → Bool) : ListStore Page :=
  fun key => if glob (bytesOf (listPattern source)) (bytesOf key) then none else store key

end Functions

/-- The glob patterns of Redis. -/
def redisGlob : GlobMarks UInt8 where
  many := '*'.toUInt8
  one := '?'.toUInt8
  opening := '['.toUInt8
  closing := ']'.toUInt8
  negation := '^'.toUInt8
  range := '-'.toUInt8
  escape := '\\'.toUInt8
  distinct := by decide

/-! ### Keys are injective -/

theorem colon_not_mem_repr_int (n : Int) : ':' ∉ (Int.repr n).toList := by
  cases n with
  | ofNat n => exact colon_not_mem_repr n
  | negSucc n =>
    have text : Int.repr (Int.negSucc n) = "-" ++ Nat.repr (n + 1) := rfl
    rw [text, String.toList_append, List.mem_append]
    rintro (sign | digits)
    · exact absurd sign (by decide)
    · exact colon_not_mem_repr _ digits

theorem listCacheKey_toList (source : String) (skip limit : Int) :
    (listCacheKey source skip limit).toList =
      cacheKeyListPrefix.toList ++ ':' :: (source.toList ++ ':' ::
        ((Int.repr skip).toList ++ ':' :: (Int.repr limit).toList)) := by
  have text : listCacheKey source skip limit =
      cacheKeyListPrefix ++ (":" ++ (source ++ (":" ++ (Int.repr skip ++ (":" ++ Int.repr limit))))) := by
    simp only [listCacheKey, String.append_assoc]
    rfl
  rw [text]
  simp only [String.toList_append]
  rfl

/-- **A key** determines its source, offset and size. -/
theorem listCacheKey_inj {source source' : String} {skip skip' limit limit' : Int}
    (same : listCacheKey source skip limit = listCacheKey source' skip' limit') :
    source = source' ∧ skip = skip' ∧ limit = limit' := by
  have lists := congrArg (List.reverse ∘ String.toList) same
  simp only [Function.comp, listCacheKey_toList, List.reverse_append, List.reverse_cons,
    List.append_assoc, List.singleton_append] at lists
  have plain (n : Int) : ':' ∉ (Int.repr n).toList.reverse := fun mem =>
    colon_not_mem_repr_int n (List.mem_reverse.mp mem)
  obtain ⟨limits, rest⟩ := upToColon_inj (plain limit) (plain limit') lists
  obtain ⟨skips, rest⟩ := upToColon_inj (plain skip) (plain skip') rest
  have sources := List.append_cancel_right rest
  refine ⟨?_, ?_, ?_⟩
  · exact String.toList_injective (List.reverse_injective sources)
  · exact Int.repr_injective (String.toList_injective (List.reverse_injective skips))
  · exact Int.repr_injective (String.toList_injective (List.reverse_injective limits))

/-! ### What the pattern makes of a source -/

theorem bytesOf_append (a b : String) : bytesOf (a ++ b) = bytesOf a ++ bytesOf b := by
  simp [bytesOf, String.toByteArray_append]

theorem bytesOf_listPattern (source : String) :
    bytesOf (listPattern source) =
      bytesOf "dp:observations:list:" ++ (bytesOf source ++ bytesOf ":*") := by
  have text : listPattern source = "dp:observations:list:" ++ (source ++ ":*") := by
    simp only [listPattern, cacheKeyListPrefix]
    rw [← String.append_assoc]
    rfl
  rw [text, bytesOf_append, bytesOf_append]

theorem bytesOf_listCacheKey (source : String) (skip limit : Int) :
    bytesOf (listCacheKey source skip limit) =
      bytesOf "dp:observations:list:" ++
        (bytesOf source ++ (bytesOf ":" ++ bytesOf s!"{skip}:{limit}")) := by
  have text : listCacheKey source skip limit =
      "dp:observations:list:" ++ (source ++ (":" ++ s!"{skip}:{limit}")) := by
    simp only [listCacheKey, cacheKeyListPrefix, String.append_assoc]
    rfl
  rw [text, bytesOf_append, bytesOf_append, bytesOf_append]

/-- The source has no mark of a set or an escape. -/
def Verbatim (source : String) : Prop :=
  ∀ b ∈ bytesOf source, b ≠ redisGlob.opening ∧ b ≠ redisGlob.escape

/-- The first of `*`, `[` and `\` in the source escapes another symbol, or opens a set without `[`. -/
def Misread (source : String) : Prop :=
  ∃ front rest : List UInt8,
    (∀ b ∈ front, b ≠ redisGlob.many ∧ b ≠ redisGlob.opening ∧ b ≠ redisGlob.escape) ∧
    ((bytesOf source = front ++ redisGlob.escape :: rest ∧ rest.head? ≠ some redisGlob.escape) ∨
      ∃ set, bytesOf source = front ++ redisGlob.opening :: (set ++ redisGlob.closing :: rest) ∧
        (∀ c ∈ set, redisGlob.Listed c) ∧ redisGlob.opening ∉ set)

/-- The marks as bytes. -/
theorem redisGlob_marks :
    redisGlob.many = 42 ∧ redisGlob.opening = 91 ∧ redisGlob.escape = 92 := ⟨rfl, rfl, rfl⟩

theorem bytesOf_listPrefix : bytesOf "dp:observations:list:" =
    [100, 112, 58, 111, 98, 115, 101, 114, 118, 97, 116, 105, 111, 110, 115, 58, 108, 105, 115, 116,
      58] := rfl

theorem bytesOf_colon : bytesOf ":" = [58] := rfl

/-- The end of a pattern: a colon, and anything. -/
theorem bytesOf_patternEnd : bytesOf ":*" = [58] ++ [redisGlob.many] := rfl

/-- The prefix of the keys stands for itself in a pattern. -/
theorem listPrefix_plain : ∀ b ∈ bytesOf "dp:observations:list:",
    b ≠ redisGlob.many ∧ b ≠ redisGlob.opening ∧ b ≠ redisGlob.escape := by
  simp [bytesOf_listPrefix, redisGlob_marks]

theorem colon_plain : ∀ b ∈ [58], b ≠ redisGlob.opening ∧ b ≠ redisGlob.escape := by
  simp [redisGlob_marks]

section Matching

variable {glob : List UInt8 → List UInt8 → Bool} {source : String} {skip limit : Int}

theorem listPattern_matches (laws : IsGlob redisGlob glob) (verbatim : Verbatim source)
    (skip limit : Int) :
    glob (bytesOf (listPattern source)) (bytesOf (listCacheKey source skip limit)) = true := by
  have plain : ∀ b ∈ bytesOf "dp:observations:list:",
      b ≠ redisGlob.opening ∧ b ≠ redisGlob.escape := fun b mem => (listPrefix_plain b mem).2
  rw [bytesOf_listPattern, bytesOf_listCacheKey, bytesOf_patternEnd, bytesOf_colon]
  refine laws.own_text plain (laws.own_text verbatim (laws.own_text colon_plain ?_))
  exact laws.many.mpr ⟨_, [], (List.append_nil _).symm, laws.nil.mpr rfl⟩

theorem not_listPattern_matches (laws : IsGlob redisGlob glob) (misread : Misread source)
    (skip limit : Int) :
    glob (bytesOf (listPattern source)) (bytesOf (listCacheKey source skip limit)) ≠ true := by
  intro matched
  rw [bytesOf_listPattern, bytesOf_listCacheKey, bytesOf_patternEnd] at matched
  have matched := laws.of_front listPrefix_plain matched
  obtain ⟨front, rest, fixed, ⟨is, other⟩ | ⟨set, is, listed, absent⟩⟩ := misread
  · rw [is, List.append_assoc, List.append_assoc] at matched
    have matched := laws.of_front fixed matched
    cases rest with
    | nil =>
      rw [List.cons_append, List.nil_append] at matched
      exact absurd (laws.escape_of_matched matched) (by decide)
    | cons c rest =>
      exact other (congrArg some (laws.escape_of_matched matched))
  · rw [is, List.append_assoc, List.append_assoc, List.cons_append, List.append_assoc,
      List.cons_append] at matched
    have matched := laws.of_front fixed matched
    exact absent (laws.opening_mem_of_matched listed matched)

end Matching

/-! ### When an invalidation is complete -/

section Invalidation

variable (glob : List UInt8 → List UInt8 → Bool) (store : ListStore Page) (source : String)
  (now : Int)

/-- No page of the source is left, and no page stands in for another one. -/
structure ListCacheSound : Prop where
  misses : ∀ skip limit,
    getObservationsList (invalidateObservationsListBySource store source glob) source skip limit now =
      none
  keys : ∀ {source source' skip skip' limit limit'},
    listCacheKey source skip limit = listCacheKey source' skip' limit' →
      source = source' ∧ skip = skip' ∧ limit = limit'
  others : ∀ {source source' : String} {skip skip' limit limit' : Int} (data : Page),
    (source', skip', limit') ≠ (source, skip, limit) →
      getObservationsList (setObservationsList store source skip limit now data) source' skip' limit'
        now = getObservationsList store source' skip' limit' now

/-- A page stays when the pattern does not match its key. -/
theorem getObservationsList_invalidate (skip limit : Int) :
    getObservationsList (invalidateObservationsListBySource store source glob) source skip limit now =
      if glob (bytesOf (listPattern source)) (bytesOf (listCacheKey source skip limit)) then none
      else getObservationsList store source skip limit now := by
  unfold getObservationsList invalidateObservationsListBySource
  cases glob (bytesOf (listPattern source)) (bytesOf (listCacheKey source skip limit)) with
  | true => cases shouldSkipListCache skip limit <;> rfl
  | false => rfl

theorem getObservationsList_set {source source' : String} {skip skip' limit limit' : Int}
    (data : Page) (other : (source', skip', limit') ≠ (source, skip, limit)) :
    getObservationsList (setObservationsList store source skip limit now data) source' skip' limit' now =
      getObservationsList store source' skip' limit' now := by
  unfold setObservationsList
  split
  · rfl
  · have keys : listCacheKey source' skip' limit' ≠ listCacheKey source skip limit := by
      intro same
      obtain ⟨rfl, rfl, rfl⟩ := listCacheKey_inj same
      exact other rfl
    unfold getObservationsList
    rw [Function.update_of_ne keys]

/-- The invalidation is complete when the pattern matches the keys of the cached pages. -/
theorem listCacheSound_iff :
    ListCacheSound glob store source now ↔
      ∀ skip limit, (getObservationsList store source skip limit now).isSome = true →
        glob (bytesOf (listPattern source)) (bytesOf (listCacheKey source skip limit)) = true := by
  constructor
  · intro sound skip limit cached
    have missed := sound.misses skip limit
    rw [getObservationsList_invalidate] at missed
    split at missed
    · assumption
    · rw [missed] at cached
      cases cached
  · intro matched
    refine ⟨fun skip limit => ?_, listCacheKey_inj, getObservationsList_set store now⟩
    rw [getObservationsList_invalidate]
    split
    · rfl
    · rename_i unmatched
      cases found : getObservationsList store source skip limit now with
      | none => rfl
      | some page => exact absurd (matched skip limit (by rw [found]; rfl)) unmatched

/-- **The invalidation of a source** is complete exactly when its pattern matches the key of each
page that is cached for the source. It does for every source without sets and escapes, and it drops no
page of a source that its own pattern misreads. -/
theorem list_invalidation_complete_iff (laws : IsGlob redisGlob glob) :
    (ListCacheSound glob store source now ↔
      ∀ skip limit, (getObservationsList store source skip limit now).isSome = true →
        glob (bytesOf (listPattern source)) (bytesOf (listCacheKey source skip limit)) = true) ∧
    (Verbatim source → ListCacheSound glob store source now) ∧
    (Misread source → (ListCacheSound glob store source now ↔
      ∀ skip limit, getObservationsList store source skip limit now = none)) := by
  refine ⟨listCacheSound_iff .., fun verbatim => ?_, fun misread => ?_⟩
  · rw [listCacheSound_iff]
    exact fun skip limit _ => listPattern_matches laws verbatim skip limit
  · rw [listCacheSound_iff]
    constructor
    · intro matched skip limit
      cases found : getObservationsList store source skip limit now with
      | none => rfl
      | some page =>
        have here := matched skip limit (by rw [found]; rfl)
        exact absurd here (not_listPattern_matches laws misread skip limit)
    · intro empty skip limit cached
      rw [empty skip limit] at cached
      cases cached

end Invalidation

/-- The first page of a source, and no other entry. -/
def firstPageOf (source : String) : ListStore String :=
  setObservationsList (fun _ => none) source 0 10 0 "[]"

theorem weather_invalidation_complete :
    ListCacheSound (globMatch redisGlob) (firstPageOf "weather*") "weather*" 0 :=
  (list_invalidation_complete_iff (globMatch redisGlob) (firstPageOf "weather*") "weather*" 0
    (isGlob_globMatch redisGlob)).2.1 (by unfold Verbatim; decide +kernel)

/-- The pattern of the source asks for a `b` where its keys have a `[`. -/
theorem bracket_page_survives :
    ¬ ListCacheSound (globMatch redisGlob) (firstPageOf "a[b]") "a[b]" 0 := by
  have misread : Misread "a[b]" := by
    refine ⟨['a'.toUInt8], [], ?_, .inr ⟨['b'.toUInt8], by decide +kernel, ?_, by decide +kernel⟩⟩
    · decide +kernel
    · unfold GlobMarks.Listed
      decide +kernel
  have cached : (getObservationsList (firstPageOf "a[b]") "a[b]" 0 10 0).isSome = true := by
    decide +kernel
  rw [listCacheSound_iff]
  intro matched
  exact not_listPattern_matches (isGlob_globMatch redisGlob) misread 0 10 (matched 0 10 cached)

end ApiObservatory.Observations
