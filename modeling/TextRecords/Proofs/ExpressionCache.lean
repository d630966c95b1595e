import Mathlib
import TextRecords.ExpressionCache
import TextRecords.Proofs.Lists

/-!
# What an expression cache keeps

The texts that were used last, each counted once, are `Recent.lastUsed`. Storing a value under a key
moves the key to the front of a list without repetitions and cuts the list to the capacity; cutting
first makes no difference (`take_cons_filter_take`), so the keys of a cache are those that were used
last, and a text is found exactly when it is one of them (`Recent.Follows.fetch_eq`).

So a cache of expressions is seen in its counters alone (`ExpressionCache.serve_exact`): every
request is answered as without the cache, it is a hit when its text is one of those that were used
last, and texts that are no expressions leave no trace.
-/

namespace TextRecords

section Distinct

variable {α : Type} [BEq α] [LawfulBEq α]

/-- An element that is moved to the front of a list without repetitions pushes the same elements out
of its beginning, whether the list is cut before or not. -/
theorem take_cons_filter_take (a : α) {list : List α} (h : list.Nodup) (count : Nat) :
    (a :: (list.take count).filter (· != a)).take count =
      (a :: list.filter (· != a)).take count := by
  cases count with
  | zero => rfl
  | succ count =>
    rw [List.take_succ_cons, List.take_succ_cons]
    congr 1
    induction list generalizing count with
    | nil => rfl
    | cons b rest ih =>
      obtain ⟨hmem, hrest⟩ := List.nodup_cons.1 h
      rw [List.take_succ_cons, List.filter_cons, List.filter_cons]
      by_cases hb : b = a
      · -- The element itself goes, and none of the others does.
        subst hb
        have hothers : ∀ part : List α, part.Sublist rest → part.filter (· != b) = part := by
          intro part hpart
          refine List.filter_eq_self.2 fun other hother => bne_iff_ne.2 ?_
          rintro rfl
          exact hmem (hpart.subset hother)
        rw [bne_self_eq_false, if_neg Bool.false_ne_true, if_neg Bool.false_ne_true,
          hothers _ (List.take_sublist _ _), hothers rest (List.Sublist.refl _), List.take_take,
          Nat.min_self]
      · rw [if_pos (bne_iff_ne.2 hb), if_pos (bne_iff_ne.2 hb)]
        cases count with
        | zero => rfl
        | succ count => rw [List.take_succ_cons, List.take_succ_cons, ih hrest]

end Distinct

namespace Recent

variable {α ε : Type} {compile : String → Except ε α} {recent : Recent α} {texts : List String}
  {text : String}

/-- The distinct texts that can be compiled among those that are requested one after another, the
last one first, and only so many of them. -/
def lastUsed (compile : String → Except ε α) (count : Nat) (texts : List String) : List String :=
  ((texts.filter fun text => (compile text).isOk).reverse.eraseDups).take count

/-- Without requests, no text was used. -/
theorem lastUsed_nil (compile : String → Except ε α) (count : Nat) :
    lastUsed compile count [] = [] :=
  List.take_nil

/-- A text that cannot be compiled is not among those that were used last, and displaces none. -/
theorem lastUsed_append_of_error {fault : ε} (h : compile text = .error fault) (count : Nat) :
    lastUsed compile count (texts ++ [text]) = lastUsed compile count texts := by
  rw [lastUsed, List.filter_append, List.filter_singleton, h]
  exact congrArg (fun texts => (List.eraseDups (List.reverse texts)).take count)
    (List.append_nil _)

/-- A text that is compiled moves to the front of those that were used last. -/
theorem lastUsed_append_of_ok {value : α} (h : compile text = .ok value) (count : Nat) :
    lastUsed compile count (texts ++ [text]) =
      (text :: (lastUsed compile count texts).filter (· != text)).take count := by
  have hfilter : ((texts ++ [text]).filter fun text => (compile text).isOk).reverse =
      text :: (texts.filter fun text => (compile text).isOk).reverse := by
    rw [List.filter_append, List.filter_singleton, h, List.reverse_append]
    rfl
  rw [lastUsed, hfilter, List.eraseDups_cons, eraseDups_filter, lastUsed,
    take_cons_filter_take text (nodup_eraseDups _)]
  rfl

/-- A cache that has the values of the texts that were used last. -/
structure Follows (compile : String → Except ε α) (recent : Recent α) (texts : List String) :
    Prop where
  keys : recent.entries.map Prod.fst = lastUsed compile recent.capacity texts
  values : ∀ entry ∈ recent.entries, compile entry.1 = .ok entry.2

/-- The answer to a request for the value of a text, the cache afterwards, and whether the value was
found in it. -/
def fetch (compile : String → Except ε α) (recent : Recent α) (text : String) :
    Except ε α × Recent α × Bool :=
  match recent.find? text with
  | some found => (.ok found, recent.use text found, true)
  | none =>
    match compile text with
    | .ok compiled => (.ok compiled, recent.use text compiled, false)
    | .error fault => (.error fault, recent, false)

/-- A cache after a request whose text has a value, or has none. -/
def requested (compile : String → Except ε α) (recent : Recent α) (text : String) : Recent α :=
  match compile text with
  | .ok value => recent.use text value
  | .error _ => recent

namespace Follows

/-- What is found is the value of the text. -/
theorem eq_ok_of_find? (h : recent.Follows compile texts) {value : α}
    (hfound : recent.find? text = some value) : compile text = .ok value := by
  obtain ⟨entry, hentry, rfl⟩ := Option.map_eq_some_iff.1 hfound
  have hkey := List.find?_some hentry
  rw [← beq_iff_eq.1 hkey]
  exact h.values entry (List.mem_of_find?_eq_some hentry)

/-- A value is found for the texts that were used last, and for no others. -/
theorem isSome_find? (h : recent.Follows compile texts) :
    (recent.find? text).isSome = decide (text ∈ lastUsed compile recent.capacity texts) := by
  rw [← h.keys, Bool.eq_iff_iff, decide_eq_true_iff, find?, Option.isSome_map, List.find?_isSome,
    List.mem_map]
  simp only [beq_iff_eq]

/-- A request is answered by the value of its text, and the value is found when the text is one of
those that were used last. -/
theorem fetch_eq (h : recent.Follows compile texts) :
    recent.fetch compile text = (compile text, recent.requested compile text,
      decide (text ∈ lastUsed compile recent.capacity texts)) := by
  rw [← h.isSome_find?, fetch, requested]
  cases hfound : recent.find? text with
  | some found =>
    rw [h.eq_ok_of_find? hfound]
    rfl
  | none => cases compile text <;> rfl

/-- After a request, a cache still has the values of the texts that were used last. -/
theorem requested (h : recent.Follows compile texts) :
    (recent.requested compile text).Follows compile (texts ++ [text]) := by
  unfold Recent.requested
  cases hvalue : compile text with
  | error fault => exact ⟨by rw [h.keys, lastUsed_append_of_error hvalue], h.values⟩
  | ok value =>
    refine ⟨?_, fun entry hentry => ?_⟩
    · have hkeys : (recent.entries.filter (·.1 != text)).map Prod.fst =
          (recent.entries.map Prod.fst).filter (· != text) := by
        rw [List.filter_map]
        rfl
      have hentries : (recent.use text value).entries =
          ((text, value) :: recent.entries.filter (·.1 != text)).take recent.capacity := rfl
      have hcapacity : (recent.use text value).capacity = recent.capacity := rfl
      rw [hentries, hcapacity, List.map_take, List.map_cons, hkeys, h.keys,
        lastUsed_append_of_ok hvalue]
    · rcases List.mem_cons.1 (List.mem_of_mem_take hentry) with rfl | hmem
      · exact hvalue
      · exact h.values entry (List.mem_of_mem_filter hmem)

/-- A cache has no more values than its capacity. -/
theorem length_le (h : recent.Follows compile texts) :
    recent.entries.length ≤ recent.capacity := by
  rw [← List.length_map, h.keys]
  exact List.length_take_le _ _

end Follows

/-- A request keeps the capacity. -/
@[simp]
theorem capacity_requested :
    (recent.requested compile text).capacity = recent.capacity := by
  unfold Recent.requested
  split <;> rfl

end Recent

/-- The kinds of expressions that a cache keeps. -/
inductive ExpressionKind where
  | selection
  | fields
deriving DecidableEq, Repr

namespace ExpressionKind

/-- The faults of a kind of expressions. -/
def Fault : ExpressionKind → Type
  | selection => SelectionFault
  | fields => FieldSelectionFault

/-- The expressions of a kind. -/
def Expression : ExpressionKind → Type
  | selection => Selection
  | fields => FieldSelection

/-- The expression of a kind that a text denotes. -/
def compile : (kind : ExpressionKind) → String → Except kind.Fault kind.Expression
  | selection => Selection.ofText
  | fields => FieldSelection.ofText

end ExpressionKind

namespace ExpressionCache

/-- The expressions of a kind that a cache keeps. -/
def kept (cache : ExpressionCache) : (kind : ExpressionKind) → Recent kind.Expression
  | .selection => cache.selections
  | .fields => cache.fields

/-- A cache with other expressions of a kind. -/
def keeping (cache : ExpressionCache) :
    (kind : ExpressionKind) → Recent kind.Expression → ExpressionCache
  | .selection, recent => { cache with selections := recent }
  | .fields, recent => { cache with fields := recent }

/-- A cache with one hit or one miss more. -/
def counting (cache : ExpressionCache) (hit : Bool) : ExpressionCache :=
  if hit then { cache with hits := cache.hits + 1 } else { cache with misses := cache.misses + 1 }

/-- The expression of a kind that a text denotes, and the cache after its use. -/
def serve (cache : ExpressionCache) :
    (kind : ExpressionKind) → String → Except kind.Fault kind.Expression × ExpressionCache
  | .selection => cache.selection
  | .fields => cache.fieldSelection

/-- A cache after requests for the expressions of texts, one after another. -/
def serveAll (cache : ExpressionCache) (requests : List (ExpressionKind × String)) :
    ExpressionCache :=
  requests.foldl (fun cache request => (cache.serve request.1 request.2).2) cache

/-- The texts that are requested as expressions of a kind. -/
def textsOf (kind : ExpressionKind) (requests : List (ExpressionKind × String)) : List String :=
  (requests.filter (·.1 = kind)).map Prod.snd

variable {cache : ExpressionCache} {requests : List (ExpressionKind × String)}
  {kind : ExpressionKind} {text : String}

/-- A request is answered from the expressions of its kind, and counted as a hit or as a miss. -/
theorem serve_eq (cache : ExpressionCache) (kind : ExpressionKind) (text : String) :
    cache.serve kind text =
      (((cache.kept kind).fetch kind.compile text).1,
        (cache.keeping kind ((cache.kept kind).fetch kind.compile text).2.1).counting
          ((cache.kept kind).fetch kind.compile text).2.2) := by
  -- Both kinds are served in one way, each from expressions of its own.
  cases kind with
  | selection =>
    have heq : cache.selection text =
        ((cache.selections.fetch Selection.ofText text).1,
          counting { cache with selections := (cache.selections.fetch Selection.ofText text).2.1 }
            (cache.selections.fetch Selection.ofText text).2.2) := by
      unfold selection Recent.fetch
      cases cache.selections.find? text with
      | some found => rfl
      | none => cases Selection.ofText text <;> rfl
    exact heq
  | fields =>
    have heq : cache.fieldSelection text =
        ((cache.fields.fetch FieldSelection.ofText text).1,
          counting { cache with fields := (cache.fields.fetch FieldSelection.ofText text).2.1 }
            (cache.fields.fetch FieldSelection.ofText text).2.2) := by
      unfold fieldSelection Recent.fetch
      cases cache.fields.find? text with
      | some found => rfl
      | none => cases FieldSelection.ofText text <;> rfl
    exact heq

/-- Counting leaves the expressions as they are. -/
@[simp]
theorem kept_counting (cache : ExpressionCache) (hit : Bool) (kind : ExpressionKind) :
    (cache.counting hit).kept kind = cache.kept kind := by
  cases hit <;> cases kind <;> rfl

/-- The expressions of a kind are those that are put in their place. -/
@[simp]
theorem kept_keeping (cache : ExpressionCache) (kind : ExpressionKind)
    (recent : Recent kind.Expression) : (cache.keeping kind recent).kept kind = recent := by
  cases kind <;> rfl

/-- The expressions of the other kind stay. -/
theorem kept_keeping_of_ne (cache : ExpressionCache) {kind other : ExpressionKind}
    (h : other ≠ kind) (recent : Recent kind.Expression) :
    (cache.keeping kind recent).kept other = cache.kept other := by
  cases kind <;> cases other <;> first | rfl | exact absurd rfl h

/-- Expressions that are put in their place are not counted. -/
@[simp]
theorem hits_keeping (cache : ExpressionCache) (kind : ExpressionKind)
    (recent : Recent kind.Expression) : (cache.keeping kind recent).hits = cache.hits := by
  cases kind <;> rfl

/-- Expressions that are put in their place are not counted. -/
@[simp]
theorem misses_keeping (cache : ExpressionCache) (kind : ExpressionKind)
    (recent : Recent kind.Expression) : (cache.keeping kind recent).misses = cache.misses := by
  cases kind <;> rfl

/-- A cache that keeps of each kind the expressions that were used last, and has counted all
requests. -/
structure Follows (cache : ExpressionCache) (capacity : Nat)
    (requests : List (ExpressionKind × String)) : Prop where
  kept : ∀ kind, (cache.kept kind).Follows kind.compile (textsOf kind requests)
  capacity : ∀ kind, (cache.kept kind).capacity = capacity
  counted : cache.hits + cache.misses = requests.length

/-- The texts of a kind after one more request. -/
theorem textsOf_append (requests : List (ExpressionKind × String)) (kind other : ExpressionKind)
    (text : String) :
    textsOf other (requests ++ [(kind, text)]) =
      textsOf other requests ++ if kind = other then [text] else [] := by
  rw [textsOf, List.filter_append, List.map_append, ← textsOf, List.filter_singleton]
  by_cases h : kind = other
  · simp [h]
  · simp [h]

/-- An empty cache has kept nothing, for no requests. -/
theorem follows_ofCapacity (capacity : Nat) :
    (ofCapacity capacity).Follows (max 1 capacity) [] where
  kept kind := by
    have hnone : textsOf kind [] = [] := rfl
    rw [hnone]
    cases kind <;> exact ⟨(Recent.lastUsed_nil _ _).symm, List.forall_mem_nil _⟩
  capacity kind := by cases kind <;> rfl
  counted := rfl

namespace Follows

variable {capacity : Nat}

/-- What a request comes to in a cache that keeps the expressions that were used last. -/
theorem serve_eq (h : cache.Follows capacity requests) (kind : ExpressionKind) (text : String) :
    cache.serve kind text =
      (kind.compile text,
        (cache.keeping kind ((cache.kept kind).requested kind.compile text)).counting
          (decide (text ∈ Recent.lastUsed kind.compile capacity (textsOf kind requests)))) := by
  rw [ExpressionCache.serve_eq, (h.kept kind).fetch_eq, h.capacity kind]

/-- After a request, the cache keeps the expressions that were used last. -/
theorem serve (h : cache.Follows capacity requests) (kind : ExpressionKind) (text : String) :
    (cache.serve kind text).2.Follows capacity (requests ++ [(kind, text)]) := by
  rw [h.serve_eq]
  dsimp only
  generalize decide (text ∈ Recent.lastUsed kind.compile capacity (textsOf kind requests)) = hit
  refine ⟨fun other => ?_, fun other => ?_, ?_⟩
  · rw [kept_counting, textsOf_append]
    by_cases hkind : other = kind
    · subst hkind
      rw [kept_keeping, if_pos rfl]
      exact (h.kept other).requested
    · rw [kept_keeping_of_ne cache hkind, if_neg (Ne.symm hkind), List.append_nil]
      exact h.kept other
  · rw [kept_counting]
    by_cases hkind : other = kind
    · subst hkind
      rw [kept_keeping, Recent.capacity_requested]
      exact h.capacity other
    · rw [kept_keeping_of_ne cache hkind]
      exact h.capacity other
  · have hcounted := h.counted
    rw [List.length_append, List.length_singleton]
    cases hit <;> simp [counting] <;> omega

/-- After requests one after another, the cache keeps the expressions that were used last. -/
theorem serveAll (h : cache.Follows capacity requests) (more : List (ExpressionKind × String)) :
    (cache.serveAll more).Follows capacity (requests ++ more) := by
  induction more generalizing cache requests with
  | nil => rwa [List.append_nil]
  | cons request rest ih =>
    rw [List.append_cons]
    exact ih (h.serve request.1 request.2)

/-- The cache has no more expressions than it has place for. -/
theorem size_le (h : cache.Follows capacity requests) : cache.size ≤ 2 * capacity := by
  have hselections : cache.selections.entries.length ≤ capacity :=
    h.capacity .selection ▸ (h.kept .selection).length_le
  have hfields : cache.fields.entries.length ≤ capacity :=
    h.capacity .fields ▸ (h.kept .fields).length_le
  rw [size]
  omega

/-- A text that is no expression leaves the expressions as they are. -/
theorem kept_serve_of_error (h : cache.Follows capacity requests) {fault : kind.Fault}
    (hfault : kind.compile text = .error fault) (other : ExpressionKind) :
    (cache.serve kind text).2.kept other = cache.kept other := by
  have hsame : (cache.kept kind).requested kind.compile text = cache.kept kind := by
    rw [Recent.requested, hfault]
  rw [h.serve_eq, kept_counting, hsame]
  by_cases hkind : other = kind
  · subst hkind
    exact kept_keeping cache other _
  · exact kept_keeping_of_ne cache hkind _

end Follows

/-- A cache is opened for some number of expressions and serves requests. The next request is
answered as without the cache. It is a hit when its text is among the texts of its kind that were
used last, so many of them as the capacity says but at least one, and a miss otherwise; every
request was the one or the other. A text that is no expression leaves the expressions of the cache
as they are: their texts are those that were used last, and they are at most twice the capacity. -/
theorem serve_exact (capacity : Nat) (requests : List (ExpressionKind × String))
    (kind : ExpressionKind) (text : String) :
    let cache := (ofCapacity capacity).serveAll requests
    let next := (cache.serve kind text).2
    let lastUsed (kind : ExpressionKind) :=
      Recent.lastUsed kind.compile (max capacity 1) (textsOf kind requests)
    (cache.serve kind text).1 = kind.compile text ∧
      (next.hits, next.misses) = (if text ∈ lastUsed kind then (cache.hits + 1, cache.misses)
        else (cache.hits, cache.misses + 1)) ∧
      cache.hits + cache.misses = requests.length ∧
      (∀ fault, kind.compile text = .error fault → ∀ other, next.kept other = cache.kept other) ∧
      (∀ other, (cache.kept other).entries.map Prod.fst = lastUsed other) ∧
      cache.size ≤ 2 * max capacity 1 := by
  intro cache next lastUsed
  have h : cache.Follows (max capacity 1) requests := by
    rw [Nat.max_comm]
    exact (follows_ofCapacity capacity).serveAll requests
  have hserve := h.serve_eq kind text
  refine ⟨congrArg Prod.fst hserve, ?_, h.counted, fun fault => h.kept_serve_of_error,
    fun other => ?_, h.size_le⟩
  · have hnext : next = _ := congrArg Prod.snd hserve
    rw [hnext]
    by_cases hmem : text ∈ lastUsed kind
    · rw [if_pos hmem, decide_eq_true hmem]
      simp [counting]
    · rw [if_neg hmem, decide_eq_false hmem]
      simp [counting]
  · rw [(h.kept other).keys, h.capacity other]

/-- In a cache for one selection, a text that is no selection is a miss, but does not displace the
selection that was used last. -/
theorem serve_exact_unfinished :
    let requests := [(ExpressionKind.selection, "a"), (.selection, "b"), (.fields, "a")]
    let cache := (ofCapacity 1).serveAll requests
    let next := (cache.serve .selection "b = ").2
    (∃ fault, Selection.ofText "b = " = .error fault) ∧ cache.hits + cache.misses = 3 ∧
      (next.hits, next.misses) = (cache.hits, cache.misses + 1) ∧
      cache.selections.entries.map Prod.fst = ["b"] ∧ next.selections = cache.selections := by
  intro requests cache next
  obtain ⟨-, hcounts, hcounted, herror, hkeys, -⟩ :=
    serve_exact 1 requests .selection "b = "
  have ha : Selection.ofText "a" = .ok ⟨"a", .field "a" none⟩ := by cbv
  have hb : Selection.ofText "b" = .ok ⟨"b", .field "b" none⟩ := by cbv
  have hfault : Selection.ofText "b = " = .error (.grammar 2 (.valueExpected [])) := by cbv
  have hrequests : textsOf .selection requests = ["a", "b"] := by decide
  have hlast : Recent.lastUsed ExpressionKind.selection.compile (max 1 1)
      (textsOf .selection requests) = ["b"] := by
    rw [hrequests]
    simp only [Recent.lastUsed, ExpressionKind.compile, List.filter_cons, List.filter_nil, ha, hb]
    decide
  refine ⟨⟨_, hfault⟩, hcounted, ?_, (hkeys .selection).trans hlast, herror _ hfault .selection⟩
  have hmiss : "b = " ∉ Recent.lastUsed ExpressionKind.selection.compile (max 1 1)
      (textsOf .selection requests) := by
    rw [hlast]
    decide
  exact hcounts.trans (if_neg hmiss)

end ExpressionCache

end TextRecords
