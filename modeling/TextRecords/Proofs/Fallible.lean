/-!
# Steps that may fail

A step that may fail gives its result or a fault. Steps that depend on each other succeed when each
of them does (`bind_eq_ok_iff`, `map_eq_ok_iff`), so a run of steps does (`foldlM_cons_eq_ok_iff`),
and it keeps what every step that succeeds keeps (`foldlM_preserves`). A run that fails has the
fault of one of its steps (`exists_of_foldlM_eq_error`). What every step respects, its faults
included, the run respects (`map_foldlM_seen`). Each of the results for a list of elements is that
for one of them (`exists_of_mem_mapM_some`, `exists_of_mem_mapM_ok`).
-/

namespace TextRecords

/-- A result is there when it is there without regard to faults. -/
theorem toOption_eq_some_iff {ε α : Type} {result : Except ε α} {a : α} :
    result.toOption = some a ↔ result = .ok a := by
  cases result with
  | error fault => exact ⟨nofun, nofun⟩
  | ok b => exact ⟨fun h => congrArg Except.ok (Option.some.inj h), fun h => by rw [h]; rfl⟩

/-- A step that goes on from the result of another one succeeds when both do. -/
theorem bind_eq_ok_iff {ε α β : Type} {result : Except ε α} {step : α → Except ε β} {last : β} :
    result >>= step = .ok last ↔ ∃ next, result = .ok next ∧ step next = .ok last := by
  cases result with
  | error fault => exact ⟨nofun, nofun⟩
  | ok next => exact ⟨fun h => ⟨next, rfl, h⟩, fun ⟨_, hnext, h⟩ => Except.ok.inj hnext ▸ h⟩

/-- A step that goes on from the result of another one fails when one of the two does. -/
theorem bind_eq_error_iff {ε α β : Type} {result : Except ε α} {step : α → Except ε β} {fault : ε} :
    result >>= step = .error fault ↔
      result = .error fault ∨ ∃ next, result = .ok next ∧ step next = .error fault := by
  cases result with
  | error other =>
    refine ⟨fun h => .inl (congrArg Except.error (Except.error.inj h)), ?_⟩
    rintro (h | ⟨_, hnext, -⟩)
    · exact congrArg Except.error (Except.error.inj h)
    · cases hnext
  | ok next =>
    refine ⟨fun h => .inr ⟨next, rfl, h⟩, ?_⟩
    rintro (h | ⟨_, hnext, h⟩)
    · cases h
    · rwa [← Except.ok.inj hnext] at h

/-- A result that is changed where it is there is there when it was before. -/
theorem map_eq_ok_iff {ε α β : Type} {result : Except ε α} {change : α → β} {last : β} :
    result.map change = .ok last ↔ ∃ next, result = .ok next ∧ change next = last := by
  cases result with
  | error fault => exact ⟨nofun, nofun⟩
  | ok next =>
    refine ⟨fun h => ⟨next, rfl, Except.ok.inj h⟩, ?_⟩
    rintro ⟨_, hnext, rfl⟩
    rw [Except.ok.inj hnext]
    rfl

/-- Faults that are left as they are. -/
theorem mapError_id {ε α : Type} (result : Except ε α) : result.mapError id = result := by
  cases result <;> rfl

/-- A run of steps that may fail is a step and a run of the others. -/
theorem foldlM_cons_eq_ok_iff {α β ε : Type} {step : β → α → Except ε β} {a : α} {rest : List α}
    {b last : β} :
    (a :: rest).foldlM step b = .ok last ↔
      ∃ next, step b a = .ok next ∧ rest.foldlM step next = .ok last := by
  rw [List.foldlM_cons, bind_eq_ok_iff]

/-- What every step that succeeds preserves is preserved by a run that succeeds. -/
theorem foldlM_preserves {α β ε : Type} {step : β → α → Except ε β} {P : β → Prop} {list : List α}
    (h : ∀ a ∈ list, ∀ b next, step b a = .ok next → P b → P next) {b last : β}
    (hfold : list.foldlM step b = .ok last) (hb : P b) : P last := by
  induction list generalizing b with
  | nil => exact Except.ok.inj hfold ▸ hb
  | cons a rest ih =>
    rw [List.forall_mem_cons] at h
    obtain ⟨next, hnext, hrest⟩ := foldlM_cons_eq_ok_iff.1 hfold
    exact ih h.2 hrest (h.1 b next hnext hb)

/-- A run that fails does so at one of its steps. -/
theorem exists_of_foldlM_eq_error {α β ε : Type} {step : β → α → Except ε β} {list : List α} {b : β}
    {fault : ε} (h : list.foldlM step b = .error fault) :
    ∃ a ∈ list, ∃ reached, step reached a = .error fault := by
  induction list generalizing b with
  | nil => cases h
  | cons a rest ih =>
    rw [List.foldlM_cons, bind_eq_error_iff] at h
    rcases h with hstep | ⟨next, -, hrest⟩
    · exact ⟨a, List.mem_cons_self, b, hstep⟩
    · obtain ⟨other, hother, reached, hstep⟩ := ih hrest
      exact ⟨other, List.mem_cons_of_mem _ hother, reached, hstep⟩

/-- A run of steps that may fail, seen through maps of the results, the elements and the faults that
every step respects. -/
theorem map_foldlM_seen {α β γ δ ε ζ : Type} {step : β → α → Except ε β} {seen : γ → δ → Except ζ γ}
    {f : β → γ} {g : α → δ} {e : ε → ζ}
    (h : ∀ b a, ((step b a).map f).mapError e = seen (f b) (g a)) (b : β) (list : List α) :
    ((list.foldlM step b).map f).mapError e = (list.map g).foldlM seen (f b) := by
  induction list generalizing b with
  | nil => rfl
  | cons a rest ih =>
    rw [List.map_cons, List.foldlM_cons, List.foldlM_cons, ← h]
    cases step b a with
    | error fault => rfl
    | ok next => exact ih next

/-- A run of steps that may fail, seen through a map that every step respects. -/
theorem map_foldlM_except {α β γ ε : Type} {step : β → α → Except ε β} {seen : γ → α → Except ε γ}
    {f : β → γ} (h : ∀ b a, (step b a).map f = seen (f b) a) (b : β) (list : List α) :
    (list.foldlM step b).map f = list.foldlM seen (f b) := by
  have hseen := map_foldlM_seen (g := id) (e := id)
    (fun b a => (mapError_id _).trans (h b a)) b list
  rwa [mapError_id, List.map_id] at hseen

/-- When a partial function has a result for every element of a list, each result is that for one of
the elements. -/
theorem exists_of_mem_mapM_some {α β : Type} {f : α → Option β} {list : List α} {results : List β}
    (h : list.mapM f = some results) {b : β} (hb : b ∈ results) : ∃ a ∈ list, f a = some b := by
  induction list generalizing results with
  | nil =>
    obtain rfl : [] = results := Option.some.inj h
    exact absurd hb List.not_mem_nil
  | cons a rest ih =>
    rw [List.mapM_cons] at h
    obtain ⟨first, hfirst, h⟩ := Option.bind_eq_some_iff.1 h
    obtain ⟨others, hothers, h⟩ := Option.bind_eq_some_iff.1 h
    obtain rfl : first :: others = results := Option.some.inj h
    rcases List.mem_cons.1 hb with rfl | hb
    · exact ⟨a, List.mem_cons_self, hfirst⟩
    · obtain ⟨other, hother, heq⟩ := ih hothers hb
      exact ⟨other, List.mem_cons_of_mem _ hother, heq⟩

/-- When a step succeeds for every element of a list, each result is that for one of the
elements. -/
theorem exists_of_mem_mapM_ok {α β ε : Type} {f : α → Except ε β} {list : List α} {results : List β}
    (h : list.mapM f = .ok results) {b : β} (hb : b ∈ results) : ∃ a ∈ list, f a = .ok b := by
  induction list generalizing results with
  | nil =>
    obtain rfl : [] = results := Except.ok.inj h
    exact absurd hb List.not_mem_nil
  | cons a rest ih =>
    rw [List.mapM_cons] at h
    obtain ⟨first, hfirst, h⟩ := bind_eq_ok_iff.1 h
    obtain ⟨others, hothers, h⟩ := bind_eq_ok_iff.1 h
    obtain rfl : first :: others = results := Except.ok.inj h
    rcases List.mem_cons.1 hb with rfl | hb
    · exact ⟨a, List.mem_cons_self, hfirst⟩
    · obtain ⟨other, hother, heq⟩ := ih hothers hb
      exact ⟨other, List.mem_cons_of_mem _ hother, heq⟩

end TextRecords
