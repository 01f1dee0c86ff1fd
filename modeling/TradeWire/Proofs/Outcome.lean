import TradeWire.Fault
/-! Computations that end with a value or a fault, step by step. -/

namespace TradeWire

theorem Except.bind_eq_ok {ε α β : Type} (first : Except ε α) (next : α → Except ε β) (b : β) :
    first >>= next = .ok b ↔ ∃ a, first = .ok a ∧ next a = .ok b := by
  cases first with
  | error fault => simp [bind, Except.bind]
  | ok a => simp [bind, Except.bind]

theorem Except.bind_eq_error {ε α β : Type} (first : Except ε α) (next : α → Except ε β)
    (fault : ε) :
    first >>= next = .error fault ↔
      first = .error fault ∨ ∃ a, first = .ok a ∧ next a = .error fault := by
  cases first with
  | error other => simp [bind, Except.bind]
  | ok a => simp [bind, Except.bind]

def Except.FailsIn {ε α : Type} (kind : ε → Prop) (run : Except ε α) : Prop :=
  ∀ fault, run = .error fault → kind fault

theorem Except.failsIn_ok {ε α : Type} (kind : ε → Prop) (a : α) : FailsIn kind (.ok a) :=
  fun _ failed => nomatch failed

theorem Except.failsIn_error {ε α : Type} (kind : ε → Prop) (fault : ε) (known : kind fault) :
    FailsIn kind (.error fault : Except ε α) := by
  intro other same
  cases same
  exact known

theorem Except.failsIn_bind {ε α β : Type} (kind : ε → Prop) (first : Except ε α)
    (next : α → Except ε β) (one : FailsIn kind first) (others : ∀ a, FailsIn kind (next a)) :
    FailsIn kind (first >>= next) := by
  intro fault failed
  rcases (bind_eq_error first next fault).mp failed with early | ⟨a, _, late⟩
  · exact one fault early
  · exact others a fault late

theorem Except.failsIn_mono {ε α : Type} (kind wider : ε → Prop) (run : Except ε α)
    (within : ∀ fault, kind fault → wider fault) (fails : FailsIn kind run) : FailsIn wider run :=
  fun fault failed => within fault (fails fault failed)

theorem Except.mapM_eq_error {ε α β : Type} (step : α → Except ε β) (items : List α) (fault : ε) :
    items.mapM step = .error fault ↔
      ∃ before item after, items = before ++ item :: after ∧
        (∀ earlier ∈ before, ∃ b, step earlier = .ok b) ∧ step item = .error fault := by
  induction items with
  | nil => simp [pure, Except.pure]
  | cons head items ih =>
      have failed : (head :: items).mapM step = .error fault ↔
          step head = .error fault ∨
            (∃ b, step head = .ok b) ∧ items.mapM step = .error fault := by
        rw [List.mapM_cons, bind_eq_error]
        simp [bind_eq_error, pure, Except.pure]
      rw [failed, ih]
      constructor
      · rintro (here | ⟨passed, before, item, after, same, earlier, there⟩)
        · exact ⟨[], head, items, rfl, by simp, here⟩
        · exact ⟨head :: before, item, after, by rw [same]; rfl,
            List.forall_mem_cons.mpr ⟨passed, earlier⟩, there⟩
      · rintro ⟨before, item, after, same, earlier, there⟩
        cases before with
        | nil =>
            cases same
            exact .inl there
        | cons first before =>
            cases same
            have passed := List.forall_mem_cons.mp earlier
            exact .inr ⟨passed.1, before, item, after, rfl, passed.2, there⟩

theorem Option.isSome_mapM {α β : Type} (step : α → Option β) (items : List α) :
    (items.mapM step).isSome ↔ ∀ item ∈ items, (step item).isSome := by
  induction items with
  | nil => simp
  | cons head items ih =>
      rw [List.mapM_cons, List.forall_mem_cons, ← ih]
      cases step head <;> cases items.mapM step <;> simp

theorem Option.mapM_eq_some {α β : Type} (step : α → Option β) (items : List α) (found : List β) :
    items.mapM step = some found ↔ items.map step = found.map some := by
  induction items generalizing found with
  | nil => cases found <;> simp
  | cons head items ih =>
      rw [List.mapM_cons, List.map_cons]
      cases stepped : step head with
      | none => cases found <;> simp
      | some value =>
          cases found with
          | nil => cases items.mapM step <;> simp
          | cons first found =>
              rw [List.map_cons, List.cons.injEq, ← ih found]
              cases items.mapM step <;> simp

theorem Except.filterMapM_cons_ok {ε α β : Type} (step : α → Except ε (Option β)) (item : α)
    (items : List α) (found : Option β) (stepped : step item = .ok found) :
    (item :: items).filterMapM step = (found.toList ++ ·) <$> items.filterMapM step := by
  rw [List.filterMapM_cons, stepped]
  cases found with
  | none =>
      cases items.filterMapM step <;> rfl
  | some result =>
      cases items.filterMapM step <;> rfl

theorem Except.filterMapM_cons_error {ε α β : Type} (step : α → Except ε (Option β)) (item : α)
    (items : List α) (fault : ε) (failed : step item = .error fault) :
    (item :: items).filterMapM step = .error fault := by
  rw [List.filterMapM_cons, failed]
  rfl

theorem Except.foldlM_singleton_ok {ε α σ : Type} {step : σ → α → Except ε σ} {item : α}
    {first last : σ} (stepped : step first item = .ok last) :
    [item].foldlM step first = .ok last := by
  rw [List.foldlM_cons, stepped]
  rfl

theorem Except.foldlM_cons_ok {ε α σ : Type} {step : σ → α → Except ε σ} {item : α}
    {items : List α} {first middle last : σ} (stepped : step first item = .ok middle)
    (run : items.foldlM step middle = .ok last) : (item :: items).foldlM step first = .ok last := by
  rw [List.foldlM_cons, stepped]
  exact run

theorem Except.foldlM_append_ok {ε α σ : Type} {step : σ → α → Except ε σ} {front back : List α}
    {first middle last : σ} (frontRun : front.foldlM step first = .ok middle)
    (backRun : back.foldlM step middle = .ok last) :
    (front ++ back).foldlM step first = .ok last := by
  rw [List.foldlM_append, frontRun]
  exact backRun

theorem Except.foldlM_keeps_of_mem {ε α σ : Type} (step : σ → α → Except ε σ) (kept : σ → Prop)
    (items : List α)
    (stepKeeps : ∀ item ∈ items, ∀ state next, kept state → step state item = .ok next → kept next)
    (first last : σ) (start : kept first) (run : items.foldlM step first = .ok last) :
    kept last := by
  induction items generalizing first with
  | nil =>
      cases run
      exact start
  | cons item items ih =>
      rw [List.forall_mem_cons] at stepKeeps
      rw [List.foldlM_cons, Except.bind_eq_ok] at run
      rcases run with ⟨next, stepped, rest⟩
      exact ih stepKeeps.2 next (stepKeeps.1 first next start stepped) rest

theorem Except.foldlM_keeps {ε α σ : Type} (step : σ → α → Except ε σ) (kept : σ → Prop)
    (stepKeeps : ∀ state item next, kept state → step state item = .ok next → kept next)
    (items : List α) (first last : σ) (start : kept first)
    (run : items.foldlM step first = .ok last) : kept last :=
  foldlM_keeps_of_mem step kept items (fun item _ state => stepKeeps state item) first last start
    run

theorem Except.foldlM_ok_of_step {ε α σ : Type} (step other : σ → α → Except ε σ)
    (same : ∀ state item next, step state item = .ok next → other state item = .ok next)
    (items : List α) (first last : σ) (run : items.foldlM step first = .ok last) :
    items.foldlM other first = .ok last := by
  induction items generalizing first with
  | nil => exact run
  | cons item items ih =>
      rw [List.foldlM_cons, Except.bind_eq_ok] at run
      obtain ⟨next, stepped, rest⟩ := run
      rw [List.foldlM_cons, same first item next stepped]
      exact ih next rest

theorem Except.exists_filterMapM {ε α β : Type} (step : α → Except ε (Option β))
    (items : List α) :
    (∃ results, items.filterMapM step = .ok results) ↔
      ∀ item ∈ items, ∀ fault, step item ≠ .error fault := by
  induction items with
  | nil => simp [pure, Except.pure]
  | cons item items ih =>
      rw [List.forall_mem_cons, ← ih]
      cases stepped : step item with
      | error fault =>
          rw [filterMapM_cons_error step item items fault stepped]
          simp
      | ok found =>
          rw [filterMapM_cons_ok step item items found stepped]
          cases items.filterMapM step <;> simp [Functor.map, Except.map]

theorem Except.filterMapM_map {ε α β : Type} (step : α → Except ε (Option β)) (change : α → α)
    (same : ∀ item, step (change item) = step item) (items : List α) :
    (items.map change).filterMapM step = items.filterMapM step := by
  induction items with
  | nil => rfl
  | cons item items ih =>
      rw [List.map_cons, List.filterMapM_cons, List.filterMapM_cons, same, ih]

theorem Except.filterMapM_ok {ε α β : Type} (step : α → Except ε (Option β)) (found? : α → Option β)
    (same : ∀ item found, step item = .ok found → found = found? item) (items : List α)
    (results : List β) (ran : items.filterMapM step = .ok results) :
    results = items.filterMap found? := by
  induction items generalizing results with
  | nil =>
      cases ran
      rfl
  | cons item items ih =>
      cases stepped : step item with
      | error fault =>
          rw [filterMapM_cons_error step item items fault stepped] at ran
          cases ran
      | ok found =>
          rw [filterMapM_cons_ok step item items found stepped] at ran
          cases others : items.filterMapM step with
          | error fault =>
              rw [others] at ran
              cases ran
          | ok rest =>
              rw [others] at ran
              cases ran
              rw [ih rest others, same item found stepped, List.filterMap_cons]
              cases found? item <;> rfl

end TradeWire
