import StunServer.Lib.Machine

/-! Workers that share something. A job has a part of the worker's own, one step on what is
shared, and another part of his own, and the parts of different workers come in any order. What
comes out is what the jobs give when each is done at one go, in the order of their steps on what
is shared. -/

namespace Interleave

variable {κ σ σ₁ σ₂ τ ι ω : Type*}

/-- The three parts of a job. -/
structure Work (σ σ₁ σ₂ τ ι ω : Type*) where
  begins : σ → ι → σ₁
  shares : σ₁ → ι → τ → σ₂ × τ
  ends : σ₂ → ι → ω × σ

/-- Where a worker is. -/
inductive Point (σ σ₁ σ₂ ι : Type*) where
  | free (s : σ)
  | begun (i : ι) (s : σ₁)
  | shared (i : ι) (s : σ₂)

inductive Part (ι : Type*) where
  | begins (i : ι)
  | shares
  | ends

structure System (κ σ σ₁ σ₂ τ ι ω : Type*) where
  point : κ → Point σ σ₁ σ₂ ι
  shared : τ
  /-- What each worker has done. -/
  done : κ → List (ι × ω)
  /-- The jobs that have come to the shared step, in that order. -/
  order : List (κ × ι)

/-- What a worker has done in a run of whole jobs. -/
def results [DecidableEq κ] (k : κ) (run : List ((κ × ι) × ω)) : List (ι × ω) :=
  (run.filter fun e => e.1.1 = k).map fun e => (e.1.2, e.2)

theorem results_concat [DecidableEq κ] (k : κ) (run : List ((κ × ι) × ω)) (job : κ × ι) (o : ω) :
    results k (run ++ [(job, o)]) =
      if job.1 = k then results k run ++ [(job.2, o)] else results k run := by
  rw [results, List.filter_append, List.map_append]
  by_cases h : job.1 = k
  · rw [if_pos h, List.filter_cons, if_pos (decide_eq_true h)]
    rfl
  · rw [if_neg h, List.filter_cons, if_neg (by simpa using h)]
    exact List.append_nil _

namespace Work

variable [DecidableEq κ] (w : Work σ σ₁ σ₂ τ ι ω)

def start (m : κ → σ) (t : τ) : System κ σ σ₁ σ₂ τ ι ω := ⟨fun k => .free (m k), t, fun _ => [], []⟩

/-- The next part of a worker's job; a part that is not the next does nothing. -/
def step (s : System κ σ σ₁ σ₂ τ ι ω) (e : κ × Part ι) : System κ σ σ₁ σ₂ τ ι ω :=
  match s.point e.1, e.2 with
  | .free p, .begins i => { s with point := Function.update s.point e.1 (.begun i (w.begins p i)) }
  | .begun i p, .shares =>
    { s with
      point := Function.update s.point e.1 (.shared i (w.shares p i s.shared).1)
      shared := (w.shares p i s.shared).2
      order := s.order ++ [(e.1, i)] }
  | .shared i p, .ends =>
    { s with
      point := Function.update s.point e.1 (.free (w.ends p i).2)
      done := Function.update s.done e.1 (s.done e.1 ++ [(i, (w.ends p i).1)]) }
  | _, _ => s

/-- A job done at one go. -/
def whole (s : (κ → σ) × τ) (job : κ × ι) : ω × ((κ → σ) × τ) :=
  let shared := w.shares (w.begins (s.1 job.1) job.2) job.2 s.2
  let ended := w.ends shared.1 job.2
  (ended.1, (Function.update s.1 job.1 ended.2, shared.2))

variable {w} {m : κ → σ} {t : τ} {s : System κ σ σ₁ σ₂ τ ι ω}

/-- A worker is as far as the whole jobs have brought him, but for the job he is at. -/
def Matches (w : Work σ σ₁ σ₂ τ ι ω) (own : σ) (results done : List (ι × ω)) :
    Point σ σ₁ σ₂ ι → Prop
  | .free p => p = own ∧ results = done
  | .begun i p => p = w.begins own i ∧ results = done
  | .shared i p => (w.ends p i).2 = own ∧ results = done ++ [(i, (w.ends p i).1)]

structure Agrees (w : Work σ σ₁ σ₂ τ ι ω) (m : κ → σ) (t : τ) (s : System κ σ σ₁ σ₂ τ ι ω) :
    Prop where
  shared : s.shared = (Machine.after w.whole (m, t) s.order).2
  worker : ∀ k, w.Matches ((Machine.after w.whole (m, t) s.order).1 k)
    (results k (Machine.trace w.whole (m, t) s.order)) (s.done k) (s.point k)

theorem agrees_start (m : κ → σ) (t : τ) : w.Agrees m t (start m t) where
  shared := rfl
  worker _ := ⟨rfl, rfl⟩

/-- Each part keeps the agreement; the one on what is shared is where a job counts as done. -/
theorem agrees_step (h : w.Agrees m t s) (e : κ × Part ι) : w.Agrees m t (w.step s e) := by
  obtain ⟨k, part⟩ := e
  have hk := h.worker k
  rw [step]
  dsimp only
  cases hpoint : s.point k with
  | free p =>
    rw [hpoint] at hk
    cases part with
    | begins i =>
      refine ⟨h.shared, fun k' => ?_⟩
      by_cases hk' : k' = k
      · subst hk'
        dsimp only
        rw [Function.update_self]
        exact ⟨by rw [hk.1], hk.2⟩
      · dsimp only
        rw [Function.update_of_ne hk']
        exact h.worker k'
    | shares => exact h
    | ends => exact h
  | begun i p =>
    rw [hpoint] at hk
    cases part with
    | begins j => exact h
    | shares =>
      set before := Machine.after w.whole (m, t) s.order
      have hwhole : w.whole before (k, i) =
          ((w.ends (w.shares p i s.shared).1 i).1,
            (Function.update before.1 k (w.ends (w.shares p i s.shared).1 i).2,
              (w.shares p i s.shared).2)) := by
        rw [whole]
        dsimp only
        rw [← h.shared, ← hk.1]
      refine ⟨?_, fun k' => ?_⟩
      · dsimp only
        rw [Machine.after_concat, hwhole]
      · dsimp only
        rw [Machine.after_concat, Machine.trace_concat, hwhole, results_concat]
        dsimp only
        by_cases hk' : k' = k
        · subst hk'
          rw [Function.update_self, Function.update_self, if_pos rfl, hk.2]
          exact ⟨rfl, rfl⟩
        · rw [Function.update_of_ne hk', Function.update_of_ne hk', if_neg (Ne.symm hk')]
          exact h.worker k'
    | ends => exact h
  | shared i p =>
    rw [hpoint] at hk
    cases part with
    | begins j => exact h
    | shares => exact h
    | ends =>
      refine ⟨h.shared, fun k' => ?_⟩
      by_cases hk' : k' = k
      · subst hk'
        dsimp only
        rw [Function.update_self, Function.update_self]
        exact ⟨hk.1, hk.2⟩
      · dsimp only
        rw [Function.update_of_ne hk', Function.update_of_ne hk']
        exact h.worker k'

theorem agrees_run (h : w.Agrees m t s) (events : List (κ × Part ι)) :
    w.Agrees m t (events.foldl w.step s) := by
  induction events generalizing s with
  | nil => exact h
  | cons e events ih => exact ih (agrees_step h e)

/-- In any order of the parts, every worker has done what the whole jobs give, up to the job he
is at; who is free has done just that. -/
theorem serializes (w : Work σ σ₁ σ₂ τ ι ω) (m : κ → σ) (t : τ) (events : List (κ × Part ι)) :
    let s := events.foldl w.step (start m t)
    s.shared = (Machine.after w.whole (m, t) s.order).2 ∧
      ∀ k, ∃ pending, results k (Machine.trace w.whole (m, t) s.order) = s.done k ++ pending ∧
        pending.length ≤ 1 ∧
        ∀ p, s.point k = .free p → pending = [] ∧ p = (Machine.after w.whole (m, t) s.order).1 k := by
  intro s
  have h : w.Agrees m t s := agrees_run (agrees_start m t) events
  refine ⟨h.shared, fun k => ?_⟩
  have hk := h.worker k
  cases hpoint : s.point k with
  | free p =>
    rw [hpoint] at hk
    refine ⟨[], by rw [hk.2, List.append_nil], Nat.zero_le _, fun p' hp' => ⟨rfl, ?_⟩⟩
    rw [← Point.free.inj hp', hk.1]
  | begun i p =>
    rw [hpoint] at hk
    exact ⟨[], by rw [hk.2, List.append_nil], Nat.zero_le _, fun p' hp' => by cases hp'⟩
  | shared i p =>
    rw [hpoint] at hk
    exact ⟨_, hk.2, Nat.le_refl 1, fun p' hp' => by cases hp'⟩

/-- What has come to the shared step stays before all that comes to it later. -/
theorem order_prefix (s : System κ σ σ₁ σ₂ τ ι ω) (events : List (κ × Part ι)) :
    s.order <+: (events.foldl w.step s).order := by
  induction events generalizing s with
  | nil => exact List.prefix_rfl
  | cons e events ih =>
    refine List.IsPrefix.trans ?_ (ih (w.step s e))
    rw [step]
    split
    · exact List.prefix_rfl
    · exact List.prefix_append _ _
    · exact List.prefix_rfl
    · exact List.prefix_rfl

end Work

end Interleave
