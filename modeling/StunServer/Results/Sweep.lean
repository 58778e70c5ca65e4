import StunServer.Proofs.Sweep
import StunServer.Results.TcpServer

/-! How long a connection may stay. -/

namespace StunServer

open CTCPStunThread

/-- As long as the clock does not go back, a sweep closes no connection that was accepted less
than `c_sweepTimeoutSeconds` ago; and no connection outlives the second sweep after its accept
that swaps the tables. -/
theorem sweeps_by_age {D : Digests} {past : List (Running × Turn)} {s : Running}
    (h : Run D past s) :
    (∀ turn : Turn, s.point = .sweep → (readings (past ++ [(s, turn)])).Pairwise (· ≤ ·) →
      ∃ thread', s.thread.sweepDeadConnections turn.timeCurrent turn.timeSwept = some thread' ∧
        ∀ pConn, s.thread.hasOpen pConn = true → thread'.hasOpen pConn = false →
          ∃ before e later, past = before ++ e :: later ∧ OpenSince pConn later s ∧
            e.2.timeSwept + c_sweepTimeoutSeconds ≤ turn.timeCurrent) ∧
    ∀ before e later pConn, past = before ++ e :: later → OpenSince pConn later s →
      later.countP sweeps < 2 := by
  constructor
  · intro turn _ hclock
    obtain ⟨filed, free, hfine⟩ := h.fine
    rcases sweepDeadConnections_cases hfine.booked turn.timeCurrent turn.timeSwept with
      ⟨-, hrun⟩ | ⟨hdue, thread', hrun, hswaps⟩
    · refine ⟨s.thread, hrun, fun pConn hopen hclosed => ?_⟩
      rw [hopen] at hclosed
      cases hclosed
    · refine ⟨thread', hrun, fun pConn hopen hclosed => ?_⟩
      obtain ⟨before, e, later, rfl, hsince⟩ := h.openSince hopen
      refine ⟨before, e, later, rfl, hsince, ?_⟩
      rcases h.age rfl hsince with ⟨-, hnew⟩ | ⟨-, -, x, hx, htime⟩
      · have hkept := hswaps.keepsNew pConn ((hasOpen_iff _ _).mp hopen) hnew
        rw [(hasOpen_iff _ _).mpr hkept] at hclosed
        cases hclosed
      · rw [readings, List.flatMap_append] at hclock
        have hle := timeSwept_le (List.pairwise_append.mp hclock).1 hx
        rw [htime] at hdue
        omega
  · intro before e later pConn hpast hsince
    rcases h.age hpast hsince with ⟨hcount, -⟩ | ⟨hcount, -⟩
    · omega
    · omega

/-! ### A connection that is swept -/

namespace CTCPStunThread

/-- A connection is accepted; the tables are swapped after a minute. -/
def sweptTurns : List Turn :=
  [quietTurn [3] (-1) 0, quietTurn [] 10 0, quietTurn [] (-1) 0, quietTurn [] (-1) 60,
    quietTurn [] (-1) 60]

end CTCPStunThread

theorem sweeps_by_age_swept : ∃ past s, Run sampleDigests past s ∧
    past.map Prod.snd = sweptTurns ∧ s.point = .sweep ∧ s.thread.hasOpen 0 = true ∧
    ∃ thread', s.thread.sweepDeadConnections 120 120 = some thread' ∧
      thread'.hasOpen 0 = false ∧
      ∃ before e later, past = before ++ e :: later ∧ OpenSince 0 later s ∧
        e.2.timeSwept + c_sweepTimeoutSeconds ≤ 120 := by
  obtain ⟨thread, hinit⟩ : ∃ thread, overfullInit = .ok thread := ⟨_, rfl⟩
  have hstates : ((follow sampleDigests ⟨.top, thread⟩ sweptTurns).map fun s =>
      (s.point, s.thread.hasOpen 0, (s.thread.sweepDeadConnections 120 120).map (·.hasOpen 0))) =
        some (.sweep, true, some false) := by
    cases hinit
    decide +kernel
  have hstart : Run sampleDigests [] ⟨.top, thread⟩ := by
    unfold overfullInit at hinit
    exact .start hinit
  obtain ⟨s, hs, hall⟩ := Option.map_eq_some_iff.mp hstates
  obtain ⟨past, hrun, hturns⟩ := hstart.follow hs
  rw [List.nil_append] at hrun
  obtain ⟨hpoint, hrest⟩ := Prod.mk.inj hall
  obtain ⟨hopen, hclosed⟩ := Prod.mk.inj hrest
  refine ⟨past, s, hrun, hturns, hpoint, hopen, ?_⟩
  have hreadings : readings (past ++ [(s, quietTurn [] (-1) 120)]) =
      (sweptTurns ++ [quietTurn [] (-1) 120]).flatMap fun t => [t.timeCurrent, t.timeSwept] := by
    rw [readings, ← hturns, List.flatMap_append, List.flatMap_append, List.flatMap_map]
    rfl
  obtain ⟨thread', hsweep, hages⟩ :=
    (sweeps_by_age hrun).1 (quietTurn [] (-1) 120) hpoint (by rw [hreadings]; decide)
  have hsweep' : s.thread.sweepDeadConnections 120 120 = some thread' := hsweep
  rw [hsweep'] at hclosed
  have hgone : thread'.hasOpen 0 = false := Option.some.inj hclosed
  exact ⟨thread', hsweep', hgone, hages 0 hopen hgone⟩

end StunServer
