import StunServer.Proofs.TcpServerThreads

/-! The TCP server as a whole, through any calls and any turns of its threads in any order,
whatever the system refuses: the phases it goes through, and what it has open. -/

namespace StunServer

open Descriptors TcpServer

section

variable {D : Digests} {rest : Finset ℕ} {careful : Prop} {s : TcpServer} {phase : TcpPhase}

theorem TcpServer.inPhase_after (h : s.InPhase rest careful phase) (events : List TcpServer.Event)
    (hcareful : ∀ before e later, events = before ++ e :: later → careful →
      (Machine.after TcpPhase.step phase before).Careful e) :
    (Machine.after (step D) s events).InPhase rest careful
        (Machine.after TcpPhase.step phase events) ∧
      (Machine.trace (step D) s events).map Prod.snd =
        (Machine.trace TcpPhase.step phase events).map Prod.snd := by
  induction events generalizing s phase with
  | nil => exact ⟨h, rfl⟩
  | cons e events ih =>
    obtain ⟨hcode, hphase⟩ := inPhase_step D h e (hcareful [] e events rfl)
    have hlater : ∀ before e' later, events = before ++ e' :: later → careful →
        (Machine.after TcpPhase.step (phase.step e).2 before).Careful e' := by
      rintro before e' later rfl
      exact hcareful (e :: before) e' later rfl
    obtain ⟨hafter, htrace⟩ := ih hphase hlater
    refine ⟨hafter, ?_⟩
    rw [Machine.trace, Machine.trace, List.map_cons, List.map_cons, htrace, hcode]

end

/-- Through any calls and turns the threads of the server are what the phases say, and so are the
codes that the calls return. What is open in the process besides the rest is held by a thread
object, and by one only and once. -/
theorem tcp_server_phases (D : Digests) (rest : Finset ℕ) (events : List TcpServer.Event) :
    let s := Machine.after (step D) (create rest) events
    s.phase = Machine.after TcpPhase.step .down events ∧
      (Machine.trace (step D) (create rest) events).map Prod.snd =
        (Machine.trace TcpPhase.step .down events).map Prod.snd ∧
      Accounts rest s.fds fun i : ℕ × Holder => s.table i.1 i.2 := by
  obtain ⟨hphase, htrace⟩ := inPhase_after (D := D) (inPhase_create rest False) events
    fun _ _ _ _ hc => hc.elim
  exact ⟨hphase.phase, htrace, hphase.sound.accounts⟩

/-- If no pointer to a thread is ever overwritten, whatever is open is held by a thread that is
there, and when there is none nothing has been left open. -/
theorem nothing_left_open (D : Digests) (rest : Finset ℕ) (events : List TcpServer.Event)
    (h : ∀ before e later, events = before ++ e :: later →
      (Machine.after TcpPhase.step .down before).Careful e) :
    let s := Machine.after (step D) (create rest) events
    (∀ pThread holder fd, s.table pThread holder = some fd → s.Owns pThread) ∧
      (Machine.after TcpPhase.step .down events = .down → s.fds = rest) := by
  intro s
  obtain ⟨hphase, -⟩ := inPhase_after (D := D) (inPhase_create rest True) events
    fun before e later he _ => h before e later he
  refine ⟨fun pThread holder fd hheld => ?_, fun hdown => ?_⟩
  · obtain ⟨thread, hthread, hfd⟩ := Option.bind_eq_some_iff.mp hheld
    refine (hphase.tidy trivial pThread thread hthread).resolve_right ?_
    rintro rfl
    rw [TcpThread.holds_create] at hfd
    cases hfd
  · rw [hdown] at hphase
    exact hphase.fds_eq trivial

/-- A thread in which nothing happens any more. -/
def quietExit : TcpThread.Exit where
  turns := []
  last :=
    ⟨true, true, fun _ => true, [], ⟨-1, false, 0, ⟨none, none⟩, true, true⟩,
      ⟨[], ⟨[], true, true, true⟩⟩, 0, 0⟩

/-- A server with the second port of its address, in which nothing is refused. -/
def initializeOne (fMultiThreadedMode : Bool) : TcpServer.Event :=
  .initializeWith { CStunServerConfig.create with
      fHasPA := true, fMultiThreadedMode := fMultiThreadedMode, nMaxConnections := 5 } none
    (fun _ => ⟨fun _ => ⟨⟨none, none, none, ⟨none, none⟩, none⟩, none, none⟩, none, true,
      fun _ => ⟨false, 0⟩, ⟨false, 0⟩⟩)
    fun _ => quietExit

/-- What an accepted connection had open is closed when the server is stopped. -/
theorem nothing_left_open_accepted :
    let events := [initializeOne false, .start fun _ => (none, 0),
      .turn 0 ⟨false, false, fun _ => true, [3], ⟨-1, false, 0, ⟨none, none⟩, true, true⟩,
        ⟨[], ⟨[], true, true, true⟩⟩, 0, 0⟩,
      .turn 0 ⟨false, false, fun _ => true, [], ⟨0, true, 1, ⟨none, none⟩, true, true⟩,
        ⟨[], ⟨[], true, true, true⟩⟩, 0, 0⟩]
    let s := Machine.after (step sampleDigests) (create {0, 1, 2}) events
    s.table 0 (.connection 0) = some 7 ∧ s.Owns 0 ∧
      (s.shutdown sampleDigests fun _ => quietExit).fds = {0, 1, 2} := by
  intro events s
  have hcareful : ∀ before e later,
      events ++ [TcpServer.Event.shutdown fun _ => quietExit] = before ++ e :: later →
        (Machine.after TcpPhase.step .down before).Careful e := by
    rintro (_ | ⟨b, before⟩) e later he
    · cases he
      exact fun _ => rfl
    · have hmem : e ∈ (events ++ [TcpServer.Event.shutdown fun _ => quietExit]).tail := by
        rw [he]
        exact List.mem_append_right before (List.mem_cons_self ..)
      simp only [events, List.cons_append, List.nil_append, List.tail_cons, List.mem_cons,
        List.not_mem_nil, or_false] at hmem
      rcases hmem with rfl | rfl | rfl | rfl <;> exact trivial
  have hshutdown : ∀ s : TcpServer, (s.step sampleDigests (.shutdown fun _ => quietExit)).2 =
      s.shutdown sampleDigests fun _ => quietExit := fun _ => rfl
  have hclosed := (nothing_left_open sampleDigests {0, 1, 2} _ hcareful).2
    (Machine.after_concat TcpPhase.step _ events _)
  rw [Machine.after_concat, hshutdown] at hclosed
  exact ⟨by decide +kernel, ⟨.rolePP, by decide +kernel⟩, hclosed⟩

/-- With a thread in the second place only a second `Initialize` goes unnoticed, and what the
first thread had is never closed. -/
example : ((Machine.after (step sampleDigests) (create {0, 1, 2})
    [initializeOne true, initializeOne true, .shutdown fun _ => quietExit]).fds : Finset ℕ) ≠ {0, 1, 2} := by
  decide +kernel

/-! ### The pointers to a provider -/

/-- What comes of the calls behind the checks in each `Init`. -/
def CStunServerConfig.restResults (config : CStunServerConfig)
    (calls : SocketRole → TcpInitCalls) : List HRESULT :=
  config.threadRoles.map fun role => ((calls role).failure (config.tcpCall role)).getD S_OK

theorem AuthState.threads_shutdown (s : AuthState) : s.shutdown.threads = [] := by
  have hdeleted (threads : List CRefCountedPtr) (s : AuthState) :
      (threads.foldl (fun s _ => s.deleteThread) s).threads = s.threads.drop threads.length := by
    induction threads generalizing s with
    | nil => rfl
    | cons sp threads ih =>
      rw [List.foldl_cons, ih]
      exact List.drop_tail ..
  exact (hdeleted s.threads s).trans (List.drop_length ..)

section

variable {config : CStunServerConfig} {calls : SocketRole → TcpInitCalls}

theorem initCalls_eq (config : CStunServerConfig) :
    CTCPServer.initCalls config = config.threadRoles.map config.tcpCall := by
  rw [CTCPServer.initCalls, CStunServerConfig.threadRoles]
  split_ifs with hsingle
  · rw [List.map_singleton, CStunServerConfig.tcpCall, if_pos hsingle]
  · simp only [tsaHandler_fValid]
    refine List.map_congr_left fun role _ => ?_
    rw [CStunServerConfig.tcpCall, if_neg hsingle]

/-- Each `Init` fails as the thread object does, and leaves one more of them. -/
theorem initThread_failure (role : SocketRole) (s : AuthState) :
    let result := CTCPServer.initThread (config.tcpCall role)
      (((calls role).failure (config.tcpCall role)).getD S_OK) s
    result.1 = ((calls role).failure (config.tcpCall role)).getD S_OK ∧
      result.2.threads.length = s.threads.length + 1 := by
  have hone (pAuth : Bool) : (s.attachThread pAuth).threads.length = s.threads.length + 1 :=
    List.length_append
  dsimp only
  rw [CTCPServer.initThread]
  cases hchecked : (config.tcpCall role).checked with
  | error hr =>
    have hfailure : (calls role).failure (config.tcpCall role) = some hr := by
      rw [TcpInitCalls.failure, hchecked]
      rfl
    rw [hfailure]
    exact ⟨rfl, List.length_append⟩
  | ok _ =>
    dsimp only
    cases hfailure : (calls role).failure (config.tcpCall role) with
    | none => exact ⟨rfl, hone _⟩
    | some hr =>
      rw [Option.getD_some, if_pos (TcpThread.failed_of_failure hfailure)]
      refine ⟨rfl, ?_⟩
      rw [AuthState.resetThread]
      exact (congrArg List.length (congrArg (· ++ [_]) List.dropLast_concat)).trans
        List.length_append

theorem initThreads_failure (roles : List SocketRole) (s : AuthState) :
    let result := CTCPServer.initThreads (roles.map config.tcpCall)
      (roles.map fun role => ((calls role).failure (config.tcpCall role)).getD S_OK) s
    let failure := roles.findSome? fun role => (calls role).failure (config.tcpCall role)
    result.1 = failure.getD S_OK ∧
      (failure = none → result.2.threads.length = s.threads.length + roles.length) := by
  induction roles generalizing s with
  | nil => exact ⟨rfl, fun _ => rfl⟩
  | cons role roles ih =>
    obtain ⟨hcode, hlength⟩ := @initThread_failure config calls role s
    dsimp only
    rw [List.map_cons, List.map_cons, CTCPServer.initThreads, List.headD_cons, List.tail_cons,
      findSome?_cons_or]
    dsimp only
    rw [hcode]
    cases hfailure : (calls role).failure (config.tcpCall role) with
    | none =>
      have hgood : ¬FAILED S_OK = true := by decide
      rw [hfailure, Option.getD_none] at hlength
      obtain ⟨hcode', hlength'⟩ := ih (CTCPServer.initThread (config.tcpCall role) S_OK s).2
      rw [Option.getD_none, if_neg hgood, Option.none_or]
      refine ⟨hcode', fun hnone => ?_⟩
      rw [hlength' hnone, hlength, List.length_cons]
      omega
    | some hr =>
      rw [Option.getD_some, if_pos (TcpThread.failed_of_failure hfailure)]
      exact ⟨rfl, fun hnone => absurd hnone (Option.some_ne_none hr)⟩

theorem countP_threadRoles (config : CStunServerConfig) :
    CTCPStunThread.roles.countP (fun role => decide (role ∈ config.threadRoles)) =
      config.threadRoles.length := by
  rw [CStunServerConfig.threadRoles]
  split_ifs
  · decide
  · rw [List.countP_eq_length_filter]
    refine congrArg List.length (List.filter_congr fun role hrole => ?_)
    simp [hrole]

/-- The pointers to a provider see what `Initialize` of the TCP server does: it comes to the same
code, and each thread object that is left has one. -/
theorem TcpServer.initializeWith_pointers (D : Digests) {rest : Finset ℕ} {careful : Prop}
    {s : TcpServer} (h : s.InPhase rest careful .down) (config : CStunServerConfig)
    (spAuth : Option IStunAuth) (calls : SocketRole → TcpInitCalls)
    (exits : SocketRole → TcpThread.Exit) :
    let rests := config.restResults calls
    let initialized := s.initializeWith D config spAuth calls exits
    initialized.1 =
        (CTCPServer.initThreads (CTCPServer.initCalls config) rests CTCPServer.created).1 ∧
      (CTCPServer.initializeWith config rests CTCPServer.created).threads.length =
        CTCPStunThread.roles.countP fun role => (initialized.2.threads role).isSome := by
  intro rests initialized
  obtain ⟨hcode, hphase⟩ := initializeWith_spec D h (fun _ _ => rfl) config spAuth calls exits
  have hspec := @initThreads_failure config calls config.threadRoles CTCPServer.created
  rw [← initCalls_eq] at hspec
  obtain ⟨hpointers, hlength⟩ :
      (CTCPServer.initThreads (CTCPServer.initCalls config) rests CTCPServer.created).1 =
          (config.tcpFailure calls).getD S_OK ∧
        (config.tcpFailure calls = none → (CTCPServer.initThreads (CTCPServer.initCalls config) rests
          CTCPServer.created).2.threads.length = 0 + config.threadRoles.length) := hspec
  have hfirst : ¬(TcpPhase.down .rolePP ≠ none) := fun hn => hn rfl
  rw [TcpPhase.initializeWith, if_neg hfirst] at hcode hphase
  have hthreads : ∀ role, (initialized.2.threads role).isSome =
      (initialized.2.phase role).isSome := by
    intro role
    rw [Bool.eq_iff_iff, Option.isSome_iff_ne_none, Option.isSome_iff_ne_none]
    exact not_congr hphase.sound.phase_eq_none.symm
  simp only [hthreads]
  cases hfailure : config.tcpFailure calls with
  | none =>
    rw [hfailure] at hcode hphase hpointers
    have hgood : ¬FAILED (CTCPServer.initThreads (CTCPServer.initCalls config) rests
        CTCPServer.created).1 = true := by
      rw [hpointers]
      decide
    have hphase' : initialized.2.phase = _ := hphase.phase
    refine ⟨hcode.trans hpointers.symm, ?_⟩
    rw [CTCPServer.initializeWith]
    dsimp only
    rw [if_neg hgood, hlength hfailure, hphase', ← countP_threadRoles, Nat.zero_add]
    refine List.countP_congr fun role _ => ?_
    by_cases hrole : role ∈ config.threadRoles <;> simp [hrole, TcpPhase.down]
  | some hr =>
    rw [hfailure] at hcode hphase hpointers
    obtain ⟨role, -, hrole⟩ := List.exists_of_findSome?_eq_some hfailure
    have hbad : FAILED (CTCPServer.initThreads (CTCPServer.initCalls config) rests
        CTCPServer.created).1 = true := by
      rw [hpointers]
      exact TcpThread.failed_of_failure hrole
    have hphase' : initialized.2.phase = _ := hphase.phase
    refine ⟨hcode.trans hpointers.symm, ?_⟩
    rw [CTCPServer.initializeWith]
    dsimp only
    rw [if_pos hbad, AuthState.threads_shutdown, hphase']
    rfl

end

end StunServer
