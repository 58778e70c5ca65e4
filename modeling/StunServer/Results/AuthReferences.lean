import StunServer.Proofs.Server

/-! The references to an authentication provider that is created in `Initialize`. A thread takes
the pointer without a reference of its own, so that they balance only where no thread takes it. -/

namespace StunServer

namespace AuthState

/-- There is a reference for each holder, and the object is freed once at most, when nobody
holds it. -/
structure Balanced (s : AuthState) : Prop where
  enough : ∀ v ∈ s.seen, (v.holders : ℤ) ≤ v.m_nRefs
  once : ∀ v ∈ s.seen, v.finalReleases ≤ 1
  last : ∀ v ∈ s.seen, v.finalReleases ≠ 0 → v.holders = 0

variable {s : AuthState}

theorem Kept.balanced (h : Kept s) : Balanced s where
  enough v hv := by
    rcases h.seen v hv with rfl | rfl <;> decide
  once v hv := by
    rcases h.seen v hv with rfl | rfl <;> decide
  last v hv := by
    rcases h.seen v hv with rfl | rfl <;> decide

theorem Kept.shut (h : Kept s ∧ s.spAuthLocal = .null) :
    Kept s.shutdown ∧ s.shutdown.spAuthLocal = .null :=
  ⟨h.1.shutdown, (shutdown_spAuthLocal s).trans h.2⟩

theorem Kept.destroyed (h : Kept s ∧ s.spAuthLocal = .null) :
    Kept s.shutdown.releaseMember ∧ s.shutdown.releaseMember.spAuthLocal = .null :=
  ⟨h.1.shutdown.releaseMember, (Kept.shut h).2⟩

theorem seen_destroyed (s : AuthState) : s.seen <+: s.shutdown.releaseMember.seen :=
  (seen_shutdown s).trans (List.prefix_append s.shutdown.seen _)

/-- A server whose calls keep that, from a state with nothing in the local variable. -/
theorem balances_of_kept {call : AuthState → ServerCall → AuthState}
    (hcall : ∀ s i, Kept s ∧ s.spAuthLocal = .null →
      Kept (call s i) ∧ (call s i).spAuthLocal = .null)
    (hdestroy : ∀ s, (call s ServerCall.destroy).spAuth = .null)
    (h : Kept s ∧ s.spAuthLocal = .null) (calls : List ServerCall) :
    (calls.foldl call s).Balanced ∧
      ((calls ++ [ServerCall.destroy]).foldl call s).provider.finalReleases = 1 := by
  have hrun : ∀ calls : List ServerCall, Kept (calls.foldl call s) ∧
      (calls.foldl call s).spAuthLocal = .null := by
    intro calls
    induction calls generalizing s with
    | nil => exact h
    | cons i calls ih => exact ih (hcall s i h)
  have hlast := hrun (calls ++ [ServerCall.destroy])
  have hmember : ((calls ++ [ServerCall.destroy]).foldl call s).spAuth = .null := by
    rw [List.foldl_concat]
    exact hdestroy _
  exact ⟨(hrun calls).1.balanced, hlast.1.freed hlast.2 hmember⟩

/-- Two hold the provider, with one reference. -/
theorem not_balanced (h : (⟨1, 0, 2⟩ : AuthView) ∈ s.seen) : ¬Balanced s := by
  intro hbalanced
  have hle := hbalanced.enough _ h
  exact absurd hle (by decide)

end AuthState

open AuthState

/-! ### `CStunServer` -/

namespace CStunServer

variable {config : CStunServerConfig} {addSocket : SocketRole → HRESULT}

theorem addSockets_eq_ok (roles : List SocketRole) : addSockets config addSocket roles = .ok () ↔
    ∀ role ∈ roles, ¬(config.fHas role = true ∧ FAILED (addSocket role) = true) := by
  induction roles with
  | nil => exact iff_of_true rfl nofun
  | cons role roles ih =>
    rw [addSockets, bind_eq_ok, List.forall_mem_cons, ← ih]
    exact ⟨fun ⟨_, hcheck, hrest⟩ => ⟨chkIf_eq_ok.mp hcheck, hrest⟩,
      fun ⟨hcheck, hrest⟩ => ⟨(), chkIf_eq_ok.mpr hcheck, hrest⟩⟩

/-- There is a socket, and none that fails. -/
theorem openSockets_eq_ok : openSockets config addSocket = .ok () ↔
    ¬((∀ role, config.fHas role = false) ∨
      ∃ role, config.fHas role = true ∧ FAILED (addSocket role) = true) := by
  rw [openSockets, bind_eq_ok, not_or, not_exists]
  constructor
  · rintro ⟨_, hadd, hcount⟩
    exact ⟨fun hnone => chkIf_eq_ok.mp hcount fun role _ => hnone role,
      fun role => (addSockets_eq_ok _).mp hadd role (mem_roles role)⟩
  · rintro ⟨hsome, hadd⟩
    exact ⟨(), (addSockets_eq_ok _).mpr fun role _ => hadd role,
      chkIf_eq_ok.mpr fun hnone => hsome fun role => hnone role (mem_roles role)⟩

theorem kept_created : Kept created :=
  Kept.note nofun (Or.inl rfl) nofun

theorem seen_call (s : AuthState) (call : ServerCall) :
    s.seen <+: (CStunServer.call s call).seen := by
  cases call with
  | start => exact List.prefix_refl _
  | stop => exact List.prefix_refl _
  | shutdown => exact seen_shutdown s
  | destroy => exact seen_destroyed s

theorem kept_call (s : AuthState) (call : ServerCall) (h : Kept s ∧ s.spAuthLocal = .null) :
    Kept (CStunServer.call s call) ∧ (CStunServer.call s call).spAuthLocal = .null := by
  cases call with
  | start => exact h
  | stop => exact h
  | shutdown => exact Kept.shut h
  | destroy => exact Kept.destroyed h

/-- The first thread holds the provider besides the local variable. -/
theorem seen_initThreads (h : ∃ role, config.fHas role = true) :
    (⟨1, 0, 2⟩ : AuthView) ∈ (initThreads config created).seen := by
  have hfirst : (⟨1, 0, 2⟩ : AuthView) ∈ (created.attachThread true).seen := by decide
  rw [initThreads]
  split_ifs with hsingle
  · exact hfirst
  obtain ⟨role, hrole⟩ := h
  have hmem : role ∈ CTCPStunThread.roles.filter config.fHas :=
    List.mem_filter.mpr ⟨mem_roles role, hrole⟩
  cases hroles : CTCPStunThread.roles.filter config.fHas with
  | nil =>
    rw [hroles] at hmem
    cases hmem
  | cons role' roles =>
    rw [List.foldl_cons]
    exact (seen_foldl (fun s _ => List.prefix_append s.seen _) roles _).subset hfirst

theorem run_balances_iff (config : CStunServerConfig) (addSocket : SocketRole → HRESULT)
    (calls : List ServerCall) :
    ((run config addSocket calls).Balanced ∧
      (run config addSocket (calls ++ [.destroy])).provider.finalReleases = 1) ↔
        (∀ role, config.fHas role = false) ∨
          ∃ role, config.fHas role = true ∧ FAILED (addSocket role) = true := by
  by_cases hopen : openSockets config addSocket = .ok ()
  · have hnot := openSockets_eq_ok.mp hopen
    refine iff_of_false (fun hbalances => not_balanced ?_ hbalances.1) hnot
    have hrole := config.fHas_cases.resolve_left fun hnone => hnot (Or.inl hnone)
    have hinit : (initializeWith config addSocket created) =
        (initThreads config created).releaseLocal := by
      rw [initializeWith, hopen]
    refine (seen_foldl seen_call calls _).subset ?_
    rw [hinit]
    exact List.mem_append_left _ (seen_initThreads hrole)
  · refine iff_of_true ?_ (not_not.mp (openSockets_eq_ok.not.mp hopen))
    have hinit : Kept (initializeWith config addSocket created) ∧
        (initializeWith config addSocket created).spAuthLocal = .null := by
      rw [initializeWith]
      cases hsockets : openSockets config addSocket with
      | ok _ => exact absurd hsockets hopen
      | error hr => exact ⟨kept_created.shutdown.releaseLocal, rfl⟩
    exact balances_of_kept kept_call (fun _ => rfl) hinit calls

end CStunServer

/-! ### `CTCPServer` -/

namespace CTCPServer

variable {config : CStunServerConfig}

theorem kept_created : Kept created :=
  Kept.note nofun (Or.inl rfl) nofun

theorem seen_call (s : AuthState) (call : ServerCall) :
    s.seen <+: (CTCPServer.call s call).seen := by
  cases call with
  | start => exact List.prefix_refl _
  | stop => exact seen_shutdown s
  | shutdown => exact seen_shutdown s
  | destroy => exact seen_destroyed s

theorem kept_call (s : AuthState) (call : ServerCall) (h : Kept s ∧ s.spAuthLocal = .null) :
    Kept (CTCPServer.call s call) ∧ (CTCPServer.call s call).spAuthLocal = .null := by
  cases call with
  | start => exact h
  | stop => exact Kept.shut h
  | shutdown => exact Kept.shut h
  | destroy => exact Kept.destroyed h

theorem seen_initThread (call : TcpInitCall) (rest : HRESULT) (s : AuthState) :
    s.seen <+: (initThread call rest s).2.seen := by
  rw [initThread]
  cases call.checked with
  | error hr => exact List.prefix_append s.seen _
  | ok _ =>
    dsimp only
    split_ifs
    · exact (List.prefix_append s.seen _).trans (List.prefix_append (s.attachThread _).seen _)
    · exact List.prefix_append s.seen _

theorem seen_initThreads (calls : List TcpInitCall) (rests : List HRESULT) (s : AuthState) :
    s.seen <+: (initThreads calls rests s).2.seen := by
  induction calls generalizing rests s with
  | nil => exact List.prefix_refl _
  | cons call calls ih =>
    rw [initThreads]
    dsimp only
    split_ifs
    · exact seen_initThread call _ s
    · exact (seen_initThread call _ s).trans (ih _ _)

/-- The thread holds the provider besides the member. -/
theorem seen_attached {call : TcpInitCall} (h : call.checked = .ok ()) (rest : HRESULT) :
    (⟨1, 0, 2⟩ : AuthView) ∈ (initThread call rest created).2.seen := by
  have hfirst : (⟨1, 0, 2⟩ : AuthView) ∈ (created.attachThread true).seen := by decide
  rw [initThread, h]
  dsimp only
  split_ifs
  · exact List.mem_append_left _ hfirst
  · exact hfirst

theorem kept_initThreads {calls : List TcpInitCall} (hcalls : ∀ call ∈ calls, call.checked ≠ .ok ())
    (rests : List HRESULT) {s : AuthState} (h : Kept s ∧ s.spAuthLocal = .null) :
    Kept (initThreads calls rests s).2 ∧ (initThreads calls rests s).2.spAuthLocal = .null := by
  induction calls generalizing rests s with
  | nil => exact h
  | cons call calls ih =>
    have hfirst : ∃ hr, initThread call (rests.headD S_OK) s = (hr, s.addThread) := by
      rw [initThread]
      cases hchecked : call.checked with
      | error hr => exact ⟨hr, rfl⟩
      | ok _ => exact absurd hchecked (hcalls call List.mem_cons_self)
    obtain ⟨hr, hfirst⟩ := hfirst
    have hadded : Kept s.addThread ∧ s.addThread.spAuthLocal = .null := ⟨h.1.addThread, h.2⟩
    rw [initThreads, hfirst]
    dsimp only
    split_ifs
    · exact hadded
    · exact ih (fun call hcall => hcalls call (List.mem_cons_of_mem _ hcall)) _ hadded

theorem run_balances_iff (config : CStunServerConfig) (rests : List HRESULT)
    (calls : List ServerCall) :
    ((run config rests calls).Balanced ∧
      (run config rests (calls ++ [.destroy])).provider.finalReleases = 1) ↔
        (∀ role, config.fHas role = false) ∨ 100000 ≤ config.nMaxConnections.toInt32.toInt := by
  by_cases hrefused : (∀ role, config.fHas role = false) ∨
    100000 ≤ config.nMaxConnections.toInt32.toInt
  · refine iff_of_true ?_ hrefused
    have hchecks : ∀ call ∈ initCalls config, call.checked ≠ .ok () := by
      intro call hcall hchecked
      obtain ⟨hmax, role, hrole⟩ := (checked_initCalls hcall).mp hchecked
      rcases hrefused with hnone | hlimit
      · rw [hnone role] at hrole
        cases hrole
      · omega
    have hthreads := kept_initThreads hchecks rests ⟨kept_created, rfl⟩
    have hinit : Kept (initializeWith config rests created) ∧
        (initializeWith config rests created).spAuthLocal = .null := by
      rw [initializeWith]
      dsimp only
      split_ifs
      · exact Kept.shut hthreads
      · exact hthreads
    exact balances_of_kept kept_call (fun _ => rfl) hinit calls
  · refine iff_of_false (fun hbalances => not_balanced ?_ hbalances.1) hrefused
    obtain ⟨hroles, hlimit⟩ := not_or.mp hrefused
    have hrole := config.fHas_cases.resolve_left hroles
    refine (seen_foldl seen_call calls _).subset ?_
    have hseen : (⟨1, 0, 2⟩ : AuthView) ∈ (initThreads (initCalls config) rests created).2.seen := by
      cases hcalls : initCalls config with
      | nil => exact absurd hcalls (initCalls_ne_nil hrole)
      | cons call later =>
        have hmem : call ∈ initCalls config := by
          rw [hcalls]
          exact List.mem_cons_self
        have hfirst := seen_attached ((checked_initCalls hmem).mpr ⟨not_le.mp hlimit, hrole⟩)
          (rests.headD S_OK)
        rw [initThreads]
        dsimp only
        split_ifs
        · exact hfirst
        · exact (seen_initThreads later _ _).subset hfirst
    rw [initializeWith]
    dsimp only
    split_ifs
    · exact (seen_shutdown _).subset hseen
    · exact hseen

end CTCPServer

/-- In any run of either server the references to its provider balance just if no thread takes the
pointer: no role is configured, or a socket cannot be opened, or the limit of connections is
refused. -/
theorem auth_references_balance_iff (config : CStunServerConfig) (calls : List ServerCall) :
    (∀ addSocket : SocketRole → HRESULT,
      ((CStunServer.run config addSocket calls).Balanced ∧
        (CStunServer.run config addSocket (calls ++ [.destroy])).provider.finalReleases = 1) ↔
          (∀ role, config.fHas role = false) ∨
            ∃ role, config.fHas role = true ∧ FAILED (addSocket role) = true) ∧
    ∀ rests : List HRESULT,
      ((CTCPServer.run config rests calls).Balanced ∧
        (CTCPServer.run config rests (calls ++ [.destroy])).provider.finalReleases = 1) ↔
          (∀ role, config.fHas role = false) ∨ 100000 ≤ config.nMaxConnections.toInt32.toInt :=
  ⟨fun addSocket => CStunServer.run_balances_iff config addSocket calls,
    fun rests => CTCPServer.run_balances_iff config rests calls⟩

/-- A server with one socket. -/
def sampleBasicConfig : CStunServerConfig :=
  { CStunServerConfig.create with
    fHasPP := true
    addrPP := .ofHostOrder 0 3478 }

/-- The provider is freed at the end of `Initialize`, while the thread holds it. Over TCP it is
freed when the thread is deleted, while the server holds it. -/
theorem freed_while_held :
    (CStunServer.run sampleBasicConfig (fun _ => S_OK) []).seen.getLast? = some ⟨0, 1, 1⟩ ∧
    (CTCPServer.run sampleBasicConfig [] [.shutdown]).seen =
      [⟨1, 0, 1⟩, ⟨1, 0, 2⟩, ⟨0, 1, 1⟩, ⟨-1, 1, 0⟩] ∧
    ¬(CStunServer.run sampleBasicConfig (fun _ => S_OK) []).Balanced ∧
    ¬(CTCPServer.run sampleBasicConfig [] [.shutdown]).Balanced := by
  have hudp : (⟨1, 0, 2⟩ : AuthView) ∈
      (CStunServer.run sampleBasicConfig (fun _ => S_OK) []).seen := by decide
  have htcp : (⟨1, 0, 2⟩ : AuthView) ∈ (CTCPServer.run sampleBasicConfig [] [.shutdown]).seen := by
    decide
  exact ⟨by decide, by decide, not_balanced hudp, not_balanced htcp⟩

end StunServer
