import StunServer.Core.Server

/-! What the servers do to the pointers to a provider: as long as no thread attaches one, there is
one reference and one holder, or none of both. -/

namespace StunServer

/-! ### The checks in front -/

theorem CStunServerConfig.fHas_cases (config : CStunServerConfig) :
    (∀ role, config.fHas role = false) ∨ ∃ role, config.fHas role = true := by
  by_cases h : ∃ role, config.fHas role = true
  · exact Or.inr h
  · exact Or.inl fun role => by simpa using fun hrole => h ⟨role, hrole⟩

theorem mem_roles (role : SocketRole) : role ∈ CTCPStunThread.roles := by
  cases role <;> decide

theorem CTCPStunThread.countValid_ne_zero {tsa : TransportAddressSet} :
    countValid tsa ≠ 0 ↔ ∃ role, (tsa.set role).fValid = true := by
  rw [countValid, ← Nat.pos_iff_ne_zero, List.countP_pos_iff]
  exact ⟨fun ⟨role, _, h⟩ => ⟨role, h⟩, fun ⟨role, h⟩ => ⟨role, mem_roles role, h⟩⟩

/-- A limit that is not positive stands for the default. -/
theorem TcpInitCall.checked_eq_ok (call : TcpInitCall) :
    call.checked = .ok () ↔ call.maxConnections < 100000 ∧
      (∃ role, (call.tsaListen.set role).fValid = true) ∧
        ∃ role, (call.tsaHandler.set role).fValid = true := by
  rw [checked, CTCPStunThread.init, ← CTCPStunThread.countValid_ne_zero,
    ← CTCPStunThread.countValid_ne_zero]
  dsimp only
  have hlimit : (if call.maxConnections > 0 then call.maxConnections.toNat
      else CTCPStunThread.c_MaxNumberOfConnectionsDefault) ≥ 100000 ↔
        ¬call.maxConnections < 100000 := by
    split_ifs with hpos
    · omega
    · refine iff_of_false (by decide) ?_
      omega
  generalize (if call.maxConnections > 0 then call.maxConnections.toNat
    else CTCPStunThread.c_MaxNumberOfConnectionsDefault) = maxConnections at hlimit ⊢
  split_ifs with hmax hlisten hhandler
  · exact iff_of_false nofun fun h => hlimit.mp hmax h.1
  · exact iff_of_false nofun fun h => h.2.1 hlisten
  · exact iff_of_false nofun fun h => h.2.2 hhandler
  · exact iff_of_true rfl ⟨not_not.mp (hlimit.not.mp hmax), hlisten, hhandler⟩

namespace CTCPServer

@[simp] theorem initTSA_fValid (fValid : Bool) (addrListen addrAdvertise : CSocketAddress) :
    (initTSA fValid addrListen addrAdvertise).fValid = fValid := by
  rw [initTSA]
  split_ifs with hvalid
  · exact hvalid.symm
  · exact (Bool.eq_true_of_not_eq_false hvalid).symm
  · exact (Bool.eq_true_of_not_eq_false hvalid).symm

/-- Every call that is made has somewhere to listen, if there is a role at all. -/
theorem mem_initCalls {config : CStunServerConfig} {call : TcpInitCall}
    (h : call ∈ initCalls config) :
    call.maxConnections = config.nMaxConnections.toInt32.toInt ∧
      ((∃ role, (call.tsaListen.set role).fValid = true) ↔ ∃ role, config.fHas role = true) ∧
        ((∃ role, (call.tsaHandler.set role).fValid = true) ↔ ∃ role, config.fHas role = true) := by
  have hhandler : (∃ role, ((tsaHandler config).set role).fValid = true) ↔
      ∃ role, config.fHas role = true := by simp [tsaHandler]
  rw [initCalls] at h
  split_ifs at h with hsingle
  · obtain rfl := List.mem_singleton.mp h
    exact ⟨rfl, by simp [tsaListenAll], hhandler⟩
  · obtain ⟨role, hrole, rfl⟩ := List.mem_map.mp h
    have hvalid : config.fHas role = true := by
      simpa [tsaHandler] using (List.mem_filter.mp hrole).2
    refine ⟨rfl, iff_of_true ⟨role, ?_⟩ ⟨role, hvalid⟩, hhandler⟩
    simpa [tsaListen, tsaListenAll] using hvalid

/-- With a role there is a call. -/
theorem initCalls_ne_nil {config : CStunServerConfig} (h : ∃ role, config.fHas role = true) :
    initCalls config ≠ [] := by
  obtain ⟨role, hrole⟩ := h
  have hmem : role ∈ CTCPStunThread.roles.filter fun threadindex =>
      ((tsaHandler config).set threadindex).fValid := by
    rw [List.mem_filter]
    exact ⟨mem_roles role, by simpa [tsaHandler] using hrole⟩
  rw [initCalls]
  split_ifs with hsingle
  · exact List.cons_ne_nil _ _
  · exact fun hnil => List.ne_nil_of_mem hmem (List.map_eq_nil_iff.mp hnil)

/-- Some call passes its checks just if all do. -/
theorem checked_initCalls {config : CStunServerConfig} {call : TcpInitCall}
    (h : call ∈ initCalls config) :
    call.checked = .ok () ↔ config.nMaxConnections.toInt32.toInt < 100000 ∧
      ∃ role, config.fHas role = true := by
  obtain ⟨hmax, hlisten, hhandler⟩ := mem_initCalls h
  rw [call.checked_eq_ok, hmax, hlisten, hhandler, and_self]

end CTCPServer

/-! ### Without a thread that holds the provider -/

namespace AuthState

variable {s : AuthState}

/-- The server holds the only reference, or there is none left. -/
def IsPaired (v : AuthView) : Prop := v = ⟨1, 0, 1⟩ ∨ v = ⟨0, 1, 0⟩

structure Kept (s : AuthState) : Prop where
  threads : ∀ sp ∈ s.threads, sp = .null
  view : IsPaired s.view
  seen : ∀ v ∈ s.seen, IsPaired v

theorem countP_null {threads : List CRefCountedPtr} (h : ∀ sp ∈ threads, sp = .null) :
    threads.countP CRefCountedPtr.m_ptr = 0 := by
  refine List.countP_eq_zero.mpr fun sp hsp => ?_
  rw [h sp hsp]
  decide

/-- What is seen is the view itself. -/
theorem Kept.note {provider : CBasicRefCount} {spAuthLocal spAuth : CRefCountedPtr}
    {threads : List CRefCountedPtr} {seen : List AuthView}
    (hthreads : ∀ sp ∈ threads, sp = .null)
    (hview : IsPaired ⟨provider.m_nRefs, provider.finalReleases,
      [spAuthLocal, spAuth].countP CRefCountedPtr.m_ptr⟩) (hseen : ∀ v ∈ seen, IsPaired v) :
    Kept (AuthState.note ⟨provider, spAuthLocal, spAuth, threads, seen⟩) := by
  have hpaired : IsPaired (AuthState.view ⟨provider, spAuthLocal, spAuth, threads, seen⟩) := by
    have hcount : (spAuthLocal :: spAuth :: threads).countP CRefCountedPtr.m_ptr =
        [spAuthLocal, spAuth].countP CRefCountedPtr.m_ptr := by
      rw [List.countP_cons, List.countP_cons, countP_null hthreads, List.countP_cons,
        List.countP_cons, List.countP_nil]
    rw [AuthState.view, pointers, hcount]
    exact hview
  refine ⟨hthreads, hpaired, fun v hv => ?_⟩
  rcases List.mem_append.mp hv with hold | hnew
  · exact hseen v hold
  · rw [List.mem_singleton.mp hnew]
    exact hpaired

theorem Kept.server (h : Kept s) : IsPaired ⟨s.provider.m_nRefs, s.provider.finalReleases,
    [s.spAuthLocal, s.spAuth].countP CRefCountedPtr.m_ptr⟩ := by
  have hview := h.view
  rw [AuthState.view, pointers, List.countP_cons, List.countP_cons, countP_null h.threads] at hview
  rw [List.countP_cons, List.countP_cons, List.countP_nil]
  exact hview

/-- One of the two pointers of the server is released. -/
theorem paired_release {object : CBasicRefCount} {sp other : CRefCountedPtr}
    (h : IsPaired ⟨object.m_nRefs, object.finalReleases,
      [sp, other].countP CRefCountedPtr.m_ptr⟩) :
    IsPaired ⟨(sp.releaseAndClear object).2.m_nRefs, (sp.releaseAndClear object).2.finalReleases,
      [CRefCountedPtr.null, other].countP CRefCountedPtr.m_ptr⟩ := by
  obtain ⟨ptr⟩ := sp
  obtain ⟨ptr'⟩ := other
  obtain ⟨refs, finals⟩ := object
  cases ptr with
  | false => exact h
  | true =>
    have hone : IsPaired ⟨refs, finals, if ptr' then 2 else 1⟩ := by
      cases ptr' <;> exact h
    rcases hone with hone | hnone
    · obtain ⟨rfl, rfl, hptr⟩ := AuthView.mk.inj hone
      cases ptr' with
      | false => exact Or.inr rfl
      | true => exact absurd hptr (by decide)
    · obtain ⟨-, -, hptr⟩ := AuthView.mk.inj hnone
      cases ptr' <;> exact absurd hptr (by decide)

theorem countP_swap (sp other : CRefCountedPtr) :
    [sp, other].countP CRefCountedPtr.m_ptr = [other, sp].countP CRefCountedPtr.m_ptr :=
  (List.Perm.swap other sp []).countP_eq _

theorem Kept.releaseLocal (h : Kept s) : Kept s.releaseLocal :=
  Kept.note h.threads (paired_release h.server) h.seen

theorem Kept.releaseMember (h : Kept s) : Kept s.releaseMember := by
  have hserver := h.server
  rw [countP_swap] at hserver
  have hreleased := paired_release hserver
  rw [countP_swap] at hreleased
  exact Kept.note h.threads hreleased h.seen

theorem Kept.addThread (h : Kept s) : Kept s.addThread := by
  refine Kept.note (fun sp hsp => ?_) h.server h.seen
  rcases List.mem_append.mp hsp with hold | hnew
  · exact h.threads sp hold
  · exact List.mem_singleton.mp hnew

theorem Kept.deleteThread (h : Kept s) : Kept s.deleteThread := by
  have hhead : s.threads.head?.getD .null = .null := by
    cases hthreads : s.threads with
    | nil => rfl
    | cons sp threads => exact h.threads sp (by rw [hthreads]; exact List.mem_cons_self)
  rw [AuthState.deleteThread, hhead]
  exact Kept.note (fun sp hsp => h.threads sp (List.mem_of_mem_tail hsp)) h.server h.seen

theorem Kept.shutdown (h : Kept s) : Kept s.shutdown := by
  have hdeleted : ∀ (threads : List CRefCountedPtr) (s : AuthState), Kept s →
      Kept (threads.foldl (fun s _ => s.deleteThread) s) := by
    intro threads
    induction threads with
    | nil => exact fun _ h => h
    | cons sp threads ih => exact fun s h => ih _ h.deleteThread
  exact (hdeleted s.threads s h).releaseMember

theorem shutdown_spAuthLocal (s : AuthState) : s.shutdown.spAuthLocal = s.spAuthLocal := by
  have hdeleted : ∀ (threads : List CRefCountedPtr) (s : AuthState),
      (threads.foldl (fun s _ => s.deleteThread) s).spAuthLocal = s.spAuthLocal := by
    intro threads
    induction threads with
    | nil => exact fun _ => rfl
    | cons sp threads ih => exact fun s => ih _
  exact hdeleted s.threads s

/-- Nobody holds the provider any more, and it has been freed. -/
theorem Kept.freed (h : Kept s) (hlocal : s.spAuthLocal = .null) (hmember : s.spAuth = .null) :
    s.provider.finalReleases = 1 := by
  have hserver := h.server
  rw [hlocal, hmember] at hserver
  rcases hserver with hone | hnone
  · exact absurd (AuthView.mk.inj hone).2.2 (by decide)
  · exact (AuthView.mk.inj hnone).2.1

/-! ### What has been seen stays -/

theorem seen_foldl {β : Type} {f : AuthState → β → AuthState}
    (h : ∀ s b, s.seen <+: (f s b).seen) (l : List β) (s : AuthState) :
    s.seen <+: (l.foldl f s).seen := by
  induction l generalizing s with
  | nil => exact List.prefix_refl _
  | cons b l ih => exact (h s b).trans (ih (f s b))

theorem seen_shutdown (s : AuthState) : s.seen <+: s.shutdown.seen :=
  (seen_foldl (fun s _ => List.prefix_append s.seen _) s.threads s).trans
    (List.prefix_append s.deleteThreads.seen _)

end AuthState
end StunServer
