import StunServer.Lib.Machine
import StunServer.Proofs.Server
import StunServer.Proofs.TcpThreads

/-! `CTCPServer` with its thread objects: what each call keeps, and the phases it goes through. -/

namespace StunServer

open Descriptors

namespace TcpServer

/-- The accounts of the whole process are in order, every thread object is, and each pointer
leads to an object of its own. -/
structure Sound (rest : Finset ℕ) (s : TcpServer) : Prop where
  accounts : Accounts rest s.fds fun i : ℕ × Holder => s.table i.1 i.2
  fit : ∀ thread ∈ s.heap, thread.Fit
  lt : ∀ role pThread, s.threads role = some pThread → pThread < s.heap.length
  inj : ∀ role role' pThread, s.threads role = some pThread → s.threads role' = some pThread →
    role = role'

/-- `Init` has been through for every thread that a pointer leads to. -/
def Ready (s : TcpServer) : Prop :=
  ∀ role pThread thread, s.threads role = some pThread → s.heap[pThread]? = some thread →
    thread.pipe ≠ none

/-- An object that no pointer leads to is as it was made. -/
def Tidy (s : TcpServer) : Prop :=
  ∀ pThread thread, s.heap[pThread]? = some thread → s.Owns pThread ∨ thread = .create

theorem sound_create (rest : Finset ℕ) : (create rest).Sound rest where
  accounts := Accounts.empty rest
  fit _ h := absurd h List.not_mem_nil
  lt _ _ h := by cases h
  inj _ _ _ h := by cases h

theorem ready_create (rest : Finset ℕ) : (create rest).Ready := fun _ _ _ h => by cases h

theorem tidy_create (rest : Finset ℕ) : (create rest).Tidy := fun pThread _ h => by
  rw [create, List.getElem?_nil] at h
  cases h

variable {rest : Finset ℕ} {s : TcpServer} {thread thread' : TcpThread} {pThread : ℕ}

theorem table_set (h : pThread < s.heap.length) (fds : Finset ℕ) (thread : TcpThread) :
    ({ s with fds := fds, heap := s.heap.set pThread thread } : TcpServer).table =
      Function.update s.table pThread thread.holds := by
  funext k holder
  by_cases hk : k = pThread
  · subst hk
    rw [table, List.getElem?_set_self h, Option.bind_some, Function.update_self]
  · rw [table, List.getElem?_set_ne (Ne.symm hk), Function.update_of_ne hk, table]

/-! ### A method of a thread object -/

/-- What the method leaves of the descriptors and of its object, in a process where `others` are
open besides. -/
structure Method (others : Finset ℕ) (setup : TcpSetup) : Prop where
  accounts : Accounts others setup.fds setup.thread.holds
  fit : setup.thread.Fit

theorem onThread_none (h : s.heap[pThread]? = none) (f : TcpSetup → TcpSetup) :
    s.onThread pThread f = s := by
  rw [onThread, h]

theorem onThread_some (h : s.heap[pThread]? = some thread) (f : TcpSetup → TcpSetup) :
    s.onThread pThread f = { s with
      fds := (f ⟨s.fds, thread⟩).fds, heap := s.heap.set pThread (f ⟨s.fds, thread⟩).thread } := by
  rw [onThread, h]

theorem Sound.set (h : s.Sound rest) (hthread : s.heap[pThread]? = some thread) (setup : TcpSetup)
    (hmethod : ∀ others, Accounts others s.fds thread.holds → Method others setup) :
    ({ s with fds := setup.fds, heap := s.heap.set pThread setup.thread } : TcpServer).Sound
      rest := by
  have hlt := (List.getElem?_eq_some_iff.mp hthread).1
  have htable : s.table pThread = thread.holds := by
    funext holder
    rw [table, hthread, Option.bind_some]
  obtain ⟨others, hown, hall⟩ := h.accounts.focus pThread
  rw [htable] at hown
  have hdone := hmethod others hown
  refine ⟨?_, fun t ht => ?_, fun role p hp => ?_, h.inj⟩
  · rw [table_set hlt]
    exact hall _ _ hdone.accounts
  · rcases List.mem_or_eq_of_mem_set ht with hold | rfl
    · exact h.fit t hold
    · exact hdone.fit
  · rw [List.length_set]
    exact h.lt role p hp

theorem Sound.onThread (h : s.Sound rest) {f : TcpSetup → TcpSetup}
    (hf : ∀ others thread, Accounts others s.fds thread.holds → thread.Fit →
      Method others (f ⟨s.fds, thread⟩)) : (s.onThread pThread f).Sound rest := by
  cases hthread : s.heap[pThread]? with
  | none =>
    rw [onThread_none hthread]
    exact h
  | some thread =>
    rw [onThread_some hthread]
    exact h.set hthread _ fun others hown =>
      hf others thread hown (h.fit thread (List.mem_of_getElem? hthread))

theorem Sound.table_eq (h : s.heap[pThread]? = some thread) : s.table pThread = thread.holds := by
  funext holder
  rw [table, h, Option.bind_some]

theorem phase_set (h : pThread < s.heap.length) (fds : Finset ℕ) (thread : TcpThread)
    (role : SocketRole) :
    ({ s with fds := fds, heap := s.heap.set pThread thread } : TcpServer).phase role =
      if s.threads role = some pThread then some thread.fThreadIsValid else s.phase role := by
  rw [phase, phase]
  dsimp only
  split_ifs with hrole
  · rw [hrole, Option.bind_some, List.getElem?_set_self h, Option.map_some]
  · cases hp : s.threads role with
    | none => rfl
    | some p =>
      rw [Option.bind_some, Option.bind_some, List.getElem?_set_ne]
      rintro rfl
      exact hrole hp

/-- The object is what it was for whoever looks at the server from outside. -/
theorem phase_set_of_eq (h : s.heap[pThread]? = some thread) (fds : Finset ℕ)
    (hvalid : thread'.fThreadIsValid = thread.fThreadIsValid) :
    ({ s with fds := fds, heap := s.heap.set pThread thread' } : TcpServer).phase = s.phase := by
  funext role
  rw [phase_set (List.getElem?_eq_some_iff.mp h).1]
  split_ifs with hrole
  · rw [phase, hrole, Option.bind_some, h, Option.map_some, hvalid]
  · rfl

theorem Ready.set (h : s.Ready) (hthread : s.heap[pThread]? = some thread) (fds : Finset ℕ)
    (hpipe : thread'.pipe = thread.pipe) :
    ({ s with fds := fds, heap := s.heap.set pThread thread' } : TcpServer).Ready := by
  intro role p t hp ht
  dsimp only at hp ht
  by_cases he : p = pThread
  · subst he
    rw [List.getElem?_set_self (List.getElem?_eq_some_iff.mp hthread).1] at ht
    cases ht
    rw [hpipe]
    exact h role p thread hp hthread
  · rw [List.getElem?_set_ne (Ne.symm he)] at ht
    exact h role p t hp ht

theorem Tidy.set (h : s.Tidy) (hlt : pThread < s.heap.length) (fds : Finset ℕ)
    (hown : s.Owns pThread ∨ thread' = .create) :
    ({ s with fds := fds, heap := s.heap.set pThread thread' } : TcpServer).Tidy := by
  intro p t ht
  dsimp only at ht
  by_cases he : p = pThread
  · subst he
    rw [List.getElem?_set_self hlt] at ht
    cases ht
    exact hown
  · rw [List.getElem?_set_ne (Ne.symm he)] at ht
    exact h p t ht

/-! ### Phases -/

/-- The server is in the phase; and no object has been lost, if `careful` holds. -/
structure InPhase (rest : Finset ℕ) (careful : Prop) (phase : TcpPhase) (s : TcpServer) : Prop where
  sound : s.Sound rest
  ready : s.Ready
  phase : s.phase = phase
  tidy : careful → s.Tidy

theorem inPhase_create (rest : Finset ℕ) (careful : Prop) :
    (create rest).InPhase rest careful .down :=
  ⟨sound_create rest, ready_create rest, rfl, fun _ => tidy_create rest⟩

variable {careful : Prop} {phase : TcpPhase}

theorem Sound.phase_eq_none (h : s.Sound rest) {role : SocketRole} :
    s.phase role = none ↔ s.threads role = none := by
  rw [TcpServer.phase]
  cases hp : s.threads role with
  | none => exact iff_of_true rfl rfl
  | some pThread =>
    rw [Option.bind_some, List.getElem?_eq_getElem (h.lt role pThread hp)]
    simp

/-! ### A turn of a thread -/

theorem inPhase_turn (D : Digests) (h : s.InPhase rest careful phase) (pThread : ℕ)
    (turn : CTCPStunThread.Turn) :
    (s.onThread pThread fun setup => TcpThread.step D setup turn).InPhase rest careful phase := by
  cases hthread : s.heap[pThread]? with
  | none =>
    rw [onThread_none hthread]
    exact h
  | some thread =>
    have hfit := h.sound.fit thread (List.mem_of_getElem? hthread)
    have hlt := (List.getElem?_eq_some_iff.mp hthread).1
    have hsteps : ∀ others, Accounts others s.fds thread.holds →
        TcpThread.Steps others ⟨s.fds, thread⟩ (TcpThread.step D ⟨s.fds, thread⟩ turn) :=
      fun others hown => TcpThread.steps_step D hown hfit turn
    obtain ⟨work, hframe⟩ : ∃ work, (TcpThread.step D ⟨s.fds, thread⟩ turn).thread =
        { thread with work := work } := by
      obtain ⟨others, hown, -⟩ := h.sound.accounts.focus pThread
      rw [Sound.table_eq hthread] at hown
      exact (hsteps others hown).frame
    rw [onThread_some hthread]
    refine ⟨h.sound.set hthread _ fun others hown => ⟨(hsteps others hown).accounts,
        (hsteps others hown).fit⟩, h.ready.set hthread _ ?_, ?_, fun hcareful => ?_⟩
    · rw [hframe]
    · rw [phase_set_of_eq hthread, h.phase]
      rw [hframe]
    · have htidy := h.tidy hcareful
      refine htidy.set hlt _ ((htidy pThread thread hthread).imp_right ?_)
      -- a thread that was never started does not run
      rintro rfl
      rfl

/-! ### `Stop` -/

theorem stop_spec (D : Digests) (h : s.Sound rest) (hthread : s.heap[pThread]? = some thread)
    (exit : TcpThread.Exit) : ∃ fds, TcpThread.stop D exit ⟨s.fds, thread⟩ = ⟨fds, .create⟩ ∧
      ({ s with fds := fds, heap := s.heap.set pThread .create } : TcpServer).Sound rest := by
  have hfit := h.fit thread (List.mem_of_getElem? hthread)
  obtain ⟨fds, hown, -⟩ := h.accounts.focus pThread
  rw [Sound.table_eq hthread] at hown
  have hstop := TcpThread.stop_eq (s := ⟨s.fds, thread⟩) D hown hfit exit
  refine ⟨fds, hstop, h.set hthread ⟨fds, .create⟩ fun others hown' => ?_⟩
  have hsame := hstop.symm.trans (TcpThread.stop_eq (s := ⟨s.fds, thread⟩) D hown' hfit exit)
  cases hsame
  refine ⟨?_, TcpThread.fit_create⟩
  rw [funext TcpThread.holds_create]
  exact Accounts.empty fds

/-- A pointer is gone, and its object holds nothing any more. -/
theorem deleteThread_spec (D : Digests) (h : s.Sound rest) (exits : SocketRole → TcpThread.Exit)
    (role : SocketRole) : (s.deleteThread D exits role).Sound rest ∧
      (s.deleteThread D exits role).threads = Function.update s.threads role none ∧
      (s.Tidy → (s.deleteThread D exits role).Tidy) := by
  rw [deleteThread]
  cases hp : s.threads role with
  | none =>
    have hsame : Function.update s.threads role none = s.threads := by
      rw [← hp, Function.update_eq_self]
    exact ⟨h, hsame.symm, id⟩
  | some pThread =>
    have hlt := h.lt role pThread hp
    have hthread := List.getElem?_eq_getElem hlt
    obtain ⟨fds, hstop, hset⟩ := stop_spec D h hthread (exits role)
    dsimp only
    rw [onThread_some hthread, hstop]
    refine ⟨⟨hset.accounts, hset.fit, fun r p hr => ?_, fun r r' p hr hr' => ?_⟩, rfl,
      fun htidy p t ht => ?_⟩
    · dsimp only at hr
      rw [Function.update_apply] at hr
      split_ifs at hr
      exact hset.lt r p hr
    · dsimp only at hr hr'
      rw [Function.update_apply] at hr hr'
      split_ifs at hr hr'
      exact h.inj r r' p hr hr'
    · rcases (htidy.set hlt fds (Or.inr rfl)) p t ht with ⟨r, hr⟩ | hcreated
      · dsimp only at hr ht
        by_cases he : r = role
        · subst he
          obtain rfl : p = pThread := Option.some.inj (hr.symm.trans hp)
          rw [List.getElem?_set_self hlt] at ht
          exact Or.inr (Option.some.inj ht).symm
        · exact Or.inl ⟨r, (Function.update_of_ne he ..).trans hr⟩
      · exact Or.inr hcreated

theorem deleteThreads_spec (D : Digests) (h : s.Sound rest) (exits : SocketRole → TcpThread.Exit)
    (roles : List SocketRole) : (roles.foldl (deleteThread D exits) s).Sound rest ∧
      (∀ role, (roles.foldl (deleteThread D exits) s).threads role =
        if role ∈ roles then none else s.threads role) ∧
      (s.Tidy → (roles.foldl (deleteThread D exits) s).Tidy) := by
  induction roles generalizing s with
  | nil => exact ⟨h, fun _ => rfl, id⟩
  | cons role roles ih =>
    obtain ⟨hsound, hthreads, htidy⟩ := deleteThread_spec D h exits role
    obtain ⟨hsound', hthreads', htidy'⟩ := ih hsound
    refine ⟨hsound', fun r => ?_, htidy' ∘ htidy⟩
    rw [List.foldl_cons, hthreads', hthreads, Function.update_apply]
    by_cases hr : r = role
    · simp [hr]
    · simp [hr]

theorem inPhase_shutdown (D : Digests) (h : s.Sound rest) (htidy : careful → s.Tidy)
    (exits : SocketRole → TcpThread.Exit) : (s.shutdown D exits).InPhase rest careful .down := by
  obtain ⟨hsound, hthreads, hkept⟩ := deleteThreads_spec D h exits CTCPStunThread.roles
  have hnone : ∀ role, (s.shutdown D exits).threads role = none := fun role =>
    (hthreads role).trans (if_pos (mem_roles role))
  refine ⟨hsound, fun role _ _ hp => ?_, ?_, hkept ∘ htidy⟩
  · rw [hnone role] at hp
    cases hp
  · exact funext fun role => hsound.phase_eq_none.mpr (hnone role)

/-! ### A new thread -/

/-- The object is made, and the pointer set to it. -/
def pushThread (role : SocketRole) (setup : TcpSetup) (s : TcpServer) : TcpServer :=
  ⟨setup.fds, s.heap ++ [setup.thread], Function.update s.threads role (some s.heap.length)⟩

variable {role : SocketRole} {setup : TcpSetup}

theorem table_pushThread : (s.pushThread role setup).table =
    Function.update s.table s.heap.length setup.thread.holds := by
  funext p holder
  rw [table, pushThread]
  by_cases hp : p = s.heap.length
  · subst hp
    rw [List.getElem?_concat_length, Option.bind_some, Function.update_self]
  · rw [Function.update_of_ne hp, table]
    rcases Nat.lt_or_gt_of_ne hp with hlt | hgt
    · rw [List.getElem?_append_left hlt]
    · rw [List.getElem?_eq_none (by rw [List.length_append, List.length_singleton]; omega),
        List.getElem?_eq_none (by omega)]

theorem Sound.pushThread (h : s.Sound rest) (hmethod : Method s.fds setup) :
    (s.pushThread role setup).Sound rest := by
  obtain ⟨others, hown, hall⟩ := h.accounts.focus s.heap.length
  have hnone : ∀ holder, s.table s.heap.length holder = none := by
    intro holder
    rw [table, List.getElem?_eq_none le_rfl, Option.bind_none]
  rw [hown.eq_rest hnone] at hmethod
  refine ⟨?_, fun t ht => ?_, fun r p hr => ?_, fun r r' p hr hr' => ?_⟩
  · rw [table_pushThread]
    exact hall _ _ hmethod.accounts
  · rcases List.mem_append.mp ht with hold | hnew
    · exact h.fit t hold
    · rw [List.mem_singleton.mp hnew]
      exact hmethod.fit
  · rw [TcpServer.pushThread] at hr ⊢
    dsimp only at hr ⊢
    rw [List.length_append, List.length_singleton]
    rw [Function.update_apply] at hr
    split_ifs at hr
    · cases hr
      exact Nat.lt_succ_self _
    · exact Nat.lt_succ_of_lt (h.lt r p hr)
  · rw [TcpServer.pushThread] at hr hr'
    dsimp only at hr hr'
    rw [Function.update_apply] at hr hr'
    split_ifs at hr hr' with he he' he'
    · rw [he, he']
    · cases hr
      exact absurd (h.lt r' _ hr') (Nat.lt_irrefl _)
    · cases hr'
      exact absurd (h.lt r _ hr) (Nat.lt_irrefl _)
    · exact h.inj r r' p hr hr'

theorem Sound.phase_pushThread (h : s.Sound rest) : (s.pushThread role setup).phase =
    Function.update s.phase role (some setup.thread.fThreadIsValid) := by
  funext r
  rw [TcpServer.phase, TcpServer.pushThread]
  dsimp only
  by_cases hr : r = role
  · subst hr
    rw [Function.update_self, Function.update_self, Option.bind_some, List.getElem?_concat_length,
      Option.map_some]
  · rw [Function.update_of_ne hr, Function.update_of_ne hr, TcpServer.phase]
    cases hp : s.threads r with
    | none => rfl
    | some p => rw [Option.bind_some, Option.bind_some, List.getElem?_append_left (h.lt r p hp)]

theorem Ready.pushThread (h : s.Ready) (hsound : s.Sound rest) (hpipe : setup.thread.pipe ≠ none) :
    (s.pushThread role setup).Ready := by
  intro r p t hr ht
  rw [TcpServer.pushThread] at hr ht
  dsimp only at hr ht
  rw [Function.update_apply] at hr
  split_ifs at hr
  · cases hr
    rw [List.getElem?_concat_length] at ht
    cases ht
    exact hpipe
  · rw [List.getElem?_append_left (hsound.lt r p hr)] at ht
    exact h r p t hr ht

/-- No object is lost, if there was no pointer in this place. -/
theorem Tidy.pushThread (h : s.Tidy) (hnone : s.threads role = none) :
    (s.pushThread role setup).Tidy := by
  intro p t ht
  rw [TcpServer.pushThread] at ht
  dsimp only at ht
  by_cases hp : p < s.heap.length
  · rw [List.getElem?_append_left hp] at ht
    refine (h p t ht).imp_left ?_
    rintro ⟨r, hr⟩
    have hne : r ≠ role := by
      rintro rfl
      rw [hnone] at hr
      cases hr
    exact ⟨r, (Function.update_of_ne hne ..).trans hr⟩
  · have hlt := (List.getElem?_eq_some_iff.mp ht).1
    rw [List.length_append, List.length_singleton] at hlt
    obtain rfl : p = s.heap.length := by omega
    exact Or.inl ⟨role, Function.update_self ..⟩

/-! ### `Initialize` -/

/-- What a failure leaves behind is for `Shutdown`. -/
structure Pending (rest : Finset ℕ) (careful : Prop) (s : TcpServer) : Prop where
  sound : s.Sound rest
  tidy : careful → s.Tidy

theorem endsWith_addThread (h : s.InPhase rest careful phase) (role : SocketRole)
    (hcareful : careful → phase role = none) (call : TcpInitCall) (spAuth : Option IStunAuth)
    (calls : TcpInitCalls) : Hr.EndsWith (addThread role call spAuth calls) s (Pending rest careful)
      (InPhase rest careful (Function.update phase role (some false))) (calls.failure call) := by
  have hnone : careful → s.threads role = none := fun hc =>
    h.sound.phase_eq_none.mp ((congrFun h.phase role).trans (hcareful hc))
  rcases TcpThread.init_cases s.fds call spAuth calls with
    ⟨hfailure, setup, hinit, hprepared⟩ | ⟨hr, hfailure, hinit⟩
  · rw [hfailure]
    obtain ⟨pipe, thread, hpipe, -⟩ := hprepared.work
    refine ⟨s.pushThread role setup, ?_, h.sound.pushThread ⟨hprepared.accounts, hprepared.fit⟩,
      h.ready.pushThread h.sound (by simp [hpipe]), ?_, fun hc => (h.tidy hc).pushThread (hnone hc)⟩
    · rw [addThread, hinit]
      rfl
    · rw [h.sound.phase_pushThread, h.phase, hprepared.fThreadIsValid]
  · rw [hfailure]
    have hmethod : Method s.fds ⟨s.fds, .create⟩ := by
      refine ⟨?_, TcpThread.fit_create⟩
      rw [funext TcpThread.holds_create]
      exact Accounts.empty s.fds
    refine ⟨s.pushThread role ⟨s.fds, .create⟩, ?_, h.sound.pushThread hmethod,
      fun hc => (h.tidy hc).pushThread (hnone hc)⟩
    rw [addThread, hinit]
    dsimp only
    rw [if_pos (TcpThread.failed_of_failure hfailure)]
    rfl

variable {config : CStunServerConfig}

theorem tsaHandler_fValid (role : SocketRole) :
    ((CTCPServer.tsaHandler config).set role).fValid = config.fHas role :=
  CTCPServer.initTSA_fValid ..

theorem endsWith_addThreads (h : s.InPhase rest careful phase) (hmulti : config.fMultiThreadedMode ≠ false)
    (spAuth : Option IStunAuth) (calls : SocketRole → TcpInitCalls) {roles : List SocketRole}
    (hnodup : roles.Nodup) (hcareful : careful → ∀ role ∈ roles, phase role = none) :
    Hr.EndsWith (addThreads config spAuth calls roles) s (Pending rest careful)
      (InPhase rest careful fun role =>
        if role ∈ roles.filter config.fHas then some false else phase role)
      ((roles.filter config.fHas).findSome? fun role =>
        (calls role).failure (config.tcpCall role)) := by
  induction roles generalizing s phase with
  | nil => exact .pure h
  | cons role roles ih =>
    obtain ⟨hrole, hnodup⟩ := List.nodup_cons.mp hnodup
    rw [addThreads, Hr.when, tsaHandler_fValid]
    by_cases hhas : config.fHas role = true
    · rw [if_pos hhas, List.filter_cons_of_pos hhas, findSome?_cons_or]
      have hcall : config.tcpCall role = ⟨CTCPServer.tsaListen config role,
          CTCPServer.tsaHandler config, config.nMaxConnections.toInt32.toInt⟩ := by
        rw [CStunServerConfig.tcpCall, if_neg hmulti]
      rw [← hcall]
      refine (endsWith_addThread h role (fun hc => hcareful hc role (List.mem_cons_self ..)) _ spAuth
        (calls role)).bind fun s' hs' => ?_
      refine (ih hs' hnodup fun hc r hr => ?_).mono fun s'' hs'' => ?_
      · have hne : r ≠ role := fun he => hrole (he ▸ hr)
        rw [Function.update_of_ne hne]
        exact hcareful hc r (List.mem_cons_of_mem _ hr)
      · refine (congrArg (InPhase rest careful · s'') (funext fun r => ?_)).mp hs''
        by_cases hr : r = role
        · subst hr
          simp
        · simp [hr]
    · rw [if_neg hhas, List.filter_cons_of_neg hhas]
      exact .step rfl (ih h hnodup fun hc r hr => hcareful hc r (List.mem_cons_of_mem _ hr))

theorem endsWith_setUp (h : s.InPhase rest careful phase)
    (hcareful : careful → phase .rolePP = none → phase = .down) (config : CStunServerConfig)
    (spAuth : Option IStunAuth) (calls : SocketRole → TcpInitCalls) :
    Hr.EndsWith (setUp config spAuth calls) s (Pending rest careful)
      (InPhase rest careful fun role =>
        if role ∈ config.threadRoles then some false else phase role)
      ((if phase .rolePP ≠ none then some E_UNEXPECTED else none).or (config.tcpFailure calls)) := by
  have hfirst : s.threads .rolePP ≠ none ↔ phase .rolePP ≠ none := by
    rw [← h.phase]
    exact not_congr h.sound.phase_eq_none.symm
  rw [setUp]
  refine .get ?_
  have hchk : Hr.EndsWith (Hr.chkIf (s.threads .rolePP ≠ none) E_UNEXPECTED) s
      (Pending rest careful) (fun s' => s'.InPhase rest careful phase ∧ phase .rolePP = none) _ :=
    .chkIf _ ⟨h.sound, h.tidy⟩ fun hc => ⟨h, not_not.mp (mt hfirst.mpr hc)⟩
  simp only [hfirst] at hchk
  refine hchk.bind fun s' hs' => ?_
  obtain ⟨hs', hnone⟩ := hs'
  have hdown : careful → ∀ role, phase role = none := fun hc role =>
    congrFun (hcareful hc hnone) role
  rw [CStunServerConfig.tcpFailure, CStunServerConfig.threadRoles]
  by_cases hsingle : config.fMultiThreadedMode = false
  · rw [if_pos hsingle, if_pos hsingle]
    have hcall : config.tcpCall .rolePP = ⟨CTCPServer.tsaListenAll config,
        CTCPServer.tsaHandler config, config.nMaxConnections.toInt32.toInt⟩ := by
      rw [CStunServerConfig.tcpCall, if_pos hsingle]
    rw [← hcall, findSome?_cons_or, List.findSome?_nil, Option.or_none]
    refine (endsWith_addThread hs' .rolePP (fun hc => hdown hc _) _ spAuth (calls .rolePP)).mono
      fun s'' hs'' => ?_
    refine (congrArg (InPhase rest careful · s'') (funext fun r => ?_)).mp hs''
    simp [Function.update_apply]
  · rw [if_neg hsingle, if_neg hsingle]
    exact endsWith_addThreads hs' hsingle spAuth calls (by decide) fun hc role _ => hdown hc role

theorem initializeWith_failed (D : Digests) {spAuth : Option IStunAuth}
    {calls : SocketRole → TcpInitCalls} {hr : HRESULT} {Q : TcpServer → Prop}
    (h : Hr.EndsWith (setUp config spAuth calls) s (Pending rest careful) Q (some hr))
    (exits : SocketRole → TcpThread.Exit) :
    (s.initializeWith D config spAuth calls exits).1 = hr ∧
      (s.initializeWith D config spAuth calls exits).2.InPhase rest careful .down := by
  obtain ⟨s', herror, hpending⟩ := h
  rw [initializeWith, herror]
  exact ⟨rfl, inPhase_shutdown D hpending.sound hpending.tidy exits⟩

theorem initializeWith_spec (D : Digests) (h : s.InPhase rest careful phase)
    (hcareful : careful → phase .rolePP = none → phase = .down) (config : CStunServerConfig)
    (spAuth : Option IStunAuth) (calls : SocketRole → TcpInitCalls)
    (exits : SocketRole → TcpThread.Exit) :
    (s.initializeWith D config spAuth calls exits).1 = (phase.initializeWith config calls).1 ∧
      (s.initializeWith D config spAuth calls exits).2.InPhase rest careful
        (phase.initializeWith config calls).2 := by
  have hends := endsWith_setUp h hcareful config spAuth calls
  rw [TcpPhase.initializeWith]
  by_cases hfirst : phase .rolePP ≠ none
  · rw [if_pos hfirst, Option.some_or] at hends
    rw [if_pos hfirst]
    exact initializeWith_failed D hends exits
  · rw [if_neg hfirst, Option.none_or] at hends
    rw [if_neg hfirst]
    cases hcode : config.tcpFailure calls with
    | some hr =>
      rw [hcode] at hends
      exact initializeWith_failed D hends exits
    | none =>
      rw [hcode] at hends
      obtain ⟨s', hok, hphase⟩ := hends
      rw [initializeWith, hok]
      exact ⟨rfl, hphase⟩

/-! ### `Start` -/

theorem inPhase_start (h : s.InPhase rest careful phase) {pThread : ℕ} {thread : TcpThread}
    (hp : s.threads role = some pThread) (hthread : s.heap[pThread]? = some thread)
    (pthread_create : Option UInt32) (time : ℤ) :
    ({ s with heap := s.heap.set pThread (thread.start pthread_create time).2 } :
      TcpServer).InPhase rest careful (Function.update phase role
        (some (thread.start pthread_create time).2.fThreadIsValid)) := by
  have hlt := h.sound.lt role pThread hp
  have hpipe : (thread.start pthread_create time).2.pipe = thread.pipe := by
    rw [TcpThread.start.eq_def]
    split_ifs
    · rfl
    · rfl
    · cases pthread_create <;> rfl
  refine ⟨?_, h.ready.set hthread s.fds hpipe, ?_, fun hc => ?_⟩
  · refine h.sound.set hthread ⟨s.fds, _⟩ fun others hown => ⟨?_, ?_⟩
    · rw [TcpThread.holds_start]
      exact hown
    · exact TcpThread.fit_start (h.sound.fit thread (List.mem_of_getElem? hthread)) _ _
  · funext r
    rw [← h.phase, Function.update_apply]
    refine (phase_set hlt s.fds _ r).trans ?_
    by_cases hr : r = role
    · subst hr
      rw [if_pos hp, if_pos rfl]
    · rw [if_neg fun he => hr (h.sound.inj r role pThread he hp), if_neg hr]
  · exact (h.tidy hc).set hlt s.fds (Or.inl ⟨role, hp⟩)

theorem endsWith_startThreads (h : s.InPhase rest careful phase)
    (calls : SocketRole → Option UInt32 × ℤ) (roles : List SocketRole) :
    ∃ s', s'.InPhase rest careful (TcpPhase.start calls roles phase).2 ∧
      (startThreads calls roles s = .ok () s' ∧ (TcpPhase.start calls roles phase).1 = S_OK ∨
        startThreads calls roles s = .error (TcpPhase.start calls roles phase).1 s') := by
  induction roles generalizing s phase with
  | nil => exact ⟨s, h, Or.inl ⟨rfl, rfl⟩⟩
  | cons role roles ih =>
    rw [startThreads, Hr.bind_ok (Hr.get_apply s), TcpPhase.start]
    cases hp : s.threads role with
    | none =>
      have hnone : phase role = none := by
        rw [← h.phase, h.sound.phase_eq_none]
        exact hp
      rw [Option.bind_none, hnone]
      exact ih h
    | some pThread =>
      obtain ⟨thread, hthread⟩ : ∃ thread, s.heap[pThread]? = some thread :=
        ⟨_, List.getElem?_eq_getElem (h.sound.lt role pThread hp)⟩
      have hphase : phase role = some thread.fThreadIsValid := by
        rw [← h.phase, TcpServer.phase, hp, Option.bind_some, hthread, Option.map_some]
      have hstarted := inPhase_start h hp hthread (calls role).1 (calls role).2
      have hpipe := h.ready role pThread thread hp hthread
      rw [Option.bind_some, hthread, Option.map_some, hphase]
      dsimp only
      by_cases hvalid : thread.fThreadIsValid = true
      · rw [TcpThread.start_valid hvalid] at hstarted ⊢
        rw [hvalid, ← hvalid, ← hphase, Function.update_eq_self] at hstarted
        rw [hvalid]
        refine ⟨_, hstarted, Or.inr ((Hr.bind_ok (Hr.set_apply _ s)).trans ?_)⟩
        exact Hr.bind_error (Hr.chk_error rfl _)
      · rw [Bool.not_eq_true] at hvalid
        rw [hvalid]
        cases hcreate : (calls role).1 with
        | some err =>
          rw [hcreate, TcpThread.start_refused hvalid hpipe, ← hphase, Function.update_eq_self]
            at hstarted
          rw [TcpThread.start_refused hvalid hpipe]
          refine ⟨_, hstarted, Or.inr ((Hr.bind_ok (Hr.set_apply _ s)).trans ?_)⟩
          exact Hr.bind_error (Hr.chk_error (Polling.CPoll.failed_ERRNOHR err) _)
        | none =>
          rw [hcreate, TcpThread.start_created hvalid hpipe] at hstarted
          rw [TcpThread.start_created hvalid hpipe]
          exact ih hstarted

theorem start_spec (h : s.InPhase rest careful phase) (calls : SocketRole → Option UInt32 × ℤ) :
    (s.start calls).1 = (TcpPhase.start calls CTCPStunThread.roles phase).1 ∧
      (s.start calls).2.InPhase rest careful (TcpPhase.start calls CTCPStunThread.roles phase).2 := by
  obtain ⟨s', hphase, hrun⟩ := endsWith_startThreads h calls CTCPStunThread.roles
  rw [start]
  rcases hrun with ⟨hok, hcode⟩ | herror
  · rw [hok, hcode]
    exact ⟨rfl, hphase⟩
  · rw [herror]
    exact ⟨rfl, hphase⟩

/-! ### Any event -/

theorem inPhase_step (D : Digests) (h : s.InPhase rest careful phase) (e : TcpServer.Event)
    (hcareful : careful → phase.Careful e) : (s.step D e).1 = (phase.step e).1 ∧
      (s.step D e).2.InPhase rest careful (phase.step e).2 := by
  cases e with
  | initializeWith config spAuth calls exits =>
    obtain ⟨hcode, hphase⟩ := initializeWith_spec D h hcareful config spAuth calls exits
    exact ⟨congrArg some hcode, hphase⟩
  | start calls =>
    obtain ⟨hcode, hphase⟩ := start_spec h calls
    exact ⟨congrArg some hcode, hphase⟩
  | shutdown exits => exact ⟨rfl, inPhase_shutdown D h.sound h.tidy exits⟩
  | turn pThread turn => exact ⟨rfl, inPhase_turn D h pThread turn⟩

/-- Without a pointer nothing is open. -/
theorem InPhase.fds_eq (h : s.InPhase rest careful .down) (hcareful : careful) : s.fds = rest := by
  refine h.sound.accounts.eq_rest fun i => ?_
  rw [table]
  cases hthread : s.heap[i.1]? with
  | none => rfl
  | some thread =>
    rcases h.tidy hcareful i.1 thread hthread with ⟨role, hrole⟩ | rfl
    · rw [h.sound.phase_eq_none.mp (congrFun h.phase role)] at hrole
      cases hrole
    · exact TcpThread.holds_create i.2

end TcpServer
end StunServer
