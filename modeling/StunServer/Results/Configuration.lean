import StunServer.Proofs.ServerMain

/-! Whether a configuration that is accepted can be run. -/

namespace StunServer

open Bytes

namespace CStunServerConfig

/-- The four sockets of two different IPs and two different ports. -/
structure IsGrid (config : CStunServerConfig) : Prop where
  roles : ∀ role, config.fHas role = true
  primaryIP : config.addrPP.isSameIP config.addrPA = true
  alternateIP : config.addrAP.isSameIP config.addrAA = true
  ips : config.addrPP.isSameIP config.addrAP = false
  primaryPort : config.addrPP.getPort = config.addrAP.getPort
  alternatePort : config.addrPA.getPort = config.addrAA.getPort
  ports : config.addrPP.getPort ≠ config.addrPA.getPort

/-- One socket, and no alternate address to advertise. -/
structure IsBasic (config : CStunServerConfig) : Prop where
  roles : ∀ role, config.fHas role = true ↔ role = .rolePP
  alternate : config.addrAlternateAdvertised.isIPAddressZero = true

end CStunServerConfig

namespace StartupArgs

/-- What the configuration has to be for its mode and its protocol. -/
structure CanRun (args : StartupArgs) (config : CStunServerConfig) : Prop where
  full : args.normalize.mode = .ok .full → config.IsGrid
  basic : args.normalize.mode = .ok .basic → config.IsBasic
  tcp : config.fTCP = true → ∀ call ∈ CTCPServer.initCalls config, call.checked = .ok ()

/-- An alternate address to advertise is given in basic mode. -/
def AdvertisesAlternate (host : Host) (args : StartupArgs) : Prop :=
  args.normalize.mode = .ok .basic ∧ ∃ family addr, args.normalize.family = .ok family ∧
    advertised host family args.strAlternateAdvertised = .ok addr ∧ addr.isIPAddressZero = false

/-- Over TCP the limit is the largest that the parser takes. -/
def AsksForMost (args : StartupArgs) : Prop :=
  args.normalize.fTCP = .ok true ∧ atoi args.strMaxConnections = 100000

namespace Steps

variable {host : Host} {args : StartupArgs} (s : Steps host args)

theorem result_tcp : s.result.fTCP = s.fTCP ∧
    s.result.nMaxConnections = UInt32.ofNat s.nMaxConnections.toNat := by
  change s.addresses.fTCP = s.fTCP ∧ s.addresses.nMaxConnections = _
  cases hmode : s.mode with
  | basic =>
    obtain ⟨addr, heq⟩ := s.basicAddresses hmode
    rw [heq]
    exact ⟨rfl, rfl⟩
  | full =>
    obtain ⟨addrPrimary, addrAlternate, -, heq⟩ := setAddresses_full (s.addresses_of hmode)
    rw [heq]
    exact ⟨rfl, rfl⟩

theorem isGrid (hmode : s.mode = .full) : s.result.IsGrid := by
  obtain ⟨addrPrimary, addrAlternate, hips, heq⟩ := setAddresses_full (s.addresses_of hmode)
  have hports := ports_ok s.ports_eq
  rw [result, heq]
  refine ⟨fun role => by cases role <;> rfl, ?_, ?_, ?_, ?_, ?_, ?_⟩
  · exact (isSameIP_setPort_setPort _ _ _ _).trans (isSameIP_self addrPrimary)
  · exact (isSameIP_setPort_setPort _ _ _ _).trans (isSameIP_self addrAlternate)
  · exact (isSameIP_setPort_setPort _ _ _ _).trans hips
  · exact (getPort_setPort _ _).trans (getPort_setPort _ _).symm
  · exact (getPort_setPort _ _).trans (getPort_setPort _ _).symm
  · change (addrPrimary.setPort _).getPort ≠ (addrPrimary.setPort _).getPort
    rw [getPort_setPort, getPort_setPort]
    exact hports

theorem isBasic_iff (hmode : s.mode = .basic) :
    s.result.IsBasic ↔ s.addrAlternateAdvertised.isIPAddressZero = true := by
  obtain ⟨addr, heq⟩ := s.basicAddresses hmode
  have hroles : ∀ role, s.result.fHas role = true ↔ role = .rolePP := by
    rw [result, heq]
    intro role
    cases role with
    | rolePP => exact iff_of_true rfl rfl
    | rolePA | roleAP | roleAA => exact iff_of_false nofun nofun
  exact ⟨fun h => h.alternate, fun h => ⟨hroles, h⟩⟩

/-- Some role is configured in each mode. -/
theorem hasRole : ∃ role, s.result.fHas role = true := by
  refine ⟨.rolePP, ?_⟩
  cases hmode : s.mode with
  | basic =>
    obtain ⟨addr, heq⟩ := s.basicAddresses hmode
    rw [result, heq]
    rfl
  | full => exact (s.isGrid hmode).roles .rolePP

/-- The checks in `Init` are passed just if the limit is below the largest. -/
theorem checked_iff {call : TcpInitCall} (hcall : call ∈ CTCPServer.initCalls s.result) :
    call.checked = .ok () ↔ ¬(s.fTCP = true ∧ atoi args.strMaxConnections = 100000) := by
  obtain ⟨hmin, hmax, hmost⟩ := nMaxConnections_ok s.nMaxConnections_eq
  have hlimit : s.result.nMaxConnections.toInt32.toInt = s.nMaxConnections := by
    rw [s.result_tcp.2, toInt_toInt32_ofNat (by omega)]
    omega
  have hmost' : s.nMaxConnections = 100000 ↔
      s.fTCP = true ∧ atoi args.strMaxConnections = 100000 := hmost
  rw [CTCPServer.checked_initCalls hcall, hlimit, and_iff_left s.hasRole, ← hmost']
  omega

end Steps

/-- A configuration that is accepted can be run, unless an alternate address is advertised in basic
mode, or the limit over TCP is the one number that `Init` refuses and the parser does not. -/
theorem accepted_canRun_iff {host : Host} {args : StartupArgs} {config : CStunServerConfig}
    (h : args.buildServerConfigurationFromArgs host = .ok config) :
    args.CanRun config ↔ ¬args.AdvertisesAlternate host ∧ ¬args.AsksForMost := by
  obtain ⟨s, rfl⟩ := build_ok h
  have hmode : ∀ mode, args.normalize.mode = .ok mode ↔ s.mode = mode := by
    intro mode
    rw [s.mode_eq, Except.ok.injEq]
  have halternate : args.AdvertisesAlternate host ↔
      s.mode = .basic ∧ s.addrAlternateAdvertised.isIPAddressZero = false := by
    rw [AdvertisesAlternate, hmode]
    refine and_congr_right fun _ => ⟨?_, fun hne => ⟨_, _, s.family_eq, s.alternate_eq, hne⟩⟩
    rintro ⟨family, addr, hfamily, haddr, hne⟩
    obtain rfl := Except.ok.inj (s.family_eq.symm.trans hfamily)
    obtain rfl := Except.ok.inj (s.alternate_eq.symm.trans haddr)
    exact hne
  have hmost : args.AsksForMost ↔ s.fTCP = true ∧ atoi args.strMaxConnections = 100000 := by
    rw [AsksForMost, s.fTCP_eq, Except.ok.injEq]
  rw [halternate, hmost]
  constructor
  · intro hrun
    refine ⟨fun ⟨hbasic, hne⟩ => ?_, fun hlimit => ?_⟩
    · rw [(s.isBasic_iff hbasic).mp (hrun.basic ((hmode _).mpr hbasic))] at hne
      cases hne
    · have htcp : s.result.fTCP = true := s.result_tcp.1.trans hlimit.1
      obtain ⟨call, hcall⟩ := List.exists_mem_of_ne_nil _ (CTCPServer.initCalls_ne_nil s.hasRole)
      exact (s.checked_iff hcall).mp (hrun.tcp htcp call hcall) hlimit
  · rintro ⟨hbasic, hlimit⟩
    exact
      { full := fun hfull => s.isGrid ((hmode _).mp hfull)
        basic := fun hmode' => (s.isBasic_iff ((hmode _).mp hmode')).mpr
          (by simpa using fun hne => hbasic ⟨(hmode _).mp hmode', hne⟩)
        tcp := fun _ call hcall => (s.checked_iff hcall).mpr hlimit }

end StartupArgs

/-- No options. -/
def emptyArgs : StartupArgs where
  strMode := []
  strPrimaryInterface := []
  strAltInterface := []
  strPrimaryPort := []
  strAltPort := []
  strPrimaryAdvertised := []
  strAlternateAdvertised := []
  strFamily := []
  strProtocol := []
  strMaxConnections := []
  strDosProtect := []
  strReuseAddr := []

/-- A host that knows the address string 1.2.3.4. -/
def numericHost : Host where
  getifaddrs := .ok []
  getaddrinfo := fun _ _ _ => .error E_FAIL
  inet_pton4 := fun psz => if psz = chars "1.2.3.4" then some 0x04030201 else none
  inet_pton6 := fun _ => none

/-- A host with two adapters. -/
def twoAdapterHost : Host :=
  { numericHost with
    getifaddrs := .ok [⟨chars "eth0", some (.addr4 0 0x0a00000a), true, false⟩,
      ⟨chars "eth1", some (.addr4 0 0x0b00000a), true, false⟩] }

/-- `--mode full --protocol tcp --maxconn 99999 --altadvertised 1.2.3.4`. -/
def fullTcpArgs : StartupArgs :=
  { emptyArgs with
    strMode := chars "full"
    strProtocol := chars "tcp"
    strMaxConnections := chars "99999"
    strAlternateAdvertised := chars "1.2.3.4" }

/-- Two addresses by two ports, with a limit that `Init` takes. -/
theorem accepted_canRun_full : ∃ config,
    fullTcpArgs.buildServerConfigurationFromArgs twoAdapterHost = .ok config ∧
      fullTcpArgs.CanRun config ∧ config.IsGrid ∧
      ∀ call ∈ CTCPServer.initCalls config, call.checked = .ok () := by
  refine ⟨_, rfl, ?_⟩
  have hrun := (StartupArgs.accepted_canRun_iff
    (show fullTcpArgs.buildServerConfigurationFromArgs twoAdapterHost = .ok _ from rfl)).mpr
    ⟨fun hbasic => ?_, fun hmost => ?_⟩
  · exact ⟨hrun, hrun.full rfl, hrun.tcp rfl⟩
  · cases Except.ok.inj hbasic.1
  · exact absurd hmost.2 (by decide)

/-- One socket on the default port. -/
def emptyConfig : CStunServerConfig :=
  { CStunServerConfig.create with
    addrPP := .ofHostOrder 0 3478
    fHasPP := true }

/-- `--protocol tcp --maxconn 100000`. -/
def mostConnections : StartupArgs :=
  { emptyArgs with
    strProtocol := chars "tcp"
    strMaxConnections := chars "100000" }

/-- `--altadvertised 1.2.3.4`. -/
def basicAlternate : StartupArgs := { emptyArgs with strAlternateAdvertised := chars "1.2.3.4" }

/-- Both are accepted. The one makes `Init` fail, the other has an alternate address in basic mode. -/
theorem accepted_cannot_run :
    (∃ config, mostConnections.buildServerConfigurationFromArgs numericHost = .ok config ∧
      ¬mostConnections.CanRun config) ∧
    ∃ config, basicAlternate.buildServerConfigurationFromArgs numericHost = .ok config ∧
      ¬basicAlternate.CanRun config := by
  constructor
  · refine ⟨{ emptyConfig with
      fTCP := true
      nMaxConnections := 100000 }, rfl, fun hrun => ?_⟩
    have hchecked := hrun.tcp rfl _ List.mem_cons_self
    have hlimit := ((TcpInitCall.checked_eq_ok _).mp hchecked).1
    revert hlimit
    decide
  · refine ⟨{ emptyConfig with addrAlternateAdvertised := .addr4 0 0x04030201 }, rfl,
      fun hrun => ?_⟩
    have hzero := (hrun.basic rfl).alternate
    revert hzero
    decide

end StunServer
