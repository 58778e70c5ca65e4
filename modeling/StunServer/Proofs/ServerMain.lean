import StunServer.Core.ServerMain
import StunServer.Proofs.Address
import StunServer.Proofs.Server
import StunServer.Proofs.StringHelper

/-! The steps from the options to a configuration, one by one. -/

namespace StunServer

open Bytes

theorem toInt_toInt32_ofNat {n : ℕ} (h : n < 2 ^ 31) :
    (UInt32.ofNat n).toInt32.toInt = n := by
  have hnat : (UInt32.ofNat n).toBitVec.toNat = n := by
    rw [UInt32.toNat_toBitVec, UInt32.toNat_ofNat']
    omega
  change (UInt32.ofNat n).toBitVec.toInt = n
  rw [BitVec.toInt_eq_toNat_of_lt (by rw [hnat]; omega), hnat]

/-- Two numbers that are told apart stay so. -/
theorem ofNat_ne_ofNat {m n : ℕ} (hm : m < 2 ^ 16) (hn : n < 2 ^ 16) (h : m ≠ n) :
    UInt16.ofNat m ≠ UInt16.ofNat n := by
  intro heq
  have hnat := congrArg UInt16.toNat heq
  rw [UInt16.toNat_ofNat', UInt16.toNat_ofNat', Nat.mod_eq_of_lt hm, Nat.mod_eq_of_lt hn] at hnat
  exact h hnat

theorem Host.getSocketAddressForAdapter_eq_ok {host : Host} {family port : UInt16}
    {name : List UInt8} {addr : CSocketAddress} :
    host.getSocketAddressForAdapter family name port = .ok addr ↔
      StringHelper.isNullOrEmpty name = false ∧ ∃ pList found, host.getifaddrs = .ok pList ∧
        (host.findAdapter family name pList).bind IfAddrs.ifa_addr = some found ∧
          addr = found.setPort port := by
  constructor
  · intro h
    obtain ⟨_, hname, h⟩ := bind_eq_ok.mp h
    obtain ⟨pList, hlist, h⟩ := bind_eq_ok.mp h
    refine ⟨by simpa using chkIf_eq_ok.mp hname, pList, ?_⟩
    cases hfound : (host.findAdapter family name pList).bind IfAddrs.ifa_addr with
    | none =>
      rw [hfound] at h
      cases h
    | some found =>
      rw [hfound] at h
      cases h
      exact ⟨found, hlist, rfl, rfl⟩
  · rintro ⟨hname, pList, found, hlist, hfound, rfl⟩
    have hnamed : ¬StringHelper.isNullOrEmpty name = true := by simpa using hname
    refine bind_eq_ok.mpr ⟨(), chkIf_eq_ok.mpr hnamed, bind_eq_ok.mpr ⟨pList, hlist, ?_⟩⟩
    rw [hfound]
    rfl

namespace StartupArgs

variable {host : Host} {args : StartupArgs} {config config' : CStunServerConfig}
  {mode : ServerMode} {family portPrimary portAlternate : UInt16} {fTCP : Bool} {n : ℤ}

/-! ### Choices -/

/-- A choice of two names, the first of which is the default, too. -/
theorem choice_eq_ok {α : Type} {str first second : List UInt8} {x y a : α} {hr : HRESULT}
    (hdiffer : first ≠ second) (hsecond : second ≠ []) :
    (if str.length = 0 then .ok x else if str = first then .ok x
      else if str = second then .ok y else .error hr : Except HRESULT α) = .ok a ↔
      (str = [] ∨ str = first) ∧ a = x ∨ str = second ∧ a = y := by
  split_ifs with hnil hfirst hother
  · obtain rfl := List.length_eq_zero_iff.mp hnil
    rw [Except.ok.injEq, and_iff_right (Or.inl rfl), or_iff_left fun h => hsecond h.1.symm, eq_comm]
  · rw [Except.ok.injEq, and_iff_right (Or.inr hfirst),
      or_iff_left fun h => hdiffer (hfirst.symm.trans h.1), eq_comm]
  · have hneither : ¬(str = [] ∨ str = first) :=
      not_or.mpr ⟨fun h => hnil (List.length_eq_zero_iff.mpr h), hfirst⟩
    rw [Except.ok.injEq, and_iff_right hother, or_iff_right fun h => hneither h.1, eq_comm]
  · refine iff_of_false nofun ?_
    rintro (⟨h | h, -⟩ | ⟨h, -⟩)
    · exact hnil (List.length_eq_zero_iff.mpr h)
    · exact hfirst h
    · exact hother h

theorem mode_eq_ok : args.mode = .ok mode ↔
    (args.strMode = [] ∨ args.strMode = chars "basic") ∧ mode = .basic ∨
      args.strMode = chars "full" ∧ mode = .full :=
  choice_eq_ok (by decide) (by decide)

theorem family_eq_ok : args.family = .ok family ↔
    (args.strFamily = [] ∨ args.strFamily = chars "4") ∧ family = AF_INET ∨
      args.strFamily = chars "6" ∧ family = AF_INET6 :=
  choice_eq_ok (by decide) (by decide)

theorem fTCP_eq_ok : args.fTCP = .ok fTCP ↔
    (args.strProtocol = [] ∨ args.strProtocol = chars "udp") ∧ fTCP = false ∨
      args.strProtocol = chars "tcp" ∧ fTCP = true := by
  have hchoice : args.fTCP = if args.strProtocol.length = 0 then .ok false
      else if args.strProtocol = chars "udp" then .ok false
      else if args.strProtocol = chars "tcp" then .ok true else .error E_INVALIDARG := by
    rw [StartupArgs.fTCP]
    by_cases hudp : args.strProtocol = chars "udp"
    · rw [hudp]
      rfl
    · by_cases htcp : args.strProtocol = chars "tcp"
      · rw [htcp]
        rfl
      · have hneither : args.strProtocol ≠ chars "udp" ∧ args.strProtocol ≠ chars "tcp" :=
          ⟨hudp, htcp⟩
        rw [if_pos hneither, if_neg hudp, if_neg htcp]
  rw [hchoice]
  exact choice_eq_ok (by decide) (by decide)

/-! ### Numbers -/

theorem nMaxConnections_eq_ok : args.nMaxConnections fTCP = .ok n ↔
    n = (if args.strMaxConnections = [] ∨ fTCP = false then 0 else atoi args.strMaxConnections) ∧
      (args.strMaxConnections ≠ [] → fTCP = true →
        1 ≤ atoi args.strMaxConnections ∧ atoi args.strMaxConnections ≤ 100000) := by
  simp only [nMaxConnections, List.length_eq_zero_iff]
  split_ifs with hdefault
  · rw [Except.ok.injEq, and_iff_left, eq_comm]
    rintro hne rfl
    exact absurd (hdefault.resolve_left hne) (by decide)
  · rw [not_or, Bool.not_eq_false] at hdefault
    rw [StringHelper.validateNumberString_eq_ok (by decide)]
    exact and_congr_right fun _ => ⟨fun h _ _ => h, fun h => h hdefault.1 hdefault.2⟩

/-- The limit is the number that is asked for, or stands for the default. -/
theorem nMaxConnections_ok (h : args.nMaxConnections fTCP = .ok n) :
    0 ≤ n ∧ n ≤ 100000 ∧ (n = 100000 ↔ fTCP = true ∧ atoi args.strMaxConnections = 100000) := by
  obtain ⟨hvalue, hrange⟩ := nMaxConnections_eq_ok.mp h
  split_ifs at hvalue with hdefault
  · subst hvalue
    refine ⟨le_rfl, by decide, iff_of_false (by decide) ?_⟩
    rintro ⟨rfl, hmost⟩
    rw [hdefault.resolve_right (by decide)] at hmost
    exact absurd hmost (by decide)
  · rw [not_or, Bool.not_eq_false] at hdefault
    obtain ⟨hmin, hmax⟩ := hrange hdefault.1 hdefault.2
    exact ⟨by omega, by omega, by rw [hvalue, and_iff_right hdefault.2]⟩

theorem port_eq_ok {str : List UInt8} {default : ℤ} : port str default = .ok n ↔
    n = (if str = [] then default else atoi str) ∧ 
      (str ≠ [] → 1 ≤ atoi str ∧ atoi str ≤ 0xffff) := by
  simp only [port, List.length_eq_zero_iff]
  split_ifs with hnil
  · rw [Except.ok.injEq, and_iff_left fun h => absurd hnil h, eq_comm]
  · rw [StringHelper.validateNumberString_eq_ok (by decide)]
    exact and_congr_right fun _ => ⟨fun h _ => h, fun h => h hnil⟩

theorem port_ok {str : List UInt8} {default : ℤ} (hdefault : 1 ≤ default ∧ default ≤ 0xffff)
    (h : port str default = .ok n) : 1 ≤ n ∧ n ≤ 0xffff := by
  obtain ⟨hvalue, hrange⟩ := port_eq_ok.mp h
  by_cases hnil : str = []
  · rw [hvalue, if_pos hnil]
    exact hdefault
  · rw [hvalue, if_neg hnil]
    exact hrange hnil

theorem ports_ok (h : args.ports = .ok (portPrimary, portAlternate)) :
    portPrimary ≠ portAlternate := by
  obtain ⟨nPrimaryPort, hprimary, h⟩ := bind_eq_ok.mp h
  obtain ⟨nAltPort, halternate, h⟩ := bind_eq_ok.mp h
  obtain ⟨_, hdiffer, h⟩ := bind_eq_ok.mp h
  have hne := chkIf_eq_ok.mp hdiffer
  have hp := port_ok (by decide) hprimary
  have hq := port_ok (by decide) halternate
  cases h
  exact ofNat_ne_ofNat (by omega) (by omega) (by omega)

/-! ### Addresses -/

theorem fullAddresses_eq_ok {addrPrimary addrAlternate : CSocketAddress} :
    args.fullAddresses host family = .ok (addrPrimary, addrAlternate) ↔
      host.hasAtLeastTwoAdapters family = true ∧
        host.resolveAdapterName true family args.strPrimaryInterface 0 = .ok addrPrimary ∧
        host.resolveAdapterName false family args.strAltInterface 0 = .ok addrAlternate ∧
        addrPrimary.isSameIP addrAlternate = false := by
  constructor
  · intro h
    obtain ⟨_, htwo, h⟩ := bind_eq_ok.mp h
    obtain ⟨primary, hprimary, h⟩ := bind_eq_ok.mp h
    obtain ⟨alternate, halternate, h⟩ := bind_eq_ok.mp h
    obtain ⟨_, hdiffer, h⟩ := bind_eq_ok.mp h
    cases h
    exact ⟨by simpa using chkIf_eq_ok.mp htwo, hprimary, halternate,
      by simpa using chkIf_eq_ok.mp hdiffer⟩
  · rintro ⟨htwo, hprimary, halternate, hdiffer⟩
    exact bind_eq_ok.mpr ⟨(), chkIf_eq_ok.mpr (by simpa using htwo),
      bind_eq_ok.mpr ⟨addrPrimary, hprimary, bind_eq_ok.mpr ⟨addrAlternate, halternate,
      bind_eq_ok.mpr ⟨(), chkIf_eq_ok.mpr (by simpa using hdiffer), rfl⟩⟩⟩⟩

theorem setAddresses_basic (h : args.setAddresses host .basic family portPrimary portAlternate
    config = .ok config') : ∃ addr, config' =
      { config with
        addrPP := addr
        fHasPP := true } := by
  obtain ⟨addr, -, h⟩ := bind_eq_ok.mp h
  cases h
  exact ⟨addr, rfl⟩

theorem setAddresses_full (h : args.setAddresses host .full family portPrimary portAlternate
    config = .ok config') : ∃ addrPrimary addrAlternate : CSocketAddress,
      addrPrimary.isSameIP addrAlternate = false ∧ config' =
      { config with
        addrPP := addrPrimary.setPort portPrimary
        fHasPP := true
        addrPA := addrPrimary.setPort portAlternate
        fHasPA := true
        addrAP := addrAlternate.setPort portPrimary
        fHasAP := true
        addrAA := addrAlternate.setPort portAlternate
        fHasAA := true } := by
  obtain ⟨⟨addrPrimary, addrAlternate⟩, hfull, h⟩ := bind_eq_ok.mp h
  obtain ⟨-, -, -, hdiffer⟩ := fullAddresses_eq_ok.mp hfull
  cases h
  exact ⟨addrPrimary, addrAlternate, hdiffer, rfl⟩

theorem basic_succeeds_iff :
    (∃ config', args.setAddresses host .basic family portPrimary portAlternate config =
      .ok config') ↔
      (args.strPrimaryInterface ≠ [] → ∃ addr,
        host.getSocketAddressForAdapter family args.strPrimaryInterface portPrimary = .ok addr) := by
  have hbound : (∃ config', args.setAddresses host .basic family portPrimary portAlternate config =
      .ok config') ↔ ∃ addr, args.basicAddress host family portPrimary = .ok addr := by
    constructor
    · rintro ⟨config', h⟩
      obtain ⟨addr, haddr, -⟩ := bind_eq_ok.mp h
      exact ⟨addr, haddr⟩
    · rintro ⟨addr, haddr⟩
      exact ⟨_, bind_eq_ok.mpr ⟨addr, haddr, rfl⟩⟩
  rw [hbound, basicAddress]
  simp only [List.length_eq_zero_iff]
  split_ifs with hnil hfamily
  · exact iff_of_true ⟨_, rfl⟩ fun h => absurd hnil h
  · exact iff_of_true ⟨_, rfl⟩ fun h => absurd hnil h
  · exact ⟨fun h _ => h, fun h => h hnil⟩

theorem full_succeeds_iff :
    (∃ config', args.setAddresses host .full family portPrimary portAlternate config =
      .ok config') ↔
      ∃ addrPrimary addrAlternate,
        args.fullAddresses host family = .ok (addrPrimary, addrAlternate) := by
  constructor
  · rintro ⟨config', h⟩
    obtain ⟨⟨addrPrimary, addrAlternate⟩, hfull, -⟩ := bind_eq_ok.mp h
    exact ⟨addrPrimary, addrAlternate, hfull⟩
  · rintro ⟨addrPrimary, addrAlternate, hfull⟩
    exact ⟨_, bind_eq_ok.mpr ⟨(addrPrimary, addrAlternate), hfull, rfl⟩⟩

theorem advertised_eq_ok {psz : List UInt8} {addr : CSocketAddress}
    (hfamily : family = AF_INET ∨ family = AF_INET6) : advertised host family psz = .ok addr ↔
      if cstr psz = [] then addr = .create else host.parseAddress family psz = some addr := by
  have hknown : ¬(family ≠ AF_INET ∧ family ≠ AF_INET6) := by
    rintro ⟨h4, h6⟩
    exact hfamily.elim h4 h6
  simp only [advertised, StringHelper.isNullOrEmpty, decide_eq_true_eq]
  split_ifs with hempty
  · rw [Except.ok.injEq, eq_comm]
  · rw [Host.numericIPToAddress, if_neg hknown]
    cases host.parseAddress family psz with
    | none => exact iff_of_false (fun h => by cases h) (fun h => by cases h)
    | some found => simp only [Except.ok.injEq, Option.some.injEq]

/-! ### All of it -/

/-- The steps behind a configuration. -/
structure Steps (host : Host) (argsIn : StartupArgs) where
  mode : ServerMode
  family : UInt16
  fTCP : Bool
  nMaxConnections : ℤ
  portPrimary : UInt16
  portAlternate : UInt16
  addresses : CStunServerConfig
  addrPrimaryAdvertised : CSocketAddress
  addrAlternateAdvertised : CSocketAddress
  mode_eq : argsIn.normalize.mode = .ok mode
  family_eq : argsIn.normalize.family = .ok family
  fTCP_eq : argsIn.normalize.fTCP = .ok fTCP
  nMaxConnections_eq : argsIn.normalize.nMaxConnections fTCP = .ok nMaxConnections
  ports_eq : argsIn.normalize.ports = .ok (portPrimary, portAlternate)
  addresses_eq : argsIn.normalize.setAddresses host mode family portPrimary portAlternate
    { CStunServerConfig.create with
      fTCP := fTCP
      nMaxConnections := UInt32.ofNat nMaxConnections.toNat } = .ok addresses
  primary_eq : advertised host family argsIn.strPrimaryAdvertised = .ok addrPrimaryAdvertised
  alternate_eq : advertised host family argsIn.strAlternateAdvertised = .ok addrAlternateAdvertised

/-- Where they lead. -/
def Steps.result (s : Steps host args) : CStunServerConfig :=
  { s.addresses with
    addrPrimaryAdvertised := s.addrPrimaryAdvertised
    addrAlternateAdvertised := s.addrAlternateAdvertised
    fEnableDosProtection := args.strDosProtect.length > 0
    fReuseAddr := args.strReuseAddr.length > 0 }

theorem build_ok (h : args.buildServerConfigurationFromArgs host = .ok config) :
    ∃ s : Steps host args, s.result = config := by
  obtain ⟨mode, hmode, h⟩ := bind_eq_ok.mp h
  obtain ⟨family, hfamily, h⟩ := bind_eq_ok.mp h
  obtain ⟨fTCP, hprotocol, h⟩ := bind_eq_ok.mp h
  obtain ⟨nMaxConnections, hmax, h⟩ := bind_eq_ok.mp h
  obtain ⟨⟨portPrimary, portAlternate⟩, hports, h⟩ := bind_eq_ok.mp h
  obtain ⟨addresses, haddresses, h⟩ := bind_eq_ok.mp h
  obtain ⟨addrPrimaryAdvertised, hprimary, h⟩ := bind_eq_ok.mp h
  obtain ⟨_, -, h⟩ := bind_eq_ok.mp h
  obtain ⟨addrAlternateAdvertised, halternate, h⟩ := bind_eq_ok.mp h
  cases h
  exact ⟨⟨mode, family, fTCP, nMaxConnections, portPrimary, portAlternate, addresses,
    addrPrimaryAdvertised, addrAlternateAdvertised, hmode, hfamily, hprotocol, hmax, hports,
    haddresses, hprimary, halternate⟩, rfl⟩

theorem Steps.addresses_of (s : Steps host args) (hmode : s.mode = mode) :
    args.normalize.setAddresses host mode s.family s.portPrimary s.portAlternate
      { CStunServerConfig.create with
        fTCP := s.fTCP
        nMaxConnections := UInt32.ofNat s.nMaxConnections.toNat } = .ok s.addresses := by
  rw [← hmode]
  exact s.addresses_eq

theorem Steps.basicAddresses (s : Steps host args) (hmode : s.mode = .basic) :
    ∃ addr, s.addresses =
      { CStunServerConfig.create with
        fTCP := s.fTCP
        nMaxConnections := UInt32.ofNat s.nMaxConnections.toNat
        addrPP := addr
        fHasPP := true } :=
  setAddresses_basic (s.addresses_of hmode)

/-- There is never an alternate socket without full mode, so that nothing is refused for it. -/
theorem Steps.build_eq (s : Steps host args) :
    args.buildServerConfigurationFromArgs host = .ok s.result := by
  have hrefused : chkIf (StringHelper.isNullOrEmpty args.strAlternateAdvertised = false ∧
      s.mode ≠ .full ∧ s.addresses.fHasAA = true) E_INVALIDARG = .ok () := by
    refine chkIf_eq_ok.mpr ?_
    rintro ⟨-, hmode, haa⟩
    cases hbasic : s.mode with
    | full => exact hmode hbasic
    | basic =>
      obtain ⟨addr, heq⟩ := s.basicAddresses hbasic
      rw [heq] at haa
      cases haa
  exact bind_eq_ok.mpr ⟨s.mode, s.mode_eq, bind_eq_ok.mpr ⟨s.family, s.family_eq,
    bind_eq_ok.mpr ⟨s.fTCP, s.fTCP_eq, bind_eq_ok.mpr ⟨s.nMaxConnections, s.nMaxConnections_eq,
    bind_eq_ok.mpr ⟨(s.portPrimary, s.portAlternate), s.ports_eq,
    bind_eq_ok.mpr ⟨s.addresses, s.addresses_eq,
    bind_eq_ok.mpr ⟨s.addrPrimaryAdvertised, s.primary_eq, bind_eq_ok.mpr ⟨(), hrefused,
    bind_eq_ok.mpr ⟨s.addrAlternateAdvertised, s.alternate_eq, rfl⟩⟩⟩⟩⟩⟩⟩⟩⟩

end StartupArgs
end StunServer
