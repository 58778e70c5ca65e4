import StunServer.Proofs.StartupOptions
import StunServer.Results.Configuration

/-! Whether white space around the options changes the configuration. -/

namespace StunServer

open Bytes

namespace StartupArgs

variable {host : Host} {a b : StartupArgs}

/-! ### What is accepted -/

/-- The port that is asked for, or the default. -/
def portOf (str : List UInt8) (default : ℤ) : ℤ := if str = [] then default else atoi str

def familyOf (a : StartupArgs) : UInt16 := if a.strFamily = chars "6" then AF_INET6 else AF_INET

/-- What options without white space have to be, each on its own and all of them together. -/
structure IsAcceptable (host : Host) (a : StartupArgs) : Prop where
  mode : (StringHelper.toLower a.strMode = [] ∨ StringHelper.toLower a.strMode = chars "basic") ∨
    a.AsksForFull
  family : (a.strFamily = [] ∨ a.strFamily = chars "4") ∨ a.strFamily = chars "6"
  protocol : (StringHelper.toLower a.strProtocol = [] ∨
    StringHelper.toLower a.strProtocol = chars "udp") ∨ a.AsksForTcp
  maxConnections : a.strMaxConnections ≠ [] → a.AsksForTcp →
    1 ≤ atoi a.strMaxConnections ∧ atoi a.strMaxConnections ≤ 100000
  primaryPort : a.strPrimaryPort ≠ [] → 1 ≤ atoi a.strPrimaryPort ∧ atoi a.strPrimaryPort ≤ 0xffff
  altPort : a.strAltPort ≠ [] → 1 ≤ atoi a.strAltPort ∧ atoi a.strAltPort ≤ 0xffff
  ports : portOf a.strPrimaryPort 3478 ≠ portOf a.strAltPort (3478 + 1)
  basic : ¬a.AsksForFull → a.strPrimaryInterface ≠ [] →
    ∃ addr, host.getSocketAddressForAdapter a.familyOf a.strPrimaryInterface 0 = .ok addr
  full : a.AsksForFull → host.hasAtLeastTwoAdapters a.familyOf = true ∧
    ∃ addrPrimary addrAlternate,
      host.resolveAdapterName true a.familyOf a.strPrimaryInterface 0 = .ok addrPrimary ∧
      host.resolveAdapterName false a.familyOf a.strAltInterface 0 = .ok addrAlternate ∧
      addrPrimary.isSameIP addrAlternate = false
  primaryAdvertised : cstr a.strPrimaryAdvertised ≠ [] →
    (host.parseAddress a.familyOf a.strPrimaryAdvertised).isSome = true
  alternateAdvertised : cstr a.strAlternateAdvertised ≠ [] →
    (host.parseAddress a.familyOf a.strAlternateAdvertised).isSome = true

/-- Only the two lower-cased options are not the same in the copy. -/
theorem normalize_clean (h : a.AreClean) : a.normalize =
    { a with
      strMode := StringHelper.toLower a.strMode
      strProtocol := StringHelper.toLower a.strProtocol } := by
  rw [normalize]
  congr 1
  · exact StringHelper.trim_clean (h .mode).toLower
  · exact StringHelper.trim_clean (h .primaryInterface)
  · exact StringHelper.trim_clean (h .altInterface)
  · exact StringHelper.trim_clean (h .primaryPort)
  · exact StringHelper.trim_clean (h .altPort)
  · exact StringHelper.trim_clean (h .primaryAdvertised)
  · exact StringHelper.trim_clean (h .alternateAdvertised)
  · exact StringHelper.trim_clean (h .family)
  · exact StringHelper.trim_clean (h .protocol).toLower

theorem family_clean (h : a.AreClean) {family : UInt16} : a.normalize.family = .ok family ↔
    ((a.strFamily = [] ∨ a.strFamily = chars "4") ∨ a.strFamily = chars "6") ∧
      family = a.familyOf := by
  rw [normalize_clean h, family_eq_ok, familyOf]
  dsimp only
  split_ifs with h6
  · rw [h6, and_iff_right (Or.inr rfl), and_iff_right rfl]
    exact or_iff_right fun hother => absurd hother.1 (by decide)
  · rw [or_iff_left h6, or_iff_left fun hother => h6 hother.1]

theorem ports_clean (h : a.AreClean) {portPrimary portAlternate : UInt16} :
    a.normalize.ports = .ok (portPrimary, portAlternate) ↔
      (portPrimary = UInt16.ofNat (portOf a.strPrimaryPort 3478).toNat ∧
        portAlternate = UInt16.ofNat (portOf a.strAltPort (3478 + 1)).toNat) ∧
      (a.strPrimaryPort ≠ [] → 1 ≤ atoi a.strPrimaryPort ∧ atoi a.strPrimaryPort ≤ 0xffff) ∧
      (a.strAltPort ≠ [] → 1 ≤ atoi a.strAltPort ∧ atoi a.strAltPort ≤ 0xffff) ∧
      portOf a.strPrimaryPort 3478 ≠ portOf a.strAltPort (3478 + 1) := by
  rw [normalize_clean h]
  constructor
  · intro hports
    obtain ⟨nPrimaryPort, hn, hports⟩ := bind_eq_ok.mp hports
    obtain ⟨nAltPort, hm, hports⟩ := bind_eq_ok.mp hports
    obtain ⟨_, hdiffer, hports⟩ := bind_eq_ok.mp hports
    cases hports
    obtain ⟨rfl, hprimary⟩ := port_eq_ok.mp hn
    obtain ⟨rfl, halternate⟩ := port_eq_ok.mp hm
    exact ⟨⟨rfl, rfl⟩, hprimary, halternate, chkIf_eq_ok.mp hdiffer⟩
  · rintro ⟨⟨rfl, rfl⟩, hprimary, halternate, hdiffer⟩
    exact bind_eq_ok.mpr ⟨_, port_eq_ok.mpr ⟨rfl, hprimary⟩, bind_eq_ok.mpr ⟨_,
      port_eq_ok.mpr ⟨rfl, halternate⟩, bind_eq_ok.mpr ⟨(), chkIf_eq_ok.mpr hdiffer, rfl⟩⟩⟩

theorem adapter_any_port {family port : UInt16} {name : List UInt8} :
    (∃ addr, host.getSocketAddressForAdapter family name port = .ok addr) ↔
      ∃ addr, host.getSocketAddressForAdapter family name 0 = .ok addr := by
  have hport : ∀ port' port'' : UInt16,
      (∃ addr, host.getSocketAddressForAdapter family name port' = .ok addr) →
      ∃ addr, host.getSocketAddressForAdapter family name port'' = .ok addr := by
    rintro port' port'' ⟨addr, haddr⟩
    obtain ⟨hname, pList, found, hlist, hfound, -⟩ := Host.getSocketAddressForAdapter_eq_ok.mp haddr
    exact ⟨found.setPort port'', Host.getSocketAddressForAdapter_eq_ok.mpr
      ⟨hname, pList, found, hlist, hfound, rfl⟩⟩
  exact ⟨hport port 0, hport 0 port⟩

theorem advertised_succeeds_iff {family : UInt16} {psz : List UInt8}
    (hfamily : family = AF_INET ∨ family = AF_INET6) :
    (∃ addr, advertised host family psz = .ok addr) ↔
      (cstr psz ≠ [] → (host.parseAddress family psz).isSome = true) := by
  simp only [advertised_eq_ok hfamily]
  split_ifs with hempty
  · exact iff_of_true ⟨_, rfl⟩ fun h => absurd hempty h
  · rw [Option.isSome_iff_exists]
    exact ⟨fun h _ => h, fun h => h hempty⟩

theorem familyOf_known (a : StartupArgs) : a.familyOf = AF_INET ∨ a.familyOf = AF_INET6 := by
  rw [familyOf]
  split_ifs
  · exact Or.inr rfl
  · exact Or.inl rfl

theorem IsAcceptable.addresses (hclean : a.AreClean) (h : a.IsAcceptable host)
    {mode : ServerMode} (hmode : mode = .full ↔ a.AsksForFull) (portPrimary portAlternate : UInt16)
    (config : CStunServerConfig) :
    ∃ config', a.normalize.setAddresses host mode a.familyOf portPrimary portAlternate config =
      .ok config' := by
  rw [normalize_clean hclean]
  cases mode with
  | basic =>
    refine basic_succeeds_iff.mpr fun hname => adapter_any_port.mpr ?_
    exact h.basic (fun hfull => nomatch hmode.mpr hfull) hname
  | full =>
    obtain ⟨htwo, addrPrimary, addrAlternate, hprimary, halternate, hdiffer⟩ :=
      h.full (hmode.mp rfl)
    exact full_succeeds_iff.mpr ⟨addrPrimary, addrAlternate,
      fullAddresses_eq_ok.mpr ⟨htwo, hprimary, halternate, hdiffer⟩⟩

theorem IsAcceptable.steps (hclean : a.AreClean) (h : a.IsAcceptable host) :
    Nonempty (Steps host a) := by
  have hmode : ∃ mode, a.normalize.mode = .ok mode ∧ (mode = .full ↔ a.AsksForFull) := by
    rcases h.mode with hbasic | hfull
    · refine ⟨.basic, mode_eq_ok.mpr (Or.inl ⟨?_, rfl⟩), iff_of_false nofun fun hfull => ?_⟩
      · rw [normalize_strMode hclean]
        exact hbasic
      · rw [AsksForFull] at hfull
        rw [hfull] at hbasic
        exact absurd hbasic (by decide)
    · refine ⟨.full, mode_eq_ok.mpr (Or.inr ⟨?_, rfl⟩), iff_of_true rfl hfull⟩
      rw [normalize_strMode hclean]
      exact hfull
  have hfTCP : ∃ fTCP, a.normalize.fTCP = .ok fTCP ∧ (fTCP = true → a.AsksForTcp) := by
    rcases h.protocol with hudp | htcp
    · refine ⟨false, fTCP_eq_ok.mpr (Or.inl ⟨?_, rfl⟩), nofun⟩
      rw [normalize_strProtocol hclean]
      exact hudp
    · refine ⟨true, fTCP_eq_ok.mpr (Or.inr ⟨?_, rfl⟩), fun _ => htcp⟩
      rw [normalize_strProtocol hclean]
      exact htcp
  obtain ⟨mode, hmode, hfull⟩ := hmode
  obtain ⟨fTCP, hfTCP, htcp⟩ := hfTCP
  have hmax := nMaxConnections_eq_ok.mpr ⟨rfl, fun hne h' => h.maxConnections hne (htcp h')⟩
  have hports := (ports_clean hclean).mpr ⟨⟨rfl, rfl⟩, h.primaryPort, h.altPort, h.ports⟩
  obtain ⟨addresses, haddresses⟩ := h.addresses hclean hfull _ _ _
  obtain ⟨addrPrimaryAdvertised, hprimary⟩ :=
    (advertised_succeeds_iff a.familyOf_known).mpr h.primaryAdvertised
  obtain ⟨addrAlternateAdvertised, halternate⟩ :=
    (advertised_succeeds_iff a.familyOf_known).mpr h.alternateAdvertised
  exact ⟨⟨mode, a.familyOf, fTCP, _, _, _, addresses, addrPrimaryAdvertised,
    addrAlternateAdvertised, hmode, (family_clean hclean).mpr ⟨h.family, rfl⟩, hfTCP, hmax, hports,
    haddresses, hprimary, halternate⟩⟩

theorem Steps.acceptable (hclean : a.AreClean) (s : Steps host a) : a.IsAcceptable host := by
  obtain ⟨hfamily, heq⟩ := (family_clean hclean).mp s.family_eq
  obtain ⟨-, hprimaryPort, haltPort, hports⟩ := (ports_clean hclean).mp s.ports_eq
  have hmode := mode_eq_ok.mp s.mode_eq
  have hprotocol := fTCP_eq_ok.mp s.fTCP_eq
  rw [normalize_strMode hclean] at hmode
  rw [normalize_strProtocol hclean] at hprotocol
  have htcp : a.AsksForTcp → s.fTCP = true := fun h =>
    s.tcp_of_protocol ((normalize_strProtocol hclean).trans h)
  have hprimary := (advertised_succeeds_iff s.family_known).mp ⟨_, s.primary_eq⟩
  have halternate := (advertised_succeeds_iff s.family_known).mp ⟨_, s.alternate_eq⟩
  rw [heq] at hprimary halternate
  refine
    { mode := hmode.imp And.left And.left
      family := hfamily
      protocol := hprotocol.imp And.left And.left
      maxConnections := fun hne h => (nMaxConnections_eq_ok.mp s.nMaxConnections_eq).2 hne (htcp h)
      primaryPort := hprimaryPort
      altPort := haltPort
      ports := hports
      basic := fun hnotFull hname => ?_
      full := fun hfull => ?_
      primaryAdvertised := hprimary
      alternateAdvertised := halternate }
  · have hbasic : s.mode = .basic := (hmode.resolve_right fun h => hnotFull h.1).2
    have hinterface : a.normalize.strPrimaryInterface = a.strPrimaryInterface :=
      StringHelper.trim_clean (hclean .primaryInterface)
    have hadapter := s.basicAdapter hbasic
    rw [hinterface, heq] at hadapter
    exact adapter_any_port.mp (hadapter hname)
  · obtain ⟨addrPrimary, addrAlternate, hboth⟩ :=
      s.fullAddresses (s.full_of_mode ((normalize_strMode hclean).trans hfull))
    rw [normalize_clean hclean, heq] at hboth
    obtain ⟨htwo, hfirst, hsecond, hdiffer⟩ := fullAddresses_eq_ok.mp hboth
    exact ⟨htwo, addrPrimary, addrAlternate, hfirst, hsecond, hdiffer⟩

/-! ### The two runs -/

theorem KeepsSwitches.iff (hpadded : a.ArePadded b) : a.KeepsSwitches b ↔
    decide (b.strDosProtect.length > 0) = decide (a.strDosProtect.length > 0) ∧
      decide (b.strReuseAddr.length > 0) = decide (a.strReuseAddr.length > 0) := by
  have hswitch : ∀ s t : List UInt8, IsPadded s t →
      ((s = [] → t = []) ↔ decide (t.length > 0) = decide (s.length > 0)) := by
    intro s t h
    rw [decide_eq_decide, gt_iff_lt, gt_iff_lt, List.length_pos_iff, List.length_pos_iff]
    exact ⟨fun hnil => not_congr ⟨h.eq_nil, hnil⟩, fun hiff hnil => not_not.mp fun hne =>
      hiff.mp hne hnil⟩
  have hdos := hswitch a.strDosProtect b.strDosProtect (hpadded .dosProtect)
  have hreuse := hswitch a.strReuseAddr b.strReuseAddr (hpadded .reuseAddr)
  exact ⟨fun h => ⟨hdos.mp h.dosProtect, hreuse.mp h.reuseAddr⟩,
    fun h => ⟨hdos.mpr h.1, hreuse.mpr h.2⟩⟩

/-- White space around the options changes nothing just if they are refused without it, too, or if
no empty option that decides is filled with it and no switch is thrown by it, and none of it is
around an address to advertise. -/
theorem whitespace_harmless_iff (hhost : host.KnowsNoWhitespace) (hclean : a.AreClean)
    (hpadded : a.ArePadded b) :
    (b.buildServerConfigurationFromArgs host).toOption =
        (a.buildServerConfigurationFromArgs host).toOption ↔
      ¬a.IsAcceptable host ∨ a.Keeps b ∧ a.KeepsSwitches b := by
  rw [KeepsSwitches.iff hpadded]
  have hkeeps : ∀ config, (b.buildServerConfigurationFromArgs host).toOption = some config →
      a.Keeps b ∧ a.IsAcceptable host := by
    intro config hconfig
    obtain ⟨s, -⟩ := build_ok (toOption_eq_some.mp hconfig)
    have hkept := s.keeps hhost hclean hpadded
    exact ⟨hkept, (s.follow (hkept.sameSteps hclean hpadded).symm).acceptable hclean⟩
  by_cases hacceptable : a.IsAcceptable host
  · obtain ⟨s⟩ := hacceptable.steps hclean
    rw [s.build_eq, or_iff_right (not_not_intro hacceptable)]
    constructor
    · intro heq
      have hkept := (hkeeps _ heq).1
      rw [(s.follow (hkept.sameSteps hclean hpadded)).build_eq] at heq
      have hresult := Option.some.inj heq
      exact ⟨hkept, congrArg CStunServerConfig.fEnableDosProtection hresult,
        congrArg CStunServerConfig.fReuseAddr hresult⟩
    · rintro ⟨hkept, hdos, hreuse⟩
      rw [(s.follow (hkept.sameSteps hclean hpadded)).build_eq]
      change some (Steps.result _) = some (Steps.result _)
      rw [Steps.result, Steps.result, hdos, hreuse]
      rfl
  · refine iff_of_true ?_ (Or.inl hacceptable)
    have hplain : (a.buildServerConfigurationFromArgs host).toOption = none := by
      refine Option.eq_none_iff_forall_ne_some.mpr fun config hconfig => hacceptable ?_
      obtain ⟨s, -⟩ := build_ok (toOption_eq_some.mp hconfig)
      exact s.acceptable hclean
    rw [hplain]
    exact Option.eq_none_iff_forall_ne_some.mpr fun config hconfig =>
      hacceptable (hkeeps config hconfig).2

end StartupArgs

theorem numericHost_knows : numericHost.KnowsNoWhitespace where
  names := by
    rintro pList ⟨⟩ p hp
    cases hp
  ipv4 := by
    intro psz addr haddr
    by_cases hpsz : psz = chars "1.2.3.4"
    · rw [hpsz]
      decide
    · cases (if_neg hpsz).symm.trans haddr
  ipv6 := nofun

/-- `--protocol tcp --primaryport 80`. -/
def tcpArgs : StartupArgs :=
  { emptyArgs with
    strProtocol := chars "tcp"
    strPrimaryPort := chars "80" }

def paddedTcpArgs : StartupArgs :=
  { emptyArgs with
    strProtocol := chars " tcp"
    strPrimaryPort := chars "80 " }

theorem whitespace_harmless_tcp :
    (paddedTcpArgs.buildServerConfigurationFromArgs numericHost).toOption =
      (tcpArgs.buildServerConfigurationFromArgs numericHost).toOption := by
  have hclean : tcpArgs.AreClean := by
    intro option
    cases option
    all_goals decide
  have hpadded : tcpArgs.ArePadded paddedTcpArgs := by
    intro option
    cases option
    case protocol => exact ⟨chars " ", [], by decide, by decide, rfl⟩
    case primaryPort => exact ⟨[], chars " ", by decide, by decide, rfl⟩
    all_goals exact IsPadded.refl []
  refine (StartupArgs.whitespace_harmless_iff numericHost_knows hclean hpadded).mpr
    (Or.inr ⟨?_, ?_⟩)
  · refine ⟨fun option _ hnil => ?_, rfl, rfl⟩
    cases option
    case protocol => cases hnil
    case primaryPort => cases hnil
    all_goals rfl
  · exact ⟨fun _ => rfl, fun _ => rfl⟩

/-- `--mode " "`. -/
def blankMode : StartupArgs := { emptyArgs with strMode := chars " " }

/-- `--primaryadvertised 1.2.3.4`. -/
def advertisedArgs : StartupArgs := { emptyArgs with strPrimaryAdvertised := chars "1.2.3.4" }

def paddedAdvertisedArgs : StartupArgs :=
  { emptyArgs with strPrimaryAdvertised := chars " 1.2.3.4" }

/-- White space in the place of a mode is refused where no mode is the basic one, and the address is
refused for the white space in front of it. -/
theorem whitespace_matters :
    (emptyArgs.AreClean ∧ emptyArgs.ArePadded blankMode ∧
      (emptyArgs.buildServerConfigurationFromArgs numericHost).toOption = some emptyConfig ∧
      (blankMode.buildServerConfigurationFromArgs numericHost).toOption = none) ∧
    advertisedArgs.AreClean ∧ advertisedArgs.ArePadded paddedAdvertisedArgs ∧
      (advertisedArgs.buildServerConfigurationFromArgs numericHost).toOption =
        some { emptyConfig with addrPrimaryAdvertised := .addr4 0 0x04030201 } ∧
      (paddedAdvertisedArgs.buildServerConfigurationFromArgs numericHost).toOption = none := by
  refine ⟨⟨fun option => ?_, fun option => ?_, rfl, rfl⟩,
    fun option => ?_, fun option => ?_, rfl, rfl⟩
  · cases option
    all_goals decide
  · cases option
    case mode => exact ⟨chars " ", [], by decide, by decide, rfl⟩
    all_goals exact IsPadded.refl []
  · cases option
    all_goals decide
  · cases option
    case primaryAdvertised => exact ⟨chars " ", [], by decide, by decide, rfl⟩
    all_goals exact IsPadded.refl []

end StunServer
