import StunServer.Proofs.ServerMain

/-! White space around the options: what it does to each step. -/

namespace StunServer

open Bytes

/-- No adapter has white space in its name, and no address is written with any. -/
structure Host.KnowsNoWhitespace (host : Host) : Prop where
  names : ∀ pList, host.getifaddrs = .ok pList → ∀ p ∈ pList, ∀ name ∈ p.ifa_name,
    IsClean (cstr name)
  ipv4 : ∀ psz addr, host.inet_pton4 psz = some addr → IsClean psz
  ipv6 : ∀ psz addr, host.inet_pton6 psz = some addr → IsClean psz

namespace Host

variable {host : Host} {family port : UInt16} {name : List UInt8} {addr : CSocketAddress}

theorem KnowsNoWhitespace.address (hhost : host.KnowsNoWhitespace)
    (h : host.parseAddress family name = some addr) : IsClean (cstr name) := by
  rw [parseAddress] at h
  split_ifs at h
  · obtain ⟨bytes, hbytes, -⟩ := Option.map_eq_some_iff.mp h
    exact hhost.ipv4 _ _ hbytes
  · obtain ⟨bytes, hbytes, -⟩ := Option.map_eq_some_iff.mp h
    exact hhost.ipv6 _ _ hbytes

theorem KnowsNoWhitespace.adapter (hhost : host.KnowsNoWhitespace)
    (h : host.getSocketAddressForAdapter family name port = .ok addr) : IsClean (cstr name) := by
  obtain ⟨-, pList, found, hlist, hfound, -⟩ := getSocketAddressForAdapter_eq_ok.mp h
  obtain ⟨p, hp, -⟩ := Option.bind_eq_some_iff.mp hfound
  rcases Option.or_eq_some_iff.mp hp with hnamed | ⟨-, hspelled⟩
  · have hmem := List.mem_of_find?_eq_some hnamed
    have hname := List.find?_some hnamed
    obtain ⟨-, hsome⟩ := Bool.and_eq_true_iff.mp hname
    obtain ⟨name', hname', heq⟩ := (Option.any_eq_true _ _).mp hsome
    rw [← of_decide_eq_true heq]
    exact hhost.names pList hlist p hmem name' hname'
  · obtain ⟨addr', haddr', -⟩ := Option.bind_eq_some_iff.mp hspelled
    exact hhost.address haddr'

end Host

/-- The options that are strings to this program. -/
inductive StartupOption where
  | mode
  | primaryInterface
  | altInterface
  | primaryPort
  | altPort
  | primaryAdvertised
  | alternateAdvertised
  | family
  | protocol
  | maxConnections
  | dosProtect
  | reuseAddr

namespace StartupArgs

variable {host : Host} {a b : StartupArgs}

def get (args : StartupArgs) : StartupOption → List UInt8
  | .mode => args.strMode
  | .primaryInterface => args.strPrimaryInterface
  | .altInterface => args.strAltInterface
  | .primaryPort => args.strPrimaryPort
  | .altPort => args.strAltPort
  | .primaryAdvertised => args.strPrimaryAdvertised
  | .alternateAdvertised => args.strAlternateAdvertised
  | .family => args.strFamily
  | .protocol => args.strProtocol
  | .maxConnections => args.strMaxConnections
  | .dosProtect => args.strDosProtect
  | .reuseAddr => args.strReuseAddr

def AreClean (a : StartupArgs) : Prop := ∀ option, IsClean (a.get option)

/-- White space added around any of the options. -/
def ArePadded (a b : StartupArgs) : Prop := ∀ option, IsPadded (a.get option) (b.get option)

def AsksForFull (a : StartupArgs) : Prop := StringHelper.toLower a.strMode = chars "full"

def AsksForTcp (a : StartupArgs) : Prop := StringHelper.toLower a.strProtocol = chars "tcp"

/-- The options that decide on whether there is a configuration. The second adapter does so in full
mode only, and the limit over TCP only. -/
def Decides (a : StartupArgs) : StartupOption → Prop
  | .altInterface => a.AsksForFull
  | .maxConnections => a.AsksForTcp
  | .dosProtect | .reuseAddr => False
  | _ => True

/-- What trimming does not undo is avoided: an empty option stays empty, and the addresses to
advertise are the same up to their terminators. -/
structure Keeps (a b : StartupArgs) : Prop where
  empty : ∀ option, a.Decides option → a.get option = [] → b.get option = []
  primary : cstr b.strPrimaryAdvertised = cstr a.strPrimaryAdvertised
  alternate : cstr b.strAlternateAdvertised = cstr a.strAlternateAdvertised

structure KeepsSwitches (a b : StartupArgs) : Prop where
  dosProtect : a.strDosProtect = [] → b.strDosProtect = []
  reuseAddr : a.strReuseAddr = [] → b.strReuseAddr = []

/-! ### What is made of the copy -/

theorem trim_eq_trim {s t : List UInt8} (hs : IsClean s) (h : IsPadded s t)
    (hempty : s = [] → t = []) : StringHelper.trim t = StringHelper.trim s := by
  rw [StringHelper.trim_padded hs h, StringHelper.trim_clean hs]
  split_ifs with hnil
  · rw [hempty hnil, hnil]
  · rfl

/-- Each step of the two runs is the same, as far as it is reached. -/
structure SameSteps (host : Host) (a b : StartupArgs) : Prop where
  mode : b.normalize.mode = a.normalize.mode
  family : b.normalize.family = a.normalize.family
  fTCP : b.normalize.fTCP = a.normalize.fTCP
  nMaxConnections : ∀ fTCP, a.normalize.fTCP = .ok fTCP →
    b.normalize.nMaxConnections fTCP = a.normalize.nMaxConnections fTCP
  ports : b.normalize.ports = a.normalize.ports
  addresses : ∀ mode, a.normalize.mode = .ok mode → ∀ family portPrimary portAlternate config,
    b.normalize.setAddresses host mode family portPrimary portAlternate config =
      a.normalize.setAddresses host mode family portPrimary portAlternate config
  primary : ∀ family, advertised host family b.strPrimaryAdvertised =
    advertised host family a.strPrimaryAdvertised
  alternate : ∀ family, advertised host family b.strAlternateAdvertised =
    advertised host family a.strAlternateAdvertised

theorem SameSteps.symm (h : SameSteps host a b) : SameSteps host b a where
  mode := h.mode.symm
  family := h.family.symm
  fTCP := h.fTCP.symm
  nMaxConnections := fun fTCP hfTCP => (h.nMaxConnections fTCP (h.fTCP ▸ hfTCP)).symm
  ports := h.ports.symm
  addresses := fun mode hmode _ _ _ _ => (h.addresses mode (h.mode ▸ hmode) _ _ _ _).symm
  primary := fun family => (h.primary family).symm
  alternate := fun family => (h.alternate family).symm

def Steps.follow (s : Steps host a) (h : SameSteps host a b) : Steps host b :=
  { s with
    mode_eq := h.mode.trans s.mode_eq
    family_eq := h.family.trans s.family_eq
    fTCP_eq := h.fTCP.trans s.fTCP_eq
    nMaxConnections_eq := (h.nMaxConnections _ s.fTCP_eq).trans s.nMaxConnections_eq
    ports_eq := h.ports.trans s.ports_eq
    addresses_eq := (h.addresses _ s.mode_eq _ _ _ _).trans s.addresses_eq
    primary_eq := (h.primary _).trans s.primary_eq
    alternate_eq := (h.alternate _).trans s.alternate_eq }

theorem normalize_strMode (h : a.AreClean) : a.normalize.strMode = StringHelper.toLower a.strMode :=
  StringHelper.trim_clean (h .mode).toLower

theorem normalize_strProtocol (h : a.AreClean) :
    a.normalize.strProtocol = StringHelper.toLower a.strProtocol :=
  StringHelper.trim_clean (h .protocol).toLower

theorem advertised_congr {s t : List UInt8} (h : cstr t = cstr s) (family : UInt16) :
    advertised host family t = advertised host family s := by
  rw [advertised, advertised, StringHelper.isNullOrEmpty, StringHelper.isNullOrEmpty,
    Host.numericIPToAddress, Host.numericIPToAddress, Host.parseAddress, Host.parseAddress, h]

theorem nMaxConnections_congr (hclean : a.AreClean) (hpadded : a.ArePadded b) {fTCP : Bool}
    (hempty : fTCP = true → a.strMaxConnections = [] → b.strMaxConnections = []) :
    b.normalize.nMaxConnections fTCP = a.normalize.nMaxConnections fTCP := by
  cases fTCP with
  | false => rw [nMaxConnections, nMaxConnections, if_pos (Or.inr rfl), if_pos (Or.inr rfl)]
  | true =>
    have hvalue : atoi b.normalize.strMaxConnections = atoi a.normalize.strMaxConnections :=
      atoi_padded (hclean .maxConnections) (hpadded .maxConnections)
    have hnil : b.normalize.strMaxConnections = [] ↔ a.normalize.strMaxConnections = [] :=
      ⟨(hpadded .maxConnections).eq_nil, hempty rfl⟩
    simp only [nMaxConnections, List.length_eq_zero_iff, hnil,
      StringHelper.validateNumberString_pos (by decide : (0 : ℤ) < 1), hvalue]

theorem Keeps.sameSteps (hclean : a.AreClean) (hpadded : a.ArePadded b) (h : a.Keeps b) :
    SameSteps host a b := by
  have htrim : ∀ option, a.Decides option →
      StringHelper.trim (b.get option) = StringHelper.trim (a.get option) := fun option hdecides =>
    trim_eq_trim (hclean option) (hpadded option) (h.empty option hdecides)
  have hmode : b.normalize.strMode = a.normalize.strMode :=
    trim_eq_trim (hclean .mode).toLower (hpadded .mode).toLower fun hnil =>
      toLower_eq_nil.mpr (h.empty .mode trivial (toLower_eq_nil.mp hnil))
  have hprotocol : b.normalize.strProtocol = a.normalize.strProtocol :=
    trim_eq_trim (hclean .protocol).toLower (hpadded .protocol).toLower fun hnil =>
      toLower_eq_nil.mpr (h.empty .protocol trivial (toLower_eq_nil.mp hnil))
  have hfamily : b.normalize.strFamily = a.normalize.strFamily := htrim .family trivial
  have hinterface : b.normalize.strPrimaryInterface = a.normalize.strPrimaryInterface :=
    htrim .primaryInterface trivial
  have hprimary : b.normalize.strPrimaryPort = a.normalize.strPrimaryPort :=
    htrim .primaryPort trivial
  have halternate : b.normalize.strAltPort = a.normalize.strAltPort := htrim .altPort trivial
  refine
    { mode := by rw [mode, mode, hmode]
      family := by rw [family, family, hfamily]
      fTCP := by rw [fTCP, fTCP, hprotocol]
      nMaxConnections := fun fTCP hfTCP => nMaxConnections_congr hclean hpadded ?_
      ports := by rw [ports, ports, hprimary, halternate]
      addresses := ?_
      primary := advertised_congr h.primary
      alternate := advertised_congr h.alternate }
  · rintro rfl
    obtain ⟨-, hfTCP⟩ | ⟨htcp, -⟩ := fTCP_eq_ok.mp hfTCP
    · cases hfTCP
    · rw [normalize_strProtocol hclean] at htcp
      exact h.empty .maxConnections htcp
  · intro mode hmode' family portPrimary portAlternate config
    cases mode with
    | basic => rw [setAddresses, setAddresses, basicAddress, basicAddress, hinterface]
    | full =>
      obtain ⟨-, hmode'⟩ | ⟨hfull, -⟩ := mode_eq_ok.mp hmode'
      · cases hmode'
      · rw [normalize_strMode hclean] at hfull
        have hsecond : b.normalize.strAltInterface = a.normalize.strAltInterface :=
          htrim .altInterface hfull
        rw [setAddresses, setAddresses, fullAddresses, fullAddresses, hinterface, hsecond]

/-! ### What is refused -/

theorem choice_blank {str first second : List UInt8} {p q : Prop} (hblank : IsBlank str)
    (hfirst : ¬IsBlank first) (hsecond : ¬IsBlank second)
    (h : (str = [] ∨ str = first) ∧ p ∨ str = second ∧ q) : str = [] := by
  rcases h with ⟨h | rfl, -⟩ | ⟨rfl, -⟩
  · exact h
  · exact absurd hblank hfirst
  · exact absurd hblank hsecond

theorem port_blank {str : List UInt8} {default n : ℤ} (hblank : IsBlank str)
    (h : port str default = .ok n) : str = [] := by
  by_contra hne
  have hmin := ((port_eq_ok.mp h).2 hne).1
  rw [atoi_blank hblank] at hmin
  omega

theorem adapter_blank (hhost : host.KnowsNoWhitespace) {family port : UInt16} {name : List UInt8}
    {addr : CSocketAddress} (hblank : IsBlank name)
    (h : host.getSocketAddressForAdapter family name port = .ok addr) : name = [] := by
  have hname := hhost.adapter h
  rw [hblank.cstr] at hname
  exact hblank.eq_nil hname

theorem resolve_blank (hhost : host.KnowsNoWhitespace) {fPrimary : Bool} {family port : UInt16}
    {name : List UInt8} {addr : CSocketAddress} (hblank : IsBlank name)
    (h : host.resolveAdapterName fPrimary family name port = .ok addr) : name = [] := by
  rw [Host.resolveAdapterName] at h
  split_ifs at h with hnil
  · exact List.length_eq_zero_iff.mp hnil
  · exact adapter_blank hhost hblank h

theorem advertised_padded (hhost : host.KnowsNoWhitespace) {family : UInt16} {s t : List UInt8}
    {addr : CSocketAddress} (hpadded : IsPadded s t)
    (hfamily : family = AF_INET ∨ family = AF_INET6) (h : advertised host family t = .ok addr) :
    cstr t = cstr s := by
  rcases cstr_padded hpadded with heq | ⟨ch, hch, hspace⟩
  · exact heq
  · have haddr := (advertised_eq_ok hfamily).mp h
    rw [if_neg (List.ne_nil_of_mem hch)] at haddr
    rw [hhost.address haddr ch hch] at hspace
    cases hspace

/-- White space around a name is cut off. -/
theorem trim_toLower {s t word : List UInt8} (hs : IsClean s) (h : IsPadded s t)
    (hword : StringHelper.toLower s = word) (hne : word ≠ []) :
    StringHelper.trim (StringHelper.toLower t) = word := by
  rw [StringHelper.trim_padded hs.toLower h.toLower, hword, if_neg hne]

namespace Steps

theorem family_known (s : Steps host a) : s.family = AF_INET ∨ s.family = AF_INET6 := by
  rcases family_eq_ok.mp s.family_eq with ⟨-, h⟩ | ⟨-, h⟩
  · exact Or.inl h
  · exact Or.inr h

theorem full_of_mode (s : Steps host a) (h : a.normalize.strMode = chars "full") :
    s.mode = .full := by
  rcases mode_eq_ok.mp s.mode_eq with ⟨h' | h', -⟩ | ⟨-, hfull⟩
  · exact absurd (h.symm.trans h') (by decide)
  · exact absurd (h.symm.trans h') (by decide)
  · exact hfull

theorem tcp_of_protocol (s : Steps host a) (h : a.normalize.strProtocol = chars "tcp") :
    s.fTCP = true := by
  rcases fTCP_eq_ok.mp s.fTCP_eq with ⟨h' | h', -⟩ | ⟨-, htcp⟩
  · exact absurd (h.symm.trans h') (by decide)
  · exact absurd (h.symm.trans h') (by decide)
  · exact htcp

theorem basicAdapter (s : Steps host a) (hmode : s.mode = .basic)
    (hname : a.normalize.strPrimaryInterface ≠ []) :
    ∃ addr, host.getSocketAddressForAdapter s.family a.normalize.strPrimaryInterface s.portPrimary =
      .ok addr :=
  basic_succeeds_iff.mp ⟨_, s.addresses_of hmode⟩ hname

theorem fullAddresses (s : Steps host a) (hmode : s.mode = .full) :
    ∃ addrPrimary addrAlternate,
      a.normalize.fullAddresses host s.family = .ok (addrPrimary, addrAlternate) :=
  full_succeeds_iff.mp ⟨_, s.addresses_of hmode⟩

theorem primaryInterface_blank (hhost : host.KnowsNoWhitespace) (s : Steps host a)
    (hblank : IsBlank a.normalize.strPrimaryInterface) : a.normalize.strPrimaryInterface = [] := by
  cases hmode : s.mode with
  | basic =>
    by_contra hne
    obtain ⟨addr, haddr⟩ := s.basicAdapter hmode hne
    exact hne (adapter_blank hhost hblank haddr)
  | full =>
    obtain ⟨addrPrimary, addrAlternate, hfull⟩ := s.fullAddresses hmode
    obtain ⟨-, hprimary, -⟩ := fullAddresses_eq_ok.mp hfull
    exact resolve_blank hhost hblank hprimary

theorem altInterface_blank (hhost : host.KnowsNoWhitespace) (s : Steps host a)
    (hmode : s.mode = .full) (hblank : IsBlank a.normalize.strAltInterface) :
    a.normalize.strAltInterface = [] := by
  obtain ⟨addrPrimary, addrAlternate, hfull⟩ := s.fullAddresses hmode
  obtain ⟨-, -, halternate, -⟩ := fullAddresses_eq_ok.mp hfull
  exact resolve_blank hhost hblank halternate

theorem maxConnections_blank (s : Steps host a) (htcp : s.fTCP = true)
    (hblank : IsBlank a.strMaxConnections) : a.strMaxConnections = [] := by
  by_contra hne
  have hmin : 1 ≤ atoi a.strMaxConnections :=
    ((nMaxConnections_eq_ok.mp s.nMaxConnections_eq).2 hne htcp).1
  rw [atoi_blank hblank] at hmin
  omega

/-- White space in the place of an option is refused, and so is any around an address. -/
theorem keeps (hhost : host.KnowsNoWhitespace) (hclean : a.AreClean) (hpadded : a.ArePadded b)
    (s : Steps host b) : a.Keeps b := by
  have hprimary : cstr b.strPrimaryAdvertised = cstr a.strPrimaryAdvertised :=
    advertised_padded hhost (hpadded .primaryAdvertised) s.family_known s.primary_eq
  have halternate : cstr b.strAlternateAdvertised = cstr a.strAlternateAdvertised :=
    advertised_padded hhost (hpadded .alternateAdvertised) s.family_known s.alternate_eq
  refine ⟨fun option hdecides hnil => ?_, hprimary, halternate⟩
  have hblank : IsBlank (b.get option) := by
    have hadded := hpadded option
    rw [hnil] at hadded
    exact hadded.blank_of_nil
  have htrim : StringHelper.trim (b.get option) = b.get option := StringHelper.trim_blank hblank
  have hlower : StringHelper.trim (StringHelper.toLower (b.get option)) =
      StringHelper.toLower (b.get option) := StringHelper.trim_blank hblank.toLower
  cases option with
  | mode =>
    have hmode := mode_eq_ok.mp s.mode_eq
    rw [show b.normalize.strMode = _ from hlower] at hmode
    exact toLower_eq_nil.mp (choice_blank hblank.toLower (by decide) (by decide) hmode)
  | family =>
    have hfamily := family_eq_ok.mp s.family_eq
    rw [show b.normalize.strFamily = _ from htrim] at hfamily
    exact choice_blank hblank (by decide) (by decide) hfamily
  | protocol =>
    have hprotocol := fTCP_eq_ok.mp s.fTCP_eq
    rw [show b.normalize.strProtocol = _ from hlower] at hprotocol
    exact toLower_eq_nil.mp (choice_blank hblank.toLower (by decide) (by decide) hprotocol)
  | maxConnections =>
    have htcp := s.tcp_of_protocol
      (trim_toLower (hclean .protocol) (hpadded .protocol) hdecides (by decide))
    exact s.maxConnections_blank htcp hblank
  | primaryPort =>
    obtain ⟨nPrimaryPort, hport, -⟩ := bind_eq_ok.mp s.ports_eq
    rw [show b.normalize.strPrimaryPort = _ from htrim] at hport
    exact port_blank hblank hport
  | altPort =>
    obtain ⟨_, -, hports⟩ := bind_eq_ok.mp s.ports_eq
    obtain ⟨nAltPort, hport, -⟩ := bind_eq_ok.mp hports
    rw [show b.normalize.strAltPort = _ from htrim] at hport
    exact port_blank hblank hport
  | primaryInterface =>
    rw [← htrim] at hblank ⊢
    exact s.primaryInterface_blank hhost hblank
  | altInterface =>
    rw [← htrim] at hblank ⊢
    have hfull := s.full_of_mode
      (trim_toLower (hclean .mode) (hpadded .mode) hdecides (by decide))
    exact s.altInterface_blank hhost hfull hblank
  | primaryAdvertised =>
    rw [show a.strPrimaryAdvertised = _ from hnil] at hprimary
    exact hblank.cstr.symm.trans hprimary
  | alternateAdvertised =>
    rw [show a.strAlternateAdvertised = _ from hnil] at halternate
    exact hblank.cstr.symm.trans halternate
  | dosProtect | reuseAddr => exact hdecides.elim

end Steps

end StartupArgs
end StunServer
