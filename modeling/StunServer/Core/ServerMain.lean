import StunServer.Core.NetworkUtils
import StunServer.Core.Server

/-! `server/main.cpp`: from the options, of the command line or of a configuration file, to the
configuration of a server. -/

namespace StunServer

open Bytes

structure StartupArgs where
  strMode : List UInt8
  strPrimaryInterface : List UInt8
  strAltInterface : List UInt8
  strPrimaryPort : List UInt8
  strAltPort : List UInt8
  strPrimaryAdvertised : List UInt8
  strAlternateAdvertised : List UInt8
  strFamily : List UInt8
  strProtocol : List UInt8
  strMaxConnections : List UInt8
  strDosProtect : List UInt8
  strReuseAddr : List UInt8

inductive ServerMode where
  | basic
  | full
deriving DecidableEq, Repr

/-- Without a name it is the best guess. The text for the name that is then made up is not looked
at. -/
def Host.resolveAdapterName (host : Host) (fPrimary : Bool) (family : UInt16)
    (strAdapterName : List UInt8) (port : UInt16) : Except HRESULT CSocketAddress :=
  if strAdapterName.length = 0 then host.getBestAddressForSocketBind fPrimary family port
  else host.getSocketAddressForAdapter family strAdapterName port

namespace StartupArgs

/-- The copy that is worked on. -/
def normalize (argsIn : StartupArgs) : StartupArgs :=
  { argsIn with
    strMode := StringHelper.trim (StringHelper.toLower argsIn.strMode)
    strPrimaryInterface := StringHelper.trim argsIn.strPrimaryInterface
    strAltInterface := StringHelper.trim argsIn.strAltInterface
    strPrimaryPort := StringHelper.trim argsIn.strPrimaryPort
    strAltPort := StringHelper.trim argsIn.strAltPort
    strFamily := StringHelper.trim argsIn.strFamily
    strProtocol := StringHelper.trim (StringHelper.toLower argsIn.strProtocol)
    strPrimaryAdvertised := StringHelper.trim argsIn.strPrimaryAdvertised
    strAlternateAdvertised := StringHelper.trim argsIn.strAlternateAdvertised }

variable (args : StartupArgs)

def mode : Except HRESULT ServerMode :=
  if args.strMode.length = 0 then .ok .basic
  else if args.strMode = chars "basic" then .ok .basic
  else if args.strMode = chars "full" then .ok .full
  else .error E_INVALIDARG

def family : Except HRESULT UInt16 :=
  if args.strFamily.length = 0 then .ok AF_INET
  else if args.strFamily = chars "4" then .ok AF_INET
  else if args.strFamily = chars "6" then .ok AF_INET6
  else .error E_INVALIDARG

def fTCP : Except HRESULT Bool :=
  if args.strProtocol.length = 0 then .ok false
  else if args.strProtocol ≠ chars "udp" ∧ args.strProtocol ≠ chars "tcp" then .error E_INVALIDARG
  else .ok (args.strProtocol = chars "tcp")

/-- Over UDP the number is only logged. -/
def nMaxConnections (fTCP : Bool) : Except HRESULT ℤ :=
  if args.strMaxConnections.length = 0 ∨ fTCP = false then .ok 0
  else StringHelper.validateNumberString args.strMaxConnections 1 100000

/-- A port option, or its default. -/
def port (str : List UInt8) (default : ℤ) : Except HRESULT ℤ :=
  if str.length = 0 then .ok default else StringHelper.validateNumberString str 1 0xffff

/-- The two ports, which have to differ. -/
def ports : Except HRESULT (UInt16 × UInt16) := do
  let nPrimaryPort ← port args.strPrimaryPort 3478
  let nAltPort ← port args.strAltPort (3478 + 1)
  chkIf (nPrimaryPort = nAltPort) E_INVALIDARG
  return (UInt16.ofNat nPrimaryPort.toNat, UInt16.ofNat nAltPort.toNat)

variable (host : Host)

/-- In basic mode all adapters are bound to if none is given. -/
def basicAddress (family port : UInt16) : Except HRESULT CSocketAddress :=
  if args.strPrimaryInterface.length = 0 then
    if family = AF_INET6 then .ok (.addr6 (htons port) (List.Vector.replicate 16 0))
    else .ok (.ofHostOrder 0 port)
  else host.getSocketAddressForAdapter family args.strPrimaryInterface port

/-- In full mode there are two addresses, of different adapters. -/
def fullAddresses (family : UInt16) : Except HRESULT (CSocketAddress × CSocketAddress) := do
  chkIf (host.hasAtLeastTwoAdapters family = false) E_UNEXPECTED
  let addrPrimary ← host.resolveAdapterName true family args.strPrimaryInterface 0
  let addrAlternate ← host.resolveAdapterName false family args.strAltInterface 0
  chkIf (addrPrimary.isSameIP addrAlternate = true) E_INVALIDARG
  return (addrPrimary, addrAlternate)

/-- The adapters and the roles. -/
def setAddresses (mode : ServerMode) (family portPrimary portAlternate : UInt16)
    (config : CStunServerConfig) : Except HRESULT CStunServerConfig :=
  match mode with
  | .basic => do
    let addr ← args.basicAddress host family portPrimary
    return { config with
      addrPP := addr
      fHasPP := true }
  | .full => do
    let (addrPrimary, addrAlternate) ← args.fullAddresses host family
    return { config with
      addrPP := addrPrimary.setPort portPrimary
      fHasPP := true
      addrPA := addrPrimary.setPort portAlternate
      fHasPA := true
      addrAP := addrAlternate.setPort portPrimary
      fHasAP := true
      addrAA := addrAlternate.setPort portAlternate
      fHasAA := true }

/-- An address to advertise, if there is one. -/
def advertised (family : UInt16) (psz : List UInt8) : Except HRESULT CSocketAddress :=
  if StringHelper.isNullOrEmpty psz then .ok .create else host.numericIPToAddress family psz

/-- The pointers to the advertised addresses were taken before the trimming, and the two switches
are those of the caller, too. -/
def buildServerConfigurationFromArgs (argsIn : StartupArgs) : Except HRESULT CStunServerConfig := do
  let pszPrimaryAdvertised := argsIn.strPrimaryAdvertised
  let pszAltAdvertised := argsIn.strAlternateAdvertised
  let args := argsIn.normalize
  let mode ← args.mode
  let family ← args.family
  let fTCP ← args.fTCP
  let nMaxConnections ← args.nMaxConnections fTCP
  let (portPrimary, portAlternate) ← args.ports
  let config ← args.setAddresses host mode family portPrimary portAlternate
    { CStunServerConfig.create with
      fTCP := fTCP
      nMaxConnections := UInt32.ofNat nMaxConnections.toNat }
  let addrPrimaryAdvertised ← advertised host family pszPrimaryAdvertised
  -- an alternate address is refused if there are alternate sockets without full mode
  chkIf (StringHelper.isNullOrEmpty pszAltAdvertised = false ∧ mode ≠ .full ∧
    config.fHasAA = true) E_INVALIDARG
  let addrAlternateAdvertised ← advertised host family pszAltAdvertised
  return { config with
    addrPrimaryAdvertised := addrPrimaryAdvertised
    addrAlternateAdvertised := addrAlternateAdvertised
    fEnableDosProtection := argsIn.strDosProtect.length > 0
    fReuseAddr := argsIn.strReuseAddr.length > 0 }

end StartupArgs
end StunServer
