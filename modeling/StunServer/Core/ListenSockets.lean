import StunServer.Core.Polling
import StunServer.Core.TcpServer

/-! The listening sockets of `CTCPStunThread` on the polling instance itself, where any call of
`epoll_ctl` may fail. -/

namespace StunServer.Polling

def EPOLL_LISTEN_SOCKET_EVENT_SET : UInt32 := IPOLLING_READ

/-- The members of `CTCPStunThread` that `SetListenSocketsOnEpoll` is about. -/
structure ListenSockets where
  spPolling : CEpoll
  fListenSocketsOnEpoll : Bool
  /-- -1 for a role that is not listened on. -/
  socketTable : SocketRole → Int

namespace ListenSockets

/-- `Add` or `Remove`. -/
def setListenSocket (fEnable : Bool) (sock : Int) (ctl : EpollCtl) : Hr ListenSockets Unit :=
  Hr.on spPolling (fun s poll => { s with spPolling := poll })
    (if fEnable then CEpoll.add sock EPOLL_LISTEN_SOCKET_EVENT_SET ctl
      else CEpoll.remove sock ctl)

/-- The loop of `SetListenSocketsOnEpoll`, with what `epoll_ctl` has against each of the calls. -/
def setListenSockets (fEnable : Bool) (ctl : SocketRole → EpollCtl) :
    List SocketRole → Hr ListenSockets Unit
  | [] => pure ()
  | role :: roles => do
    let sock := (← get).socketTable role
    if sock = -1 then setListenSockets fEnable ctl roles
    else do
      setListenSocket fEnable sock (ctl role)
      setListenSockets fEnable ctl roles

def setListenSocketsOnEpoll (fEnable : Bool) (ctl : SocketRole → EpollCtl) :
    Hr ListenSockets Unit := do
  if fEnable ≠ (← get).fListenSocketsOnEpoll then
    setListenSockets fEnable ctl CTCPStunThread.roles
    modify fun s => { s with fListenSocketsOnEpoll := fEnable }

end ListenSockets

end StunServer.Polling
