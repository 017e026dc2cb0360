import Spacetest.Spacer
import Spacetest.Service

/-!
# The client side of an exchange

A test asks the broker for namespaces through a `Client`: `Client.do` sends the request and
decodes the answer `Serve` sends back, putting the attached descriptors into the response.

* `Spacemaker.spacer`: `Spacemaker` as the `Spacer` that `Serve` dispatches to;
* `namespaces.ifrequested`, `Client.roomsRequest`: the request `Client.Rooms` builds;
* `Client.do`, `Client.rooms`: receive with capacity 3 under the client's descriptor limit,
  decode, fail on an `ErrorResponse`, and `DecodeFds` the received descriptors into the decoded
  response;
* `roomsExchange`: one `Client.Rooms` call against a broker running `Serve`, whose encode and
  send succeed or fail.
  `rooms_keeps_broker_numbers` runs it for all six flat types on `linuxAmd64`.
-/

namespace Spacetest

/-- `Spacemaker` as a `service.Spacer`, over the broker's process: `Room` with the kernel's
answers `newNamespace`, closing what it closes, and `Subspace` with the outcomes `os` of its
operations. -/
def Spacemaker.spacer (newNamespace : NsType → Except String Int) (os : SubspaceOs) :
    Spacer Proc where
  subspace req p := Spacemaker.subspace os req p
  room req p := some (.ret (Spacemaker.room newNamespace req).resp,
    p.closeAll (Spacemaker.room newNamespace req).closed)

/-- `namespaces.ifrequested`: add `flag` when `b` asks for it. -/
def namespaces.ifrequested (n : UInt64) (b : Bool) (flag : UInt64) : UInt64 :=
  if b then n ||| flag else n

/-- The request `Client.Rooms` sends for its six flags. -/
def Client.roomsRequest (cgroup ipc mnt net time uts : Bool) : RoomsRequest :=
  ⟨namespaces.ifrequested (namespaces.ifrequested (namespaces.ifrequested
    (namespaces.ifrequested (namespaces.ifrequested (namespaces.ifrequested 0
      cgroup NsType.cgroup.flag) ipc NsType.ipc.flag) mnt NsType.mnt.flag) net NsType.net.flag)
      time NsType.time.flag) uts NsType.uts.flag⟩

/-- The receiving half of `Client.do` for the message `m`, in a client whose descriptor limit is
`nofile`: `ReceiveWithFds` with capacity 3, decode the payload, fail the test on an
`ErrorResponse`, and `DecodeFds` the received descriptors into the decoded response. Returns the
response and the client's table, from which `DecodeFds` closed the descriptors it has no field
for. -/
def Client.do (pl : Platform) (nofile : Nat) (T : FdTable) (name : String) (m : Msg Response) :
    Outcome (Response × FdTable) :=
  let (payload, fds, T') := receiveWithFds pl nofile T 3 m
  match payload with
  | .error _ => .panic (name ++ " service failed")
  | .rooms r =>
    let (r', closed) := r.decodeFds T'.nstype fds
    .ret (.rooms r', closed.foldl FdTable.close T')
  | .subspace r =>
    match r.decodeFds T'.nstype fds with
    | .ret (r', closed) => .ret (.subspace r', closed.foldl FdTable.close T')
    | .panic msg => .panic msg

/-- The receiving half of `Client.Rooms`: `do[*api.RoomsResponse]`. -/
def Client.rooms (pl : Platform) (nofile : Nat) (T : FdTable) (m : Msg Response) :
    Outcome (RoomsResponse × FdTable) :=
  match Client.do pl nofile T "rooms" m with
  | .ret (.rooms r, T') => .ret (r, T')
  | .ret _ => .panic "not a rooms response"
  | .panic msg => .panic msg

/-- The first send attempt among a round's events: payload, descriptors and outcome. -/
def firstSend (evs : List ServeEvent) : Option (Response × List Int × Bool) :=
  evs.findSome? fun
    | .send p fds ok => some (p, fds, ok)
    | _ => none

/-- One `Client.Rooms` call with the client's table `client` and descriptor limit `nofile`,
against a broker whose `Serve` dispatches to `sp` from the process `broker`, and whose
`enc.Encode` and `SendWithFds` succeed as `encodes` and `sends` say: the request reaches
`Serve`, which answers in one round, and the client receives what that round's send put on the
wire, taking the attached objects from the broker's table as the Spacer left it. `none` when
`Serve` sent nothing. -/
def roomsExchange (pl : Platform) (nofile : Nat) (sp : Spacer Proc) (broker : Proc)
    (client : FdTable) (encodes sends : Bool) (req : RoomsRequest) :
    Option (Outcome (RoomsResponse × FdTable)) :=
  match serve sp [.request (.rooms req) encodes sends] broker with
  | ([evs], .ret (some p)) =>
    (firstSend evs).bind fun (payload, fds, ok) =>
      (sendWithFds p.table ok payload fds).map (Client.rooms pl nofile client)
  | _ => none

/-- A broker with a namespace of each flat type open, at descriptors 10 to 15. -/
def brokerProc : Proc :=
  ⟨⟨[(15, .ns .uts 6), (14, .ns .time 5), (13, .ns .net 4), (12, .ns .mnt 3), (11, .ns .ipc 2),
    (10, .ns .cgroup 1), (3, .sock 0), (2, .file 2), (1, .file 1), (0, .file 0)]⟩, []⟩

/-- `newNamespace` handing out the broker's namespaces. -/
def brokerNamespaces : NsType → Except String Int
  | .cgroup => .ok 10
  | .ipc => .ok 11
  | .mnt => .ok 12
  | .net => .ok 13
  | .time => .ok 14
  | .uts => .ok 15
  | _ => .error "invalid argument"

/-- A client with its standard descriptors and its connection to the broker open. -/
def clientTable : FdTable := ⟨[(3, .sock 1), (2, .file 2), (1, .file 1), (0, .file 0)]⟩

/-- Asked for all six flat types on 64-bit Linux, with the usual limit of 1024 descriptors, the
client receives four descriptors (4 to 7, for `Cgroup`, `IPC`, `Mnt` and `Net`); `Time` and
`UTS` keep the broker's numbers 14 and 15, which are not open in the client. -/
theorem rooms_keeps_broker_numbers :
    roomsExchange linuxAmd64 1024 (Spacemaker.spacer brokerNamespaces {}) brokerProc clientTable
        true true (Client.roomsRequest true true true true true true) =
      some (.ret ({ cgroup := 4, ipc := 5, mnt := 6, net := 7, time := 14, uts := 15 },
        ⟨[(7, .ns .net 4), (6, .ns .mnt 3), (5, .ns .ipc 2), (4, .ns .cgroup 1)] ++
          clientTable.entries⟩)) := by
  decide

end Spacetest
