import Spacetest.Broker

/-!
# The client's calls and their cleanups

`Client.Rooms` runs the rooms exchange and queues a `DeferCleanup` that, when the test node
ends, closes every positive field of the response. `Client.NewTransient` is `Client.Rooms` for a
single type.

* `Client.roomsCleanup`, `roomsNode`: the descriptors that cleanup closes, and a test node
  calling `Client.Rooms` once;
* `mem_roomsCleanup_of_open`: of the client's own descriptors, the cleanup closes those whose
  number is a positive field sent beyond the ones received, which the response still holds;
* **`roomsNode_cleanup`**: for every Spacer answering with namespace descriptors, the node
  closes every positive descriptor the exchange opened, never one received as descriptor 0
  (the `> 0` guard skips it), and closes each descriptor of the client whose number is the
  broker's number of a field sent beyond what the capacity and the client's descriptor limit
  let it receive;
* `beInvalid`, `newTransientType`, `newTransientRequest`, `Client.newTransient`;
* **`newTransient_spacemaker`**: against a `Spacemaker` broker a flat type gets a descriptor new
  in the client for the namespace the broker opened (for time, its own), and any other type gets
  -1 and no failure, since `beInvalid` matches every type.
-/

namespace Spacetest

/-! ## `Client.Rooms` and its cleanup -/

/-- The descriptors the `DeferCleanup` of `Client.Rooms` closes when the test node ends: each
positive field of the response, in field order. -/
def Client.roomsCleanup (r : RoomsResponse) : List Int := r.fields.filter (0 < ·)

/-- A test node calling `Client.Rooms` once, against a broker whose `Serve` dispatches to `sp`:
the exchange and, when the node ends, the cleanup `Client.Rooms` queued. A failed call fails the
test before it queues the cleanup. Returns the response and the client's table after the
cleanup. -/
def roomsNode (pl : Platform) (nofile : Nat) (sp : Spacer Proc) (broker : Proc)
    (client : FdTable) (encodes sends : Bool) (req : RoomsRequest) :
    Option (Outcome (RoomsResponse × FdTable)) :=
  (roomsExchange pl nofile sp broker client encodes sends req).map fun
    | .ret (r, T) => .ret (r, (Client.roomsCleanup r).foldl FdTable.close T)
    | .panic msg => .panic msg

theorem mem_roomsCleanup {r : RoomsResponse} {fd : Int} :
    fd ∈ Client.roomsCleanup r ↔ ∃ t, 0 < r.get t ∧ r.get t = fd := by
  rw [Client.roomsCleanup, ← RoomsResponse.encodeFds_fst, RoomsResponse.mem_encodeFds]

theorem mem_roomsCleanup_of_open {cap : Nat} {client T' p : FdTable} {r r' : RoomsResponse}
    (hin : ∀ t, r.get t ∈ r.encodeFds.1.take cap →
      client.lookup (r'.get t) = none ∧ T'.lookup (r'.get t) = p.lookup (r.get t))
    (hout : ∀ t, r.get t ∉ r.encodeFds.1.take cap → r'.get t = r.get t)
    {fd : Int} (hopen : client.lookup fd ≠ none) :
    fd ∈ Client.roomsCleanup r' ↔ fd ∈ r.encodeFds.1 ∧ fd ∉ r.encodeFds.1.take cap := by
  rw [mem_roomsCleanup, RoomsResponse.mem_encodeFds]
  constructor
  · rintro ⟨t, hpos, rfl⟩
    by_cases hdl : r.get t ∈ r.encodeFds.1.take cap
    · exact absurd (hin t hdl).1 hopen
    · rw [hout t hdl] at hpos ⊢
      exact ⟨⟨t, hpos, rfl⟩, hdl⟩
  · rintro ⟨⟨t, hpos, rfl⟩, hdl⟩
    exact ⟨t, by rwa [hout t hdl], hout t hdl⟩

/-- **What a `Client.Rooms` call leaves open.** For every Spacer whose `Room` answers with
namespace descriptors of the types their fields name, every platform, every client table and
every descriptor limit of the client, when `Serve` encodes and sends the answer the call
completes and, once the test node has ended:

* a descriptor the client had is as before, unless its number is a positive field the broker
  sent beyond the `deliverable` ones the client received: the response holds the broker's number
  there, and the cleanup closes the client's descriptor of that number;
* every positive descriptor the exchange opened in the client is closed;
* a delivered namespace that was received as descriptor 0 stays open, as the cleanup closes
  only positive fields. -/
theorem roomsNode_cleanup (pl : Platform) (nofile : Nat) (sp : Spacer Proc) (broker p : Proc)
    (client : FdTable) (req : RoomsRequest) (r : RoomsResponse)
    (hroom : sp.room req broker = some (.ret (.rooms r), p))
    (htype : ∀ t, 0 < r.get t → ∃ i, p.table.lookup (r.get t) = some (.ns t i)) :
    ∃ r' T, roomsNode pl nofile sp broker client true true req = some (.ret (r', T)) ∧
      (∀ fd, client.lookup fd ≠ none → T.lookup fd =
        if fd ∈ r.encodeFds.1 ∧ fd ∉ r.encodeFds.1.take (deliverable pl nofile client 3) then none
        else client.lookup fd) ∧
      (∀ fd, 0 < fd → client.lookup fd = none → T.lookup fd = none) ∧
      ∀ t, r.get t ∈ r.encodeFds.1.take (deliverable pl nofile client 3) → r'.get t = 0 →
        T.lookup 0 = p.table.lookup (r.get t) := by
  obtain ⟨os, hex, hos⟩ := roomsExchange_sends pl nofile client hroom fun fd hfd => by
    obtain ⟨t, hpos, rfl⟩ := RoomsResponse.mem_encodeFds.mp hfd
    obtain ⟨i, hi⟩ := htype t hpos
    simp [hi]
  obtain ⟨r', T', hrecv, hkeep, hin, hout, hheld⟩ :=
    Client.rooms_receive pl nofile client p.table r htype os hos
  refine ⟨r', _, by rw [roomsNode, hex, hrecv]; rfl, fun fd hopen => ?_,
    fun fd hpos hfree => ?_, fun t hdl h0 => ?_⟩
  · -- the client's own descriptor: the cleanup closes it only under a broker's number
    obtain ⟨o, ho⟩ := Option.ne_none_iff_exists'.mp hopen
    rw [FdTable.lookup_foldl_close, hkeep fd o ho, ← ho]
    exact if_congr (mem_roomsCleanup_of_open hin hout hopen) rfl rfl
  · -- a new positive descriptor is held by a field, and the cleanup closes that field
    rw [FdTable.lookup_foldl_close]
    by_cases hopen : T'.lookup fd = none
    · rw [hopen, ite_self]
    · obtain ⟨t, rfl⟩ := hheld fd hfree hopen
      rw [if_pos (mem_roomsCleanup.mpr ⟨t, hpos, rfl⟩)]
  · -- descriptor 0 is no positive field
    have h0mem : (0 : Int) ∉ Client.roomsCleanup r' := fun h => by
      obtain ⟨_, hpos, he⟩ := mem_roomsCleanup.mp h
      omega
    rw [FdTable.lookup_foldl_close, if_neg h0mem]
    exact h0 ▸ (hin t hdl).2

/-- A client that closed its standard input and holds a file at descriptor 14. -/
def sparseClient : FdTable := ⟨[(14, .file 14), (3, .sock 1), (2, .file 2), (1, .file 1)]⟩

/-- All six flat types from the broker of descriptors 10 to 15, on 64-bit Linux, for
`sparseClient` with the usual limit of 1024 descriptors. -/
theorem roomsNode_cleanup_sparse :
    (Spacemaker.spacer brokerNamespaces {}).room sixRooms brokerProc =
        some (.ret (.rooms ⟨10, 11, 12, 13, 14, 15⟩), brokerProc) ∧
      (∀ t, 0 < RoomsResponse.get ⟨10, 11, 12, 13, 14, 15⟩ t →
        ∃ i, brokerProc.table.lookup (RoomsResponse.get ⟨10, 11, 12, 13, 14, 15⟩ t) =
          some (.ns t i)) ∧
      ∃ r' T, roomsNode linuxAmd64 1024 (Spacemaker.spacer brokerNamespaces {}) brokerProc
          sparseClient true true sixRooms = some (.ret (r', T)) ∧
        (∀ fd, sparseClient.lookup fd ≠ none → T.lookup fd =
          if fd ∈ (RoomsResponse.encodeFds ⟨10, 11, 12, 13, 14, 15⟩).1 ∧
              fd ∉ (RoomsResponse.encodeFds ⟨10, 11, 12, 13, 14, 15⟩).1.take
                (deliverable linuxAmd64 1024 sparseClient 3) then none
          else sparseClient.lookup fd) ∧
        (∀ fd, 0 < fd → sparseClient.lookup fd = none → T.lookup fd = none) ∧
        ∀ t, RoomsResponse.get ⟨10, 11, 12, 13, 14, 15⟩ t ∈
            (RoomsResponse.encodeFds ⟨10, 11, 12, 13, 14, 15⟩).1.take
              (deliverable linuxAmd64 1024 sparseClient 3) →
          r'.get t = 0 →
          T.lookup 0 = brokerProc.table.lookup (RoomsResponse.get ⟨10, 11, 12, 13, 14, 15⟩ t) :=
  have hroom : (Spacemaker.spacer brokerNamespaces {}).room sixRooms brokerProc =
      some (.ret (.rooms ⟨10, 11, 12, 13, 14, 15⟩), brokerProc) := by
    decide
  have htype : ∀ t, 0 < RoomsResponse.get ⟨10, 11, 12, 13, 14, 15⟩ t →
      ∃ i, brokerProc.table.lookup (RoomsResponse.get ⟨10, 11, 12, 13, 14, 15⟩ t) =
        some (.ns t i) := by
    intro t ht
    cases t
    exacts [⟨1, rfl⟩, ⟨2, rfl⟩, ⟨3, rfl⟩, ⟨4, rfl⟩, absurd ht (by decide), ⟨5, rfl⟩,
      absurd ht (by decide), ⟨6, rfl⟩]
  ⟨hroom, htype, roomsNode_cleanup linuxAmd64 1024 _ brokerProc brokerProc sparseClient _ _ hroom
    htype⟩

/-- The cgroup namespace arrives as descriptor 0, reads as absent, and stays open after the
node; the cleanup closes the client's file 14, the number the broker sent for `Time`. -/
example : roomsNode linuxAmd64 1024 (Spacemaker.spacer brokerNamespaces {}) brokerProc
    sparseClient true true sixRooms = some (.ret (⟨0, 4, 5, 6, 14, 15⟩,
      ⟨[(0, .ns .cgroup 1), (3, .sock 1), (2, .file 2), (1, .file 1)]⟩)) := by
  decide

/-! ## `Client.NewTransient` -/

/-- The matcher `beInvalid()` builds with `gcustom.MakeMatcher`: its function returns
`true, nil` for every type, so it matches whatever it is given. -/
def beInvalid (_ : Int) : Bool := true

/-- The case of the `switch` in `Client.NewTransient` that `typ` selects: the flat type whose
`unix.CLONE_NEW*` constant it is. -/
def newTransientType (typ : Int) : Option NsType :=
  flatTypes.find? fun t => typ = (t.flag.toNat : Int)

/-- The request of the case for the flat type `t`: `Client.Rooms` with `t`'s flag alone. -/
def newTransientRequest (t : NsType) : RoomsRequest :=
  Client.roomsRequest (t == .cgroup) (t == .ipc) (t == .mnt) (t == .net) (t == .time) (t == .uts)

/-- `Client.NewTransient(typ)`, where `rooms` is the client's `c.Rooms` call for a request: a
flat type's case calls `c.Rooms` with that type alone and returns its field; any other type
reaches `g.Expect(typ).To(beInvalid())`, which fails the test when `beInvalid` does not match
`typ`, and otherwise returns -1. -/
def Client.newTransient (rooms : RoomsRequest → Option (Outcome (RoomsResponse × FdTable)))
    (client : FdTable) (typ : Int) : Option (Outcome (Int × FdTable)) :=
  match newTransientType typ with
  | some t => (rooms (newTransientRequest t)).map fun
    | .ret (r, T) => .ret (r.get t, T)
    | .panic msg => .panic msg
  | none => some (if beInvalid typ then .ret (-1, client) else .panic "invalid namespace type")

theorem filter_wants_newTransientRequest :
    ∀ t ∈ flatTypes, flatTypes.filter (newTransientRequest t).wants = [t] := by
  decide

/-- **`Client.NewTransient` against a `Spacemaker` broker.** For every platform, client table
and descriptor limit under which the client can receive a descriptor, every pattern of kernel
answers and every broker whose `Serve` encodes and sends its answers: a type that is none of
the six flat `CLONE_NEW*` constants gets -1 with the client's table unchanged and the test not
failed, as `beInvalid` matches every type; a flat type whose request the broker grants gets a
descriptor new in the client, for the namespace the broker's thread showed after its `unshare`
(for time, the broker's own), and the client keeps its descriptors. -/
theorem newTransient_spacemaker (pl : Platform) (nofile : Nat) (os : NsType → NewNsOs)
    (subOs : SubspaceOs) (broker : Proc) (client : FdTable)
    (hcap : 0 < deliverable pl nofile client 3) (typ : Int) :
    (newTransientType typ = none →
      Client.newTransient (roomsExchange pl nofile (Spacemaker.spacerOn os subOs) broker client
        true true) client typ = some (.ret (-1, client))) ∧
    ∀ t r, newTransientType typ = some t →
      (Spacemaker.roomOn os (newTransientRequest t) broker).1 = .rooms r →
      ∃ fd T', Client.newTransient (roomsExchange pl nofile (Spacemaker.spacerOn os subOs) broker
          client true true) client typ = some (.ret (fd, T')) ∧ T'.Keeps client ∧
        client.lookup fd = none ∧ T'.lookup fd = some (.ns t ((os t).shownIno t)) := by
  refine ⟨fun hnone => by rw [Client.newTransient, hnone]; rfl, fun t r htyp hgrant => ?_⟩
  have ht : t ∈ flatTypes := List.mem_of_find?_eq_some htyp
  have hfilter := filter_wants_newTransientRequest t ht
  have hw : (newTransientRequest t).wants t :=
    List.of_mem_filter (hfilter ▸ List.mem_singleton_self t)
  obtain ⟨-, hwants, -, -⟩ := roomOn_rooms os _ broker hgrant
  obtain ⟨r', T', hex, hkeep, hin, -, -⟩ :=
    roomsExchange_spacemaker_receive pl nofile os subOs broker client hgrant
  have hdl : r.get t ∈ r.encodeFds.1.take (deliverable pl nofile client 3) :=
    mem_take_of_wants hwants (by rw [hfilter]; exact hcap) ht hw
  refine ⟨r'.get t, T', ?_, hkeep, hin t hdl⟩
  simp only [Client.newTransient, htyp, hex, Option.map_some']

/-- `Client.NewTransient(unix.CLONE_NEWNET)` from a broker whose descriptors 0 to 2 are open,
on 64-bit Linux with the usual limit of 1024 descriptors, gets the new network namespace;
`Client.NewTransient(unix.CLONE_NEWPID)` gets -1 and the test goes on. -/
theorem newTransient_spacemaker_net_pid :
    0 < deliverable linuxAmd64 1024 clientTable 3 ∧ newTransientType 0x20000000 = none ∧
      newTransientType 0x40000000 = some .net ∧
      (Spacemaker.roomOn (fun _ => { newIno := 7 }) (newTransientRequest .net) stdioProc).1 =
        .rooms { net := 4 } ∧
      Client.newTransient (roomsExchange linuxAmd64 1024
          (Spacemaker.spacerOn (fun _ => { newIno := 7 }) {}) stdioProc clientTable true true)
        clientTable 0x20000000 = some (.ret (-1, clientTable)) ∧
      ∃ fd T', Client.newTransient (roomsExchange linuxAmd64 1024
          (Spacemaker.spacerOn (fun _ => { newIno := 7 }) {}) stdioProc clientTable true true)
          clientTable 0x40000000 = some (.ret (fd, T')) ∧ T'.Keeps clientTable ∧
        clientTable.lookup fd = none ∧ T'.lookup fd = some (.ns .net 7) :=
  have hcap : 0 < deliverable linuxAmd64 1024 clientTable 3 :=
    le_deliverable 5 (by decide) (by decide) (by decide)
  have hpid : newTransientType 0x20000000 = none := by decide
  have hnet : newTransientType 0x40000000 = some .net := by decide
  have hgrant : (Spacemaker.roomOn (fun _ => { newIno := 7 }) (newTransientRequest .net)
      stdioProc).1 = .rooms { net := 4 } := by
    decide
  ⟨hcap, hpid, hnet, hgrant,
    (newTransient_spacemaker linuxAmd64 1024 _ {} stdioProc clientTable hcap 0x20000000).1 hpid,
    (newTransient_spacemaker linuxAmd64 1024 _ {} stdioProc clientTable hcap 0x40000000).2 .net _
      hnet hgrant⟩

end Spacetest
