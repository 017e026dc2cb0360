import Spacetest.Client

/-!
# A rooms exchange, end to end

`roomsExchange` runs one `Client.Rooms` call against a broker's `Serve`: the Spacer answers,
`Serve` sends the response with its positive fields attached, and the client receives with
capacity 3, below its descriptor limit, and decodes the attached descriptors into the payload.

* `serve_rooms`, `roomsExchange_eq`, `roomsExchange_sends`: the one round `Serve` runs, and the
  exchange as the send of the response followed by the client's receive;
* `Client.rooms_eq`: the client's side as the install of the delivered objects and a
  `DecodeFds` into the payload as sent;
* `Client.rooms_receive`: what the client ends with, for every message carrying the objects
  behind a response's positive fields;
* **`roomsExchange_delivers`**: for every Spacer that answers with namespace descriptors of the
  types of their fields, every platform, every client table and every descriptor limit, each of
  the first `deliverable` positive fields arrives as a descriptor new in the client for the broker's
  namespace, every other field keeps the value the broker sent — for a positive field, the
  broker's own descriptor number — and every descriptor the exchange opens in the client is held
  by a field.
-/

namespace Spacetest

/-! ## The broker's side -/

section Broker

variable {sp : Spacer Proc} {broker p : Proc} {req : RoomsRequest} {r : RoomsResponse}

theorem serve_rooms (hroom : sp.room req broker = some (.ret (.rooms r), p)) :
    serve sp [.request (.rooms req) true true] broker =
      ([.receive :: .dispatch (.rooms req) :: answer (.rooms r) true true], .ret (some p)) := by
  simp [serve, serveRound, Spacer.dispatch, hroom]

theorem roomsExchange_eq (pl : Platform) (nofile : Nat) (client : FdTable)
    (hroom : sp.room req broker = some (.ret (.rooms r), p)) :
    roomsExchange pl nofile sp broker client true true req =
      (sendWithFds p.table true (.rooms r) r.encodeFds.1).map (Client.rooms pl nofile client) := by
  rw [roomsExchange, serve_rooms hroom]
  rfl

theorem roomsExchange_sends (pl : Platform) (nofile : Nat) (client : FdTable)
    (hroom : sp.room req broker = some (.ret (.rooms r), p))
    (hopen : ∀ fd ∈ r.encodeFds.1, p.table.lookup fd ≠ none) :
    ∃ os, roomsExchange pl nofile sp broker client true true req =
        some (Client.rooms pl nofile client ⟨.rooms r, os⟩) ∧
      r.encodeFds.1.map p.table.lookup = os.map some := by
  obtain ⟨os, hsend, hos⟩ := sendWithFds_of_open p.table (Response.rooms r) _ hopen
  exact ⟨os, by rw [roomsExchange_eq pl nofile client hroom, hsend, Option.map_some'], hos⟩

end Broker

/-! ## The client's side -/

theorem Client.rooms_eq (pl : Platform) (nofile : Nat) (T : FdTable) (r : RoomsResponse)
    (os : List Obj) :
    Client.rooms pl nofile T ⟨.rooms r, os⟩ =
      .ret ((r.decodeFds (T.installAll (os.take (deliverable pl nofile T 3))).2.nstype
          (T.installAll (os.take (deliverable pl nofile T 3))).1).1,
        (r.decodeFds (T.installAll (os.take (deliverable pl nofile T 3))).2.nstype
          (T.installAll (os.take (deliverable pl nofile T 3))).1).2.foldl FdTable.close
          (T.installAll (os.take (deliverable pl nofile T 3))).2) := by
  simp only [Client.rooms, Client.do, receiveWithFds_eq]

section Receive

variable (pl : Platform) (nofile : Nat) (client p : FdTable) (r : RoomsResponse)
  (htype : ∀ t, 0 < r.get t → ∃ i, p.lookup (r.get t) = some (.ns t i))
include htype

theorem Client.rooms_receive (os : List Obj) (hos : r.encodeFds.1.map p.lookup = os.map some) :
    ∃ r' T', Client.rooms pl nofile client ⟨.rooms r, os⟩ = .ret (r', T') ∧ T'.Keeps client ∧
      (∀ t, r.get t ∈ r.encodeFds.1.take (deliverable pl nofile client 3) →
        client.lookup (r'.get t) = none ∧ T'.lookup (r'.get t) = p.lookup (r.get t)) ∧
      (∀ t, r.get t ∉ r.encodeFds.1.take (deliverable pl nofile client 3) → r'.get t = r.get t) ∧
      ∀ fd, client.lookup fd = none → T'.lookup fd ≠ none → ∃ t, r'.get t = fd := by
  set dl := r.encodeFds.1.take (deliverable pl nofile client 3)
  set news := (client.installAll (os.take (deliverable pl nofile client 3))).1
  set T' := (client.installAll (os.take (deliverable pl nofile client 3))).2
  have htype' : ∀ t, 0 < r.get t → p.nstype (r.get t) = some t := fun t h => by
    obtain ⟨i, hi⟩ := htype t h
    exact FdTable.nstype_of_lookup hi
  have hmap : news.map T'.lookup = dl.map p.lookup := by
    rw [FdTable.map_lookup_installAll, List.map_take, ← hos, List.map_take]
  -- each new descriptor is the one of a delivered field, and of that field's type
  have hsrc : ∀ y ∈ news, ∃ t, r.get t ∈ dl ∧ T'.lookup y = p.lookup (r.get t) ∧
      T'.nstype y = some t := by
    intro y hy
    obtain ⟨s, hs, he⟩ := List.mem_map.mp (hmap ▸ List.mem_map_of_mem T'.lookup hy)
    obtain ⟨t, hpos, rfl⟩ := RoomsResponse.mem_encodeFds.mp (List.mem_of_mem_take hs)
    exact ⟨t, hs, he.symm, by rw [FdTable.nstype, ← he]; exact htype' t hpos⟩
  have hone : ∀ x ∈ news, ∀ y ∈ news, T'.nstype x = T'.nstype y → x = y := by
    refine List.inj_on_of_nodup_map ?_
    have htypes : news.map T'.nstype = dl.map p.nstype := by
      have hcomp : ∀ T : FdTable, T.nstype = (·.bind Obj.nstype) ∘ T.lookup := fun _ => rfl
      rw [hcomp, hcomp, ← List.map_map, hmap, List.map_map]
    rw [htypes, List.map_take]
    exact (RoomsResponse.nodup_map_nstype_encodeFds p.nstype r htype').sublist
      (List.take_sublist _ _)
  -- the field of a new descriptor's type ends with that descriptor
  have hget : ∀ y ∈ news, ∀ t, T'.nstype y = some t →
      (r.decodeFds T'.nstype news).1.get t = y := by
    intro y hy t hty
    obtain ⟨t', hdl, -, hty'⟩ := hsrc y hy
    obtain rfl : t' = t := Option.some.inj (hty'.symm.trans hty)
    have hpos := RoomsResponse.pos_of_mem_encodeFds (List.mem_of_mem_take hdl)
    rw [RoomsResponse.get_decodeFds]
    exact foldl_keep_unique _ news y _ hy ⟨hty, RoomsResponse.takes_of_pos hpos⟩
      fun z hz hp => hone z hz y hy (hp.1.trans hty.symm)
  have hclosed : (r.decodeFds T'.nstype news).2 = [] := by
    rw [RoomsResponse.decodeFds, Switch.decode_closed, List.filter_eq_nil_iff]
    intro y hy
    obtain ⟨t, hdl, -, hty⟩ := hsrc y hy
    have hpos := RoomsResponse.pos_of_mem_encodeFds (List.mem_of_mem_take hdl)
    simp [Switch.accepts, hty, RoomsResponse.takes_of_pos hpos]
  refine ⟨_, _, (Client.rooms_eq pl nofile client r os).trans (by rw [hclosed]; rfl),
    FdTable.keeps_installAll _ client, fun t hdl => ?_, fun t hdl => ?_, fun fd hfree hopen => ?_⟩
  · -- a delivered field: the descriptor the receive installed for it
    obtain ⟨y, hy, he⟩ := List.mem_map.mp (hmap.symm ▸ List.mem_map_of_mem p.lookup hdl)
    have hpos := RoomsResponse.pos_of_mem_encodeFds (List.mem_of_mem_take hdl)
    have hty : T'.nstype y = some t := by rw [FdTable.nstype, he]; exact htype' t hpos
    rw [hget y hy t hty]
    exact ⟨FdTable.lookup_installAll_fresh _ client y hy, he⟩
  · -- any other field: no new descriptor has its type, and it keeps the broker's value
    rw [RoomsResponse.get_decodeFds]
    refine foldl_keep_none _ news _ fun y hy hp => ?_
    obtain ⟨t', hdl', -, hty'⟩ := hsrc y hy
    obtain rfl : t' = t := Option.some.inj (hty'.symm.trans hp.1)
    exact hdl hdl'
  · -- every descriptor the receive opened is held by the field of its type
    have hy := FdTable.mem_installAll _ client hfree hopen
    obtain ⟨t, -, -, hty⟩ := hsrc fd hy
    exact ⟨t, hget fd hy t hty⟩

end Receive

/-- **What a rooms exchange delivers.** For every Spacer whose `Room` answers the request with
a response whose positive fields are namespace descriptors, in the broker's process as `Room`
left it, of the types their fields name; for every platform, every client table and every
descriptor limit of the client: when `Serve` encodes and sends the answer, the exchange
completes, the client keeps every descriptor it had, and

* each field among the first `deliverable` positive fields, in field order, holds a descriptor
  that was not open in the client and refers to the broker's namespace: as many as the capacity
  holds and the client has free numbers below its limit;
* every other field holds what the broker sent: its in-band value, which for a positive field
  beyond them is the broker's descriptor number;
* every descriptor the exchange opened in the client is held by a field. -/
theorem roomsExchange_delivers (pl : Platform) (nofile : Nat) (sp : Spacer Proc)
    (broker p : Proc) (client : FdTable) (req : RoomsRequest) (r : RoomsResponse)
    (hroom : sp.room req broker = some (.ret (.rooms r), p))
    (htype : ∀ t, 0 < r.get t → ∃ i, p.table.lookup (r.get t) = some (.ns t i)) :
    ∃ r' T', roomsExchange pl nofile sp broker client true true req = some (.ret (r', T')) ∧
      T'.Keeps client ∧
      (∀ t, r.get t ∈ r.encodeFds.1.take (deliverable pl nofile client 3) →
        client.lookup (r'.get t) = none ∧ T'.lookup (r'.get t) = p.table.lookup (r.get t)) ∧
      (∀ t, r.get t ∉ r.encodeFds.1.take (deliverable pl nofile client 3) → r'.get t = r.get t) ∧
      ∀ fd, client.lookup fd = none → T'.lookup fd ≠ none → ∃ t, r'.get t = fd := by
  obtain ⟨os, hex, hos⟩ := roomsExchange_sends pl nofile client hroom fun fd hfd => by
    obtain ⟨t, hpos, rfl⟩ := RoomsResponse.mem_encodeFds.mp hfd
    obtain ⟨i, hi⟩ := htype t hpos
    simp [hi]
  obtain ⟨r', T', hrecv, hrest⟩ := Client.rooms_receive pl nofile client p.table r htype os hos
  exact ⟨r', T', hex.trans (congrArg some hrecv), hrest⟩

/-- The broker's six namespaces, asked for on 64-bit Linux by a client with the usual limit of
1024 descriptors. -/
theorem roomsExchange_delivers_six :
    (Spacemaker.spacer brokerNamespaces {}).room (Client.roomsRequest true true true true true true)
        brokerProc = some (.ret (.rooms ⟨10, 11, 12, 13, 14, 15⟩), brokerProc) ∧
      (∀ t, 0 < RoomsResponse.get ⟨10, 11, 12, 13, 14, 15⟩ t →
        ∃ i, brokerProc.table.lookup (RoomsResponse.get ⟨10, 11, 12, 13, 14, 15⟩ t) =
          some (.ns t i)) ∧
      ∃ r' T', roomsExchange linuxAmd64 1024 (Spacemaker.spacer brokerNamespaces {}) brokerProc
          clientTable true true (Client.roomsRequest true true true true true true) =
          some (.ret (r', T')) ∧
        T'.Keeps clientTable ∧
        (∀ t, RoomsResponse.get ⟨10, 11, 12, 13, 14, 15⟩ t ∈
            (RoomsResponse.encodeFds ⟨10, 11, 12, 13, 14, 15⟩).1.take
              (deliverable linuxAmd64 1024 clientTable 3) →
          clientTable.lookup (r'.get t) = none ∧
            T'.lookup (r'.get t) =
              brokerProc.table.lookup (RoomsResponse.get ⟨10, 11, 12, 13, 14, 15⟩ t)) ∧
        (∀ t, RoomsResponse.get ⟨10, 11, 12, 13, 14, 15⟩ t ∉
            (RoomsResponse.encodeFds ⟨10, 11, 12, 13, 14, 15⟩).1.take
              (deliverable linuxAmd64 1024 clientTable 3) →
          r'.get t = RoomsResponse.get ⟨10, 11, 12, 13, 14, 15⟩ t) ∧
        ∀ fd, clientTable.lookup fd = none → T'.lookup fd ≠ none → ∃ t, r'.get t = fd :=
  have hroom : (Spacemaker.spacer brokerNamespaces {}).room
      (Client.roomsRequest true true true true true true) brokerProc =
        some (.ret (.rooms ⟨10, 11, 12, 13, 14, 15⟩), brokerProc) := by
    decide
  have htype : ∀ t, 0 < RoomsResponse.get ⟨10, 11, 12, 13, 14, 15⟩ t →
      ∃ i, brokerProc.table.lookup (RoomsResponse.get ⟨10, 11, 12, 13, 14, 15⟩ t) =
        some (.ns t i) := by
    intro t ht
    cases t
    exacts [⟨1, rfl⟩, ⟨2, rfl⟩, ⟨3, rfl⟩, ⟨4, rfl⟩, absurd ht (by decide), ⟨5, rfl⟩,
      absurd ht (by decide), ⟨6, rfl⟩]
  ⟨hroom, htype, roomsExchange_delivers linuxAmd64 1024 _ _ _ clientTable _ _ hroom htype⟩

end Spacetest
