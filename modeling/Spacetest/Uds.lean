import Spacetest.Api

/-!
# Unix domain socket connections

A `uds.Conn` carries, with each message, the descriptors its sender attaches as `SCM_RIGHTS`
ancillary data.

* `Platform`, `Platform.cmsgSpace`: the control buffer `receiveWithFds` allocates for `maxfds`
  descriptors (`unix.CmsgSpace`);
* `Platform.scmMaxFds`: how many descriptors the kernel installs into a control buffer of a
  given size; it drops the others (`scm_detach_fds`). On `linuxAmd64` a buffer for 3 holds 4;
* `Msg`, `sendWithFds`, `receiveWithFds`. The kernel installs the received objects only below
  the receiver's descriptor limit (`FdTable.installBelow`), and as many as there are free
  numbers below it (`FdTable.installBelow_eq`); **`receiveWithFds_length`**;
* `newUnixConn`, `newPair`: each connection end owns a descriptor of its own, and on failure
  nothing they opened stays open (**`newPair_spec`**).
-/

namespace Spacetest

/-- The sizes the control-message buffer depends on: `unix.SizeofPtr`, the alignment of control
messages, and `unix.SizeofCmsghdr`, which equals the kernel's `sizeof(struct cmsghdr)`. -/
structure Platform where
  sizeofPtr : Nat
  sizeofCmsghdr : Nat
  deriving DecidableEq, Repr

/-- 64-bit Linux (amd64, arm64). -/
def linuxAmd64 : Platform := ⟨8, 16⟩

namespace Platform

/-- `unix.cmsgAlignOf`: round up to a multiple of the pointer size. -/
def cmsgAlignOf (pl : Platform) (salen : Nat) : Nat :=
  (salen + pl.sizeofPtr - 1) / pl.sizeofPtr * pl.sizeofPtr

/-- `unix.CmsgSpace`: the buffer size for a control message with `datalen` bytes of data. -/
def cmsgSpace (pl : Platform) (datalen : Nat) : Nat :=
  pl.cmsgAlignOf pl.sizeofCmsghdr + pl.cmsgAlignOf datalen

/-- The kernel's `scm_max_fds`: how many `int` descriptors fit after the header in a control
buffer of `len` bytes. -/
def scmMaxFds (pl : Platform) (len : Nat) : Nat :=
  if len ≤ pl.sizeofCmsghdr then 0 else (len - pl.sizeofCmsghdr) / 4

/-- How many descriptors one `receiveWithFds` with capacity `maxfds` can deliver. -/
def capacity (pl : Platform) (maxfds : Nat) : Nat := pl.scmMaxFds (pl.cmsgSpace (maxfds * 4))

end Platform

theorem linuxAmd64_capacity : linuxAmd64.capacity 3 = 4 ∧ linuxAmd64.capacity 0 = 0 := by decide

/-- A message in flight: its payload, and the objects behind the attached descriptors (the
kernel holds them from `sendmsg` on). The gob payload is modelled by the value it encodes,
which a `gobmsg.Decoder` decodes back unchanged. -/
structure Msg (α : Type) where
  payload : α
  objs : List Obj
  deriving DecidableEq, Repr

/-- `Conn.SendWithFds`: the payload with the objects behind `fds`. `none` when `sendmsg` fails:
`ok` is the kernel's verdict, and a descriptor that is not open fails it as well (`EBADF`). -/
def sendWithFds {α : Type} (T : FdTable) (ok : Bool) (b : α) (fds : List Int) : Option (Msg α) :=
  if ok then (fds.mapM T.lookup).map (Msg.mk b) else none

/-- The kernel's `scm_detach_fds`: install the objects in order, each at the lowest free number,
while that number is below the receiver's descriptor limit `RLIMIT_NOFILE`; at the first object
that does not fit it stops, drops the rest, and only flags `MSG_CTRUNC`. -/
def FdTable.installBelow (nofile : Nat) (T : FdTable) : List Obj → List Int × FdTable
  | [] => ([], T)
  | o :: os =>
    if T.lowestFree < nofile then
      ((T.install o).1 :: ((T.install o).2.installBelow nofile os).1,
        ((T.install o).2.installBelow nofile os).2)
    else ([], T)

/-- **The kernel installs as many objects as there are free numbers below the limit.** -/
theorem FdTable.installBelow_eq (nofile : Nat) (T : FdTable) (os : List Obj) :
    T.installBelow nofile os = T.installAll (os.take (T.freeBelow nofile)) := by
  induction os generalizing T with
  | nil => simp [installBelow, installAll]
  | cons o os ih =>
    rw [installBelow]
    split
    · rename_i h
      have hk := T.freeBelow_install o nofile
      rw [if_pos h] at hk
      rw [← hk, List.take_succ_cons, installAll, ih]
    · rw [freeBelow_eq_zero (by omega), List.take_zero]
      rfl

theorem FdTable.installBelow_lt (nofile : Nat) (T : FdTable) (os : List Obj) :
    ∀ fd ∈ (T.installBelow nofile os).1, fd < nofile := by
  induction os generalizing T with
  | nil => simp [installBelow]
  | cons o os ih =>
    rw [installBelow]
    split
    · exact List.forall_mem_cons.mpr ⟨‹_›, ih _⟩
    · simp

/-- `Conn.ReceiveWithFds` of the message `m` by a process whose table is `T` and whose
descriptor limit is `nofile`: the kernel installs the objects that fit in the control buffer for
`maxfds` descriptors and below the limit, and drops the rest; `ReceiveWithFds` ignores
`MSG_CTRUNC`. Returns the payload, the new descriptors and the receiver's table. -/
def receiveWithFds {α : Type} (pl : Platform) (nofile : Nat) (T : FdTable) (maxfds : Nat)
    (m : Msg α) : α × List Int × FdTable :=
  (m.payload, (T.installBelow nofile (m.objs.take (pl.capacity maxfds))).1,
    (T.installBelow nofile (m.objs.take (pl.capacity maxfds))).2)

/-- How many descriptors a receive with capacity `maxfds` can hand to a process whose table is
`T` and whose descriptor limit is `nofile`. -/
def deliverable (pl : Platform) (nofile : Nat) (T : FdTable) (maxfds : Nat) : Nat :=
  min (T.freeBelow nofile) (pl.capacity maxfds)

theorem le_deliverable {pl : Platform} {nofile : Nat} {T : FdTable} {maxfds k : Nat} (m : Nat)
    (hm : m ≤ nofile) (hk : k ≤ T.freeBelow m) (hc : k ≤ pl.capacity maxfds) :
    k ≤ deliverable pl nofile T maxfds :=
  le_min (hk.trans (T.freeBelow_mono hm)) hc

theorem receiveWithFds_eq {α : Type} (pl : Platform) (nofile : Nat) (T : FdTable) (maxfds : Nat)
    (m : Msg α) :
    receiveWithFds pl nofile T maxfds m = (m.payload,
      (T.installAll (m.objs.take (deliverable pl nofile T maxfds))).1,
      (T.installAll (m.objs.take (deliverable pl nofile T maxfds))).2) := by
  rw [receiveWithFds, FdTable.installBelow_eq, List.take_take]
  rfl

theorem sendWithFds_of_open {α : Type} (T : FdTable) (b : α) (fds : List Int)
    (hopen : ∀ fd ∈ fds, T.lookup fd ≠ none) :
    ∃ os, sendWithFds T true b fds = some ⟨b, os⟩ ∧ fds.map T.lookup = os.map some := by
  suffices ∃ os, fds.mapM T.lookup = some os ∧ fds.map T.lookup = os.map some by
    obtain ⟨os, hos, hmap⟩ := this
    exact ⟨os, by rw [sendWithFds, if_pos rfl, hos]; rfl, hmap⟩
  induction fds with
  | nil => exact ⟨[], rfl, rfl⟩
  | cons fd fds ih =>
    obtain ⟨o, ho⟩ := Option.ne_none_iff_exists'.mp (hopen fd (.head _))
    obtain ⟨os, hos, hmap⟩ := ih fun x hx => hopen x (.tail _ hx)
    exact ⟨o :: os, by rw [List.mapM_cons, ho, hos]; rfl, by simp [ho, hmap]⟩

theorem installAll_length (T : FdTable) (os : List Obj) :
    (T.installAll os).1.length = os.length := by
  induction os generalizing T with
  | nil => rfl
  | cons o os ih => simp [FdTable.installAll, ih]

/-- **Descriptors beyond the capacity or the limit are lost.** A receive delivers as many
descriptors as were sent, up to the capacity and to the free numbers below the receiver's
descriptor limit, and no more; every descriptor it delivers is below the limit. -/
theorem receiveWithFds_length {α : Type} (pl : Platform) (nofile : Nat) (T : FdTable)
    (maxfds : Nat) (m : Msg α) :
    (receiveWithFds pl nofile T maxfds m).2.1.length =
        min (min (T.freeBelow nofile) (pl.capacity maxfds)) m.objs.length ∧
      ∀ fd ∈ (receiveWithFds pl nofile T maxfds m).2.1, fd < nofile := by
  refine ⟨?_, T.installBelow_lt nofile _⟩
  rw [receiveWithFds_eq, installAll_length, List.length_take]
  rfl

/-! ## Creating connections -/

/-- `dup(2)` of an open descriptor: a new descriptor for the same object. -/
def Proc.dupFd (p : Proc) (fd : Int) : Int × Proc := p.openFd ((p.table.lookup fd).getD (.file 0))

/-- `uds.NewUnixConn`: the connection gets a duplicate of `udsfd`, made by
`net.FilePacketConn` (`dup` is its outcome: `none`, or the error text), and the deferred
`f.Close()` closes `udsfd` in every case. Returns the connection's descriptor. -/
def newUnixConn (dup : Option String) (p : Proc) (udsfd : Int) : Except String Int × Proc :=
  if udsfd < 0 then (.error "not a file descriptor", p)
  else
    match dup with
    | some e => (.error e, p.closeFd udsfd)
    | none => (.ok (p.dupFd udsfd).1, (p.dupFd udsfd).2.closeFd udsfd)

/-- What the operations of `NewPair` do: `none` for success, or the error text. -/
structure PairOs where
  socketpair : Option String := none
  dupond : Option String := none
  dupont : Option String := none
  deriving DecidableEq, Repr

/-- `uds.NewPair`: a connected socket pair, each end wrapped by `newUnixConn`. On failure the
Go function returns two nil connections. Returns the connections' descriptors. -/
def newPair (os : PairOs) (p : Proc) : Except String (Int × Int) × Proc :=
  match os.socketpair with
  | some e => (.error e, p)
  | none =>
    let a := p.openFd (.sock 0)
    let b := a.2.openFd (.sock 1)
    match newUnixConn os.dupond b.2 a.1 with
    | (.error e, p) => (.error e, p.closeFd b.1)
    | (.ok dupond, p) =>
      match newUnixConn os.dupont p b.1 with
      | (.error e, p) => (.error e, p.closeFd dupond)
      | (.ok dupont, p) => (.ok (dupond, dupont), p)

section Pair

variable {p : Proc} {udsfd : Int}

theorem newUnixConn_some (e : String) (hpos : 0 ≤ udsfd) :
    newUnixConn (some e) p udsfd = (.error e, p.closeFd udsfd) := by
  rw [newUnixConn, if_neg (not_lt.mpr hpos)]

theorem newUnixConn_none (hpos : 0 ≤ udsfd) :
    newUnixConn none p udsfd = (.ok p.table.lowestFree, (p.dupFd udsfd).2.closeFd udsfd) := by
  rw [newUnixConn, if_neg (not_lt.mpr hpos)]
  rfl

theorem Proc.dupFd_of_lookup {o : Obj} (ho : p.table.lookup udsfd = some o) :
    p.dupFd udsfd = p.openFd o := by
  rw [Proc.dupFd, ho, Option.getD_some]

theorem Proc.openFd_adds {T : FdTable} {S : Int → Prop} {o : Obj} {fd : Int} {q : Proc}
    (h : p.table.Adds T S) (hq : p.openFd o = (fd, q)) :
    q.table.Adds T (fun x => x = fd ∨ S x) ∧ q.table.Keeps p.table ∧ q.table.lookup fd = some o ∧
      fd = p.table.lowestFree := by
  rw [Proc.openFd, Prod.mk.injEq] at hq
  obtain ⟨rfl, rfl⟩ := hq
  exact ⟨h.install o, p.table.keeps_install o, p.table.lookup_install_self o, rfl⟩

theorem Proc.dupFd_adds {T : FdTable} {S : Int → Prop} {o : Obj} {fd : Int} {q : Proc}
    (h : p.table.Adds T S) (ho : p.table.lookup udsfd = some o) (hq : p.dupFd udsfd = (fd, q)) :
    q.table.Adds T (fun x => x = fd ∨ S x) ∧ q.table.Keeps p.table ∧ q.table.lookup fd = some o ∧
      fd = p.table.lowestFree :=
  Proc.openFd_adds h (Proc.dupFd_of_lookup ho ▸ hq)

end Pair

/-- **`NewPair` leaks nothing.** On failure every descriptor is as on entry; on success the two
connections hold new descriptors for the two ends of the socket pair, and nothing else changed. -/
theorem newPair_spec (os : PairOs) (p : Proc) :
    ((∃ e, (newPair os p).1 = .error e) →
      ∀ fd, (newPair os p).2.table.lookup fd = p.table.lookup fd) ∧
    ∀ c d, (newPair os p).1 = .ok (c, d) →
      (newPair os p).2.table.Adds p.table (fun fd => fd = c ∨ fd = d) ∧
      (newPair os p).2.table.lookup c = some (.sock 0) ∧
      (newPair os p).2.table.lookup d = some (.sock 1) := by
  obtain ⟨sp, dn, dt⟩ := os
  cases sp with
  | some e => exact ⟨fun _ _ => rfl, fun _ _ h => by cases h⟩
  | none =>
    -- the socket pair, `a` and `b`
    have hA := ((FdTable.Adds.refl p.table).install (.sock 0)).install (.sock 1)
    have ha := FdTable.lookup_install_of_lookup (p.table.lookup_install_self (.sock 0)) (.sock 1)
    have hb := (p.table.install (.sock 0)).2.lookup_install_self (.sock 1)
    have hfa := hA.fresh _ (.inr (.inl rfl))
    have hfb := hA.fresh _ (.inl rfl)
    cases dn with
    | some e =>
      simp only [newPair, Proc.openFd_fst, Proc.table_openFd, Proc.table_closeFd,
        newUnixConn_some e (FdTable.lowestFree_nonneg _)]
      exact ⟨fun _ => ((hA.close_own hfa).close_own hfb).lookup_eq
        fun _ ⟨⟨h, hna⟩, hnb⟩ => h.elim hnb (·.elim hna id), fun _ _ h => by cases h⟩
    | none =>
      -- `dupond`: the duplicate `c` of `a`, with `a` closed
      have hA4 := (hA.install (.sock 0)).close_own hfa
      have hfc := (hA.install (.sock 0)).fresh _ (.inl rfl)
      have hba := FdTable.lowestFree_ne_of_lookup (p.table.lookup_install_self (.sock 0))
      have hcb := FdTable.lowestFree_ne_of_lookup hb
      have hb4 : ((((p.table.install (.sock 0)).2.install (.sock 1)).2.install (.sock 0)).2.close
          p.table.lowestFree).lookup (p.table.install (.sock 0)).2.lowestFree = some (.sock 1) := by
        rw [FdTable.lookup_close, if_neg hba, FdTable.lookup_install, if_neg hcb.symm, hb]
      cases dt with
      | some e =>
        simp only [newPair, Proc.openFd_fst, Proc.table_openFd, Proc.table_closeFd, Proc.dupFd, ha,
          Option.getD_some, newUnixConn_some e (FdTable.lowestFree_nonneg _),
          newUnixConn_none (FdTable.lowestFree_nonneg _)]
        exact ⟨fun _ => ((hA4.close_own hfb).close_own hfc).lookup_eq
          fun _ ⟨⟨⟨h, hna⟩, hnb⟩, hnc⟩ => h.elim hnc (·.elim hnb (·.elim hna id)),
          fun _ _ h => by cases h⟩
      | none =>
        -- `dupont`: the duplicate `d` of `b`, with `b` closed
        simp only [newPair, Proc.openFd_fst, Proc.table_openFd, Proc.table_closeFd, Proc.dupFd, ha,
          hb4, Option.getD_some, newUnixConn_none (FdTable.lowestFree_nonneg _)]
        have hca := FdTable.lowestFree_ne_of_lookup ha
        have hc4 := (FdTable.lookup_close _ _ _).trans ((if_neg hca).trans
          (FdTable.lookup_install_self
            (((p.table.install (.sock 0)).2.install (.sock 1)).2) (.sock 0)))
        have hdc := FdTable.lowestFree_ne_of_lookup hc4
        have hdb := FdTable.lowestFree_ne_of_lookup hb4
        have hfd := (hA4.install (.sock 1)).fresh _ (.inl rfl)
        refine ⟨fun ⟨_, h⟩ => (by cases h), fun c d h => ?_⟩
        cases h
        refine ⟨((hA4.install (.sock 1)).close_own hfb).mono (fun fd h => ?_)
          (fun fd h => h.elim (· ▸ hfc) (· ▸ hfd)), ?_, ?_⟩
        · rcases h with ⟨hd | ⟨hc | hb' | ha' | hF, hna⟩, hnb⟩
          exacts [.inr hd, .inl hc, absurd hb' hnb, absurd ha' hna, hF.elim]
        · rw [FdTable.lookup_close, if_neg hcb, FdTable.lookup_install, if_neg hdc.symm, hc4]
        · rw [FdTable.lookup_close, if_neg hdb, FdTable.lookup_install_self]

end Spacetest
