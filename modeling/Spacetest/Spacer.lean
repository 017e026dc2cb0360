import Spacetest.Uds

/-!
# The spacer service: creating namespaces

`Spacemaker.Room` creates flat namespaces, one `newNamespace` call per requested type;
`Spacemaker.Subspace` starts a child service in new user and PID namespaces.

* `validSpaces`, `flatTypes`, `RoomsRequest.wants`;
* `roomUnshare` (the `unshare` closure) and `Spacemaker.room`. The kernel's side of each
  `newNamespace` call — a fresh descriptor or an error — is a function of the namespace type;
* `unshare_calls`, `unshare_get`, `unshare_errmsg`: what the six `unshare` calls leave behind;
* **`Spacemaker.room_spec`**: refusal before any call, one call per requested type, and on a
  failure an error naming exactly the failed types after every obtained descriptor is closed;
* `SubspaceOs`, `subspaceAfterPair`, `Spacemaker.subspace`: the operations `Subspace`
  performs, each of which may fail, its deferred closes, the pidfd of the started child, and the
  `Start` that never returns without a user namespace. `subspace_panics_or_hangs` runs it where
  `NewPair` fails, and where only a PID namespace was asked for.
-/

namespace Spacetest

/-- The flat namespace types, in the order `Room` creates them. -/
def flatTypes : List NsType := [.cgroup, .ipc, .mnt, .net, .time, .uts]

/-- `validSpaces`: the `CLONE_NEW*` flags of the flat namespace types. -/
def validSpaces : UInt64 :=
  NsType.cgroup.flag ||| NsType.ipc.flag ||| NsType.mnt.flag ||| NsType.net.flag |||
    NsType.time.flag ||| NsType.uts.flag

/-- Whether a request asks for namespaces of type `t`: `req.Spaces&typ != 0`. -/
def RoomsRequest.wants (req : RoomsRequest) (t : NsType) : Bool := req.spaces &&& t.flag != 0

/-- `errmsg += ","` where `errmsg` is not empty, then `errmsg += more`. -/
def appendErr (errmsg more : String) : String :=
  (if errmsg ≠ "" then errmsg ++ "," else errmsg) ++ more

/-- What `Room`'s `unshare` closure works on: the response being filled and the error text so
far, and, for the model, the types `newNamespace` was called for. -/
structure RoomState where
  resp : RoomsResponse := {}
  errmsg : String := ""
  calls : List NsType := []

/-- `Room`'s `unshare` closure for the namespace type `t`: nothing unless requested, otherwise
the descriptor `newNamespace` returns goes to the field of `t`, or its error to `errmsg`. -/
def roomUnshare (newNamespace : NsType → Except String Int) (req : RoomsRequest)
    (st : RoomState) (t : NsType) : RoomState :=
  if req.wants t then
    match newNamespace t with
    | .error e =>
      { st with calls := st.calls ++ [t], errmsg := appendErr st.errmsg (name t ++ ":" ++ e) }
    | .ok fd => { st with calls := st.calls ++ [t], resp := st.resp.set fd t }
  else st

/-- What one `Room` call did: its response, the types it called `newNamespace` for, in order,
and the descriptors it closed, in order. -/
structure RoomRun where
  resp : Response
  calls : List NsType
  closed : List Int

/-- `Spacemaker.Room`. -/
def Spacemaker.room (newNamespace : NsType → Except String Int) (req : RoomsRequest) : RoomRun :=
  if req.spaces &&& ~~~validSpaces ≠ 0 then ⟨.error ⟨"out of space"⟩, [], []⟩
  else if req.spaces &&& validSpaces = 0 then ⟨.error ⟨"no space requested"⟩, [], []⟩
  else
    let st := flatTypes.foldl (roomUnshare newNamespace req) {}
    if st.errmsg ≠ "" then ⟨.error ⟨st.errmsg⟩, st.calls, st.resp.fields.filter (0 < ·)⟩
    else ⟨.rooms st.resp, st.calls, []⟩

/-! ## The six `unshare` calls -/

section Unshare

variable (newNamespace : NsType → Except String Int) (req : RoomsRequest)

/-- The descriptor a `Room` request ends with for `t`: what the call returned, if `t` was
requested and the call succeeded, and 0 otherwise. -/
def roomFd (t : NsType) : Int :=
  if req.wants t then
    match newNamespace t with
    | .ok fd => fd
    | .error _ => 0
  else 0

/-- The requested types whose call failed, with the error texts, in order. -/
def roomFailures : List (NsType × String) :=
  (flatTypes.filter req.wants).filterMap fun t =>
    match newNamespace t with
    | .error e => some (t, e)
    | .ok _ => none

/-- The descriptors the successful calls returned, in order. -/
def roomSuccesses : List Int :=
  (flatTypes.filter req.wants).filterMap fun t => (newNamespace t).toOption

theorem unshare_calls (st : RoomState) (ts : List NsType) :
    (ts.foldl (roomUnshare newNamespace req) st).calls = st.calls ++ ts.filter req.wants := by
  induction ts generalizing st with
  | nil => simp
  | cons t ts ih =>
    rw [List.foldl_cons, ih]
    unfold roomUnshare
    cases hw : req.wants t
    · simp [hw]
    · cases newNamespace t <;> simp [hw]

theorem unshare_errmsg (st : RoomState) (ts : List NsType) :
    (ts.foldl (roomUnshare newNamespace req) st).errmsg =
      ((ts.filter req.wants).filterMap fun t =>
        match newNamespace t with
        | .error e => some (name t ++ ":" ++ e)
        | .ok _ => none).foldl appendErr st.errmsg := by
  induction ts generalizing st with
  | nil => rfl
  | cons t ts ih =>
    rw [List.foldl_cons, ih]
    unfold roomUnshare
    cases hw : req.wants t
    · simp [hw]
    · cases h : newNamespace t <;> simp [hw, h, List.filterMap_cons]

theorem unshare_get (st : RoomState) (ts : List NsType) (hts : ∀ t ∈ ts, t ∈ flatTypes)
    (hnd : ts.Nodup) (t : NsType) :
    (ts.foldl (roomUnshare newNamespace req) st).resp.get t =
      if t ∈ ts ∧ req.wants t then
        match newNamespace t with
        | .ok fd => fd
        | .error _ => st.resp.get t
      else st.resp.get t := by
  induction ts generalizing st with
  | nil => simp
  | cons t' ts ih =>
    obtain ⟨ht', hnd⟩ := List.nodup_cons.mp hnd
    rw [List.foldl_cons, ih _ (fun u hu => hts u (.tail _ hu)) hnd]
    have hflat : roomsSwitch.takes t' = true := by
      have := hts t' (.head _); simp [flatTypes] at this; rcases this with h | h | h | h | h | h <;>
        subst h <;> rfl
    unfold roomUnshare
    by_cases htt : t = t'
    · subst htt
      have hself : ∀ r fd, (RoomsResponse.set r fd t).get t = fd :=
        fun r fd => roomsSwitch.get_set_self r t fd hflat
      cases hw : req.wants t <;> cases h : newNamespace t <;> simp [hw, h, ht', hself]
    · have hother : ∀ r fd, (RoomsResponse.set r fd t').get t = r.get t :=
        fun r fd => roomsSwitch.get_set_other r t' t fd htt
      cases hw : req.wants t' <;> cases h : newNamespace t' <;> simp [hw, h, htt, hother]

end Unshare

theorem appendErr_ne_empty {m : String} (hm : m ≠ "") (x : String) : appendErr m x ≠ "" := by
  intro h
  have hlen := congrArg String.length h
  simp only [appendErr, if_pos hm, String.length_append] at hlen
  have h1 : ",".length = 1 := rfl
  have h0 : "".length = 0 := rfl
  omega

theorem foldl_appendErr_ne_empty {m : String} (hm : m ≠ "") (xs : List String) :
    xs.foldl appendErr m ≠ "" := by
  induction xs generalizing m with
  | nil => exact hm
  | cons x xs ih => exact ih (appendErr_ne_empty hm x)

theorem foldl_appendErr_go {m : String} (hm : m ≠ "") (xs : List String) :
    xs.foldl appendErr m = String.intercalate.go m "," xs := by
  induction xs generalizing m with
  | nil => rfl
  | cons x xs ih =>
    rw [List.foldl_cons, ih (appendErr_ne_empty hm x)]
    simp [appendErr, hm, String.intercalate.go]

/-- **The accumulated error text is the comma-separated list of the entries.** -/
theorem foldl_appendErr_empty (xs : List String) (hxs : ∀ x ∈ xs, x ≠ "") :
    xs.foldl appendErr "" = String.intercalate "," xs := by
  cases xs with
  | nil => rfl
  | cons x xs =>
    rw [List.foldl_cons, show appendErr "" x = x by simp [appendErr],
      foldl_appendErr_go (hxs x (.head _)) xs]
    rfl

/-! ## `Room` -/

section Room

variable (newNamespace : NsType → Except String Int) (req : RoomsRequest)

/-- The response `Room` gives when every requested call succeeded. -/
def roomGranted : RoomsResponse :=
  ⟨roomFd newNamespace req .cgroup, roomFd newNamespace req .ipc, roomFd newNamespace req .mnt,
    roomFd newNamespace req .net, roomFd newNamespace req .time, roomFd newNamespace req .uts⟩

theorem unshare_resp : (flatTypes.foldl (roomUnshare newNamespace req) {}).resp =
    roomGranted newNamespace req := by
  have h : ∀ t ∈ flatTypes, (flatTypes.foldl (roomUnshare newNamespace req) {}).resp.get t =
      roomFd newNamespace req t := by
    intro t ht
    have hzero : ({} : RoomsResponse).get t = 0 := by cases t <;> rfl
    rw [unshare_get newNamespace req {} flatTypes (fun _ h => h) (by decide), roomFd]
    cases req.wants t <;> cases newNamespace t <;> simp [ht, hzero]
  generalize (flatTypes.foldl (roomUnshare newNamespace req) {}).resp = r at h
  obtain ⟨c, i, m, n, ti, u⟩ := r
  unfold roomGranted
  rw [← h .cgroup (by decide), ← h .ipc (by decide), ← h .mnt (by decide), ← h .net (by decide),
    ← h .time (by decide), ← h .uts (by decide)]
  rfl

theorem filter_roomFd (hfresh : ∀ t fd, newNamespace t = .ok fd → 0 < fd) (ts : List NsType) :
    (ts.map (roomFd newNamespace req)).filter (0 < ·) =
      (ts.filter req.wants).filterMap fun t => (newNamespace t).toOption := by
  induction ts with
  | nil => rfl
  | cons t ts ih =>
    rw [List.map_cons]
    cases hw : req.wants t
    · have : roomFd newNamespace req t = 0 := by simp [roomFd, hw]
      simp [this, hw, ih]
    · cases h : newNamespace t with
      | error e =>
        have : roomFd newNamespace req t = 0 := by simp [roomFd, hw, h]
        simp [this, hw, h, ih, List.filterMap_cons, Except.toOption]
      | ok fd =>
        have : roomFd newNamespace req t = fd := by simp [roomFd, hw, h]
        simp [this, hw, h, ih, hfresh t fd h, List.filterMap_cons, Except.toOption]

theorem unshare_errmsg_eq : (flatTypes.foldl (roomUnshare newNamespace req) {}).errmsg =
    ((roomFailures newNamespace req).map fun f => name f.1 ++ ":" ++ f.2).foldl appendErr "" := by
  rw [unshare_errmsg, roomFailures, List.map_filterMap]
  congr 2
  funext t
  cases newNamespace t <;> rfl

theorem roomEntry_ne_empty (f : NsType × String) : name f.1 ++ ":" ++ f.2 ≠ "" := by
  intro h
  have hlen := congrArg String.length h
  simp only [String.length_append] at hlen
  have : ":".length = 1 := rfl
  have h0 : "".length = 0 := rfl
  omega

/-- **`Room`.** A request with a type outside the flat ones, or with none of them, is refused
before any `newNamespace` call. Otherwise `newNamespace` is called once for each requested type,
in order, and for no other. If every call succeeded, the response holds each descriptor in the
field of its type and 0 in the others; if some failed, the error names exactly the failed types
with their reasons, and every descriptor the successful calls returned has been closed. -/
theorem Spacemaker.room_spec (hfresh : ∀ t fd, newNamespace t = .ok fd → 0 < fd) :
    (req.spaces &&& ~~~validSpaces ≠ 0 ∨ req.spaces &&& validSpaces = 0 →
      (room newNamespace req).calls = [] ∧ (room newNamespace req).closed = [] ∧
        ∃ e, (room newNamespace req).resp = .error e) ∧
    (req.spaces &&& ~~~validSpaces = 0 → req.spaces &&& validSpaces ≠ 0 →
      (room newNamespace req).calls = flatTypes.filter req.wants ∧
      (roomFailures newNamespace req = [] →
        (room newNamespace req).resp = .rooms (roomGranted newNamespace req) ∧
          (room newNamespace req).closed = []) ∧
      (roomFailures newNamespace req ≠ [] →
        (room newNamespace req).resp = .error ⟨String.intercalate ","
          ((roomFailures newNamespace req).map fun f => name f.1 ++ ":" ++ f.2)⟩ ∧
        (room newNamespace req).closed = roomSuccesses newNamespace req)) := by
  refine ⟨fun h => ?_, fun hin hne => ?_⟩
  · rcases h with h | h
    · simp [Spacemaker.room, h]
    · by_cases h' : req.spaces &&& ~~~validSpaces = 0 <;> simp [Spacemaker.room, h, h']
  have hcalls := unshare_calls newNamespace req {} flatTypes
  have hmsg := unshare_errmsg_eq newNamespace req
  have hresp := unshare_resp newNamespace req
  simp only [Spacemaker.room, hin, hne, ne_eq, not_true_eq_false, not_false_eq_true, if_false]
  refine ⟨by split <;> simpa using hcalls, fun hf => ?_, fun hf => ?_⟩
  · rw [hf] at hmsg
    simp [hmsg, hresp]
  · obtain ⟨f, fs, hfs⟩ := List.exists_cons_of_ne_nil hf
    have hne' : (flatTypes.foldl (roomUnshare newNamespace req) {}).errmsg ≠ "" := by
      rw [hmsg, hfs, List.map_cons, List.foldl_cons]
      exact foldl_appendErr_ne_empty (by simpa [appendErr] using roomEntry_ne_empty f) _
    rw [if_pos hne', hmsg, foldl_appendErr_empty _ fun x hx => by
      obtain ⟨f, -, rfl⟩ := List.mem_map.mp hx; exact roomEntry_ne_empty f, hresp]
    refine ⟨rfl, ?_⟩
    exact filter_roomFd newNamespace req hfresh flatTypes

end Room

/-! ## `Subspace` -/

/-- What the operations of `Subspace` do, `none` for success or the error text: those of
`NewPair`, then `dupont.File()`, starting the child, `dupond.File()`, `unix.Dup`, and opening
the child's new user and PID namespaces, whose inode numbers are `userIno` and `pidIno`. A
started child has the PID `childPid`. -/
structure SubspaceOs extends PairOs where
  dupontFile : Option String := none
  start : Option String := none
  dupondFile : Option String := none
  dup : Option String := none
  openUser : Option String := none
  openPid : Option String := none
  userIno : Nat := 0
  pidIno : Nat := 0
  childPid : Nat := 0
  deriving DecidableEq, Repr

/-- `unix.Open` of one of the child's namespaces, when it was requested; 0 when it was not. -/
def openChildNs (requested : Bool) (res : Option String) (o : Obj) (p : Proc) :
    Except String (Int × Proc) :=
  if requested then
    match res with
    | some e => .error e
    | none => .ok (p.openFd o)
  else .ok (0, p)

/-- `Subspace` from `dupont.File()` on, given the connections `dupond` and `dupont` of
`NewPair`: the response, and the descriptors the later `defer`s close, in the order they run;
`none` when `subspace.Start()` never returns.

`os.start` is a `Start` that fails before the child runs. Without `CLONE_NEWUSER`, `forkExec`
clones with `CLONE_VFORK`, which suspends the parent until the child execs, and the child first
waits on a pipe for the `UidMappings` only the parent writes: `Start` never returns. A started
child comes with the pidfd `os.Process` holds until `Wait`, which the goroutine started next
only gets past when the child exits; it is still open when `Subspace` returns. `Start`'s own
descriptors (`/dev/null` for stdin, the status pipe, the ID-map pipe) are closed before it
returns and are left out. -/
def subspaceAfterPair (os : SubspaceOs) (req : SubspaceRequest) (dupond dupont : Int)
    (p : Proc) : Option (Response × List Int × Proc) :=
  match os.dupontFile with
  | some e => some (.error ⟨"failed to fetch service *os.File, reason: " ++ e⟩, [], p)
  | none =>
    let (dupontf, p) := p.dupFd dupont
    match os.start with
    | some e => some (.error ⟨"failed to start sub service, reason: " ++ e⟩, [dupontf], p)
    | none =>
      if req.spaces &&& NsType.user.flag = 0 then none
      else
      let p := (p.openFd (.pidfd os.childPid)).2
      match os.dupondFile with
      | some e =>
        some (.error ⟨"failed to fetch client *os.File, reason: " ++ e⟩, [dupontf], p)
      | none =>
        let (dupondf, p) := p.dupFd dupond
        match os.dup with
        | some e =>
          some (.error ⟨"failed to fetch client fd, reason: " ++ e⟩, [dupondf, dupontf], p)
        | none =>
          let (connfd, p) := p.dupFd dupondf
          match openChildNs (req.spaces &&& NsType.user.flag != 0) os.openUser
              (.ns .user os.userIno) p with
          | .error e =>
            some (.error ⟨"failed to determine new user namespace, reason: " ++ e⟩,
              [dupondf, dupontf], p.closeFd connfd)
          | .ok (userfd, p) =>
            match openChildNs (req.spaces &&& NsType.pid.flag != 0) os.openPid
                (.ns .pid os.pidIno) p with
            | .error e =>
              some (.error ⟨"failed to determine new PID namespace, reason: " ++ e⟩,
                [dupondf, dupontf], (p.closeFd userfd).closeFd connfd)
            | .ok (pidfd, p) =>
              some (.subspace ⟨⟨userfd, pidfd⟩, connfd⟩, [dupondf, dupontf], p)

/-- `Spacemaker.Subspace`, `none` when it never returns. Right after `NewPair` it defers closing
both connections; when `NewPair` failed, both are nil and the deferred `dupond.Close()`
dereferences nil. -/
def Spacemaker.subspace (os : SubspaceOs) (req : SubspaceRequest) (p : Proc) :
    Option (Outcome Response × Proc) :=
  if req.spaces &&& ~~~(NsType.user.flag ||| NsType.pid.flag) ≠ 0 then
    some (.ret (.error ⟨"out of space"⟩), p)
  else if req.spaces &&& (NsType.user.flag ||| NsType.pid.flag) = 0 then
    some (.ret (.error ⟨"no space requested"⟩), p)
  else
    match newPair os.toPairOs p with
    | (.error _, p) =>
      some (.panic "runtime error: invalid memory address or nil pointer dereference", p)
    | (.ok (dupond, dupont), p) =>
      match subspaceAfterPair os req dupond dupont p with
      | none => none
      | some (resp, deferred, p) =>
        some (.ret resp, ((p.closeAll deferred).closeFd dupond).closeFd dupont)

/-- A process with its standard descriptors 0, 1 and 2 open. -/
def stdioProc : Proc := ⟨⟨[(2, .file 2), (1, .file 1), (0, .file 0)]⟩, []⟩

/-- When the socket pair cannot be created, `Subspace` panics instead of answering. When only a
PID namespace is requested, `Subspace` never answers. -/
theorem subspace_panics_or_hangs :
    (Spacemaker.subspace { socketpair := some "too many open files" } ⟨NsType.user.flag⟩
        stdioProc).map Prod.fst =
        some (.panic "runtime error: invalid memory address or nil pointer dereference") ∧
      Spacemaker.subspace {} ⟨NsType.pid.flag⟩ stdioProc = none := by
  decide

/-- A kernel where only network namespaces can be created, as descriptor 7. -/
def netOnlyNamespace (t : NsType) : Except String Int :=
  if t = .net then .ok 7 else .error "operation not permitted"

theorem room_spec_net_uts :
    (∀ t fd, netOnlyNamespace t = .ok fd → 0 < fd) ∧
      (Spacemaker.room netOnlyNamespace ⟨NsType.net.flag ||| NsType.uts.flag⟩).resp =
        .error ⟨String.intercalate "," ((roomFailures netOnlyNamespace
          ⟨NsType.net.flag ||| NsType.uts.flag⟩).map fun f => name f.1 ++ ":" ++ f.2)⟩ ∧
      (Spacemaker.room netOnlyNamespace ⟨NsType.net.flag ||| NsType.uts.flag⟩).closed =
        roomSuccesses netOnlyNamespace ⟨NsType.net.flag ||| NsType.uts.flag⟩ := by
  have hfresh : ∀ t fd, netOnlyNamespace t = .ok fd → 0 < fd := by
    intro t fd h
    cases t <;> simp [netOnlyNamespace] at h
    omega
  exact ⟨hfresh, ((Spacemaker.room_spec netOnlyNamespace _ hfresh).2 (by decide) (by decide)).2.2
    (by decide)⟩

end Spacetest
