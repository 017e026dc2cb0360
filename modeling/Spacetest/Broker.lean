import Spacetest.Exchange

/-!
# The broker's process: creating namespaces

`Spacemaker.Room` calls `newNamespace` once for each requested type, each time on a throw-away
goroutine, and keeps the descriptors it returns; `Spacemaker.Subspace` starts a child in new user
and PID namespaces. Here both run over the broker's descriptor table, with the kernel's answers
to each call as data.

* `NewNsOs`, `Spacemaker.newNamespace`: the calls one `newNamespace` makes, and what it leaves
  in the table. **`newNamespace_spec`**: an error leaves the table as it was; success adds one
  positive descriptor, for the namespace the thread shows after its `unshare` (`shownIno`: for
  time, still the broker's own), and nothing else;
* `roomUnshareOn`, `Spacemaker.roomOn`: `Room` over the process, its `unshare` closure handling
  each answer as `roomUnshare` does;
* `RoomInv`: what `Room`'s loop keeps, relative to the table on entry;
* `roomOn_cases`, and from it and `RoomInv` **`roomOn_spec`**: a refused request, or a failed
  call, leaves the broker's descriptors as they were (`roomOn_error_keeps`); a granted request
  adds exactly the response's positive fields, each a descriptor that was free, for a namespace
  of its field's type, and gives a positive field to every requested type and to no other
  (`roomOn_rooms`);
* `subspace_cases`, and from it, `newPair_spec` and `subspaceAfterPair_accounts`,
  **`subspace_accounts`**: `Subspace` over every pattern of kernel answers, with `FdTable.Adds`
  naming the descriptors a call added. It never returns when the child is to start without a
  user namespace; an error leaves every descriptor as it was, but for the pidfd of a child that
  started; and a granted subspace adds the child's pidfd and the descriptors of its response;
* **`roomsExchange_spacemaker`**: the rooms exchange with a `Spacemaker` broker, end to end.
-/

namespace Spacetest

/-- What the kernel calls of one `newNamespace` call do, `none` for success or the error text:
opening the thread's namespace, `unshare(CLONE_FS)` (mount namespaces only), `unshare` of the
type, the remount of `/` as private (mount namespaces only), and opening the new namespace; and
the inode numbers of the thread's namespace and of the new one. -/
structure NewNsOs where
  openCaller : Option String := none
  unshareFs : Option String := none
  unshare : Option String := none
  mount : Option String := none
  openNew : Option String := none
  callerIno : Nat := 0
  newIno : Nat := 0
  deriving DecidableEq, Repr

/-- The inode number of the namespace `/proc/thread-self/ns/<type>` shows after the `unshare`:
the new one, except for a time namespace. `unshare(CLONE_NEWTIME)` creates the new time
namespace for the thread's children only (`time_for_children`); the thread's own stays the
caller's. -/
def NewNsOs.shownIno (os : NewNsOs) (typ : NsType) : Nat :=
  if typ = .time then os.callerIno else os.newIno

/-- `Spacemaker.newNamespace(typ)` over the broker's process. It runs on a throw-away goroutine
that stays locked to its thread: the deferred `unix.Setns(callerns, 0)` moves only that thread,
and the deferred close of `callerns` runs on every path after the open. `newns` is what
`/proc/thread-self/ns/<type>` shows then, for a time namespace the caller's own. -/
def Spacemaker.newNamespace (os : NewNsOs) (typ : NsType) (p : Proc) :
    Except String Int × Proc :=
  match os.openCaller with
  | some e => (.error e, p)
  | none =>
    let (callerns, p) := p.openFd (.ns typ os.callerIno)
    let (r, p) : Except String Int × Proc :=
      match (if typ = .mnt then os.unshareFs else none) with
      | some e => (.error e, p)
      | none =>
        match os.unshare with
        | some e => (.error e, p)
        | none =>
          match (if typ = .mnt then os.mount else none) with
          | some e => (.error e, p)
          | none =>
            match os.openNew with
            | some e => (.error e, p)
            | none =>
              (.ok (p.openFd (.ns typ (os.shownIno typ))).1,
                (p.openFd (.ns typ (os.shownIno typ))).2)
    (r, p.closeFd callerns)

/-- **`newNamespace` leaks nothing.** An error leaves the table as it was; success adds one
descriptor, positive and free before, for the namespace the thread shows after the `unshare`. -/
theorem newNamespace_spec (os : NewNsOs) (typ : NsType) (p : Proc) :
    (∃ e, (Spacemaker.newNamespace os typ p).1 = .error e ∧
      (Spacemaker.newNamespace os typ p).2.table = p.table) ∨
    (∃ fd, (Spacemaker.newNamespace os typ p).1 = .ok fd ∧ 0 < fd ∧ p.table.lookup fd = none ∧
      (Spacemaker.newNamespace os typ p).2.table =
        ⟨(fd, .ns typ (os.shownIno typ)) :: p.table.entries⟩) := by
  have hclosed : ((p.openFd (.ns typ os.callerIno)).2.closeFd p.table.lowestFree).table = p.table :=
    FdTable.close_install _ _
  unfold Spacemaker.newNamespace
  split
  · exact .inl ⟨_, rfl, rfl⟩
  · simp only [Proc.openFd_fst]
    split
    · exact .inl ⟨_, rfl, hclosed⟩
    · split
      · exact .inl ⟨_, rfl, hclosed⟩
      · split
        · exact .inl ⟨_, rfl, hclosed⟩
        · split
          · exact .inl ⟨_, rfl, hclosed⟩
          · exact .inr ⟨_, rfl, FdTable.lowestFree_install_pos _ _,
              (p.table.keeps_install _).lookup_eq_none (FdTable.lookup_lowestFree _),
              FdTable.close_install_install _ _ _⟩

/-! ## `Room` over the broker's process -/

/-- `Room`'s `unshare` closure over the broker's process: for a requested type, `newNamespace`
runs with the kernel's answers `os t`, and its result is handled as `roomUnshare` handles it. -/
def roomUnshareOn (os : NsType → NewNsOs) (req : RoomsRequest) (s : RoomState × Proc)
    (t : NsType) : RoomState × Proc :=
  if req.wants t then
    (roomUnshare (fun _ => (Spacemaker.newNamespace (os t) t s.2).1) req s.1 t,
      (Spacemaker.newNamespace (os t) t s.2).2)
  else s

/-- `Spacemaker.Room` over the broker's process. -/
def Spacemaker.roomOn (os : NsType → NewNsOs) (req : RoomsRequest) (p : Proc) :
    Response × Proc :=
  if req.spaces &&& ~~~validSpaces ≠ 0 then (.error ⟨"out of space"⟩, p)
  else if req.spaces &&& validSpaces = 0 then (.error ⟨"no space requested"⟩, p)
  else
    let (st, p) := flatTypes.foldl (roomUnshareOn os req) ({}, p)
    if st.errmsg ≠ "" then (.error ⟨st.errmsg⟩, p.closeAll (st.resp.fields.filter (0 < ·)))
    else (.rooms st.resp, p)

section Loop

variable (os : NsType → NewNsOs) (req : RoomsRequest)

theorem roomUnshareOn_cases (s : RoomState × Proc) (t : NsType) :
    (¬ req.wants t ∧ roomUnshareOn os req s t = s) ∨
    (req.wants t ∧ ∃ e p, roomUnshareOn os req s t =
      ({ s.1 with calls := s.1.calls ++ [t], errmsg := appendErr s.1.errmsg (name t ++ ":" ++ e) },
        p) ∧ p.table = s.2.table) ∨
    (req.wants t ∧ ∃ fd p, 0 < fd ∧ s.2.table.lookup fd = none ∧ roomUnshareOn os req s t =
      ({ s.1 with calls := s.1.calls ++ [t], resp := s.1.resp.set fd t }, p) ∧
      p.table = ⟨(fd, .ns t ((os t).shownIno t)) :: s.2.table.entries⟩) := by
  unfold roomUnshareOn
  by_cases hw : req.wants t
  · rcases newNamespace_spec (os t) t s.2 with ⟨e, he, htab⟩ | ⟨fd, hfd, hpos, hfree, htab⟩
    · exact .inr (.inl ⟨hw, e, _, by simp [hw, he, roomUnshare], htab⟩)
    · exact .inr (.inr ⟨hw, fd, _, hpos, hfree, by simp [hw, hfd, roomUnshare], htab⟩)
  · exact .inl ⟨hw, if_neg hw⟩

theorem roomUnshareOn_get_other (s : RoomState × Proc) {t t' : NsType} (htt : t' ≠ t) :
    (roomUnshareOn os req s t).1.resp.get t' = s.1.resp.get t' := by
  rcases roomUnshareOn_cases os req s t with ⟨-, h⟩ | ⟨-, e, p, h, -⟩ | ⟨-, fd, p, -, -, h, -⟩ <;>
    rw [h]
  exact roomsSwitch.get_set_other s.1.resp t t' fd htt

theorem roomUnshareOn_errmsg (s : RoomState × Proc) (t : NsType) :
    (s.1.errmsg ≠ "" → (roomUnshareOn os req s t).1.errmsg ≠ "") ∧
    (req.wants t → roomsSwitch.takes t →
      (roomUnshareOn os req s t).1.errmsg ≠ "" ∨ 0 < (roomUnshareOn os req s t).1.resp.get t) := by
  have hentry : ∀ (m e : String), appendErr m (name t ++ ":" ++ e) ≠ "" := fun m e => by
    by_cases hm : m = ""
    · subst hm
      simpa [appendErr] using roomEntry_ne_empty (t, e)
    · exact appendErr_ne_empty hm _
  rcases roomUnshareOn_cases os req s t with
    ⟨hw, h⟩ | ⟨-, e, p, h, -⟩ | ⟨-, fd, p, hpos, -, h, -⟩ <;> rw [h]
  · exact ⟨id, fun hw' => absurd hw' hw⟩
  · exact ⟨fun _ => hentry _ _, fun _ _ => .inl (hentry _ _)⟩
  · refine ⟨id, fun _ hflat => .inr ?_⟩
    rwa [show (s.1.resp.set fd t).get t = fd from roomsSwitch.get_set_self s.1.resp t fd hflat]

/-- What `Room`'s loop keeps, relative to the broker's table `T` on entry: a nonzero field
belongs to a requested type and holds a positive descriptor, free in `T`, for the namespace
`newNamespace`'s thread showed for its type; and every descriptor that differs from `T` is held
by a field. -/
structure RoomInv (T : FdTable) (s : RoomState × Proc) : Prop where
  field : ∀ t, s.1.resp.get t ≠ 0 → 0 < s.1.resp.get t ∧ req.wants t ∧
    T.lookup (s.1.resp.get t) = none ∧
    s.2.table.lookup (s.1.resp.get t) = some (.ns t ((os t).shownIno t))
  held : ∀ fd, s.2.table.lookup fd ≠ T.lookup fd → ∃ t, 0 < fd ∧ s.1.resp.get t = fd

/-- **One turn keeps `RoomInv`**, for a flat type whose field is still empty. -/
theorem RoomInv.step {T : FdTable} {s : RoomState × Proc} {t : NsType} (hinv : RoomInv os req T s)
    (hflat : roomsSwitch.takes t = true) (hzero : s.1.resp.get t = 0) :
    RoomInv os req T (roomUnshareOn os req s t) := by
  rcases roomUnshareOn_cases os req s t with ⟨-, h⟩ | ⟨-, e, p, h, htab⟩ |
    ⟨hw, fd, p, hpos, hfree, h, htab⟩ <;> rw [h]
  · exact hinv
  · exact ⟨fun t' ht' => by rw [htab]; exact hinv.field t' ht',
      fun fd hfd => hinv.held fd (by rwa [htab] at hfd)⟩
  · have hlook : ∀ x, p.table.lookup x =
        if x = fd then some (.ns t ((os t).shownIno t)) else s.2.table.lookup x := fun x => by
      rw [htab]
      exact FdTable.lookup_cons_eq
    have hget : ∀ t', (s.1.resp.set fd t).get t' = if t' = t then fd else s.1.resp.get t' :=
      fun t' => by
        by_cases htt : t' = t
        · subst htt
          rw [if_pos rfl]
          exact roomsSwitch.get_set_self s.1.resp t' fd hflat
        · rw [if_neg htt]
          exact roomsSwitch.get_set_other s.1.resp t t' fd htt
    -- the new descriptor was free on entry: otherwise a field would hold it already
    have hTfree : T.lookup fd = none := by
      by_contra hT
      obtain ⟨t', -, ht'⟩ := hinv.held fd (by rw [hfree]; exact fun h => hT h.symm)
      have hopen := (hinv.field t' (by omega)).2.2.2
      rw [ht', hfree] at hopen
      cases hopen
    refine ⟨fun t' ht' => ?_, fun x hx => ?_⟩
    · dsimp only at ht' ⊢
      rw [hget] at ht' ⊢
      by_cases htt : t' = t
      · subst htt
        rw [if_pos rfl, hlook, if_pos rfl]
        exact ⟨hpos, hw, hTfree, rfl⟩
      · rw [if_neg htt] at ht' ⊢
        obtain ⟨hpos', hw', hT', hs'⟩ := hinv.field t' ht'
        have hne : s.1.resp.get t' ≠ fd := fun he => by rw [he, hfree] at hs'; cases hs'
        rw [hlook, if_neg hne]
        exact ⟨hpos', hw', hT', hs'⟩
    · dsimp only at hx ⊢
      by_cases hxfd : x = fd
      · exact ⟨t, hxfd ▸ hpos, by rw [hget, if_pos rfl, hxfd]⟩
      · rw [hlook, if_neg hxfd] at hx
        obtain ⟨t', hxpos, ht'⟩ := hinv.held x hx
        have htt : t' ≠ t := fun he => by subst he; omega
        exact ⟨t', hxpos, by rw [hget, if_neg htt, ht']⟩

/-! ### The whole loop -/

theorem foldl_roomUnshareOn_get_other (ts : List NsType) {t : NsType} (ht : t ∉ ts)
    (s : RoomState × Proc) :
    (ts.foldl (roomUnshareOn os req) s).1.resp.get t = s.1.resp.get t := by
  induction ts generalizing s with
  | nil => rfl
  | cons u ts ih =>
    rw [List.foldl_cons, ih (fun h => ht (.tail _ h)),
      roomUnshareOn_get_other os req s (by rintro rfl; exact ht (.head _))]

theorem foldl_roomUnshareOn_errmsg (ts : List NsType) (s : RoomState × Proc)
    (h : s.1.errmsg ≠ "") : (ts.foldl (roomUnshareOn os req) s).1.errmsg ≠ "" := by
  induction ts generalizing s with
  | nil => exact h
  | cons t ts ih => exact ih _ ((roomUnshareOn_errmsg os req s t).1 h)

/-- **The loop keeps `RoomInv`**, over distinct flat types whose fields start empty. -/
theorem RoomInv.foldl {T : FdTable} (ts : List NsType) (hnd : ts.Nodup)
    (hflat : ∀ t ∈ ts, roomsSwitch.takes t = true) (s : RoomState × Proc)
    (hinv : RoomInv os req T s) (hzero : ∀ t ∈ ts, s.1.resp.get t = 0) :
    RoomInv os req T (ts.foldl (roomUnshareOn os req) s) := by
  induction ts generalizing s with
  | nil => exact hinv
  | cons t ts ih =>
    obtain ⟨ht, hnd⟩ := List.nodup_cons.mp hnd
    refine ih hnd (fun u hu => hflat u (.tail _ hu)) _
      (hinv.step os req (hflat t (.head _)) (hzero t (.head _))) fun u hu => ?_
    rw [roomUnshareOn_get_other os req s (by rintro rfl; exact ht hu)]
    exact hzero u (.tail _ hu)

theorem foldl_roomUnshareOn_wants (ts : List NsType) (hnd : ts.Nodup)
    (hflat : ∀ t ∈ ts, roomsSwitch.takes t = true) (s : RoomState × Proc) :
    ∀ t ∈ ts, req.wants t → (ts.foldl (roomUnshareOn os req) s).1.errmsg ≠ "" ∨
      0 < (ts.foldl (roomUnshareOn os req) s).1.resp.get t := by
  induction ts generalizing s with
  | nil => intro t ht; cases ht
  | cons t ts ih =>
    obtain ⟨ht, hnd⟩ := List.nodup_cons.mp hnd
    intro u hu hw
    rw [List.foldl_cons]
    rcases List.mem_cons.mp hu with rfl | hu
    · rcases (roomUnshareOn_errmsg os req s u).2 hw (hflat u (.head _)) with he | hpos
      · exact .inl (foldl_roomUnshareOn_errmsg os req ts _ he)
      · exact .inr (by rwa [foldl_roomUnshareOn_get_other os req ts ht])
    · exact ih hnd (fun v hv => hflat v (.tail _ hv)) _ u hu hw

theorem roomOn_loop (p : Proc) :
    RoomInv os req p.table (flatTypes.foldl (roomUnshareOn os req) ({}, p)) ∧
    ∀ t ∈ flatTypes, req.wants t → (flatTypes.foldl (roomUnshareOn os req) ({}, p)).1.errmsg ≠ "" ∨
      0 < (flatTypes.foldl (roomUnshareOn os req) ({}, p)).1.resp.get t := by
  have hempty : ∀ t, ({} : RoomState).resp.get t = 0 := fun t => by cases t <;> rfl
  have hflat : ∀ t ∈ flatTypes, roomsSwitch.takes t = true := by decide
  exact ⟨RoomInv.foldl os req flatTypes (by decide) hflat ({}, p)
      ⟨fun t h => absurd (hempty t) h, fun _ h => absurd rfl h⟩ fun t _ => hempty t,
    foldl_roomUnshareOn_wants os req flatTypes (by decide) hflat ({}, p)⟩

end Loop

section Room

variable (os : NsType → NewNsOs) (req : RoomsRequest) (p : Proc)

theorem roomOn_cases :
    (∃ e, Spacemaker.roomOn os req p = (.error e, p)) ∨
    ((flatTypes.foldl (roomUnshareOn os req) ({}, p)).1.errmsg ≠ "" ∧
      Spacemaker.roomOn os req p =
        (.error ⟨(flatTypes.foldl (roomUnshareOn os req) ({}, p)).1.errmsg⟩,
          (flatTypes.foldl (roomUnshareOn os req) ({}, p)).2.closeAll
            ((flatTypes.foldl (roomUnshareOn os req) ({}, p)).1.resp.fields.filter (0 < ·)))) ∨
    ((flatTypes.foldl (roomUnshareOn os req) ({}, p)).1.errmsg = "" ∧
      Spacemaker.roomOn os req p = (.rooms (flatTypes.foldl (roomUnshareOn os req) ({}, p)).1.resp,
        (flatTypes.foldl (roomUnshareOn os req) ({}, p)).2)) := by
  unfold Spacemaker.roomOn
  generalize flatTypes.foldl (roomUnshareOn os req) ({}, p) = f
  obtain ⟨st, q⟩ := f
  by_cases hspace : req.spaces &&& ~~~validSpaces ≠ 0
  · exact .inl ⟨_, if_pos hspace⟩
  rw [if_neg hspace]
  by_cases hnone : req.spaces &&& validSpaces = 0
  · exact .inl ⟨_, if_pos hnone⟩
  rw [if_neg hnone]
  by_cases he : st.errmsg ≠ ""
  · exact .inr (.inl ⟨he, if_pos he⟩)
  · exact .inr (.inr ⟨not_not.mp he, if_neg he⟩)

/-- **A refused or failed `Room` leaks nothing**: every descriptor of the broker is as on entry,
as the positive fields are the descriptors the calls created. -/
theorem roomOn_error_keeps {e : ErrorResponse} (h : (Spacemaker.roomOn os req p).1 = .error e)
    (fd : Int) : (Spacemaker.roomOn os req p).2.table.lookup fd = p.table.lookup fd := by
  obtain ⟨hinv, -⟩ := roomOn_loop os req p
  -- a refusal leaves the process as it was, and closes its goal on rewriting
  rcases roomOn_cases os req p with ⟨_, h'⟩ | ⟨-, h'⟩ | ⟨-, h'⟩ <;> rw [h'] at h ⊢
  · generalize flatTypes.foldl (roomUnshareOn os req) ({}, p) = f at hinv ⊢
    have hpos : ∀ fd, fd ∈ f.1.resp.fields.filter (0 < ·) ↔
        ∃ t, 0 < f.1.resp.get t ∧ f.1.resp.get t = fd :=
      fun fd => by rw [← RoomsResponse.encodeFds_fst, RoomsResponse.mem_encodeFds]
    rw [Proc.lookup_closeAll]
    split
    next hmem =>
      obtain ⟨t, htpos, rfl⟩ := (hpos fd).mp hmem
      exact ((hinv.field t htpos.ne').2.2.1).symm
    next hmem =>
      by_contra hne
      obtain ⟨t, hfdpos, rfl⟩ := hinv.held _ hne
      exact hmem ((hpos _).mpr ⟨t, hfdpos, rfl⟩)
  · cases h

/-- **A granted `Room` hands out what it opened.** No field is negative and exactly the flat
types requested have a positive field; each positive field is a descriptor that was free on
entry and refers to the namespace `newNamespace`'s thread showed for the field's type after its
`unshare`; and every descriptor that differs from entry is such a field. -/
theorem roomOn_rooms {r : RoomsResponse} (h : (Spacemaker.roomOn os req p).1 = .rooms r) :
    (∀ t, 0 ≤ r.get t) ∧ (∀ t ∈ flatTypes, 0 < r.get t ↔ req.wants t) ∧
    (∀ t, 0 < r.get t → p.table.lookup (r.get t) = none ∧
      (Spacemaker.roomOn os req p).2.table.lookup (r.get t) = some (.ns t ((os t).shownIno t))) ∧
    ∀ fd, (Spacemaker.roomOn os req p).2.table.lookup fd ≠ p.table.lookup fd →
      ∃ t, 0 < r.get t ∧ r.get t = fd := by
  obtain ⟨hinv, hwants⟩ := roomOn_loop os req p
  rcases roomOn_cases os req p with ⟨_, h'⟩ | ⟨-, h'⟩ | ⟨he, h'⟩ <;> rw [h'] at h ⊢ <;> cases h
  generalize flatTypes.foldl (roomUnshareOn os req) ({}, p) = f at hinv hwants he ⊢
  refine ⟨fun t => ?_, fun t ht => ⟨fun htpos => (hinv.field t htpos.ne').2.1, fun hw => ?_⟩,
    fun t htpos => ⟨(hinv.field t htpos.ne').2.2.1, (hinv.field t htpos.ne').2.2.2⟩,
    fun fd hfd => ?_⟩
  · by_cases hz : f.1.resp.get t = 0
    · exact hz.ge
    · exact (hinv.field t hz).1.le
  · exact (hwants t ht hw).resolve_left (not_not.mpr he)
  · obtain ⟨t, hfdpos, rfl⟩ := hinv.held fd hfd
    exact ⟨t, hfdpos, rfl⟩

end Room

/-- **`Room` leaks nothing and hands out what it opened.** For every request and every pattern
of kernel answers: when `Room` answers with an error, the broker's descriptors are as on entry.
When it grants the rooms, no field is negative and exactly the flat types requested have a
positive field; each positive field is a descriptor that was free on entry and refers to the
namespace `newNamespace`'s thread showed after its `unshare` (`shownIno`): the new one, but for
time the broker's own; and every descriptor that differs from entry is such a field. -/
theorem roomOn_spec (os : NsType → NewNsOs) (req : RoomsRequest) (p : Proc) :
    ((∃ e, (Spacemaker.roomOn os req p).1 = .error e) →
      ∀ fd, (Spacemaker.roomOn os req p).2.table.lookup fd = p.table.lookup fd) ∧
    ∀ r, (Spacemaker.roomOn os req p).1 = .rooms r →
      (∀ t, 0 ≤ r.get t) ∧ (∀ t ∈ flatTypes, 0 < r.get t ↔ req.wants t) ∧
      (∀ t, 0 < r.get t → p.table.lookup (r.get t) = none ∧
        (Spacemaker.roomOn os req p).2.table.lookup (r.get t) = some (.ns t ((os t).shownIno t))) ∧
      ∀ fd, (Spacemaker.roomOn os req p).2.table.lookup fd ≠ p.table.lookup fd →
        ∃ t, 0 < r.get t ∧ r.get t = fd :=
  ⟨fun ⟨_, h⟩ => roomOn_error_keeps os req p h, fun _ h => roomOn_rooms os req p h⟩

/-! ## `Subspace` over the broker's process -/

theorem Proc.lookup_closeAll_closeFd_closeFd (q : Proc) {fds : List Int} {c d x : Int}
    (hx : x ∉ fds) (hc : x ≠ c) (hd : x ≠ d) :
    (((q.closeAll fds).closeFd c).closeFd d).table.lookup x = q.table.lookup x := by
  rw [Proc.table_closeFd, FdTable.lookup_close, if_neg hd, Proc.table_closeFd,
    FdTable.lookup_close, if_neg hc, Proc.lookup_closeAll, if_neg hx]

theorem openChildNs_adds {T : FdTable} {S : Int → Prop} {requested : Bool} {res : Option String}
    {o : Obj} {q q' : Proc} {fd : Int} (h : q.table.Adds T S)
    (hok : openChildNs requested res o q = .ok (fd, q')) :
    q'.table.Adds T (fun x => (requested = true ∧ x = fd) ∨ S x) ∧ q'.table.Keeps q.table ∧
      (requested = true → fd = q.table.lowestFree ∧ q'.table.lookup fd = some o) ∧
      (requested = false → fd = 0) := by
  unfold openChildNs at hok
  cases requested with
  | false =>
    cases hok
    exact ⟨h.mono (fun _ => .inr) fun x hx => hx.elim (fun hf => by cases hf.1) (h.fresh x),
      FdTable.Keeps.refl _, fun hf => (by cases hf), fun _ => rfl⟩
  | true =>
    cases res with
    | some e => cases hok
    | none =>
      cases hok
      exact ⟨(h.install o).mono (fun x hx => hx.imp_left (⟨rfl, ·⟩)) fun x hx =>
          (h.install o).fresh x (hx.imp_left And.right),
        q.table.keeps_install o, fun _ => ⟨rfl, q.table.lookup_install_self o⟩,
        fun hf => by cases hf⟩

section Subspace

variable (os : SubspaceOs) (req : SubspaceRequest)

theorem Proc.adds_closes {T : FdTable} {S P : Int → Prop} (q : Proc) (h : q.table.Adds T S)
    {fds : List Int} {c d : Int} (hfds : ∀ fd ∈ fds, T.lookup fd = none)
    (hc : T.lookup c = none) (hd : T.lookup d = none)
    (hP : ∀ fd, S fd → fd ∉ fds → fd ≠ c → fd ≠ d → P fd)
    (hfresh : ∀ fd, P fd → T.lookup fd = none) :
    (((q.closeAll fds).closeFd c).closeFd d).table.Adds T P :=
  (((Proc.adds_closeAll q h fds hfds).close_own hc).close_own hd).mono
    (fun fd ⟨⟨⟨hs, hn⟩, hnc⟩, hnd⟩ => hP fd hs hn hnc hnd) hfresh

theorem subspaceAfterPair_eq_none (c d : Int) (q : Proc) :
    subspaceAfterPair os req c d q = none ↔
      os.dupontFile = none ∧ os.start = none ∧ req.spaces &&& NsType.user.flag = 0 := by
  unfold subspaceAfterPair openChildNs
  repeat' split
  all_goals simp_all

/-- **What `Subspace` leaves after `NewPair`**, once its deferred closes of the two `*os.File`
duplicates and of both connections `c` and `d` have run. A failure before the child starts
leaves every descriptor as it was before `NewPair`; a later one leaves the child's pidfd open and
nothing else. Success asked for a user namespace, without which `Start` does not return, and
adds the pidfd, the connection to the child and each requested namespace of the child, and
nothing else. -/
theorem subspaceAfterPair_accounts {T : FdTable} {c d : Int} {oc od : Obj} {q : Proc}
    (hA : q.table.Adds T fun fd => fd = c ∨ fd = d) (hc : q.table.lookup c = some oc)
    (hd : q.table.lookup d = some od) {resp : Response} {deferred : List Int} {q' : Proc}
    (hR : subspaceAfterPair os req c d q = some (resp, deferred, q')) :
    ((∃ e, resp = .error e) →
      (∀ fd, (((q'.closeAll deferred).closeFd c).closeFd d).table.lookup fd = T.lookup fd) ∨
      ∃ pfd, (((q'.closeAll deferred).closeFd c).closeFd d).table.Adds T (· = pfd) ∧
        (((q'.closeAll deferred).closeFd c).closeFd d).table.lookup pfd =
          some (.pidfd os.childPid)) ∧
    ∀ r, resp = .subspace r → req.spaces &&& NsType.user.flag ≠ 0 ∧
      ∃ pfd, (((q'.closeAll deferred).closeFd c).closeFd d).table.Adds T (fun fd => fd = pfd ∨
          fd = r.conn ∨ fd = r.user ∨ (req.spaces &&& NsType.pid.flag ≠ 0 ∧ fd = r.pid)) ∧
        (((q'.closeAll deferred).closeFd c).closeFd d).table.lookup pfd =
          some (.pidfd os.childPid) ∧
        (((q'.closeAll deferred).closeFd c).closeFd d).table.lookup r.conn = some oc ∧
        (((q'.closeAll deferred).closeFd c).closeFd d).table.lookup r.user =
          some (.ns .user os.userIno) ∧
        (req.spaces &&& NsType.pid.flag ≠ 0 →
          (((q'.closeAll deferred).closeFd c).closeFd d).table.lookup r.pid =
            some (.ns .pid os.pidIno)) ∧
        (req.spaces &&& NsType.pid.flag = 0 → r.pid = 0) := by
  have hfc := hA.fresh c (.inl rfl)
  have hfd := hA.fresh d (.inr rfl)
  -- a failure whose own descriptors the closes all close leaves every descriptor as it was
  have closed : ∀ {S : Int → Prop} {q' : Proc} {fds : List Int}, q'.table.Adds T S →
      (∀ fd ∈ fds, T.lookup fd = none) → (∀ fd, S fd → fd ∈ fds ∨ fd = c ∨ fd = d) →
      ∀ fd, (((q'.closeAll fds).closeFd c).closeFd d).table.lookup fd = T.lookup fd :=
    fun h hfds hS => (Proc.adds_closes _ h hfds hfc hfd (P := fun _ => False)
      (fun fd hs hn hnc hnd => (hS fd hs).elim hn (·.elim hnc hnd)) fun _ h => h.elim).lookup_eq
      fun _ h => h
  obtain ⟨_, dupontFile, start, dupondFile, dup, openUser, openPid, userIno, pidIno, childPid⟩ := os
  unfold subspaceAfterPair at hR
  cases dupontFile with
  | some e =>
    cases hR
    exact ⟨fun _ => .inl (closed hA (by simp) fun _ => .inr), fun _ h => by cases h⟩
  | none =>
    -- `dupontf`, a duplicate of `d`
    dsimp only at hR
    rcases h7 : q.dupFd d with ⟨e', q7⟩
    obtain ⟨hA7, hK7, he7, -⟩ := Proc.dupFd_adds hA hd h7
    have hfe := hA7.fresh e' (.inl rfl)
    rw [h7] at hR
    dsimp only at hR
    cases start with
    | some e =>
      cases hR
      refine ⟨fun _ => .inl (closed hA7 (by simpa using hfe) fun _ h => ?_), fun _ h => by cases h⟩
      rcases h with rfl | h
      exacts [.inl (.head _), .inr h]
    | none =>
    dsimp only at hR
    -- without a user namespace `Start` never returns
    by_cases hu : req.spaces &&& NsType.user.flag = 0
    · rw [if_pos hu] at hR
      cases hR
    rw [if_neg hu] at hR
    -- the pidfd of the started child
    rcases hp : q7.openFd (.pidfd childPid) with ⟨pf, q7'⟩
    obtain ⟨hA7', hK7', hpf, hpf7⟩ := Proc.openFd_adds hA7 hp
    have hfp := hA7'.fresh pf (.inl rfl)
    have hne7 : ∀ {x o}, q7.table.lookup x = some o → pf ≠ x := fun hx => by
      rw [hpf7]; exact FdTable.lowestFree_ne_of_lookup hx
    rw [hp] at hR
    dsimp only at hR
    -- a failure from here on leaves the pidfd open, and nothing else of its own
    have leaves : ∀ {S : Int → Prop} {q' : Proc} {fds : List Int}, q'.table.Adds T S →
        q'.table.lookup pf = some (.pidfd childPid) → pf ∉ fds →
        (∀ fd ∈ fds, T.lookup fd = none) → (∀ fd, S fd → fd = pf ∨ fd ∈ fds ∨ fd = c ∨ fd = d) →
        (((q'.closeAll fds).closeFd c).closeFd d).table.Adds T (· = pf) ∧
          (((q'.closeAll fds).closeFd c).closeFd d).table.lookup pf = some (.pidfd childPid) :=
      fun h hl hn hfds hS => ⟨Proc.adds_closes _ h hfds hfc hfd
          (fun fd hs hn' hnc hnd => (hS fd hs).resolve_right fun h' => h'.elim hn' (·.elim hnc hnd))
          fun _ h => h ▸ hfp,
        by rw [Proc.lookup_closeAll_closeFd_closeFd _ hn (hne7 (hK7 c oc hc)) (hne7 (hK7 d od hd)),
          hl]⟩
    cases dupondFile with
    | some e =>
      cases hR
      refine ⟨fun _ => .inr ⟨pf, leaves hA7' hpf (by simpa using hne7 he7) (by simpa using hfe)
        fun _ h => ?_⟩, fun _ h => by cases h⟩
      rcases h with rfl | rfl | h
      exacts [.inl rfl, .inr (.inl (.head _)), .inr (.inr h)]
    | none =>
    -- `dupondf`, a duplicate of `c`
    dsimp only at hR
    rcases h8 : q7'.dupFd c with ⟨f, q8⟩
    obtain ⟨hA8, hK8, hf8, hf8'⟩ := Proc.dupFd_adds hA7' (hK7' c oc (hK7 c oc hc)) h8
    have hff := hA8.fresh f (.inl rfl)
    have hpl8 := hK8 _ _ hpf
    have hnot : pf ∉ [f, e'] := by
      simp only [List.mem_cons, List.not_mem_nil, or_false, not_or]
      exact ⟨by rw [hf8']; exact (FdTable.lowestFree_ne_of_lookup hpf).symm, hne7 he7⟩
    have hdef : ∀ fd ∈ [f, e'], T.lookup fd = none := by simp [hfe, hff]
    rw [h8] at hR
    dsimp only at hR
    cases dup with
    | some e =>
      cases hR
      refine ⟨fun _ => .inr ⟨pf, leaves hA8 hpl8 hnot hdef fun _ h => ?_⟩, fun _ h => by cases h⟩
      rcases h with rfl | rfl | rfl | h
      exacts [.inr (.inl (.head _)), .inl rfl, .inr (.inl (.tail _ (.head _))), .inr (.inr h)]
    | none =>
    -- `connfd`, a duplicate of `dupondf`
    dsimp only at hR
    rcases h9 : q8.dupFd f with ⟨g, q9⟩
    obtain ⟨hA9, hK9, hg9, hg⟩ := Proc.dupFd_adds hA8 hf8 h9
    have hfg := hA9.fresh g (.inl rfl)
    have hpg : pf ≠ g := by rw [hg]; exact (FdTable.lowestFree_ne_of_lookup hpl8).symm
    rw [h9] at hR
    dsimp only at hR
    -- a descriptor opened from here on is none of the four the deferred closes close
    have hlater : ∀ U : FdTable, U.Keeps q8.table →
        U.lowestFree ∉ [f, e'] ∧ U.lowestFree ≠ c ∧ U.lowestFree ≠ d := fun U hU => by
      have hne := fun {x o} (hx : q8.table.lookup x = some o) =>
        FdTable.lowestFree_ne_of_lookup (hU x o hx)
      have hc8 := hK8 c oc (hK7' c oc (hK7 c oc hc))
      refine ⟨?_, hne hc8, hne (hK8 d od (hK7' d od (hK7 d od hd)))⟩
      simp only [List.mem_cons, List.not_mem_nil, or_false, not_or]
      exact ⟨hne hf8, hne (hK8 e' od (hK7' e' od he7))⟩
    have huser : (req.spaces &&& NsType.user.flag != 0) = true := by simpa using hu
    rcases hu' : openChildNs (req.spaces &&& NsType.user.flag != 0) openUser (.ns .user userIno) q9
      with e | ⟨u, q10⟩ <;> rw [hu'] at hR <;> dsimp only at hR
    · -- the user namespace cannot be opened: `connfd` is closed
      cases hR
      refine ⟨fun _ => .inr ⟨pf, leaves (hA9.close_own hfg) ?_ hnot hdef fun _ ⟨h, hg'⟩ => ?_⟩,
        fun _ h => by cases h⟩
      · rw [Proc.table_closeFd, FdTable.lookup_close, if_neg hpg]
        exact hK9 _ _ hpl8
      · rcases h with rfl | rfl | rfl | rfl | h
        exacts [absurd rfl hg', .inr (.inl (.head _)), .inl rfl, .inr (.inl (.tail _ (.head _))),
          .inr (.inr h)]
    obtain ⟨hA10, hK10, hu10, -⟩ := openChildNs_adds hA9 hu'
    obtain ⟨hu10e, hu10l⟩ := hu10 huser
    have hfu := hA10.fresh u (.inl ⟨huser, rfl⟩)
    rcases hpi : openChildNs (req.spaces &&& NsType.pid.flag != 0) openPid (.ns .pid pidIno) q10
      with e | ⟨i, q11⟩ <;> rw [hpi] at hR <;> dsimp only at hR
    · -- the PID namespace cannot be opened: `userfd` and `connfd` are closed
      cases hR
      have hpu : pf ≠ u := by rw [hu10e]; exact (FdTable.lowestFree_ne_of_lookup (hK9 _ _ hpl8)).symm
      refine ⟨fun _ => .inr ⟨pf, leaves ((hA10.close_own hfu).close_own hfg) ?_ hnot hdef
        fun _ ⟨⟨h, hu''⟩, hg'⟩ => ?_⟩, fun _ h => by cases h⟩
      · rw [Proc.table_closeFd, FdTable.lookup_close, if_neg hpg, Proc.table_closeFd,
          FdTable.lookup_close, if_neg hpu]
        exact hK10 _ _ (hK9 _ _ hpl8)
      · rcases h with ⟨-, rfl⟩ | rfl | rfl | rfl | rfl | h
        exacts [absurd rfl hu'', absurd rfl hg', .inr (.inl (.head _)), .inl rfl,
          .inr (.inl (.tail _ (.head _))), .inr (.inr h)]
    -- both namespaces opened, as requested
    obtain ⟨hA11, hK11, hi11, hi0⟩ := openChildNs_adds hA10 hpi
    cases hR
    have hpid : req.spaces &&& NsType.pid.flag ≠ 0 ↔
        (req.spaces &&& NsType.pid.flag != 0) = true := bne_iff_ne.symm
    refine ⟨fun ⟨_, h⟩ => (by cases h), fun r h => ⟨hu, ?_⟩⟩
    cases h
    refine ⟨pf, Proc.adds_closes _ hA11 hdef hfc hfd (fun fd h hn hnc hnd => ?_) (fun fd h => ?_),
      ?_, ?_, ?_, fun hw => ?_, fun hw => hi0 (by simpa using hw)⟩
    · -- what stays open: the pidfd, `connfd`, and the descriptors of the requested namespaces
      simp only [List.mem_cons, List.not_mem_nil, or_false, not_or] at hn
      rw [hpid]
      rcases h with ⟨hw, hi⟩ | ⟨-, hu'⟩ | hg' | hf' | hp' | he' | hc' | hd'
      exacts [.inr (.inr (.inr ⟨hw, hi⟩)), .inr (.inr (.inl hu')), .inr (.inl hg'),
        absurd hf' hn.1, .inl hp', absurd he' hn.2, absurd hc' hnc, absurd hd' hnd]
    · rcases h with rfl | rfl | rfl | ⟨hw, rfl⟩
      exacts [hfp, hfg, hfu, hA11.fresh _ (.inl ⟨hpid.mp hw, rfl⟩)]
    · rw [Proc.lookup_closeAll_closeFd_closeFd _ hnot (hne7 (hK7 c oc hc)) (hne7 (hK7 d od hd))]
      exact hK11 _ _ (hK10 _ _ (hK9 _ _ hpl8))
    · obtain ⟨h1, h2, h3⟩ := hlater q8.table (FdTable.Keeps.refl _)
      rw [← hg] at h1 h2 h3
      rw [Proc.lookup_closeAll_closeFd_closeFd _ h1 h2 h3]
      exact hK11 _ _ (hK10 _ _ hg9)
    · obtain ⟨h1, h2, h3⟩ := hlater q9.table hK9
      rw [← hu10e] at h1 h2 h3
      rw [Proc.lookup_closeAll_closeFd_closeFd _ h1 h2 h3]
      exact hK11 _ _ hu10l
    · obtain ⟨hi10, hlook⟩ := hi11 (hpid.mp hw)
      obtain ⟨h1, h2, h3⟩ := hlater q10.table (hK10.trans hK9)
      rw [← hi10] at h1 h2 h3
      rw [Proc.lookup_closeAll_closeFd_closeFd _ h1 h2 h3]
      exact hlook

/-- **How `Subspace` ends**: at once with an error and the process unchanged, when the request asks
for other types or for none; with a panic after a failed `NewPair`, which left every descriptor
as it was; or, after `NewPair`, never, when `subspaceAfterPair` does not return, or with its
answer, followed by its deferred closes and those of both connections. -/
theorem subspace_cases (p : Proc) :
    (∃ e, Spacemaker.subspace os req p = some (.ret (.error e), p)) ∨
    (∃ m q, Spacemaker.subspace os req p = some (.panic m, q) ∧
      ∀ fd, q.table.lookup fd = p.table.lookup fd) ∨
    ∃ c d q, newPair os.toPairOs p = (.ok (c, d), q) ∧
      ((subspaceAfterPair os req c d q = none ∧ Spacemaker.subspace os req p = none) ∨
        ∃ resp deferred q', subspaceAfterPair os req c d q = some (resp, deferred, q') ∧
          Spacemaker.subspace os req p =
            some (.ret resp, ((q'.closeAll deferred).closeFd c).closeFd d)) := by
  unfold Spacemaker.subspace
  by_cases hspace : req.spaces &&& ~~~(NsType.user.flag ||| NsType.pid.flag) ≠ 0
  · rw [if_pos hspace]
    exact .inl ⟨_, rfl⟩
  rw [if_neg hspace]
  by_cases hnone : req.spaces &&& (NsType.user.flag ||| NsType.pid.flag) = 0
  · rw [if_pos hnone]
    exact .inl ⟨_, rfl⟩
  rw [if_neg hnone]
  obtain ⟨hfail, -⟩ := newPair_spec os.toPairOs p
  rcases hpair : newPair os.toPairOs p with ⟨_ | ⟨c, d⟩, q⟩ <;> rw [hpair] at hfail
  · -- `NewPair` failed: the deferred `dupond.Close()` dereferences nil
    exact .inr (.inl ⟨_, _, rfl, hfail ⟨_, rfl⟩⟩)
  refine .inr (.inr ⟨c, d, q, rfl, ?_⟩)
  dsimp only
  rcases hR : subspaceAfterPair os req c d q with _ | ⟨resp, deferred, q'⟩
  · exact .inl ⟨rfl, rfl⟩
  · exact .inr ⟨resp, deferred, q', rfl, rfl⟩

theorem subspace_eq_none_iff (p : Proc) :
    Spacemaker.subspace os req p = none ↔
      req.spaces &&& ~~~(NsType.user.flag ||| NsType.pid.flag) = 0 ∧
      req.spaces &&& (NsType.user.flag ||| NsType.pid.flag) ≠ 0 ∧
      req.spaces &&& NsType.user.flag = 0 ∧ (∃ c d q, newPair os.toPairOs p = (.ok (c, d), q)) ∧
      os.dupontFile = none ∧ os.start = none := by
  unfold Spacemaker.subspace
  by_cases hspace : req.spaces &&& ~~~(NsType.user.flag ||| NsType.pid.flag) ≠ 0
  · simp only [if_pos hspace, reduceCtorEq, false_iff]
    exact fun h => hspace h.1
  rw [if_neg hspace]
  by_cases hnone : req.spaces &&& (NsType.user.flag ||| NsType.pid.flag) = 0
  · simp only [if_pos hnone, reduceCtorEq, false_iff]
    exact fun h => h.2.1 hnone
  rw [if_neg hnone]
  rcases hpair : newPair os.toPairOs p with ⟨_ | ⟨c, d⟩, q⟩
  · exact iff_of_false (fun h => by cases h) fun ⟨_, _, _, ⟨_, _, _, h⟩, _⟩ => by cases h
  have hiff := subspaceAfterPair_eq_none os req c d q
  dsimp only
  rcases hR : subspaceAfterPair os req c d q with _ | ⟨resp, deferred, q'⟩ <;> rw [hR] at hiff
  · obtain ⟨h1, h2, h3⟩ := hiff.mp rfl
    exact iff_of_true rfl ⟨not_not.mp hspace, hnone, h3, ⟨c, d, q, rfl⟩, h1, h2⟩
  · exact iff_of_false (fun h => by cases h) fun ⟨_, _, h3, _, h1, h2⟩ => by
      cases hiff.mpr ⟨h1, h2, h3⟩

theorem subspaceAfterPair_ne_rooms (c d : Int) (q : Proc) (r : RoomsResponse) (deferred : List Int)
    (q' : Proc) : subspaceAfterPair os req c d q ≠ some (.rooms r, deferred, q') := by
  unfold subspaceAfterPair openChildNs
  repeat' split
  all_goals simp

theorem subspace_ne_rooms (p q : Proc) (r : RoomsResponse) :
    Spacemaker.subspace os req p ≠ some (.ret (.rooms r), q) := fun h => by
  rcases subspace_cases os req p with ⟨_, he⟩ | ⟨_, _, hm, -⟩ |
    ⟨c, d, q, -, ⟨-, hn⟩ | ⟨resp, deferred, q', hR, heq⟩⟩ <;> rw [h] at *
  · cases he
  · cases hm
  · cases hn
  · obtain ⟨⟨⟩, -⟩ := Prod.mk.inj (Option.some.inj heq)
    exact subspaceAfterPair_ne_rooms os req c d q r deferred q' hR

theorem subspace_panic_keeps (p q : Proc) {m : String}
    (h : Spacemaker.subspace os req p = some (.panic m, q)) (fd : Int) :
    q.table.lookup fd = p.table.lookup fd := by
  rcases subspace_cases os req p with ⟨_, he⟩ | ⟨_, q₀, hm, hk⟩ |
    ⟨c, d, q, -, ⟨-, hn⟩ | ⟨resp, deferred, q', -, heq⟩⟩ <;> rw [h] at *
  · cases he
  · obtain ⟨-, rfl⟩ := Prod.mk.inj (Option.some.inj hm)
    exact hk fd
  · cases hn
  · cases heq

theorem subspace_after_newPair (p q : Proc) {o : Outcome Response}
    (h : Spacemaker.subspace os req p = some (o, q)) (hnot : ∀ e, o ≠ .ret (.error e))
    (hnp : ∀ m, o ≠ .panic m) :
    ∃ c d q₀ resp deferred q', newPair os.toPairOs p = (.ok (c, d), q₀) ∧
      subspaceAfterPair os req c d q₀ = some (resp, deferred, q') ∧ o = .ret resp ∧
      q = ((q'.closeAll deferred).closeFd c).closeFd d := by
  rcases subspace_cases os req p with ⟨_, he⟩ | ⟨_, _, hm, -⟩ |
    ⟨c, d, q₀, hpair, ⟨-, hn⟩ | ⟨resp, deferred, q', hR, heq⟩⟩ <;> rw [h] at *
  · exact absurd (Prod.mk.inj (Option.some.inj he)).1 (hnot _)
  · exact absurd (Prod.mk.inj (Option.some.inj hm)).1 (hnp _)
  · cases hn
  · obtain ⟨rfl, rfl⟩ := Prod.mk.inj (Option.some.inj heq)
    exact ⟨c, d, q₀, resp, deferred, q', hpair, hR, rfl, rfl⟩

theorem subspace_error_accounts (p q : Proc) {e : ErrorResponse}
    (h : Spacemaker.subspace os req p = some (.ret (.error e), q)) :
    (∀ fd, q.table.lookup fd = p.table.lookup fd) ∨
      ∃ pfd, q.table.Adds p.table (· = pfd) ∧ q.table.lookup pfd = some (.pidfd os.childPid) := by
  rcases subspace_cases os req p with ⟨_, he⟩ | ⟨_, _, hm, -⟩ |
    ⟨c, d, q₀, hpair, ⟨-, hn⟩ | ⟨resp, deferred, q', hR, heq⟩⟩ <;> rw [h] at *
  · obtain ⟨-, rfl⟩ := Prod.mk.inj (Option.some.inj he)
    exact .inl fun _ => rfl
  · cases hm
  · cases hn
  obtain ⟨⟨⟩, rfl⟩ := Prod.mk.inj (Option.some.inj heq)
  obtain ⟨hA, hc, hd⟩ := (newPair_spec os.toPairOs p).2 c d (by rw [hpair])
  rw [hpair] at hA hc hd
  exact (subspaceAfterPair_accounts os req hA hc hd hR).1 ⟨e, rfl⟩

theorem subspace_granted (p q : Proc) {r : SubspaceResponse}
    (h : Spacemaker.subspace os req p = some (.ret (.subspace r), q)) :
    req.spaces &&& NsType.user.flag ≠ 0 ∧
      ∃ pfd, q.table.Adds p.table (fun fd => fd = pfd ∨ fd = r.conn ∨ fd = r.user ∨
          (req.spaces &&& NsType.pid.flag ≠ 0 ∧ fd = r.pid)) ∧
        q.table.lookup pfd = some (.pidfd os.childPid) ∧
        q.table.lookup r.conn = some (.sock 0) ∧
        q.table.lookup r.user = some (.ns .user os.userIno) ∧
        (req.spaces &&& NsType.pid.flag ≠ 0 → q.table.lookup r.pid = some (.ns .pid os.pidIno)) ∧
        (req.spaces &&& NsType.pid.flag = 0 → r.pid = 0) := by
  obtain ⟨c, d, q₀, resp, deferred, q', hpair, hR, ho, rfl⟩ :=
    subspace_after_newPair os req p q h (fun _ h => by cases h) fun _ h => by cases h
  cases ho
  obtain ⟨hA, hc, hd⟩ := (newPair_spec os.toPairOs p).2 c d (by rw [hpair])
  rw [hpair] at hA hc hd
  exact (subspaceAfterPair_accounts os req hA hc hd hR).2 r rfl

end Subspace

/-! ## Asking a `Spacemaker` broker for rooms -/

/-- `Spacemaker` as the `Spacer` that `Serve` dispatches to, with `Room` over the broker's
process. -/
def Spacemaker.spacerOn (os : NsType → NewNsOs) (subOs : SubspaceOs) : Spacer Proc where
  subspace req p := Spacemaker.subspace subOs req p
  room req p := some (.ret (Spacemaker.roomOn os req p).1, (Spacemaker.roomOn os req p).2)

theorem length_encodeFds_of_wants {r : RoomsResponse} {req : RoomsRequest}
    (hwants : ∀ t ∈ flatTypes, 0 < r.get t ↔ req.wants t) :
    r.encodeFds.1.length = (flatTypes.filter req.wants).length := by
  rw [RoomsResponse.encodeFds_fst, RoomsResponse.fields_eq_map_get, List.filter_map,
    List.length_map]
  exact congrArg List.length
    (List.filter_congr fun t ht => Bool.eq_iff_iff.mpr (by simpa using hwants t ht))

theorem mem_take_of_wants {r : RoomsResponse} {req : RoomsRequest} {n : Nat}
    (hwants : ∀ t ∈ flatTypes, 0 < r.get t ↔ req.wants t)
    (hlen : (flatTypes.filter req.wants).length ≤ n) {t : NsType} (ht : t ∈ flatTypes)
    (hw : req.wants t) : r.get t ∈ r.encodeFds.1.take n := by
  rw [List.take_of_length_le (by rw [length_encodeFds_of_wants hwants]; exact hlen)]
  exact RoomsResponse.mem_encodeFds.mpr ⟨t, (hwants t ht).mpr hw, rfl⟩

theorem roomsExchange_spacemaker_receive (pl : Platform) (nofile : Nat) (os : NsType → NewNsOs)
    (subOs : SubspaceOs) (broker : Proc) (client : FdTable) {req : RoomsRequest}
    {r : RoomsResponse} (hgrant : (Spacemaker.roomOn os req broker).1 = .rooms r) :
    ∃ r' T', roomsExchange pl nofile (Spacemaker.spacerOn os subOs) broker client true true req =
        some (.ret (r', T')) ∧ T'.Keeps client ∧
      (∀ t, r.get t ∈ r.encodeFds.1.take (deliverable pl nofile client 3) →
        client.lookup (r'.get t) = none ∧ T'.lookup (r'.get t) = some (.ns t ((os t).shownIno t))) ∧
      (∀ t, r.get t ∉ r.encodeFds.1.take (deliverable pl nofile client 3) → r'.get t = r.get t) ∧
      ∀ fd, client.lookup fd = none → T'.lookup fd ≠ none → ∃ t, r'.get t = fd := by
  obtain ⟨-, -, htyped, -⟩ := roomOn_rooms os req broker hgrant
  have hroom : (Spacemaker.spacerOn os subOs).room req broker =
      some (.ret (.rooms r), (Spacemaker.roomOn os req broker).2) := by
    rw [← hgrant]
    rfl
  obtain ⟨objs, hex, hobjs⟩ := roomsExchange_sends pl nofile client hroom fun fd hfd => by
    obtain ⟨t, hpos, rfl⟩ := RoomsResponse.mem_encodeFds.mp hfd
    simp [(htyped t hpos).2]
  obtain ⟨r', T', hrecv, hkeep, hin, hout, hheld⟩ := Client.rooms_receive pl nofile client _ r
    (fun t hpos => ⟨_, (htyped t hpos).2⟩) objs hobjs
  refine ⟨r', T', hex.trans (congrArg some hrecv), hkeep, fun t hdl => ?_, hout, hheld⟩
  obtain ⟨hfree, hlook⟩ := hin t hdl
  exact ⟨hfree, hlook.trans (htyped t (RoomsResponse.pos_of_mem_encodeFds
    (List.mem_of_mem_take hdl))).2⟩

/-- **Asking a `Spacemaker` broker for rooms.** For every request the broker's `Room` grants,
every pattern of kernel answers behind it, every platform, every client table and every
descriptor limit of the client, when `Serve` encodes and sends the answer the exchange completes
and the client keeps its descriptors. A requested type whose descriptor is among the first
`deliverable` sent arrives as a descriptor new in the client, for the namespace the broker's
thread showed after its `unshare` (for time, the broker's own); any other requested type holds
the broker's own, positive, descriptor number; a type not requested reads 0; and every
descriptor the exchange opened in the client is held by a field. When no more types are
requested than the client can receive, every requested type arrives. -/
theorem roomsExchange_spacemaker (pl : Platform) (nofile : Nat) (os : NsType → NewNsOs)
    (subOs : SubspaceOs) (broker : Proc) (client : FdTable) (req : RoomsRequest)
    (r : RoomsResponse) (hgrant : (Spacemaker.roomOn os req broker).1 = .rooms r) :
    ∃ r' T', roomsExchange pl nofile (Spacemaker.spacerOn os subOs) broker client true true req =
        some (.ret (r', T')) ∧ T'.Keeps client ∧
      (∀ t ∈ flatTypes, req.wants t → r.get t ∈ r.encodeFds.1.take (deliverable pl nofile client 3) →
        client.lookup (r'.get t) = none ∧ T'.lookup (r'.get t) = some (.ns t ((os t).shownIno t))) ∧
      (∀ t ∈ flatTypes, req.wants t → r.get t ∉ r.encodeFds.1.take (deliverable pl nofile client 3) →
        0 < r'.get t ∧ r'.get t = r.get t) ∧
      (∀ t ∈ flatTypes, ¬ req.wants t → r'.get t = 0) ∧
      (∀ fd, client.lookup fd = none → T'.lookup fd ≠ none → ∃ t, r'.get t = fd) ∧
      ((flatTypes.filter req.wants).length ≤ deliverable pl nofile client 3 →
        ∀ t ∈ flatTypes, req.wants t →
          r.get t ∈ r.encodeFds.1.take (deliverable pl nofile client 3)) := by
  obtain ⟨hnonneg, hwants, -, -⟩ := roomOn_rooms os req broker hgrant
  obtain ⟨r', T', hex, hkeep, hin, hout, hheld⟩ :=
    roomsExchange_spacemaker_receive pl nofile os subOs broker client hgrant
  refine ⟨r', T', hex, hkeep, fun t _ _ hdl => hin t hdl, fun t ht hw hdl => ?_,
    fun t ht hw => ?_, hheld, fun hlen t ht hw => mem_take_of_wants hwants hlen ht hw⟩
  · -- beyond what the client receives: the broker's number
    rw [hout t hdl]
    exact ⟨(hwants t ht).mpr hw, rfl⟩
  · -- not requested: 0, which is not sent
    have hzero : r.get t = 0 :=
      le_antisymm (not_lt.mp fun h => hw ((hwants t ht).mp h)) (hnonneg t)
    have hsent : r.get t ∉ r.encodeFds.1.take (deliverable pl nofile client 3) := fun h => by
      have := RoomsResponse.pos_of_mem_encodeFds (List.mem_of_mem_take h)
      omega
    rw [hout t hsent, hzero]

/-- The request for all six flat types. -/
def sixRooms : RoomsRequest := Client.roomsRequest true true true true true true

/-- All six flat types, from a broker whose descriptors 0 to 2 are open, with new namespaces of
inode number 7, for a client with the usual limit of 1024 descriptors: the broker hands out 4
to 9, as 3 holds the thread's own namespace while each new one is opened. -/
theorem roomsExchange_spacemaker_six :
    (Spacemaker.roomOn (fun _ => { newIno := 7 }) sixRooms stdioProc).1 =
        .rooms ⟨4, 5, 6, 7, 8, 9⟩ ∧
      ∃ r' T', roomsExchange linuxAmd64 1024 (Spacemaker.spacerOn (fun _ => { newIno := 7 }) {})
          stdioProc clientTable true true sixRooms = some (.ret (r', T')) ∧ T'.Keeps clientTable ∧
        (∀ t ∈ flatTypes, sixRooms.wants t → RoomsResponse.get ⟨4, 5, 6, 7, 8, 9⟩ t ∈
            (RoomsResponse.encodeFds ⟨4, 5, 6, 7, 8, 9⟩).1.take
              (deliverable linuxAmd64 1024 clientTable 3) →
          clientTable.lookup (r'.get t) = none ∧
            T'.lookup (r'.get t) = some (.ns t (NewNsOs.shownIno { newIno := 7 } t))) ∧
        (∀ t ∈ flatTypes, sixRooms.wants t → RoomsResponse.get ⟨4, 5, 6, 7, 8, 9⟩ t ∉
            (RoomsResponse.encodeFds ⟨4, 5, 6, 7, 8, 9⟩).1.take
              (deliverable linuxAmd64 1024 clientTable 3) →
          0 < r'.get t ∧ r'.get t = RoomsResponse.get ⟨4, 5, 6, 7, 8, 9⟩ t) ∧
        (∀ t ∈ flatTypes, ¬ sixRooms.wants t → r'.get t = 0) ∧
        (∀ fd, clientTable.lookup fd = none → T'.lookup fd ≠ none → ∃ t, r'.get t = fd) ∧
        ((flatTypes.filter sixRooms.wants).length ≤ deliverable linuxAmd64 1024 clientTable 3 →
          ∀ t ∈ flatTypes, sixRooms.wants t → RoomsResponse.get ⟨4, 5, 6, 7, 8, 9⟩ t ∈
            (RoomsResponse.encodeFds ⟨4, 5, 6, 7, 8, 9⟩).1.take
              (deliverable linuxAmd64 1024 clientTable 3)) :=
  have hgrant : (Spacemaker.roomOn (fun _ => { newIno := 7 }) sixRooms stdioProc).1 =
      .rooms ⟨4, 5, 6, 7, 8, 9⟩ := by
    decide
  ⟨hgrant, roomsExchange_spacemaker linuxAmd64 1024 _ {} stdioProc clientTable sixRooms _ hgrant⟩

end Spacetest
