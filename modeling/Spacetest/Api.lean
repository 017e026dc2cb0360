import Spacetest.Kernel

/-!
# The spacer protocol messages

The requests and responses of `spacer/api`, and how the descriptors of a response leave it
before sending (`encodeFds`) and are put back after receiving (`decodeFds`).

* `RoomsRequest`, `SubspaceRequest`, `RoomsResponse`, `SubspaceResponse` (with its embedded
  `Subspaces`), `ErrorResponse`, and the unions `Request` and `Response`;
* `auxiliaryFds.borrow` and the two `encodeFds`: `encodeFds_fst` and `encodeFds_snd` say they
  return the positive fields in field order and leave every other field as it was;
* `Switch`: the `switch` of a `decodeFds` — the namespace types that have a field, and how
  a field is read and written. `Switch.decode` is the loop both `decodeFds` share; `decode_closed`
  and `get_decode` say which descriptors it closes and what each field ends up holding;
* **`decodeFds_accounts`**: every received descriptor, when positive, is held or closed, exactly
  once; `decodeFds_loses_fds_and_panics_on_empty` runs the decoders on a duplicate type, on
  descriptor 0, and on no descriptor at all;
* `received` and the round trips: **`RoomsResponse.encodeFds_roundtrip`** gives a response back
  from what its `encodeFds` moved out, every non-positive field read as 0, and closes nothing;
  `SubspaceResponse.decodeFds_encodeFds` does so for a response with its connection.
-/

namespace Spacetest

/-- `api.RoomsRequest`: the flat namespace types to create, as `CLONE_NEW*` flags. -/
structure RoomsRequest where
  spaces : UInt64
  deriving DecidableEq, Repr

/-- `api.SubspaceRequest`: the hierarchical namespace types to create, as `CLONE_NEW*` flags. -/
structure SubspaceRequest where
  spaces : UInt64
  deriving DecidableEq, Repr

/-- `api.RoomsResponse`: a descriptor (> 0) for each namespace created, 0 for the others. -/
structure RoomsResponse where
  cgroup : Int := 0
  ipc : Int := 0
  mnt : Int := 0
  net : Int := 0
  time : Int := 0
  uts : Int := 0
  deriving DecidableEq, Repr

/-- `api.Subspaces`: the user and PID namespace descriptors, where > 0. -/
structure Subspaces where
  user : Int := 0
  pid : Int := 0
  deriving DecidableEq, Repr

/-- `api.SubspaceResponse`: the socket connected to the child service, and its namespaces. -/
structure SubspaceResponse extends Subspaces where
  conn : Int := 0
  deriving DecidableEq, Repr

/-- `api.ErrorResponse`, which can stand in for any other response. -/
structure ErrorResponse where
  reason : String
  deriving DecidableEq, Repr

/-- The values of `api.Request`: the two registered requests, and `UnhandlebarRequest`, which
no service handles. -/
inductive Request
  | subspace (r : SubspaceRequest)
  | rooms (r : RoomsRequest)
  | unhandlebar
  deriving DecidableEq, Repr

/-- The values of `api.Response`. -/
inductive Response
  | error (r : ErrorResponse)
  | subspace (r : SubspaceResponse)
  | rooms (r : RoomsResponse)
  deriving DecidableEq, Repr

/-! ## Moving descriptors out of a response -/

/-- `auxiliaryFds.borrow`: an open descriptor (> 0) moves from its field to the end of the
list and the field becomes 0; any other value stays in its field. Returns the list and the
field's new value. -/
def auxiliaryFds.borrow (f : List Int) (fd : Int) : List Int × Int :=
  if fd ≤ 0 then (f, fd) else (f ++ [fd], 0)

/-- What `borrow` leaves in a field. -/
def moved (fd : Int) : Int := if fd ≤ 0 then fd else 0

@[simp] theorem borrow_fst (f : List Int) (fd : Int) :
    (auxiliaryFds.borrow f fd).1 = f ++ [fd].filter (0 < ·) := by
  unfold auxiliaryFds.borrow
  by_cases h : fd ≤ 0
  · simp [h, List.filter_cons, show ¬ 0 < fd by omega]
  · simp [h, List.filter_cons, show 0 < fd by omega]

@[simp] theorem borrow_snd (f : List Int) (fd : Int) :
    (auxiliaryFds.borrow f fd).2 = moved fd := by
  unfold auxiliaryFds.borrow moved
  split <;> rfl

/-- The handle-valued fields of a `RoomsResponse`, in field order. -/
def RoomsResponse.fields (s : RoomsResponse) : List Int :=
  [s.cgroup, s.ipc, s.mnt, s.net, s.time, s.uts]

/-- The handle-valued fields of a `SubspaceResponse`, in field order. -/
def SubspaceResponse.fields (s : SubspaceResponse) : List Int := [s.conn, s.user, s.pid]

/-- `RoomsResponse.EncodeFds`: borrow `Cgroup`, `IPC`, `Mnt`, `Net`, `Time` and `UTS` in
turn. Returns the descriptors and the response as the borrows leave it. -/
def RoomsResponse.encodeFds (s : RoomsResponse) : List Int × RoomsResponse :=
  let c := auxiliaryFds.borrow [] s.cgroup
  let i := auxiliaryFds.borrow c.1 s.ipc
  let m := auxiliaryFds.borrow i.1 s.mnt
  let n := auxiliaryFds.borrow m.1 s.net
  let t := auxiliaryFds.borrow n.1 s.time
  let u := auxiliaryFds.borrow t.1 s.uts
  (u.1, ⟨c.2, i.2, m.2, n.2, t.2, u.2⟩)

/-- `SubspaceResponse.EncodeFds`: borrow `Conn`, `User` and `PID` in turn. -/
def SubspaceResponse.encodeFds (s : SubspaceResponse) : List Int × SubspaceResponse :=
  let c := auxiliaryFds.borrow [] s.conn
  let u := auxiliaryFds.borrow c.1 s.user
  let p := auxiliaryFds.borrow u.1 s.pid
  (p.1, ⟨⟨u.2, p.2⟩, c.2⟩)

theorem RoomsResponse.encodeFds_fst (s : RoomsResponse) :
    s.encodeFds.1 = s.fields.filter (0 < ·) := by
  simp only [encodeFds, borrow_fst, fields, List.nil_append, ← List.filter_append,
    List.singleton_append, List.cons_append]

theorem RoomsResponse.encodeFds_snd (s : RoomsResponse) :
    s.encodeFds.2.fields = s.fields.map moved := by
  simp [encodeFds, fields]

theorem SubspaceResponse.encodeFds_fst (s : SubspaceResponse) :
    s.encodeFds.1 = s.fields.filter (0 < ·) := by
  simp only [encodeFds, borrow_fst, fields, List.nil_append, ← List.filter_append,
    List.singleton_append, List.cons_append]

theorem SubspaceResponse.encodeFds_snd (s : SubspaceResponse) :
    s.encodeFds.2.fields = s.fields.map moved := by
  simp [encodeFds, fields]

/-- The handle-valued fields of a response; an `ErrorResponse` has none. -/
def Response.fields : Response → List Int
  | .error _ => []
  | .subspace r => r.fields
  | .rooms r => r.fields

/-- `resp.(api.FdsEncoder).EncodeFds()`, where the response is an `FdsEncoder` at all. -/
def Response.encodeFds : Response → List Int × Response
  | .error r => ([], .error r)
  | .subspace r => (r.encodeFds.1, .subspace r.encodeFds.2)
  | .rooms r => (r.encodeFds.1, .rooms r.encodeFds.2)

theorem Response.encodeFds_fst (r : Response) : r.encodeFds.1 = r.fields.filter (0 < ·) := by
  cases r with
  | error r => rfl
  | subspace r => exact r.encodeFds_fst
  | rooms r => exact r.encodeFds_fst

/-! ## Putting descriptors back -/

/-- The `switch` of a `DecodeFds`: the namespace types with a field (`takes`), and reading
(`get`) and writing (`set`) the field of a type. -/
structure Switch (σ : Type) where
  takes : NsType → Bool
  get : σ → NsType → Int
  set : σ → NsType → Int → σ
  get_set_self : ∀ s t fd, takes t = true → get (set s t fd) t = fd
  get_set_other : ∀ s t t' fd, t' ≠ t → get (set s t fd) t' = get s t'

namespace Switch

variable {σ : Type} (sw : Switch σ) (nstype : Int → Option NsType)

/-- One `switch`: the response with `fd` in the field of its namespace type, or `none` for the
`default` case (no such field, or the `ioctl` failed). -/
def store (s : σ) (fd : Int) : Option σ :=
  match nstype fd with
  | some t => if sw.takes t then some (sw.set s t fd) else none
  | none => none

/-- The loop of a `DecodeFds`: each descriptor goes to the field of its namespace type, or is
closed. Returns the response and the descriptors closed, in order. -/
def decode (s : σ) : List Int → σ × List Int
  | [] => (s, [])
  | fd :: fds =>
    match sw.store nstype s fd with
    | some s' => decode s' fds
    | none => ((decode s fds).1, fd :: (decode s fds).2)

/-- Whether the `switch` has a case for a descriptor. -/
def accepts (fd : Int) : Bool := (nstype fd).any sw.takes

/-- Whether the field of `fd`'s own namespace type holds the descriptor `fd`: a field of 0, or
below, holds none. -/
def holds (s : σ) (fd : Int) : Bool :=
  decide (0 < fd) &&
    match nstype fd with
    | some t => sw.takes t && sw.get s t == fd
    | none => false

theorem store_eq_none {s : σ} {fd : Int} :
    sw.store nstype s fd = none ↔ sw.accepts nstype fd = false := by
  unfold store accepts
  cases nstype fd with
  | none => simp
  | some t => cases h : sw.takes t <;> simp [h]

theorem store_eq_some {s s' : σ} {fd : Int} (h : sw.store nstype s fd = some s') :
    ∃ t, nstype fd = some t ∧ sw.takes t = true ∧ s' = sw.set s t fd := by
  unfold store at h
  split at h
  · split at h
    · exact ⟨_, ‹_›, ‹_›, (Option.some.inj h).symm⟩
    · cases h
  · cases h

theorem decode_closed (s : σ) (fds : List Int) :
    (sw.decode nstype s fds).2 = fds.filter (fun fd => !sw.accepts nstype fd) := by
  induction fds generalizing s with
  | nil => rfl
  | cons fd fds ih =>
    simp only [decode]
    split
    · rename_i s' h
      obtain ⟨t, ht, htk, -⟩ := sw.store_eq_some nstype h
      rw [ih, List.filter_cons_of_neg (by simp [accepts, ht, htk])]
    · rename_i h
      rw [ih, List.filter_cons_of_pos (by simpa using (sw.store_eq_none nstype).mp h)]

theorem get_decode (s : σ) (fds : List Int) (t : NsType) :
    sw.get (sw.decode nstype s fds).1 t =
      fds.foldl (fun d fd => if nstype fd = some t ∧ sw.takes t then fd else d) (sw.get s t) := by
  induction fds generalizing s with
  | nil => rfl
  | cons fd fds ih =>
    simp only [decode, List.foldl_cons]
    split
    · rename_i s' h
      obtain ⟨t', ht', htk, rfl⟩ := sw.store_eq_some nstype h
      rw [ih]
      congr 1
      by_cases htt : t = t'
      · subst htt; simp [ht', htk, sw.get_set_self]
      · simp [ht', Ne.symm htt, sw.get_set_other _ _ _ _ htt]
    · rename_i h
      have hacc := (sw.store_eq_none nstype).mp h
      rw [ih]
      congr 1
      cases hk : nstype fd with
      | none => simp
      | some t' =>
        have : sw.takes t' = false := by simpa [accepts, hk] using hacc
        by_cases htt : t = t' <;> simp [Ne.symm, htt, this]

/-- No two descriptors of the list share a namespace type that has a field. -/
def OnePerField (fds : List Int) : Prop :=
  ∀ a ∈ fds, ∀ b ∈ fds, sw.accepts nstype a = true → nstype a = nstype b → a = b

instance (fds : List Int) : Decidable (sw.OnePerField nstype fds) :=
  inferInstanceAs (Decidable (∀ a ∈ fds, ∀ b ∈ fds, _ → _ → _))

end Switch

theorem foldl_keep_none (p : Int → Prop) [DecidablePred p] (l : List Int) (d : Int)
    (hn : ∀ y ∈ l, ¬ p y) : l.foldl (fun d fd => if p fd then fd else d) d = d := by
  rw [List.foldl_ext _ (fun d _ => d) _ fun _ y hy => if_neg (hn y hy), List.foldl_fixed]

theorem foldl_keep_unique (p : Int → Prop) [DecidablePred p] (l : List Int) (x d : Int)
    (hx : x ∈ l) (hp : p x) (hu : ∀ y ∈ l, p y → y = x) :
    l.foldl (fun d fd => if p fd then fd else d) d = x := by
  induction l generalizing d with
  | nil => cases hx
  | cons a l ih =>
    rw [List.foldl_cons]
    rcases List.mem_cons.mp hx with rfl | hx
    · by_cases hl : x ∈ l
      · exact ih _ hl (fun y hy => hu y (List.mem_cons_of_mem _ hy))
      · have hnone : ∀ y ∈ l, ¬ p y := fun y hy hpy => hl (hu y (.tail _ hy) hpy ▸ hy)
        rw [if_pos hp, foldl_keep_none p l x hnone]
    · exact ih _ hx (fun y hy => hu y (List.mem_cons_of_mem _ hy))

namespace Switch

variable {σ : Type} (sw : Switch σ) (nstype : Int → Option NsType)

theorem decode_preserves (P : σ → Prop) (hset : ∀ s t fd, P s → P (sw.set s t fd)) (s : σ)
    (fds : List Int) (hs : P s) : P (sw.decode nstype s fds).1 := by
  induction fds generalizing s with
  | nil => exact hs
  | cons fd fds ih =>
    simp only [decode]
    split
    · rename_i s' h
      obtain ⟨t, -, -, rfl⟩ := sw.store_eq_some nstype h
      exact ih _ (hset s t fd hs)
    · exact ih s hs

/-- **Every descriptor is accounted for once.** When the descriptors are positive and distinct,
and no two share a field, each one ends up either held by the field of its own type and not
closed, or closed once and held by no field of its type. -/
theorem decode_accounts (s : σ) (fds : List Int) (hpos : ∀ fd ∈ fds, 0 < fd) (hnd : fds.Nodup)
    (hone : sw.OnePerField nstype fds) :
    ∀ fd ∈ fds, (sw.holds nstype (sw.decode nstype s fds).1 fd = true ∧
        fd ∉ (sw.decode nstype s fds).2) ∨
      (sw.holds nstype (sw.decode nstype s fds).1 fd = false ∧
        (sw.decode nstype s fds).2.count fd = 1) := by
  intro fd hfd
  rw [sw.decode_closed]
  cases hacc : sw.accepts nstype fd
  · refine .inr ⟨?_, ?_⟩
    · unfold holds
      cases hk : nstype fd with
      | none => simp
      | some t => simp_all [accepts]
    · rw [List.count_filter (by simp [hacc])]
      exact List.count_eq_one_of_mem hnd hfd
  · obtain ⟨t, ht, htk⟩ : ∃ t, nstype fd = some t ∧ sw.takes t = true := by
      unfold accepts at hacc
      cases hk : nstype fd <;> simp_all
    refine .inl ⟨?_, by simp [hacc]⟩
    have hkeep : fds.foldl (fun d x => if nstype x = some t ∧ sw.takes t = true then x else d)
        (sw.get s t) = fd :=
      foldl_keep_unique _ fds fd _ hfd ⟨ht, htk⟩ fun y hy hpy =>
        hone y hy fd hfd (by simp [accepts, hpy.1, htk]) (hpy.1.trans ht.symm)
    unfold holds
    rw [ht]
    dsimp only
    rw [sw.get_decode, hkeep]
    simp [htk, hpos fd hfd]

end Switch

/-! ## The two `DecodeFds` -/

/-- The field of a `RoomsResponse` for a namespace type; pid and user have none. -/
def RoomsResponse.get (s : RoomsResponse) : NsType → Int
  | .cgroup => s.cgroup
  | .ipc => s.ipc
  | .mnt => s.mnt
  | .net => s.net
  | .time => s.time
  | .uts => s.uts
  | .pid | .user => 0

/-- Store a descriptor in the field of a namespace type. -/
def RoomsResponse.set (s : RoomsResponse) (fd : Int) : NsType → RoomsResponse
  | .cgroup => { s with cgroup := fd }
  | .ipc => { s with ipc := fd }
  | .mnt => { s with mnt := fd }
  | .net => { s with net := fd }
  | .time => { s with time := fd }
  | .uts => { s with uts := fd }
  | .pid | .user => s

/-- The `switch` of `RoomsResponse.DecodeFds`: a case for each flat namespace type. -/
def roomsSwitch : Switch RoomsResponse where
  takes
    | .pid | .user => false
    | _ => true
  get := RoomsResponse.get
  set s t fd := s.set fd t
  get_set_self s t fd h := by cases t <;> simp_all [RoomsResponse.get, RoomsResponse.set]
  get_set_other s t t' fd h := by
    cases t <;> cases t' <;> simp_all [RoomsResponse.get, RoomsResponse.set]

/-- `RoomsResponse.DecodeFds`, with `nstype` the receiver's `ioctl(fd, NS_GET_NSTYPE)`.
Returns the response and the descriptors it closed. -/
def RoomsResponse.decodeFds (nstype : Int → Option NsType) (s : RoomsResponse)
    (fds : List Int) : RoomsResponse × List Int :=
  roomsSwitch.decode nstype s fds

theorem RoomsResponse.get_decodeFds (nstype : Int → Option NsType) (s : RoomsResponse)
    (fds : List Int) (t : NsType) : (s.decodeFds nstype fds).1.get t =
      fds.foldl (fun d fd => if nstype fd = some t ∧ roomsSwitch.takes t then fd else d) (s.get t) :=
  roomsSwitch.get_decode nstype s fds t

/-- The field of a `SubspaceResponse` for the user and the PID namespace type. -/
def SubspaceResponse.get (s : SubspaceResponse) : NsType → Int
  | .user => s.user
  | .pid => s.pid
  | _ => 0

/-- Store a descriptor in the user or the PID field. -/
def SubspaceResponse.set (s : SubspaceResponse) (fd : Int) : NsType → SubspaceResponse
  | .user => { s with user := fd }
  | .pid => { s with pid := fd }
  | _ => s

/-- The `switch` of `SubspaceResponse.DecodeFds`: a case for user and for PID namespaces. -/
def subspacesSwitch : Switch SubspaceResponse where
  takes
    | .user | .pid => true
    | _ => false
  get := SubspaceResponse.get
  set s t fd := s.set fd t
  get_set_self s t fd h := by cases t <;> simp_all [SubspaceResponse.get, SubspaceResponse.set]
  get_set_other s t t' fd h := by
    cases t <;> cases t' <;> simp_all [SubspaceResponse.get, SubspaceResponse.set]

/-- `SubspaceResponse.DecodeFds`: the first descriptor is the connection, the others go through
the `switch`. With no descriptor at all, `fds[0]` panics. -/
def SubspaceResponse.decodeFds (nstype : Int → Option NsType) (s : SubspaceResponse) :
    List Int → Outcome (SubspaceResponse × List Int)
  | [] => .panic "runtime error: index out of range [0] with length 0"
  | fd :: fds => .ret (subspacesSwitch.decode nstype { s with conn := fd } fds)

/-- **Received descriptors are held or closed, never both, never neither** — for positive,
distinct descriptors no two of which share a field, and, for a `SubspaceResponse`, at least
one. -/
theorem decodeFds_accounts (nstype : Int → Option NsType) :
    (∀ fds : List Int, (∀ fd ∈ fds, 0 < fd) → fds.Nodup → roomsSwitch.OnePerField nstype fds →
      ∀ fd ∈ fds,
        (roomsSwitch.holds nstype (RoomsResponse.decodeFds nstype {} fds).1 fd = true ∧
          fd ∉ (RoomsResponse.decodeFds nstype {} fds).2) ∨
        (roomsSwitch.holds nstype (RoomsResponse.decodeFds nstype {} fds).1 fd = false ∧
          (RoomsResponse.decodeFds nstype {} fds).2.count fd = 1)) ∧
    (∀ (c : Int) (rest : List Int), (∀ fd ∈ rest, 0 < fd) → (c :: rest).Nodup →
      subspacesSwitch.OnePerField nstype rest →
      ∃ r closed, SubspaceResponse.decodeFds nstype {} (c :: rest) = .ret (r, closed) ∧
        r.conn = c ∧ c ∉ closed ∧
        ∀ fd ∈ rest, (subspacesSwitch.holds nstype r fd = true ∧ fd ∉ closed) ∨
          (subspacesSwitch.holds nstype r fd = false ∧ closed.count fd = 1)) := by
  refine ⟨fun fds hpos hnd => roomsSwitch.decode_accounts nstype {} fds hpos hnd, ?_⟩
  intro c rest hpos hnd hone
  obtain ⟨hc, hnd⟩ := List.nodup_cons.mp hnd
  refine ⟨_, _, rfl, ?_, ?_, subspacesSwitch.decode_accounts nstype _ rest hpos hnd hone⟩
  · exact subspacesSwitch.decode_preserves nstype (fun r => r.conn = c)
      (fun s t fd h => by cases t <;> exact h) _ rest rfl
  · rw [subspacesSwitch.decode_closed]
    exact fun h => hc (List.mem_of_mem_filter h)

/-- A process holding a socket (3), a network namespace (4), a user namespace (5) and a plain
file (6). -/
def sampleFds : FdTable :=
  ⟨[(3, .sock 0), (4, .ns .net 1), (5, .ns .user 2), (6, .file 0)]⟩

theorem decodeFds_accounts_sample :
    ((∀ fd ∈ ([4, 5, 6] : List Int), 0 < fd) ∧ ([4, 5, 6] : List Int).Nodup ∧
      roomsSwitch.OnePerField sampleFds.nstype [4, 5, 6] ∧
      ∀ fd ∈ ([4, 5, 6] : List Int),
        (roomsSwitch.holds sampleFds.nstype
            (RoomsResponse.decodeFds sampleFds.nstype {} [4, 5, 6]).1 fd = true ∧
          fd ∉ (RoomsResponse.decodeFds sampleFds.nstype {} [4, 5, 6]).2) ∨
        (roomsSwitch.holds sampleFds.nstype
            (RoomsResponse.decodeFds sampleFds.nstype {} [4, 5, 6]).1 fd = false ∧
          (RoomsResponse.decodeFds sampleFds.nstype {} [4, 5, 6]).2.count fd = 1)) ∧
    ((∀ fd ∈ ([5, 6] : List Int), 0 < fd) ∧ ([3, 5, 6] : List Int).Nodup ∧
      subspacesSwitch.OnePerField sampleFds.nstype [5, 6] ∧
      ∃ r closed, SubspaceResponse.decodeFds sampleFds.nstype {} [3, 5, 6] = .ret (r, closed) ∧
        r.conn = 3 ∧ 3 ∉ closed ∧
        ∀ fd ∈ ([5, 6] : List Int), (subspacesSwitch.holds sampleFds.nstype r fd = true ∧
            fd ∉ closed) ∨
          (subspacesSwitch.holds sampleFds.nstype r fd = false ∧ closed.count fd = 1)) :=
  ⟨⟨by decide, by decide, by decide,
      (decodeFds_accounts sampleFds.nstype).1 [4, 5, 6] (by decide) (by decide) (by decide)⟩,
    ⟨by decide, by decide, by decide,
      (decodeFds_accounts sampleFds.nstype).2 3 [5, 6] (by decide) (by decide) (by decide)⟩⟩

/-- A process holding network namespace descriptors at 0, 3 and 4. -/
def netFds : FdTable := ⟨[(0, .ns .net 0), (3, .ns .net 1), (4, .ns .net 2)]⟩

/-- Of two network namespace descriptors, the first is overwritten and never closed; a network
namespace received as descriptor 0 is stored as 0, which reads as absent, and never closed; and
a `SubspaceResponse` with no descriptor at all panics. -/
theorem decodeFds_loses_fds_and_panics_on_empty :
    (roomsSwitch.holds netFds.nstype (RoomsResponse.decodeFds netFds.nstype {} [3, 4]).1 3
        = false ∧ 3 ∉ (RoomsResponse.decodeFds netFds.nstype {} [3, 4]).2) ∧
      ((RoomsResponse.decodeFds netFds.nstype {} [0]).1.net = 0 ∧
        roomsSwitch.holds netFds.nstype (RoomsResponse.decodeFds netFds.nstype {} [0]).1 0
          = false ∧ 0 ∉ (RoomsResponse.decodeFds netFds.nstype {} [0]).2) ∧
      SubspaceResponse.decodeFds netFds.nstype {} [] =
        .panic "runtime error: index out of range [0] with length 0" := by
  decide

/-! ## Round trips -/

/-- A response as its receiver should see it: every non-positive field read as 0. -/
def SubspaceResponse.received (r : SubspaceResponse) : SubspaceResponse :=
  ⟨⟨max r.user 0, max r.pid 0⟩, max r.conn 0⟩

/-- Without a connection, the user namespace descriptor is taken for the connection. -/
theorem subspace_roundtrip_misreads_absent_conn :
    SubspaceResponse.decodeFds sampleFds.nstype {} (SubspaceResponse.encodeFds { user := 5 }).1 =
        .ret ({ conn := 5 }, []) ∧
      SubspaceResponse.decodeFds sampleFds.nstype {} (SubspaceResponse.encodeFds { user := 5 }).1
        ≠ .ret (SubspaceResponse.received { user := 5 }, []) := by
  decide

/-- **The subspace round trip.** With the connection present, decoding what `encodeFds`
moved out gives the response back, absent fields as 0, and closes nothing. -/
theorem SubspaceResponse.decodeFds_encodeFds (nstype : Int → Option NsType)
    (r : SubspaceResponse) (hconn : 0 < r.conn)
    (huser : 0 < r.user → nstype r.user = some .user)
    (hpid : 0 < r.pid → nstype r.pid = some .pid) :
    SubspaceResponse.decodeFds nstype {} r.encodeFds.1 = .ret (r.received, []) := by
  rw [encodeFds_fst]
  obtain ⟨⟨u, p⟩, c⟩ := r
  dsimp only at hconn huser hpid
  have hc : max c 0 = c := max_eq_left hconn.le
  by_cases hu : 0 < u <;> by_cases hp : 0 < p <;>
    simp_all [fields, List.filter_cons, decodeFds, received, Switch.decode, Switch.store,
      subspacesSwitch, SubspaceResponse.set, max_eq_left, le_of_lt, le_of_not_lt]

theorem decodeFds_encodeFds_sample :
    SubspaceResponse.decodeFds sampleFds.nstype {}
        (SubspaceResponse.encodeFds { conn := 3, user := 5 }).1 =
      .ret (SubspaceResponse.received { conn := 3, user := 5 }, []) :=
  SubspaceResponse.decodeFds_encodeFds _ _ (by decide) (fun _ => by decide) (fun h => by cases h)

/-- A response as its receiver should see it: every non-positive field read as 0. -/
def RoomsResponse.received (r : RoomsResponse) : RoomsResponse :=
  ⟨max r.cgroup 0, max r.ipc 0, max r.mnt 0, max r.net 0, max r.time 0, max r.uts 0⟩

namespace RoomsResponse

theorem get_received (r : RoomsResponse) (t : NsType) : r.received.get t = max (r.get t) 0 := by
  cases t <;> rfl

theorem ext_get {s s' : RoomsResponse} (h : ∀ t, s.get t = s'.get t) : s = s' := by
  obtain ⟨c, i, m, n, t, u⟩ := s
  obtain ⟨c', i', m', n', t', u'⟩ := s'
  congr
  exacts [h .cgroup, h .ipc, h .mnt, h .net, h .time, h .uts]

theorem takes_of_pos {r : RoomsResponse} {t : NsType} (h : 0 < r.get t) :
    roomsSwitch.takes t = true := by
  cases t <;> first | rfl | exact absurd h (lt_irrefl 0)

theorem fields_eq_map_get (r : RoomsResponse) :
    r.fields = [NsType.cgroup, .ipc, .mnt, .net, .time, .uts].map r.get := rfl

theorem mem_encodeFds {r : RoomsResponse} {fd : Int} :
    fd ∈ r.encodeFds.1 ↔ ∃ t, 0 < r.get t ∧ r.get t = fd := by
  rw [encodeFds_fst, List.mem_filter, fields_eq_map_get, List.mem_map]
  constructor
  · rintro ⟨⟨t, -, rfl⟩, hpos⟩
    exact ⟨t, of_decide_eq_true hpos, rfl⟩
  · rintro ⟨t, hpos, rfl⟩
    refine ⟨⟨t, ?_, rfl⟩, decide_eq_true hpos⟩
    cases t <;> first | exact absurd hpos (lt_irrefl 0) | decide

theorem pos_of_mem_encodeFds {r : RoomsResponse} {fd : Int} (h : fd ∈ r.encodeFds.1) : 0 < fd := by
  obtain ⟨t, hpos, rfl⟩ := mem_encodeFds.mp h
  exact hpos

section RoundTrip

variable (nstype : Int → Option NsType) (r : RoomsResponse)
  (htype : ∀ t, 0 < r.get t → nstype (r.get t) = some t)
include htype

theorem eq_of_mem_encodeFds {fd : Int} {t : NsType} (hfd : fd ∈ r.encodeFds.1)
    (hty : nstype fd = some t) : 0 < r.get t ∧ fd = r.get t := by
  obtain ⟨t', hpos, rfl⟩ := mem_encodeFds.mp hfd
  obtain rfl : t' = t := Option.some.inj ((htype t' hpos).symm.trans hty)
  exact ⟨hpos, rfl⟩

theorem get_decodeFds_encodeFds (t : NsType) :
    (decodeFds nstype {} r.encodeFds.1).1.get t = max (r.get t) 0 := by
  show roomsSwitch.get (roomsSwitch.decode nstype {} r.encodeFds.1).1 t = _
  rw [Switch.get_decode]
  by_cases hpos : 0 < r.get t
  · rw [max_eq_left hpos.le]
    exact foldl_keep_unique _ _ _ _ (mem_encodeFds.mpr ⟨t, hpos, rfl⟩)
      ⟨htype t hpos, takes_of_pos hpos⟩
      fun y hy hp => (eq_of_mem_encodeFds nstype r htype hy hp.1).2
  · rw [max_eq_right (not_lt.mp hpos), foldl_keep_none]
    · cases t <;> rfl
    · exact fun y hy hp => hpos (eq_of_mem_encodeFds nstype r htype hy hp.1).1

theorem nodup_map_nstype_encodeFds : (r.encodeFds.1.map nstype).Nodup := by
  rw [encodeFds_fst, fields_eq_map_get, List.filter_map, List.map_map]
  have hflat : [NsType.cgroup, .ipc, .mnt, .net, .time, .uts].Nodup := by decide
  refine (hflat.filter _).map_on fun a ha b hb hab => Option.some.inj ?_
  have hpos : ∀ t ∈ [NsType.cgroup, .ipc, .mnt, .net, .time, .uts].filter ((0 < ·) ∘ r.get),
      nstype (r.get t) = some t := fun t ht => htype t (by simpa using (List.mem_filter.mp ht).2)
  rw [← hpos a ha, ← hpos b hb]
  exact hab

theorem decodeFds_encodeFds_closed : (decodeFds nstype {} r.encodeFds.1).2 = [] := by
  rw [decodeFds, Switch.decode_closed, List.filter_eq_nil_iff]
  intro fd hfd
  obtain ⟨t, hpos, rfl⟩ := mem_encodeFds.mp hfd
  simp [Switch.accepts, htype t hpos, takes_of_pos hpos]

end RoundTrip

/-- **The rooms round trip.** When each positive field is a descriptor of the namespace type
its field names, `encodeFds` moves out exactly the positive fields, in the field order
`Cgroup`, `IPC`, `Mnt`, `Net`, `Time`, `UTS`, and leaves no positive field behind; decoding
them on the zero response closes nothing and gives the response back, with every
non-positive field read as 0. -/
theorem encodeFds_roundtrip (nstype : Int → Option NsType) (r : RoomsResponse)
    (htype : ∀ t, 0 < r.get t → nstype (r.get t) = some t) :
    r.encodeFds.1 = r.fields.filter (0 < ·) ∧ (∀ fd ∈ r.encodeFds.2.fields, fd ≤ 0) ∧
      decodeFds nstype {} r.encodeFds.1 = (r.received, []) := by
  refine ⟨r.encodeFds_fst, fun fd hfd => ?_, Prod.ext (ext_get fun t => ?_)
    (decodeFds_encodeFds_closed nstype r htype)⟩
  · rw [encodeFds_snd] at hfd
    obtain ⟨x, -, rfl⟩ := List.mem_map.mp hfd
    unfold moved
    split <;> omega
  · rw [get_received, get_decodeFds_encodeFds nstype r htype]

end RoomsResponse

/-- A network namespace at 4, and an `IPC` field of -1, which is not sent. -/
theorem encodeFds_roundtrip_net :
    (∀ t, 0 < RoomsResponse.get { net := 4, ipc := -1 } t →
        sampleFds.nstype (RoomsResponse.get { net := 4, ipc := -1 } t) = some t) ∧
      (RoomsResponse.encodeFds { net := 4, ipc := -1 }).1 =
          (RoomsResponse.fields { net := 4, ipc := -1 }).filter (0 < ·) ∧
        (∀ fd ∈ (RoomsResponse.encodeFds { net := 4, ipc := -1 }).2.fields, fd ≤ 0) ∧
        RoomsResponse.decodeFds sampleFds.nstype {}
            (RoomsResponse.encodeFds { net := 4, ipc := -1 }).1 =
          (RoomsResponse.received { net := 4, ipc := -1 }, []) :=
  have htype : ∀ t, 0 < RoomsResponse.get { net := 4, ipc := -1 } t →
      sampleFds.nstype (RoomsResponse.get { net := 4, ipc := -1 } t) = some t := fun t => by
    cases t <;> decide
  ⟨htype, RoomsResponse.encodeFds_roundtrip sampleFds.nstype _ htype⟩

end Spacetest
