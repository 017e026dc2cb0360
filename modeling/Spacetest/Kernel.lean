import Mathlib.Data.List.Perm.Subperm
import Mathlib.Data.List.Nodup

/-!
# Namespaces and descriptor tables

The kernel objects the spacetest code hands around, and the one piece of kernel state every
other module reads: a process's descriptor table.

* `Outcome`: how a Go call ends — it returns, or it panics (a failed assertion panics too);
* `NsType`, `NsType.flag` (the `unix.CLONE_NEW*` constants) and `name`;
* `Obj`: what an open descriptor refers to — a namespace of some type, a socket end, or any
  other file;
* `FdTable`: the open descriptors of one process. `FdTable.install` hands out the lowest free
  number, as `open(2)`, `dup(2)` and `recvmsg(2)` do, and **`lowestFree_free`** shows the number
  is free; `FdTable.nstype` is the kernel's answer to `ioctl(fd, NS_GET_NSTYPE)`;
* `FdTable.Keeps`, `FdTable.Adds`: a later table still holds every descriptor of an earlier one;
  or agrees with it but for some descriptors that were free in it, the ones a call added. Every
  open and every close of a call's own descriptors keeps `Adds` (`Adds.install`,
  `Adds.close_own`), which is how the results that a call leaks nothing are proved;
* `Proc`: a process's table with the log of the descriptors it opened and closed, over which
  the results about leaks and double closes are stated.
-/

namespace Spacetest

/-- How a Go call ends: it returns a value, or it panics with a message. -/
inductive Outcome (α : Type)
  | ret (a : α)
  | panic (msg : String)
  deriving DecidableEq, Repr

/-- The eight types of Linux kernel namespaces. -/
inductive NsType
  | cgroup | ipc | mnt | net | pid | time | user | uts
  deriving DecidableEq, Repr, Inhabited

/-- The `unix.CLONE_NEW*` constant of a namespace type. -/
def NsType.flag : NsType → UInt64
  | .cgroup => 0x02000000
  | .ipc => 0x08000000
  | .mnt => 0x00020000
  | .net => 0x40000000
  | .pid => 0x20000000
  | .time => 0x00000080
  | .user => 0x10000000
  | .uts => 0x04000000

/-- Modelled from the spec: `spacetest.Name` is not among the sources; its table is the one
the type-names test checks. -/
def name : NsType → String
  | .cgroup => "cgroup"
  | .ipc => "ipc"
  | .mnt => "mnt"
  | .net => "net"
  | .pid => "pid"
  | .time => "time"
  | .user => "user"
  | .uts => "uts"

/-- What an open descriptor refers to: a namespace, a socket, a pidfd for a child process, or
any other file. -/
inductive Obj
  | ns (t : NsType) (ino : Nat)
  | sock (id : Nat)
  | pidfd (pid : Nat)
  | file (id : Nat)
  deriving DecidableEq, Repr

/-- The namespace type of an object, if it is a namespace. -/
def Obj.nstype : Obj → Option NsType
  | .ns t _ => some t
  | _ => none

/-- The open descriptors of one process and what each refers to, newest first. -/
structure FdTable where
  entries : List (Int × Obj)
  deriving DecidableEq, Repr

namespace FdTable

/-- The object behind a descriptor, if it is open. -/
def lookup (T : FdTable) (fd : Int) : Option Obj := T.entries.lookup fd

/-- The descriptor numbers in use. -/
def fds (T : FdTable) : List Int := T.entries.map Prod.fst

/-- The lowest number from `n` on that is not in use, trying at most `k` numbers. -/
def freeFrom (T : FdTable) (n : Nat) : Nat → Nat
  | 0 => n
  | k + 1 => if (n : Int) ∈ T.fds then T.freeFrom (n + 1) k else n

/-- The lowest free descriptor number. -/
def lowestFree (T : FdTable) : Int := T.freeFrom 0 T.fds.length

/-- Open a new descriptor for `o` at the lowest free number. -/
def install (T : FdTable) (o : Obj) : Int × FdTable :=
  (T.lowestFree, ⟨(T.lowestFree, o) :: T.entries⟩)

/-- `close(2)`: the descriptor is no longer in use. -/
def close (T : FdTable) (fd : Int) : FdTable := ⟨T.entries.filter (·.1 ≠ fd)⟩

/-- `ioctl(fd, NS_GET_NSTYPE)`: the type of the namespace behind `fd`, or `none` when the
call fails because `fd` is not an open namespace descriptor. -/
def nstype (T : FdTable) (fd : Int) : Option NsType := (T.lookup fd).bind Obj.nstype

theorem freeFrom_ge (T : FdTable) (n k : Nat) : n ≤ T.freeFrom n k := by
  induction k generalizing n with
  | zero => exact le_refl n
  | succ k ih =>
    simp only [freeFrom]
    split
    · exact Nat.le_of_succ_le (ih (n + 1))
    · exact le_refl n

theorem freeFrom_spec (T : FdTable) (n k : Nat) :
    (T.freeFrom n k : Int) ∉ T.fds ∨
      (T.freeFrom n k = n + k ∧ ∀ i, n ≤ i → i < n + k → (i : Int) ∈ T.fds) := by
  induction k generalizing n with
  | zero => exact .inr ⟨rfl, fun i h1 h2 => absurd h2 (by omega)⟩
  | succ k ih =>
    simp only [freeFrom]
    split
    · rename_i hn
      rcases ih (n + 1) with h | ⟨h, hall⟩
      · exact .inl h
      · refine .inr ⟨by omega, fun i h1 h2 => ?_⟩
        rcases Nat.eq_or_lt_of_le h1 with rfl | h1
        · exact hn
        · exact hall i h1 (by omega)
    · exact .inl ‹_›

theorem length_le_of_range_sub (T : FdTable) (k : Nat)
    (h : ∀ i, i < k → (i : Int) ∈ T.fds) : k ≤ T.fds.length := by
  have hsub : (List.range k).map (fun i : Nat => (i : Int)) ⊆ T.fds := by
    intro x hx
    obtain ⟨i, hi, rfl⟩ := List.mem_map.mp hx
    exact h i (List.mem_range.mp hi)
  have hnd : ((List.range k).map (fun i : Nat => (i : Int))).Nodup :=
    List.Nodup.map (fun _ _ h => Int.ofNat.inj h) (List.nodup_range k)
  simpa using (hnd.subperm hsub).length_le

/-- **The lowest free number is free.** -/
theorem lowestFree_free (T : FdTable) : T.lowestFree ∉ T.fds := by
  unfold lowestFree
  rcases T.freeFrom_spec 0 T.fds.length with h | ⟨h, hall⟩
  · exact h
  · rw [h]
    intro hin
    have := T.length_le_of_range_sub (T.fds.length + 1) fun i hi => by
      rcases Nat.lt_succ_iff_lt_or_eq.mp hi with hi | rfl
      · exact hall i (Nat.zero_le i) (by omega)
      · simpa using hin
    omega

theorem lowestFree_nonneg (T : FdTable) : 0 ≤ T.lowestFree := by
  unfold lowestFree; omega

theorem freeFrom_used (T : FdTable) (n k : Nat) :
    ∀ i, n ≤ i → i < T.freeFrom n k → (i : Int) ∈ T.fds := by
  induction k generalizing n with
  | zero => intro i h1 h2; simp only [freeFrom] at h2; omega
  | succ k ih =>
    intro i h1 h2
    simp only [freeFrom] at h2
    split at h2
    · rename_i hn
      rcases Nat.eq_or_lt_of_le h1 with rfl | h1
      · exact hn
      · exact ih (n + 1) i h1 h2
    · omega

/-- **Every number below the lowest free one is in use.** -/
theorem lowestFree_least (T : FdTable) (i : Nat) (h : (i : Int) < T.lowestFree) :
    (i : Int) ∈ T.fds := by
  unfold lowestFree at h
  exact T.freeFrom_used 0 _ i (Nat.zero_le i) (by exact_mod_cast h)

/-- How many numbers below `n` are free. -/
def freeBelow (T : FdTable) : Nat → Nat
  | 0 => 0
  | n + 1 => T.freeBelow n + if (n : Int) ∈ T.fds then 0 else 1

theorem freeBelow_eq_zero {T : FdTable} {n : Nat} (h : (n : Int) ≤ T.lowestFree) :
    T.freeBelow n = 0 := by
  induction n with
  | zero => rfl
  | succ n ih =>
    rw [freeBelow, ih (by omega), if_pos (T.lowestFree_least n (by omega))]

theorem freeBelow_mono (T : FdTable) {m n : Nat} (h : m ≤ n) : T.freeBelow m ≤ T.freeBelow n := by
  induction h with
  | refl => exact le_rfl
  | step _ ih => exact ih.trans (Nat.le_add_right _ _)

theorem lookup_cons_eq {a k : Int} {b : Obj} {es : List (Int × Obj)} :
    ((k, b) :: es).lookup a = if a = k then some b else es.lookup a := by
  rw [List.lookup_cons]
  by_cases h : a = k
  · rw [if_pos h, h, beq_self_eq_true]
  · rw [if_neg h, beq_false_of_ne h]

theorem lookup_eq_none_of_not_mem {T : FdTable} {fd : Int} (h : fd ∉ T.fds) :
    T.lookup fd = none := by
  obtain ⟨es⟩ := T
  unfold lookup fds at *
  induction es with
  | nil => rfl
  | cons e es ih =>
    obtain ⟨k, o⟩ := e
    simp only [List.map_cons, List.mem_cons, not_or] at h
    rw [lookup_cons_eq, if_neg h.1, ih h.2]

@[simp] theorem install_fst (T : FdTable) (o : Obj) : (T.install o).1 = T.lowestFree := rfl

@[simp] theorem fds_install (T : FdTable) (o : Obj) :
    (T.install o).2.fds = T.lowestFree :: T.fds := rfl

theorem lookup_install (T : FdTable) (o : Obj) (fd : Int) :
    (T.install o).2.lookup fd = if fd = T.lowestFree then some o else T.lookup fd := by
  simp [install, lookup, lookup_cons_eq]

@[simp] theorem lookup_install_self (T : FdTable) (o : Obj) :
    (T.install o).2.lookup T.lowestFree = some o := by
  simp [lookup_install]

theorem fds_close (T : FdTable) (fd : Int) : (T.close fd).fds = T.fds.filter (· ≠ fd) := by
  simp only [close, fds]
  rw [List.filter_map]; rfl

theorem lookup_close (T : FdTable) (fd x : Int) :
    (T.close fd).lookup x = if x = fd then none else T.lookup x := by
  unfold close lookup
  induction T.entries with
  | nil => simp
  | cons e es ih =>
    obtain ⟨k, o⟩ := e
    by_cases hk : k = fd
    · subst hk
      rw [List.filter_cons_of_neg (by simp), ih, lookup_cons_eq]
      by_cases hx : x = k <;> simp [hx]
    · rw [List.filter_cons_of_pos (by simpa using hk), lookup_cons_eq, ih, lookup_cons_eq]
      by_cases hx : x = k
      · subst hx; simp [hk]
      · simp [hx]

theorem lookup_foldl_close (T : FdTable) (fds : List Int) (x : Int) :
    (fds.foldl close T).lookup x = if x ∈ fds then none else T.lookup x := by
  induction fds generalizing T with
  | nil => simp
  | cons fd fds ih =>
    rw [List.foldl_cons, ih, lookup_close]
    by_cases h : x = fd <;> simp [h]

/-- Open descriptors for several objects, one after another. -/
def installAll (T : FdTable) : List Obj → List Int × FdTable
  | [] => ([], T)
  | o :: os => ((T.install o).1 :: ((T.install o).2.installAll os).1,
      ((T.install o).2.installAll os).2)

theorem lowestFree_pos {T : FdTable} (h0 : (0 : Int) ∈ T.fds) : 0 < T.lowestFree := by
  have := T.lowestFree_nonneg
  have hne : T.lowestFree ≠ 0 := fun h => T.lowestFree_free (h ▸ h0)
  omega

theorem lowestFree_eq_zero {T : FdTable} (h0 : (0 : Int) ∉ T.fds) : T.lowestFree = 0 := by
  unfold lowestFree
  cases T.fds.length <;> simp [freeFrom, h0]

theorem lowestFree_install_pos (T : FdTable) (o : Obj) : 0 < (T.install o).2.lowestFree := by
  refine lowestFree_pos ?_
  rw [fds_install]
  by_cases h0 : (0 : Int) ∈ T.fds
  · exact .tail _ h0
  · rw [lowestFree_eq_zero h0]
    exact .head _

theorem nstype_of_lookup {T : FdTable} {fd : Int} {t : NsType} {i : Nat}
    (h : T.lookup fd = some (.ns t i)) : T.nstype fd = some t := by
  simp [nstype, h, Obj.nstype]

theorem mem_fds_of_lookup {T : FdTable} {fd : Int} {o : Obj} (h : T.lookup fd = some o) :
    fd ∈ T.fds := by
  by_contra hfd
  rw [lookup_eq_none_of_not_mem hfd] at h
  cases h

/-- `T'` still has every descriptor of `T`, referring to the same object. -/
def Keeps (T' T : FdTable) : Prop := ∀ fd o, T.lookup fd = some o → T'.lookup fd = some o

theorem Keeps.refl (T : FdTable) : T.Keeps T := fun _ _ h => h

theorem Keeps.trans {T T' T'' : FdTable} (h' : T''.Keeps T') (h : T'.Keeps T) : T''.Keeps T :=
  fun fd o hfd => h' fd o (h fd o hfd)

theorem Keeps.lookup_eq_none {T T' : FdTable} (h : T'.Keeps T) {fd : Int}
    (hfd : T'.lookup fd = none) : T.lookup fd = none := by
  cases hT : T.lookup fd with
  | none => rfl
  | some o => rw [h fd o hT] at hfd; cases hfd

theorem lookup_lowestFree (T : FdTable) : T.lookup T.lowestFree = none :=
  lookup_eq_none_of_not_mem T.lowestFree_free

theorem freeBelow_install (T : FdTable) (o : Obj) (n : Nat) :
    (T.install o).2.freeBelow n + (if T.lowestFree < n then 1 else 0) = T.freeBelow n := by
  induction n with
  | zero => simp [freeBelow, not_lt.mpr T.lowestFree_nonneg]
  | succ n ih =>
    have hfree := T.lowestFree_free
    simp only [freeBelow, fds_install, List.mem_cons]
    by_cases hn : (n : Int) = T.lowestFree
    · rw [if_neg (by omega)] at ih
      rw [if_pos (.inl hn), if_pos (by push_cast; omega), if_neg (hn ▸ hfree)]
      omega
    · by_cases hm : (n : Int) ∈ T.fds
      · rw [if_pos (.inr hm), if_pos hm]
        split_ifs at ih ⊢ <;> push_cast at * <;> omega
      · rw [if_neg (by tauto), if_neg hm]
        split_ifs at ih ⊢ <;> push_cast at * <;> omega

theorem keeps_install (T : FdTable) (o : Obj) : (T.install o).2.Keeps T := by
  intro fd o' h
  have hne : fd ≠ T.lowestFree := fun he => T.lowestFree_free (he ▸ mem_fds_of_lookup h)
  rw [lookup_install, if_neg hne, h]

theorem lookup_install_of_lookup {T : FdTable} {fd : Int} {o : Obj} (h : T.lookup fd = some o)
    (o' : Obj) : (T.install o').2.lookup fd = some o :=
  T.keeps_install o' fd o h

theorem close_install (T : FdTable) (o : Obj) : (T.install o).2.close T.lowestFree = T := by
  obtain ⟨es⟩ := T
  have hfree := lowestFree_free ⟨es⟩
  simp only [close, install, List.filter_cons, ne_eq, not_true_eq_false, decide_False,
    Bool.false_eq_true, if_false, mk.injEq]
  refine List.filter_eq_self.mpr fun e he => ?_
  have : e.1 ∈ (⟨es⟩ : FdTable).fds := List.mem_map_of_mem Prod.fst he
  simpa using fun (h : e.1 = lowestFree ⟨es⟩) => hfree (h ▸ this)

theorem close_install_install (T : FdTable) (a b : Obj) :
    ((T.install a).2.install b).2.close T.lowestFree = ⟨((T.install a).2.lowestFree, b) :: T.entries⟩ := by
  have hne : (T.install a).2.lowestFree ≠ T.lowestFree := fun h =>
    (T.install a).2.lowestFree_free (by rw [h, fds_install]; exact .head _)
  show (⟨_ :: (T.install a).2.entries⟩ : FdTable).close _ = _
  rw [close, List.filter_cons_of_pos (by simpa using hne)]
  exact congrArg (fun U : FdTable => (⟨_ :: U.entries⟩ : FdTable)) (close_install T a)

/-! ### Installing several objects -/

section InstallAll

variable (os : List Obj)

theorem lookup_installAll_fresh (T : FdTable) : ∀ fd ∈ (T.installAll os).1, T.lookup fd = none := by
  induction os generalizing T with
  | nil => simp [installAll]
  | cons o os ih =>
    simp only [installAll, List.mem_cons, forall_eq_or_imp]
    exact ⟨T.lookup_lowestFree, fun fd hfd => (T.keeps_install o).lookup_eq_none (ih _ fd hfd)⟩

theorem keeps_installAll (T : FdTable) : (T.installAll os).2.Keeps T := by
  induction os generalizing T with
  | nil => exact Keeps.refl T
  | cons o os ih => exact (ih _).trans (T.keeps_install o)

theorem map_lookup_installAll (T : FdTable) :
    (T.installAll os).1.map (T.installAll os).2.lookup = os.map some := by
  induction os generalizing T with
  | nil => rfl
  | cons o os ih =>
    simp only [installAll, List.map_cons, ih, install_fst]
    rw [keeps_installAll os _ _ o (T.lookup_install_self o)]

theorem mem_installAll (T : FdTable) {fd : Int} (hfree : T.lookup fd = none)
    (hopen : (T.installAll os).2.lookup fd ≠ none) : fd ∈ (T.installAll os).1 := by
  induction os generalizing T with
  | nil => exact absurd hfree hopen
  | cons o os ih =>
    simp only [installAll, List.mem_cons]
    by_cases hfd : fd = T.lowestFree
    · exact .inl hfd
    · exact .inr (ih _ (by rw [lookup_install, if_neg hfd, hfree]) hopen)

end InstallAll

theorem lowestFree_ne_of_lookup {T : FdTable} {fd : Int} {o : Obj} (h : T.lookup fd = some o) :
    T.lowestFree ≠ fd := fun he => by
  rw [← he, lookup_lowestFree] at h
  cases h

/-! ### Calls that add descriptors of their own -/

/-- `T'` agrees with `T` outside the descriptors `S`, which were all free in `T`: the table a
call leaves that opened the descriptors of `S` and closed no other. -/
structure Adds (T' T : FdTable) (S : Int → Prop) : Prop where
  agree : ∀ fd, ¬ S fd → T'.lookup fd = T.lookup fd
  fresh : ∀ fd, S fd → T.lookup fd = none

section Adds

variable {T' T : FdTable} {S : Int → Prop}

theorem Adds.refl (T : FdTable) : T.Adds T fun _ => False := ⟨fun _ _ => rfl, fun _ h => h.elim⟩

theorem Adds.install (h : T'.Adds T S) (o : Obj) :
    (T'.install o).2.Adds T fun fd => fd = T'.lowestFree ∨ S fd := by
  refine ⟨fun fd hfd => ?_, fun fd hfd => ?_⟩
  · rw [lookup_install, if_neg fun he => hfd (.inl he), h.agree fd fun hs => hfd (.inr hs)]
  · by_cases hs : S fd
    · exact h.fresh fd hs
    · rw [← h.agree fd hs, hfd.resolve_right hs]
      exact T'.lookup_lowestFree

theorem Adds.close (h : T'.Adds T S) (x : Int) :
    (T'.close x).Adds (T.close x) fun fd => S fd ∧ fd ≠ x := by
  refine ⟨fun fd hfd => ?_, fun fd hfd => ?_⟩
  · rw [lookup_close, lookup_close]
    by_cases hx : fd = x
    · rw [if_pos hx, if_pos hx]
    · rw [if_neg hx, if_neg hx, h.agree fd fun hs => hfd ⟨hs, hx⟩]
  · rw [lookup_close, if_neg hfd.2]
    exact h.fresh fd hfd.1

theorem Adds.of_lookup_eq {U : FdTable} (h : T'.Adds T S) (hTU : ∀ fd, T.lookup fd = U.lookup fd) :
    T'.Adds U S :=
  ⟨fun fd hfd => (h.agree fd hfd).trans (hTU fd), fun fd hfd => (hTU fd) ▸ h.fresh fd hfd⟩

theorem Adds.close_own (h : T'.Adds T S) {x : Int} (hx : T.lookup x = none) :
    (T'.close x).Adds T fun fd => S fd ∧ fd ≠ x :=
  (h.close x).of_lookup_eq fun fd => by
    rw [lookup_close]
    by_cases hfd : fd = x
    · rw [if_pos hfd, hfd, hx]
    · rw [if_neg hfd]

theorem Adds.mono {S' : Int → Prop} (h : T'.Adds T S) (hsub : ∀ fd, S fd → S' fd)
    (hfresh : ∀ fd, S' fd → T.lookup fd = none) : T'.Adds T S' :=
  ⟨fun fd hfd => h.agree fd fun hs => hfd (hsub fd hs), hfresh⟩

theorem Adds.lookup_eq (h : T'.Adds T S) (hS : ∀ fd, ¬ S fd) (fd : Int) :
    T'.lookup fd = T.lookup fd :=
  h.agree fd (hS fd)

end Adds

end FdTable

/-- A change a process makes to its descriptor table. -/
inductive FdEvent
  | opened (fd : Int)
  | closed (fd : Int)
  deriving DecidableEq, Repr

/-- A process: its descriptor table, and the descriptors it opened and closed, oldest first. -/
structure Proc where
  table : FdTable
  log : List FdEvent := []
  deriving DecidableEq, Repr

namespace Proc

/-- Open a descriptor for `o` at the lowest free number (`open`, `dup`, `socketpair`). -/
def openFd (p : Proc) (o : Obj) : Int × Proc :=
  ((p.table.install o).1, ⟨(p.table.install o).2, p.log ++ [.opened (p.table.install o).1]⟩)

/-- `close(2)`, whether or not the descriptor is open. -/
def closeFd (p : Proc) (fd : Int) : Proc := ⟨p.table.close fd, p.log ++ [.closed fd]⟩

/-- Close several descriptors, in order. -/
def closeAll (p : Proc) : List Int → Proc
  | [] => p
  | fd :: fds => (p.closeFd fd).closeAll fds

@[simp] theorem openFd_fst (p : Proc) (o : Obj) : (p.openFd o).1 = p.table.lowestFree := rfl

@[simp] theorem openFd_log (p : Proc) (o : Obj) :
    (p.openFd o).2.log = p.log ++ [.opened p.table.lowestFree] := rfl

@[simp] theorem lookup_openFd (p : Proc) (o : Obj) :
    (p.openFd o).2.table.lookup (p.openFd o).1 = some o :=
  FdTable.lookup_install_self _ _

theorem table_openFd (p : Proc) (o : Obj) : (p.openFd o).2.table = (p.table.install o).2 := rfl

theorem table_closeFd (p : Proc) (fd : Int) : (p.closeFd fd).table = p.table.close fd := rfl

@[simp] theorem closeFd_log (p : Proc) (fd : Int) : (p.closeFd fd).log = p.log ++ [.closed fd] :=
  rfl

theorem lookup_closeAll (p : Proc) (fds : List Int) (x : Int) :
    (p.closeAll fds).table.lookup x = if x ∈ fds then none else p.table.lookup x := by
  induction fds generalizing p with
  | nil => simp [closeAll]
  | cons fd fds ih =>
    rw [closeAll, ih]
    by_cases h : x ∈ fds <;> simp [h, closeFd, FdTable.lookup_close]

theorem adds_closeAll {T : FdTable} {S : Int → Prop} (p : Proc) (h : p.table.Adds T S)
    (fds : List Int) (hfds : ∀ fd ∈ fds, T.lookup fd = none) :
    (p.closeAll fds).table.Adds T fun fd => S fd ∧ fd ∉ fds := by
  induction fds generalizing p S with
  | nil => exact h.mono (fun _ hs => ⟨hs, List.not_mem_nil _⟩) fun fd hs => h.fresh fd hs.1
  | cons x fds ih =>
    refine (ih (p.closeFd x) (h.close_own (hfds x (.head _)))
      fun fd hfd => hfds fd (.tail _ hfd)).mono (fun fd hs => ⟨hs.1.1, ?_⟩)
      fun fd hs => h.fresh fd hs.1
    simp only [List.mem_cons, not_or]
    exact ⟨hs.1.2, hs.2⟩

@[simp] theorem closeAll_log (p : Proc) (fds : List Int) :
    (p.closeAll fds).log = p.log ++ fds.map .closed := by
  induction fds generalizing p with
  | nil => simp [closeAll]
  | cons fd fds ih => simp [closeAll, ih]

end Proc

end Spacetest
