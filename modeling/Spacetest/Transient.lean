import Spacetest.Separate

/-!
# Transient namespaces

`spacetest.NewTransient` creates a namespace and hands out a descriptor for it, leaving the
calling thread where it was; `spacetest.EnterTransient` and `mntns.EnterTransient` switch the
calling thread into a new namespace and return the function that switches it back, which the
caller defers; `mntns.NewTransient` creates a mount namespace on another thread.

* `unshare`: `unix.Unshare` of one namespace type. The kernel attaches the running thread to a
  namespace it creates, whose inode number the oracle `newIno` gives for the call — for the PID
  and time types only the thread's children — or refuses. It refuses a new PID namespace to a
  thread whose children already go to another one than the process's own;
* `deferring`: a `defer` statement: the deferred call runs however the rest of the function
  ends, and a panic of the deferred call replaces how the rest ended;
* `newTransient`, `newTransient_apply`: every outcome of `NewTransient`, by the first of its four
  kernel calls that fails. **`newTransient_ret`**: when none fails, the caller's thread is back
  in its namespaces and unpinned, and the table has gained one descriptor, for the new namespace,
  queued for `DeferCleanup`. **`newTransient_fails`**: when one fails, the goroutine stays
  pinned and the table is as on entry, except after a failed switch back, which leaves the new
  namespace's descriptor open with no cleanup queued for it;
* `enterTransient`, `mntns.enterTransient`, and `inTransient`, `mntns.inTransient`: a function
  that begins with `defer EnterTransient(typ)()`. **`inTransient_restores`**: around every body
  that closes no descriptor it did not open, the thread runs the body in a new namespace (of
  type PID when its children are in the process's own PID namespace, as the kernel requires), and
  then either returns to the caller's namespace, unpinned and with the descriptor closed, or
  the deferred call panics; **`mntns.inTransient_stays_pinned`**: the same for mount namespaces,
  except that the goroutine stays pinned;
* `afterEnterPid`: a test inside `EnterTransient(unix.CLONE_NEWPID)`. There
  `goInAndOut_unpins_with_pid_children_moved`: `goInAndOut` into a PID namespace restores the
  process's own PID namespace for the thread's children and unpins; and
  `execute_worker_runs_fn_with_other_pid_children`: on the worker path `fn` runs with the
  children's PID namespace of the spare thread, on the pinned path with the caller's;
* `mntns.idler`, `mntns.newTransient`: `mntns.NewTransient`, whose idler goroutine creates a
  mount namespace on a thread of its own and keeps it alive. **`mntns.newTransient_spec`**: the
  caller's thread never moves; the new namespace's descriptor is returned, queued for
  `DeferCleanup`, unless it is 0, which the caller's check takes for the idler's failure.
-/

namespace Spacetest

/-- Whether the kernel grants an `unshare` of type `t`: it can refuse any, and refuses a new PID
namespace to a thread whose children already go to a PID namespace other than the process's own
(`EINVAL`). -/
def unshareGranted (kernel : Nat → Bool) (w : World) (t : NsType) : Bool :=
  kernel w.calls && (t != .pid || w.attach .pid == w.pidNs)

/-- `unix.Unshare` of one namespace type: the kernel creates a namespace, with the inode number
`newIno` gives for the call, and attaches the running thread to it — for the PID and time types
only the thread's children; or it refuses. Returns whether it succeeded. -/
def unshare (kernel : Nat → Bool) (newIno : Nat → Nat) (t : NsType) : Go Bool := fun w =>
  (.ret (unshareGranted kernel w t), { w with
    calls := w.calls + 1
    attach := if unshareGranted kernel w t then Function.update w.attach t (newIno w.calls)
      else w.attach })

theorem unshareGranted_of_ne {t : NsType} (ht : t ≠ .pid) (kernel : Nat → Bool) (w : World) :
    unshareGranted kernel w t = kernel w.calls := by
  simp [unshareGranted, ht]

/-- `defer d` followed by `body`: `d` runs when `body` has ended, by returning or by panicking,
and a panic of `d` replaces how `body` ended. -/
def deferring {α : Type} (d : Go Unit) (body : Go α) : Go α := fun w =>
  let (r, w) := body w
  match d w with
  | (.ret (), w) => (r, w)
  | (.panic m, w) => (.panic m, w)

/-- A kernel that grants the first `n` fallible calls and refuses every later one. -/
def grantsFirst (n : Nat) : Nat → Bool := fun k => decide (k < n)

/-! ## `NewTransient` -/

/-- The namespace types `NewTransient` accepts. -/
def newTransientTypes : List NsType := [.cgroup, .ipc, .net, .uts]

/-- `spacetest.NewTransient(typ)`. -/
def newTransient (kernel : Nat → Bool) (newIno : Nat → Nat) (typ : NsType) : Go Int := do
  expect (newTransientTypes.contains typ) ("unsupported type " ++ name typ)
  lockOSThread
  expect (← syscall kernel) ("cannot determine current " ++ name typ ++ " namespace from procfs")
  let callersNamespace ← openNs typ
  deferring (closeFd callersNamespace) do
    expect (← unshare kernel newIno typ) ("cannot create new " ++ name typ ++ " namespace")
    expect (← syscall kernel) ("cannot determine new " ++ name typ ++ " namespace from procfs")
    let newNamespace ← openNs typ
    switchInto kernel callersNamespace (some typ)
      ("cannot switch back into original " ++ name typ ++ " namespace")
    deferCleanup newNamespace
    unlockOSThread
    pure newNamespace

section NewTransient

variable (kernel : Nat → Bool) (newIno : Nat → Nat) {typ : NsType} (w : World)

theorem newTransient_unsupported (htyp : typ ∉ newTransientTypes) :
    newTransient kernel newIno typ w = (.panic ("unsupported type " ++ name typ), w) := by
  simp [newTransient, Go.bind_apply, expect, htyp, fail]

/-- **Every run of `NewTransient`**, by the first of its kernel calls that fails: opening the
caller's namespace, `unshare`, opening the new namespace, and switching back. The descriptor of
the caller's namespace, at the lowest free number, is closed on every path that opened it. -/
theorem newTransient_apply (htyp : typ ∈ newTransientTypes) :
    newTransient kernel newIno typ w =
      if kernel w.calls then
        if kernel (w.calls + 1) then
          if kernel (w.calls + 2) then
            if kernel (w.calls + 3) then
              (.ret (w.proc.table.install (.ns typ (w.attach typ))).2.lowestFree, { w with
                calls := w.calls + 4
                proc := ⟨⟨((w.proc.table.install (.ns typ (w.attach typ))).2.lowestFree,
                    .ns typ (newIno (w.calls + 1))) :: w.proc.table.entries⟩,
                  w.proc.log ++ [.opened w.proc.table.lowestFree,
                    .opened (w.proc.table.install (.ns typ (w.attach typ))).2.lowestFree,
                    .closed w.proc.table.lowestFree]⟩
                cleanups := (w.proc.table.install (.ns typ (w.attach typ))).2.lowestFree :: w.cleanups
                trace := w.trace ++ [.setns w.proc.table.lowestFree true] })
            else
              (.panic ("cannot switch back into original " ++ name typ ++ " namespace"), { w with
                pins := w.pins + 1
                calls := w.calls + 4
                attach := Function.update w.attach typ (newIno (w.calls + 1))
                proc := ⟨⟨((w.proc.table.install (.ns typ (w.attach typ))).2.lowestFree,
                    .ns typ (newIno (w.calls + 1))) :: w.proc.table.entries⟩,
                  w.proc.log ++ [.opened w.proc.table.lowestFree,
                    .opened (w.proc.table.install (.ns typ (w.attach typ))).2.lowestFree,
                    .closed w.proc.table.lowestFree]⟩
                trace := w.trace ++ [.setns w.proc.table.lowestFree false] })
          else
            (.panic ("cannot determine new " ++ name typ ++ " namespace from procfs"), { w with
              pins := w.pins + 1
              calls := w.calls + 3
              attach := Function.update w.attach typ (newIno (w.calls + 1))
              proc := ⟨w.proc.table,
                w.proc.log ++ [.opened w.proc.table.lowestFree, .closed w.proc.table.lowestFree]⟩ })
        else
          (.panic ("cannot create new " ++ name typ ++ " namespace"), { w with
            pins := w.pins + 1
            calls := w.calls + 2
            proc := ⟨w.proc.table,
              w.proc.log ++ [.opened w.proc.table.lowestFree, .closed w.proc.table.lowestFree]⟩ })
      else
        (.panic ("cannot determine current " ++ name typ ++ " namespace from procfs"),
          { w with pins := w.pins + 1, calls := w.calls + 1 }) := by
  have hne : typ ≠ .pid ∧ typ ≠ .time := by
    simp only [newTransientTypes, List.mem_cons, List.mem_singleton, List.not_mem_nil,
      or_false] at htyp
    rcases htyp with rfl | rfl | rfl | rfl <;> decide
  have hview : ∀ w' : World, w'.procNs typ = w'.attach typ := World.procNs_of_ne hne.1 hne.2
  have hgr : ∀ w' : World, unshareGranted kernel w' typ = kernel w'.calls :=
    unshareGranted_of_ne hne.1 kernel
  have hset : ∀ n, setnsGranted kernel n typ = kernel n := fun n => by simp [setnsGranted, hne.2]
  -- reduce the right side to the branch of each pattern of the first kernel answers
  by_cases h0 : kernel w.calls <;> simp only [h0, ↓reduceIte]
  by_cases h1 : kernel (w.calls + 1) <;> simp only [h1, ↓reduceIte]
  by_cases h2 : kernel (w.calls + 2) <;> simp only [h2, ↓reduceIte]
  by_cases h3 : kernel (w.calls + 3) <;> simp only [h3, ↓reduceIte]
  all_goals
    simp only [newTransient, Go.bind_apply, Go.bind, Go.pure_apply, expect, List.elem_eq_mem, htyp,
      decide_True, ↓reduceIte, Bool.false_eq_true, fail, lockOSThread, syscall, openNs, deferring,
      unshare, switchInto, setns, closeFd, deferCleanup, unlockOSThread, Proc.openFd, Proc.closeFd,
      FdTable.install_fst, FdTable.lookup_install_self, FdTable.lookup_install_of_lookup,
      FdTable.close_install, FdTable.close_install_install, Option.all_some, beq_self_eq_true,
      Option.some.injEq, Function.update_same, Function.update_idem, Function.update_eq_self,
      Nat.add_one_sub_one, Nat.add_assoc, Nat.reduceAdd, List.append_assoc, List.nil_append,
      List.singleton_append, List.cons_append, *]

/-- **`NewTransient` when the kernel grants its calls.** It returns a descriptor that was not
open, for the namespace the `unshare` created, queued for `DeferCleanup`; the descriptor of the
caller's namespace was opened and closed again, and the thread is back in all its namespaces and
unpinned. Nothing else changed. -/
theorem newTransient_ret (htyp : typ ∈ newTransientTypes)
    (hk : ∀ j < 4, kernel (w.calls + j) = true) :
    ∃ fd, newTransient kernel newIno typ w = (.ret fd, { w with
        calls := w.calls + 4
        proc := ⟨⟨(fd, .ns typ (newIno (w.calls + 1))) :: w.proc.table.entries⟩,
          w.proc.log ++ [.opened w.proc.table.lowestFree, .opened fd, .closed w.proc.table.lowestFree]⟩
        cleanups := fd :: w.cleanups
        trace := w.trace ++ [.setns w.proc.table.lowestFree true] }) ∧
      w.proc.table.lookup fd = none := by
  rw [newTransient_apply kernel newIno w htyp, if_pos (by simpa using hk 0 (by omega)),
    if_pos (hk 1 (by omega)), if_pos (hk 2 (by omega)), if_pos (hk 3 (by omega))]
  exact ⟨_, rfl, (w.proc.table.keeps_install _).lookup_eq_none (FdTable.lookup_lowestFree _)⟩

/-- A new network namespace, with inode number 9, from the thread of `sampleWorld`. -/
theorem newTransient_ret_net :
    NsType.net ∈ newTransientTypes ∧ (∀ j < 4, allOk (sampleWorld.calls + j) = true) ∧
      ∃ fd, newTransient allOk (fun _ => 9) .net sampleWorld = (.ret fd, { sampleWorld with
          calls := sampleWorld.calls + 4
          proc := ⟨⟨(fd, .ns .net 9) :: sampleWorld.proc.table.entries⟩,
            sampleWorld.proc.log ++ [.opened sampleWorld.proc.table.lowestFree, .opened fd,
              .closed sampleWorld.proc.table.lowestFree]⟩
          cleanups := fd :: sampleWorld.cleanups
          trace := sampleWorld.trace ++ [.setns sampleWorld.proc.table.lowestFree true] }) ∧
        sampleWorld.proc.table.lookup fd = none :=
  have htyp : NsType.net ∈ newTransientTypes := by decide
  have hk : ∀ j < 4, allOk (sampleWorld.calls + j) = true := fun _ _ => rfl
  ⟨htyp, hk, newTransient_ret allOk (fun _ => 9) sampleWorld htyp hk⟩


/-- **Which failures of `NewTransient` leak.** When one of its kernel calls fails, the test fails
with the goroutine still pinned to its thread and no cleanup queued. The table is the one on
entry, except when the first three calls succeeded and the switch back failed: then the new
namespace's descriptor stays open, and nothing will close it. -/
theorem newTransient_fails (htyp : typ ∈ newTransientTypes)
    (hfail : ∃ j < 4, kernel (w.calls + j) = false) :
    ∃ m, (newTransient kernel newIno typ w).1 = .panic m ∧
      (newTransient kernel newIno typ w).2.pins = w.pins + 1 ∧
      (newTransient kernel newIno typ w).2.cleanups = w.cleanups ∧
      ((∀ j < 3, kernel (w.calls + j) = true) →
        ∃ fd, w.proc.table.lookup fd = none ∧ (newTransient kernel newIno typ w).2.proc.table =
          ⟨(fd, .ns typ (newIno (w.calls + 1))) :: w.proc.table.entries⟩) ∧
      ((∃ j < 3, kernel (w.calls + j) = false) →
        (newTransient kernel newIno typ w).2.proc.table = w.proc.table) := by
  have hcases : ∀ {n : Nat}, n < 4 → n = 0 ∨ n = 1 ∨ n = 2 ∨ n = 3 := by omega
  have hfresh := (w.proc.table.keeps_install (.ns typ (w.attach typ))).lookup_eq_none
    (FdTable.lookup_lowestFree _)
  have happ := newTransient_apply kernel newIno w htyp
  obtain ⟨j, hj, hkj⟩ := hfail
  by_cases h0 : kernel w.calls
  · rw [if_pos h0] at happ
    by_cases h1 : kernel (w.calls + 1)
    · rw [if_pos h1] at happ
      by_cases h2 : kernel (w.calls + 2)
      · -- only the switch back can have failed: the new descriptor leaks
        have h3 : ¬ kernel (w.calls + 3) = true := fun h3 => by
          rcases hcases hj with rfl | rfl | rfl | rfl <;>
            simp only [Nat.add_zero, h0, h1, h2, h3, Bool.true_eq_false] at hkj
        rw [if_pos h2, if_neg h3] at happ
        rw [happ]
        refine ⟨_, rfl, rfl, rfl, fun _ => ⟨_, hfresh, rfl⟩, fun ⟨i, hi, hki⟩ => ?_⟩
        rcases hcases (by omega : i < 4) with rfl | rfl | rfl | rfl <;>
          first | omega | simp only [Nat.add_zero, h0, h1, h2, Bool.true_eq_false] at hki
      · rw [if_neg h2] at happ
        rw [happ]
        exact ⟨_, rfl, rfl, rfl, fun h => absurd (h 2 (by omega)) h2, fun _ => rfl⟩
    · rw [if_neg h1] at happ
      rw [happ]
      exact ⟨_, rfl, rfl, rfl, fun h => absurd (h 1 (by omega)) h1, fun _ => rfl⟩
  · rw [if_neg h0] at happ
    rw [happ]
    exact ⟨_, rfl, rfl, rfl, fun h => absurd (by simpa using h 0 (by omega)) h0, fun _ => rfl⟩

/-- The switch back refused, in `sampleWorld`: the new network namespace's descriptor leaks. -/
theorem newTransient_fails_switch_back :
    NsType.net ∈ newTransientTypes ∧ (∃ j < 4, grantsFirst 3 (sampleWorld.calls + j) = false) ∧
      ∃ m, (newTransient (grantsFirst 3) (fun _ => 9) .net sampleWorld).1 = .panic m ∧
        (newTransient (grantsFirst 3) (fun _ => 9) .net sampleWorld).2.pins = sampleWorld.pins + 1 ∧
        (newTransient (grantsFirst 3) (fun _ => 9) .net sampleWorld).2.cleanups =
          sampleWorld.cleanups ∧
        ((∀ j < 3, grantsFirst 3 (sampleWorld.calls + j) = true) →
          ∃ fd, sampleWorld.proc.table.lookup fd = none ∧
            (newTransient (grantsFirst 3) (fun _ => 9) .net sampleWorld).2.proc.table =
              ⟨(fd, .ns .net 9) :: sampleWorld.proc.table.entries⟩) ∧
        ((∃ j < 3, grantsFirst 3 (sampleWorld.calls + j) = false) →
          (newTransient (grantsFirst 3) (fun _ => 9) .net sampleWorld).2.proc.table =
            sampleWorld.proc.table) :=
  have htyp : NsType.net ∈ newTransientTypes := by decide
  have hfail : ∃ j < 4, grantsFirst 3 (sampleWorld.calls + j) = false := ⟨3, by decide, rfl⟩
  ⟨htyp, hfail, newTransient_fails (grantsFirst 3) (fun _ => 9) sampleWorld htyp hfail⟩

end NewTransient

/-! ## `EnterTransient` -/

/-- The namespace types `spacetest.EnterTransient` accepts: PID namespaces as well. -/
def enterTransientTypes : List NsType := [.cgroup, .ipc, .net, .pid, .uts]

/-- The function `spacetest.EnterTransient` returns, over the descriptor of the caller's
namespace: switch back, or panic with the text of the kernel's error `reason`; then close the
descriptor and unpin the goroutine. -/
def leaveTransient (kernel : Nat → Bool) (reason : String) (typ : NsType)
    (callersNamespace : Int) : Go Unit := do
  if ← setns kernel callersNamespace (some typ) then
    closeFd callersNamespace
    unlockOSThread
  else
    fail ("leaving from EnterTransient: cannot restore original " ++ name typ ++
      " namespace, reason: " ++ reason)

/-- `spacetest.EnterTransient(typ)`. -/
def enterTransient (kernel : Nat → Bool) (newIno : Nat → Nat) (reason : String) (typ : NsType) :
    Go (Go Unit) := do
  expect (enterTransientTypes.contains typ) ("unsupported type " ++ name typ)
  lockOSThread
  expect (← syscall kernel) ("cannot determine current " ++ name typ ++ " namespace from procfs")
  let callersNamespace ← openNs typ
  expect (← unshare kernel newIno typ) ("cannot create new " ++ name typ ++ " namespace")
  pure (leaveTransient kernel reason typ callersNamespace)

/-- A function that begins with `defer spacetest.EnterTransient(typ)()`, as its documentation
shows, and goes on with `body`. -/
def inTransient {α : Type} (kernel : Nat → Bool) (newIno : Nat → Nat) (reason : String)
    (typ : NsType) (body : Go α) : Go α := do
  let leave ← enterTransient kernel newIno reason typ
  deferring leave body

/-- The function `mntns.EnterTransient` returns: switch back to the caller's mount namespace,
or panic; then close the descriptor. It leaves the goroutine pinned, as `unshare` of the
thread's file attributes cannot be undone. -/
def mntns.leaveTransient (kernel : Nat → Bool) (reason : String) (callersMountNamespace : Int) :
    Go Unit := do
  if ← setns kernel callersMountNamespace none then
    closeFd callersMountNamespace
  else
    fail ("cannot restore original mount namespace, reason: " ++ reason)

/-- `mntns.EnterTransient()`: `unshare` of the file attributes and the mount namespace, which
the model treats as one call creating a mount namespace, then the remount of `/` as private. -/
def mntns.enterTransient (kernel : Nat → Bool) (newIno : Nat → Nat) (reason : String) :
    Go (Go Unit) := do
  lockOSThread
  expect (← syscall kernel) "cannot determine current mount namespace from procfs"
  let callersMountNamespace ← openNs .mnt
  expect (← unshare kernel newIno .mnt) "cannot create new mount namespace"
  expect (← syscall kernel) "cannot change / mount propagation to private"
  pure (mntns.leaveTransient kernel reason callersMountNamespace)

/-- A function that begins with `defer mntns.EnterTransient()()` and goes on with `body`. -/
def mntns.inTransient {α : Type} (kernel : Nat → Bool) (newIno : Nat → Nat) (reason : String)
    (body : Go α) : Go α := do
  let leave ← mntns.enterTransient kernel newIno reason
  deferring leave body

section EnterTransient

variable (kernel : Nat → Bool) (newIno : Nat → Nat) (reason : String) {α : Type} (w : World)

/-- **`defer spacetest.EnterTransient(typ)()` restores the thread.** When the kernel grants the
open of the caller's namespace and the `unshare` — for a PID namespace the thread's children
must be in the process's own — the body runs pinned, on the thread attached
to the new namespace, with a descriptor of the caller's namespace open. If the body leaves that
descriptor as it was, then however the body ends, the deferred function either switches the
thread back to the caller's namespace, closes the descriptor, unpins the goroutine and keeps the
body's outcome, or panics when the kernel refuses the switch. -/
theorem inTransient_restores {typ : NsType} (htyp : typ ∈ enterTransientTypes)
    (hpid : typ = .pid → w.attach .pid = w.pidNs)
    (h0 : kernel w.calls = true) (h1 : kernel (w.calls + 1) = true) (body : Go α)
    (r : Outcome α) (wb : World)
    (hrun : body { w with
      pins := w.pins + 1
      calls := w.calls + 2
      proc := (w.proc.openFd (.ns typ (w.attach typ))).2
      attach := Function.update w.attach typ (newIno (w.calls + 1)) } = (r, wb))
    (hkeep : wb.proc.table.lookup w.proc.table.lowestFree = some (.ns typ (w.attach typ))) :
    inTransient kernel newIno reason typ body w =
      if kernel wb.calls then
        (r, { wb with
          pins := wb.pins - 1
          calls := wb.calls + 1
          attach := Function.update wb.attach typ (w.attach typ)
          proc := wb.proc.closeFd w.proc.table.lowestFree
          trace := wb.trace ++ [.setns w.proc.table.lowestFree true] })
      else
        (.panic ("leaving from EnterTransient: cannot restore original " ++ name typ ++
            " namespace, reason: " ++ reason),
          { wb with calls := wb.calls + 1, trace := wb.trace ++ [.setns w.proc.table.lowestFree false] }) := by
  have hne : typ ≠ .time := by
    rintro rfl
    exact absurd htyp (by decide)
  have hview : procView w.pidNs w.timeNs w.attach typ = w.attach typ := by
    by_cases hp : typ = .pid
    · subst hp
      exact (hpid rfl).symm
    · exact procView_of_ne hp hne _ _ _
  have hpidc : (typ != .pid || w.attach .pid == w.pidNs) = true := by
    by_cases hp : typ = .pid
    · simp [hp, hpid hp]
    · simp [hp]
  have hset : ∀ n, setnsGranted kernel n typ = kernel n := fun n => by simp [setnsGranted, hne]
  cases hk : kernel wb.calls <;>
    simp only [inTransient, enterTransient, leaveTransient, Go.bind_apply, Go.pure_apply, expect,
      List.elem_eq_mem, htyp, decide_True, ↓reduceIte, Bool.false_eq_true, fail, lockOSThread,
      syscall, h0, h1, openNs, World.procNs, hview, Proc.openFd_fst, unshare, unshareGranted, hpidc,
      Bool.and_self, deferring, hrun, setns, hset, hkeep, Option.all_some, beq_self_eq_true, hk,
      closeFd, unlockOSThread]

/-- A body that does nothing, in a new network namespace of `sampleWorld`. -/
theorem inTransient_restores_net :
    NsType.net ∈ enterTransientTypes ∧ (NsType.net = .pid → sampleWorld.attach .pid = sampleWorld.pidNs) ∧
      allOk sampleWorld.calls = true ∧
      allOk (sampleWorld.calls + 1) = true ∧
      ∃ wb, (pure () : Go Unit) { sampleWorld with
          pins := sampleWorld.pins + 1
          calls := sampleWorld.calls + 2
          proc := (sampleWorld.proc.openFd (.ns .net (sampleWorld.attach .net))).2
          attach := Function.update sampleWorld.attach .net 9 } = (.ret (), wb) ∧
        wb.proc.table.lookup sampleWorld.proc.table.lowestFree =
          some (.ns .net (sampleWorld.attach .net)) ∧
        inTransient allOk (fun _ => 9) "operation not permitted" .net (pure ()) sampleWorld =
          if allOk wb.calls then
            (.ret (), { wb with
              pins := wb.pins - 1
              calls := wb.calls + 1
              attach := Function.update wb.attach .net (sampleWorld.attach .net)
              proc := wb.proc.closeFd sampleWorld.proc.table.lowestFree
              trace := wb.trace ++ [.setns sampleWorld.proc.table.lowestFree true] })
          else
            (.panic ("leaving from EnterTransient: cannot restore original " ++ name .net ++
                " namespace, reason: " ++ "operation not permitted"),
              { wb with
                calls := wb.calls + 1
                trace := wb.trace ++ [.setns sampleWorld.proc.table.lowestFree false] }) :=
  have htyp : NsType.net ∈ enterTransientTypes := by decide
  have hkeep : (sampleWorld.proc.openFd (.ns .net (sampleWorld.attach .net))).2.table.lookup
      sampleWorld.proc.table.lowestFree = some (.ns .net (sampleWorld.attach .net)) :=
    FdTable.lookup_install_self _ _
  ⟨htyp, nofun, rfl, rfl, _, rfl, hkeep, inTransient_restores allOk (fun _ => 9)
    "operation not permitted" sampleWorld htyp nofun rfl rfl (pure ()) _ _ rfl hkeep⟩

/-- `sampleWorld` with a descriptor, at 5, of PID namespace 7, a child of the process's own. -/
def pidHandleWorld : World :=
  { sampleWorld with proc := ⟨⟨(5, .ns .pid 7) :: sampleWorld.proc.table.entries⟩, []⟩ }

/-- `pidHandleWorld` after `EnterTransient(unix.CLONE_NEWPID)`: the thread's children go to the
new PID namespace 9, while the process stays in its own, 5. -/
def afterEnterPid : World := (enterTransient allOk (fun _ => 9) "" .pid pidHandleWorld).2

/-- After `EnterTransient(unix.CLONE_NEWPID)`, `goInAndOut` into the PID namespace at 5 records
the process's own PID namespace, which `/proc/thread-self/ns/pid` shows, and restores that: it
unpins the goroutine with the thread's children going to 5 instead of 9. -/
theorem goInAndOut_unpins_with_pid_children_moved :
    afterEnterPid.attach .pid = 9 ∧ afterEnterPid.pidNs = 5 ∧
      (goInAndOut allOk stayPut [5] afterEnterPid).1 = .ret () ∧
      (goInAndOut allOk stayPut [5] afterEnterPid).2.pins = afterEnterPid.pins ∧
      (goInAndOut allOk stayPut [5] afterEnterPid).2.attach .pid = 5 := by
  decide

/-- After `EnterTransient(unix.CLONE_NEWPID)`, `Execute` with a mount namespace runs `fn` on a
worker whose children go to the PID namespace of the spare thread, 5: the worker compares the
caller's `/proc/thread-self/ns/pid` with its own, finds them equal and skips the switch. On the
pinned path, `fn` runs with the caller's 9. -/
theorem execute_worker_runs_fn_with_other_pid_children :
    afterEnterPid.attach .pid = 9 ∧
      (∃ a, callsOf (execute allOk callerNs stayPut 4 [] afterEnterPid).2.trace =
          callsOf afterEnterPid.trace ++ [a] ∧ a .pid = 5) ∧
      ∃ b, callsOf (execute allOk callerNs stayPut 3 [] afterEnterPid).2.trace =
          callsOf afterEnterPid.trace ++ [b] ∧ b .pid = 9 := by
  have hmnt : afterEnterPid.proc.table.lookup 4 = some (.ns .mnt 33) := by decide
  have hL : ∀ fd ∈ [(4 : Int)], ∃ t i, t ≠ .user ∧ afterEnterPid.proc.table.lookup fd =
      some (.ns t i) := by
    intro fd hfd
    obtain rfl : fd = 4 := by simpa using hfd
    exact ⟨.mnt, 33, by decide, hmnt⟩
  have hworker : execute allOk callerNs stayPut 4 [] afterEnterPid =
      goSeparate allOk callerNs stayPut 4 [] afterEnterPid := by
    rw [execute, Go.bind_apply_ret (classify_spec afterEnterPid [4] hL (-1) [])]
    simp [FdTable.nstype_of_lookup hmnt]
  have hpinned : execute allOk callerNs stayPut 3 [] afterEnterPid =
      goInAndOut allOk stayPut [3] afterEnterPid := by
    simp only [execute, Go.bind_apply]
    rfl
  refine ⟨by decide, ⟨_, hworker ▸ goSeparate_calls allOk (fun _ => rfl) callerNs stayPut
    (by decide) [] afterEnterPid hmnt (by simp) (by simp), by decide⟩,
    _, hpinned ▸ goInAndOut_calls allOk (fun _ => rfl) stayPut [3] afterEnterPid ?_, by decide⟩
  intro fd hfd
  obtain rfl : fd = 3 := by simpa using hfd
  exact ⟨.net, 44, by decide, by decide⟩

/-- **`defer mntns.EnterTransient()()` restores the mount namespace and keeps the pin.** As
`inTransient_restores`, with the remount as a third kernel call; the deferred function switches
back without naming a type, and leaves the goroutine pinned. -/
theorem mntns.inTransient_stays_pinned (h0 : kernel w.calls = true)
    (h1 : kernel (w.calls + 1) = true) (h2 : kernel (w.calls + 2) = true) (body : Go α)
    (r : Outcome α) (wb : World)
    (hrun : body { w with
      pins := w.pins + 1
      calls := w.calls + 3
      proc := (w.proc.openFd (.ns .mnt (w.attach .mnt))).2
      attach := Function.update w.attach .mnt (newIno (w.calls + 1)) } = (r, wb))
    (hkeep : wb.proc.table.lookup w.proc.table.lowestFree = some (.ns .mnt (w.attach .mnt))) :
    mntns.inTransient kernel newIno reason body w =
      if kernel wb.calls then
        (r, { wb with
          calls := wb.calls + 1
          attach := Function.update wb.attach .mnt (w.attach .mnt)
          proc := wb.proc.closeFd w.proc.table.lowestFree
          trace := wb.trace ++ [.setns w.proc.table.lowestFree true] })
      else
        (.panic ("cannot restore original mount namespace, reason: " ++ reason),
          { wb with calls := wb.calls + 1, trace := wb.trace ++ [.setns w.proc.table.lowestFree false] }) := by
  have hview : ∀ w' : World, w'.procNs .mnt = w'.attach .mnt := fun _ => rfl
  have hgr : ∀ w' : World, unshareGranted kernel w' .mnt = kernel w'.calls :=
    unshareGranted_of_ne (by decide) kernel
  have hset : ∀ n, setnsGranted kernel n .mnt = kernel n := fun n => by simp [setnsGranted]
  cases hk : kernel wb.calls <;>
    simp only [mntns.inTransient, mntns.enterTransient, mntns.leaveTransient, Go.bind_apply,
      Go.pure_apply, expect, ↓reduceIte, Bool.false_eq_true, fail, lockOSThread, syscall, h0, h1,
      h2, openNs, hview, Proc.openFd_fst, unshare, hgr, deferring, hrun, setns, hset, hkeep,
      Option.all_none, hk, closeFd]

/-- A body that does nothing, in a new mount namespace of `sampleWorld`. -/
theorem mntns.inTransient_stays_pinned_sample :
    allOk sampleWorld.calls = true ∧ allOk (sampleWorld.calls + 1) = true ∧
      allOk (sampleWorld.calls + 2) = true ∧
      ∃ wb, (pure () : Go Unit) { sampleWorld with
          pins := sampleWorld.pins + 1
          calls := sampleWorld.calls + 3
          proc := (sampleWorld.proc.openFd (.ns .mnt (sampleWorld.attach .mnt))).2
          attach := Function.update sampleWorld.attach .mnt 9 } = (.ret (), wb) ∧
        wb.proc.table.lookup sampleWorld.proc.table.lowestFree =
          some (.ns .mnt (sampleWorld.attach .mnt)) ∧
        mntns.inTransient allOk (fun _ => 9) "operation not permitted" (pure ()) sampleWorld =
          if allOk wb.calls then
            (.ret (), { wb with
              calls := wb.calls + 1
              attach := Function.update wb.attach .mnt (sampleWorld.attach .mnt)
              proc := wb.proc.closeFd sampleWorld.proc.table.lowestFree
              trace := wb.trace ++ [.setns sampleWorld.proc.table.lowestFree true] })
          else
            (.panic ("cannot restore original mount namespace, reason: " ++
                "operation not permitted"),
              { wb with
                calls := wb.calls + 1
                trace := wb.trace ++ [.setns sampleWorld.proc.table.lowestFree false] }) :=
  have hkeep : (sampleWorld.proc.openFd (.ns .mnt (sampleWorld.attach .mnt))).2.table.lookup
      sampleWorld.proc.table.lowestFree = some (.ns .mnt (sampleWorld.attach .mnt)) :=
    FdTable.lookup_install_self _ _
  ⟨rfl, rfl, rfl, _, rfl, hkeep, mntns.inTransient_stays_pinned allOk (fun _ => 9)
    "operation not permitted" sampleWorld rfl rfl rfl (pure ()) _ _ rfl hkeep⟩

end EnterTransient

/-! ## `mntns.NewTransient` -/

/-- Gomega's failure message for `Expect(0).NotTo(BeZero())`. -/
def notBeZeroMsg : String := "Expected\n    <int>: 0\nnot to be zero-valued"

/-- The idler goroutine of `mntns.NewTransient`, on the thread it locks to itself: `unshare` of
the file attributes and the mount namespace (one call creating a mount namespace, as in
`mntns.enterTransient`), the remount of `/` as private, and `Current()` of the new mount
namespace, which it hands over with its thread's ID `tid`. -/
def mntns.idler (kernel : Nat → Bool) (newIno : Nat → Nat) (tid : Int) : Go (Int × Int) := do
  expect (← unshare kernel newIno .mnt) "cannot create new mount namespace"
  expect (← syscall kernel) "cannot change / mount propagation to private"
  let mntnsfd ← current kernel .mnt
  pure (mntnsfd, tid)

/-- `mntns.NewTransient()`. The idler runs on a thread of its own, attached on entry to the
namespaces `idlerAttach`, while the calling goroutine waits on `readyCh`. `GinkgoRecover`
recovers a failed assertion of the idler, whose deferred `close(readyCh)` then hands the zero
`idlerDetails` to the caller; the caller goes on on its own thread. The `DeferCleanup` that
closes the `done` channel, on which the idler waits to end with the test node, touches no
descriptor and is left out. -/
def mntns.newTransient (kernel : Nat → Bool) (newIno : Nat → Nat) (idlerAttach : NsType → Nat)
    (tid : Int) : Go (Int × String) := fun w =>
  let (r, w') := mntns.idler kernel newIno tid { w with attach := idlerAttach }
  let idlerInfo : Int × Int := match r with
    | .ret details => details
    | .panic _ => (0, 0)
  (do
    expect (idlerInfo.1 != 0) notBeZeroMsg
    pure (idlerInfo.1, "/proc/" ++ toString idlerInfo.2 ++ "/root")) { w' with attach := w.attach }

section NewTransientMnt

variable (kernel : Nat → Bool) (newIno : Nat → Nat) (idlerAttach : NsType → Nat) (tid : Int)
  (w : World)

/-- **Every run of `mntns.NewTransient`**, by the first of the idler's kernel calls that fails:
`unshare`, the remount, and opening the new mount namespace. -/
theorem mntns.newTransient_apply :
    mntns.newTransient kernel newIno idlerAttach tid w =
      if kernel w.calls ∧ kernel (w.calls + 1) ∧ kernel (w.calls + 2) then
        (if w.proc.table.lowestFree = 0 then .panic notBeZeroMsg
          else .ret (w.proc.table.lowestFree, "/proc/" ++ toString tid ++ "/root"),
          { w with
            calls := w.calls + 3
            proc := (w.proc.openFd (.ns .mnt (newIno w.calls))).2
            cleanups := w.proc.table.lowestFree :: w.cleanups })
      else
        (.panic notBeZeroMsg, { w with
          calls := w.calls +
            if kernel w.calls then if kernel (w.calls + 1) then 3 else 2 else 1 }) := by
  have hview : ∀ w' : World, w'.procNs .mnt = w'.attach .mnt := fun _ => rfl
  have hgr : ∀ w' : World, unshareGranted kernel w' .mnt = kernel w'.calls :=
    unshareGranted_of_ne (by decide) kernel
  by_cases h0 : kernel w.calls <;> by_cases h1 : kernel (w.calls + 1) <;>
    by_cases h2 : kernel (w.calls + 2) <;>
    simp only [mntns.newTransient, mntns.idler, Go.bind_apply, Go.pure_apply, expect, current,
      unshare, hgr, syscall, openNs, hview, deferCleanup, fail, h0, h1, h2, ↓reduceIte,
      Bool.false_eq_true,
      Function.update_same, Proc.openFd_fst, bne_iff_ne, ne_eq, ite_not, Nat.add_assoc,
      Nat.reduceAdd, and_self, and_false, false_and]
  by_cases hz : w.proc.table.lowestFree = 0 <;> simp only [hz, ↓reduceIte, fail, Go.pure_apply]

/-- **`mntns.NewTransient` leaves the caller's thread alone, and takes descriptor 0 for a
failure.** For every pattern of kernel answers and every thread the idler gets, the caller's
thread stays in its namespaces and keeps its pins. When the idler's three kernel calls succeed,
the process has a new descriptor at the lowest free number for the new mount namespace, queued
for `DeferCleanup`, and `NewTransient` returns it with the idler's procfs root, unless that
number is 0: then the test fails although the namespace was created. When one of the calls
fails, the test fails, with the descriptors and cleanups as on entry. -/
theorem mntns.newTransient_spec :
    (mntns.newTransient kernel newIno idlerAttach tid w).2.attach = w.attach ∧
    (mntns.newTransient kernel newIno idlerAttach tid w).2.pins = w.pins ∧
    ((∀ j < 3, kernel (w.calls + j) = true) →
      (mntns.newTransient kernel newIno idlerAttach tid w).2.proc =
        (w.proc.openFd (.ns .mnt (newIno w.calls))).2 ∧
      (mntns.newTransient kernel newIno idlerAttach tid w).2.cleanups =
        w.proc.table.lowestFree :: w.cleanups ∧
      (mntns.newTransient kernel newIno idlerAttach tid w).1 =
        if w.proc.table.lowestFree = 0 then .panic notBeZeroMsg
        else .ret (w.proc.table.lowestFree, "/proc/" ++ toString tid ++ "/root")) ∧
    ((∃ j < 3, kernel (w.calls + j) = false) →
      (mntns.newTransient kernel newIno idlerAttach tid w).1 = .panic notBeZeroMsg ∧
      (mntns.newTransient kernel newIno idlerAttach tid w).2.proc = w.proc ∧
      (mntns.newTransient kernel newIno idlerAttach tid w).2.cleanups = w.cleanups) := by
  rw [mntns.newTransient_apply]
  have hcases : ∀ {n : Nat}, n < 3 → n = 0 ∨ n = 1 ∨ n = 2 := by omega
  by_cases hk : kernel w.calls ∧ kernel (w.calls + 1) ∧ kernel (w.calls + 2)
  · -- the idler's calls succeed: the new descriptor, returned unless it is 0
    rw [if_pos hk]
    refine ⟨rfl, rfl, fun _ => ⟨rfl, rfl, rfl⟩, fun ⟨j, hj, hkj⟩ => ?_⟩
    obtain ⟨h0, h1, h2⟩ := hk
    rcases hcases hj with rfl | rfl | rfl <;> simp_all
  · -- one of them fails: the zero value reaches the caller
    rw [if_neg hk]
    refine ⟨rfl, rfl, fun hall => absurd ⟨hall 0 (by omega), hall 1 (by omega), hall 2 (by omega)⟩
      hk, fun _ => ⟨rfl, rfl, rfl⟩⟩

end NewTransientMnt

/-- `sampleWorld` with its standard input closed. -/
def stdinClosedWorld : World :=
  { sampleWorld with
    proc := ⟨⟨[(4, .ns .mnt 33), (3, .ns .net 44), (2, .file 2), (1, .file 1)]⟩, []⟩ }

/-- An idler in the caller's namespaces, with thread ID 7 and a new mount namespace of inode
number 9: from `stdinClosedWorld`, where every call succeeds, and from `sampleWorld`, where the
remount is refused. -/
theorem mntns.newTransient_spec_sample :
    (∀ j < 3, allOk (stdinClosedWorld.calls + j) = true) ∧
      ((mntns.newTransient allOk (fun _ => 9) callerNs 7 stdinClosedWorld).2.proc =
          (stdinClosedWorld.proc.openFd (.ns .mnt 9)).2 ∧
        (mntns.newTransient allOk (fun _ => 9) callerNs 7 stdinClosedWorld).2.cleanups =
          stdinClosedWorld.proc.table.lowestFree :: stdinClosedWorld.cleanups ∧
        (mntns.newTransient allOk (fun _ => 9) callerNs 7 stdinClosedWorld).1 =
          if stdinClosedWorld.proc.table.lowestFree = 0 then .panic notBeZeroMsg
          else .ret (stdinClosedWorld.proc.table.lowestFree, "/proc/" ++ toString (7 : Int) ++
            "/root")) ∧
      (∃ j < 3, grantsFirst 1 (sampleWorld.calls + j) = false) ∧
      ((mntns.newTransient (grantsFirst 1) (fun _ => 9) callerNs 7 sampleWorld).1 =
          .panic notBeZeroMsg ∧
        (mntns.newTransient (grantsFirst 1) (fun _ => 9) callerNs 7 sampleWorld).2.proc =
          sampleWorld.proc ∧
        (mntns.newTransient (grantsFirst 1) (fun _ => 9) callerNs 7 sampleWorld).2.cleanups =
          sampleWorld.cleanups) :=
  have hk : ∀ j < 3, allOk (stdinClosedWorld.calls + j) = true := fun _ _ => rfl
  have hf : ∃ j < 3, grantsFirst 1 (sampleWorld.calls + j) = false := ⟨1, by decide, rfl⟩
  ⟨hk, (mntns.newTransient_spec allOk (fun _ => 9) callerNs 7 stdinClosedWorld).2.2.1 hk, hf,
    (mntns.newTransient_spec (grantsFirst 1) (fun _ => 9) callerNs 7 sampleWorld).2.2.2 hf⟩

/-- With descriptor 0 open the new mount namespace is returned as descriptor 5; with it closed,
the namespace is opened as descriptor 0 and the test fails. -/
example : (mntns.newTransient allOk (fun _ => 9) callerNs 7 sampleWorld).1 =
      .ret (5, "/proc/7/root") ∧
    (mntns.newTransient allOk (fun _ => 9) callerNs 7 stdinClosedWorld).1 =
      .panic notBeZeroMsg := by
  decide

end Spacetest
