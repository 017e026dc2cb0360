import Spacetest.Kernel

/-!
# Running a function in other namespaces

`spacetest.Execute` calls a function on an OS thread attached to the namespaces of the
handles it is given, and otherwise to the namespaces of the calling thread. Without a mount
namespace it switches the calling thread and back (`goInAndOut`); with one it runs the function
on a worker thread (`goSeparate`).

* `World`: the test process as `Execute` sees it — its descriptors, the namespaces of the
  thread the code runs on (for the PID and time types, those its children are created in), the
  process's own PID and time namespaces, the calling goroutine's thread pins, the closes
  `DeferCleanup` queued for the end of the test node, and a trace of switches and calls;
* `World.procNs`: what `/proc/thread-self/ns/<type>` shows, which `Current`, `Type` and `Ino`
  read: the process's own PID and time namespaces, and the thread's namespace of every other
  type;
* `Go`: Go code over the world. It returns or panics, and a panic keeps the world, on which
  deferred calls then run. Ginkgo's failed assertions panic;
* every kernel call that can fail asks an oracle `kernel : Nat → Bool` with the number of
  such calls made before it, so that a theorem over all oracles covers every pattern of
  failures;
* `current`, `type`, `ino`, `inoSelf`, `setns`: `Current`, `Type`, `Ino` and `unix.Setns`. A
  `setns` into a PID namespace changes only where the thread's children go, and one into a time
  namespace is always refused to a multithreaded process;
* `Go.Appends`: code that only appends to the process's log of opens and closes and queues no
  cleanup, with a lemma for each step that does so;
* `goInAndOut`, `goSeparate`, `execute`, and `nodeEnd`, where the queued cleanups run.
-/

namespace Spacetest

/-- What `Execute` leaves in the trace: a `setns` call and whether it succeeded, and a call of
the function, with the namespaces of the thread it ran on. -/
inductive ExecEvent
  | setns (fd : Int) (ok : Bool)
  | called (attach : NsType → Nat)

/-- The test process while `Execute` runs. -/
structure World where
  /-- The process's descriptors. -/
  proc : Proc
  /-- The namespace, by inode number, of each type the running thread is attached to; for the
  PID and time types, the one its children are created in (`pid_for_children`,
  `time_for_children`), which is what `setns` and `unshare` change. -/
  attach : NsType → Nat
  /-- The process's own PID namespace, which no call of a multithreaded process changes. -/
  pidNs : Nat
  /-- The process's own time namespace, which no call of a multithreaded process changes. -/
  timeNs : Nat
  /-- `runtime.LockOSThread` calls of the calling goroutine not yet undone. -/
  pins : Nat
  /-- The descriptors `DeferCleanup` closes when the test node ends, newest first. -/
  cleanups : List Int := []
  /-- Fallible kernel calls made so far. -/
  calls : Nat := 0
  trace : List ExecEvent := []

/-- Go code over the world: it returns a value or panics, and hands on the world as it left
it either way. -/
def Go (α : Type) : Type := World → Outcome α × World

namespace Go

variable {α β : Type}

/-- `return a`. -/
protected def pure (a : α) : Go α := fun w => (.ret a, w)

/-- Run `x`, then `f` on its value; a panic skips `f`. -/
protected def bind (x : Go α) (f : α → Go β) : Go β := fun w =>
  match x w with
  | (.ret a, w) => f a w
  | (.panic m, w) => (.panic m, w)

instance : Monad Go where
  pure := Go.pure
  bind := Go.bind

@[simp] theorem pure_apply (a : α) (w : World) : (pure a : Go α) w = (.ret a, w) := rfl

theorem bind_apply (x : Go α) (f : α → Go β) (w : World) :
    (x >>= f) w = match x w with
      | (.ret a, w) => f a w
      | (.panic m, w) => (.panic m, w) := rfl

theorem bind_apply_ret {x : Go α} {w w' : World} {a : α} (h : x w = (.ret a, w')) (f : α → Go β) :
    (x >>= f) w = f a w' := by
  rw [bind_apply, h]

theorem bind_apply_panic {x : Go α} {w w' : World} {m : String} (h : x w = (.panic m, w'))
    (f : α → Go β) : (x >>= f) w = (.panic m, w') := by
  rw [bind_apply, h]

end Go

/-- `panic(msg)`, and Ginkgo's `Fail`, which panics. -/
def fail {α : Type} (msg : String) : Go α := fun w => (.panic msg, w)

/-- A Gomega assertion of `ok`, failing the test with `msg`. -/
def expect (ok : Bool) (msg : String) : Go Unit := if ok then pure () else fail msg

/-- The next fallible kernel call: whether it succeeds. -/
def syscall (kernel : Nat → Bool) : Go Bool := fun w =>
  (.ret (kernel w.calls), { w with calls := w.calls + 1 })

/-- What `/proc/thread-self/ns/<t>` shows for a thread attached to `a` in a process whose own
PID and time namespaces are `pidNs` and `timeNs`: those two, and `a t` for the other types. -/
def procView (pidNs timeNs : Nat) (a : NsType → Nat) : NsType → Nat
  | .pid => pidNs
  | .time => timeNs
  | t => a t

/-- What `/proc/thread-self/ns/<t>` shows for the running thread. -/
def World.procNs (w : World) : NsType → Nat := procView w.pidNs w.timeNs w.attach

@[simp] theorem procView_pid (p q : Nat) (a : NsType → Nat) : procView p q a .pid = p := rfl
@[simp] theorem procView_time (p q : Nat) (a : NsType → Nat) : procView p q a .time = q := rfl

theorem procView_of_ne {t : NsType} (hp : t ≠ .pid) (ht : t ≠ .time) (p q : Nat)
    (a : NsType → Nat) : procView p q a t = a t := by
  cases t <;> first | rfl | contradiction

theorem procView_update_of_ne {t t' : NsType} (h : t ≠ t') (p q x : Nat) (a : NsType → Nat) :
    procView p q (Function.update a t' x) t = procView p q a t := by
  cases t <;> simp [procView, Function.update_noteq h]

theorem World.procNs_of_ne {t : NsType} (hp : t ≠ .pid) (ht : t ≠ .time) (w : World) :
    w.procNs t = w.attach t :=
  procView_of_ne hp ht _ _ _

/-- The running thread's namespace of type `t`, as `/proc/thread-self/ns/<t>` shows it. -/
def attachedTo (t : NsType) : Go Nat := fun w => (.ret (w.procNs t), w)

/-- Open `/proc/thread-self/ns/<t>`: a descriptor for the namespace it shows. -/
def openNs (t : NsType) : Go Int := fun w =>
  (.ret (w.proc.openFd (.ns t (w.procNs t))).1,
    { w with proc := (w.proc.openFd (.ns t (w.procNs t))).2 })

/-- `unix.Close(fd)`. -/
def closeFd (fd : Int) : Go Unit := fun w => (.ret (), { w with proc := w.proc.closeFd fd })

/-- Ginkgo's `DeferCleanup` of `unix.Close(fd)`. -/
def deferCleanup (fd : Int) : Go Unit := fun w => (.ret (), { w with cleanups := fd :: w.cleanups })

/-- `runtime.LockOSThread` and `runtime.UnlockOSThread` on the calling goroutine. -/
def lockOSThread : Go Unit := fun w => (.ret (), { w with pins := w.pins + 1 })

def unlockOSThread : Go Unit := fun w => (.ret (), { w with pins := w.pins - 1 })

/-- `Current(typ)`: open `/proc/thread-self/ns/<typ>`, a descriptor for the running thread's
namespace of type `typ`, and have `DeferCleanup` close it when the test node ends. -/
def current (kernel : Nat → Bool) (typ : NsType) : Go Int := do
  expect (← syscall kernel) ("cannot determine current " ++ name typ ++ " namespace from procfs")
  let nsfd ← openNs typ
  deferCleanup nsfd
  pure nsfd

/-- `Type(nsfd)`: `ioctl(nsfd, NS_GET_NSTYPE)`, failing the test when `nsfd` is not a
namespace. -/
def type (nsfd : Int) : Go NsType := fun w =>
  match w.proc.table.nstype nsfd with
  | some t => (.ret t, w)
  | none => (.panic "cannot determine type of namespace", w)

/-- `Type("/proc/thread-self/ns/" + name typ)`: open the path, `ioctl` it, and close it
(deferred). -/
def typeSelf (kernel : Nat → Bool) (typ : NsType) : Go NsType := do
  expect (← syscall kernel)
    ("cannot determine type of namespace referenced as \"/proc/thread-self/ns/" ++ name typ ++ "\"")
  let fd ← openNs typ
  let t ← type fd
  closeFd fd
  pure t

/-- `Ino(nsfd, typ)`: `fstat` the descriptor, check that it is a namespace of type `typ`, and
return its inode number. -/
def ino (nsfd : Int) (typ : NsType) : Go Nat := fun w =>
  match w.proc.table.lookup nsfd with
  | none => (.panic ("cannot stat " ++ name typ ++ " namespace reference " ++ toString nsfd), w)
  | some (.ns t i) =>
    if t = typ then (.ret i, w) else (.panic ("not a " ++ name typ ++ " namespace"), w)
  | some _ => (.panic "cannot determine type of namespace", w)

/-- `Ino("/proc/thread-self/ns/" + name typ, typ)`: `stat` the path, check its type with
`Type`, and return the inode number of the running thread's namespace. -/
def inoSelf (kernel : Nat → Bool) (typ : NsType) : Go Nat := do
  expect (← syscall kernel)
    ("cannot stat " ++ name typ ++ " namespace reference /proc/thread-self/ns/" ++ name typ)
  let i ← attachedTo typ
  expect ((← typeSelf kernel typ) == typ) ("not a " ++ name typ ++ " namespace")
  pure i

/-- Whether the kernel grants a `setns` into a namespace of type `t`: it can refuse any, and
always refuses a time namespace to a process with more than one thread (`EUSERS`), which a Go
process always has. -/
def setnsGranted (kernel : Nat → Bool) (calls : Nat) (t : NsType) : Bool :=
  kernel calls && t != .time

/-- `unix.Setns(fd, nstype)`: attach the running thread to the namespace behind `fd`, which
must be of type `nstype` where that is given (`none` for 0); into a PID namespace this attaches
only the thread's children. Returns whether the thread switched. -/
def setns (kernel : Nat → Bool) (fd : Int) (nstype : Option NsType) : Go Bool := fun w =>
  match w.proc.table.lookup fd with
  | some (.ns t i) =>
    if nstype.all (· == t) then
      (.ret (setnsGranted kernel w.calls t), { w with
        calls := w.calls + 1
        attach := if setnsGranted kernel w.calls t then Function.update w.attach t i else w.attach
        trace := w.trace ++ [.setns fd (setnsGranted kernel w.calls t)] })
    else (.ret false, { w with trace := w.trace ++ [.setns fd false] })
  | _ => (.ret false, { w with trace := w.trace ++ [.setns fd false] })

/-- `Expect(unix.Setns(fd, nstype)).To(Succeed(), msg)`. -/
def switchInto (kernel : Nat → Bool) (fd : Int) (nstype : Option NsType) (msg : String) :
    Go Unit := do
  expect (← setns kernel fd nstype) msg

/-- The function handed to `Execute`, by what it does on the thread it runs on: it returns
with the thread attached to the namespaces it gives, or it panics. -/
def Fn : Type := (NsType → Nat) → Outcome (NsType → Nat)

/-- `fn()` on the running thread. -/
def call (fn : Fn) : Go Unit := fun w =>
  match fn w.attach with
  | .ret a => (.ret (), { w with attach := a, trace := w.trace ++ [.called w.attach] })
  | .panic m => (.panic m, { w with trace := w.trace ++ [.called w.attach] })

/-! ## What each step does -/

/-- The descriptors `setns` was called on, in order. -/
def switchesOf (tr : List ExecEvent) : List Int := tr.filterMap fun
  | .setns fd _ => some fd
  | .called _ => none

/-- The descriptors `setns` was called on and failed for, in order. -/
def failuresOf (tr : List ExecEvent) : List Int := tr.filterMap fun
  | .setns fd ok => if ok then none else some fd
  | .called _ => none

/-- The namespaces of the threads the function was called on, in order. -/
def callsOf (tr : List ExecEvent) : List (NsType → Nat) := tr.filterMap fun
  | .called a => some a
  | .setns _ _ => none

/-- The descriptors opened, in order. -/
def openedOf (log : List FdEvent) : List Int := log.filterMap fun
  | .opened fd => some fd
  | .closed _ => none

@[simp] theorem switchesOf_append (tr tr' : List ExecEvent) :
    switchesOf (tr ++ tr') = switchesOf tr ++ switchesOf tr' := List.filterMap_append _ _ _
@[simp] theorem failuresOf_append (tr tr' : List ExecEvent) :
    failuresOf (tr ++ tr') = failuresOf tr ++ failuresOf tr' := List.filterMap_append _ _ _
@[simp] theorem callsOf_append (tr tr' : List ExecEvent) :
    callsOf (tr ++ tr') = callsOf tr ++ callsOf tr' := List.filterMap_append _ _ _
@[simp] theorem openedOf_append (log log' : List FdEvent) :
    openedOf (log ++ log') = openedOf log ++ openedOf log' := List.filterMap_append _ _ _
@[simp] theorem switchesOf_setns (fd : Int) (ok : Bool) : switchesOf [.setns fd ok] = [fd] := rfl
@[simp] theorem failuresOf_setns_true (fd : Int) : failuresOf [.setns fd true] = [] := rfl
@[simp] theorem failuresOf_setns_false (fd : Int) : failuresOf [.setns fd false] = [fd] := rfl
@[simp] theorem callsOf_setns (fd : Int) (ok : Bool) : callsOf [.setns fd ok] = [] := rfl
@[simp] theorem switchesOf_called (a : NsType → Nat) : switchesOf [.called a] = [] := rfl
@[simp] theorem failuresOf_called (a : NsType → Nat) : failuresOf [.called a] = [] := rfl
@[simp] theorem callsOf_called (a : NsType → Nat) : callsOf [.called a] = [a] := rfl
@[simp] theorem openedOf_opened (fd : Int) : openedOf [.opened fd] = [fd] := rfl
@[simp] theorem openedOf_closed (fd : Int) : openedOf [.closed fd] = [] := rfl

@[simp] theorem openedOf_closeAll (p : Proc) (fds : List Int) :
    openedOf (p.closeAll fds).log = openedOf p.log := by
  have hclosed : openedOf (fds.map FdEvent.closed) = [] := by
    induction fds <;> simp_all [openedOf]
  simp [hclosed]

section Steps

variable (kernel : Nat → Bool) {w : World}

theorem type_of_nstype {fd : Int} {t : NsType} (h : w.proc.table.nstype fd = some t) :
    type fd w = (.ret t, w) := by
  simp [type, h]

theorem type_of_lookup {fd : Int} {t : NsType} {i : Nat}
    (h : w.proc.table.lookup fd = some (.ns t i)) : type fd w = (.ret t, w) :=
  type_of_nstype (FdTable.nstype_of_lookup h)

theorem type_world (fd : Int) : (type fd w).2 = w := by
  unfold type; split <;> rfl

theorem type_bind_fail {α : Type} (fd : Int) (f : NsType → String) :
    ∃ m, (type fd >>= fun t => (fail (f t) : Go α)) w = (.panic m, w) := by
  rw [Go.bind_apply]
  unfold type
  cases w.proc.table.nstype fd <;> exact ⟨_, rfl⟩

theorem current_apply (t : NsType) : current kernel t w =
    if kernel w.calls then
      (.ret w.proc.table.lowestFree, { w with
        calls := w.calls + 1
        proc := (w.proc.openFd (.ns t (w.procNs t))).2
        cleanups := w.proc.table.lowestFree :: w.cleanups })
    else (.panic ("cannot determine current " ++ name t ++ " namespace from procfs"),
      { w with calls := w.calls + 1 }) := by
  cases h : kernel w.calls <;>
    simp [current, Go.bind_apply, syscall, expect, h, fail, openNs, deferCleanup, World.procNs]

theorem setns_of_lookup {fd : Int} {t : NsType} {i : Nat}
    (h : w.proc.table.lookup fd = some (.ns t i)) {nstype : Option NsType}
    (hty : nstype.all (· == t) = true) :
    setns kernel fd nstype w = (.ret (setnsGranted kernel w.calls t), { w with
      calls := w.calls + 1
      attach := if setnsGranted kernel w.calls t then Function.update w.attach t i else w.attach
      trace := w.trace ++ [.setns fd (setnsGranted kernel w.calls t)] }) := by
  simp [setns, h, hty]

theorem setns_cases (fd : Int) (nstype : Option NsType) :
    (∃ t i, t ≠ .time ∧ w.proc.table.lookup fd = some (.ns t i) ∧ setns kernel fd nstype w =
      (.ret true, { w with
        calls := w.calls + 1
        attach := Function.update w.attach t i
        trace := w.trace ++ [.setns fd true] })) ∨
    ∃ n, setns kernel fd nstype w = (.ret false, { w with
      calls := n
      trace := w.trace ++ [.setns fd false] }) := by
  unfold setns
  split
  · rename_i t i h
    split
    · cases hk : setnsGranted kernel w.calls t
      · exact .inr ⟨w.calls + 1, by simp [hk]⟩
      · refine .inl ⟨t, i, fun ht => ?_, h, by simp [hk]⟩
        simp [setnsGranted, ht] at hk
    · exact .inr ⟨w.calls, rfl⟩
  · exact .inr ⟨w.calls, rfl⟩

theorem switchInto_of_setns {fd : Int} {nstype : Option NsType} {b : Bool} {w' : World}
    (h : setns kernel fd nstype w = (.ret b, w')) (msg : String) :
    switchInto kernel fd nstype msg w = (if b then .ret () else .panic msg, w') := by
  simp only [switchInto, Go.bind_apply_ret h]
  cases b <;> rfl

theorem switchInto_of_lookup {fd : Int} {t : NsType} {i : Nat}
    (h : w.proc.table.lookup fd = some (.ns t i)) (nstype : Option NsType)
    (hty : nstype.all (· == t) = true) (msg : String) :
    switchInto kernel fd nstype msg w =
      if setnsGranted kernel w.calls t then
        (.ret (), { w with
          calls := w.calls + 1
          attach := Function.update w.attach t i
          trace := w.trace ++ [.setns fd true] })
      else (.panic msg,
        { w with calls := w.calls + 1, trace := w.trace ++ [.setns fd false] }) := by
  rw [switchInto_of_setns kernel (setns_of_lookup kernel h hty)]
  cases setnsGranted kernel w.calls t <;> rfl

theorem call_apply (fn : Fn) : call fn w =
    match fn w.attach with
    | .ret a => (.ret (), { w with attach := a, trace := w.trace ++ [.called w.attach] })
    | .panic m => (.panic m, { w with trace := w.trace ++ [.called w.attach] }) := rfl

end Steps

/-! ## Code that only appends to the process's log -/

/-- `w'` comes later than `w` in the life of the process: the log of opens and closes has only
grown, and no cleanup was queued or run. -/
def World.Follows (w w' : World) : Prop := w.proc.log <+: w'.proc.log ∧ w'.cleanups = w.cleanups

theorem World.Follows.refl (w : World) : w.Follows w := ⟨List.prefix_refl _, rfl⟩

theorem World.Follows.trans {w w' w'' : World} (h : w.Follows w') (h' : w'.Follows w'') :
    w.Follows w'' :=
  ⟨h.1.trans h'.1, h'.2.trans h.2⟩

theorem World.Follows.of_eq {w w' : World} (hp : w'.proc = w.proc)
    (hc : w'.cleanups = w.cleanups) : w.Follows w' :=
  ⟨hp ▸ List.prefix_refl _, hc⟩

/-- Go code that, however it ends, only appends to the process's log and queues no cleanup. -/
def Go.Appends {α : Type} (x : Go α) : Prop := ∀ w : World, w.Follows (x w).2

section Appends

variable {α β : Type} (kernel : Nat → Bool)

theorem Go.appends_bind {x : Go α} {f : α → Go β} (hx : x.Appends) (hf : ∀ a, (f a).Appends) :
    (x >>= f).Appends := by
  intro w
  have hxw := hx w
  rcases h : x w with ⟨a | m, w'⟩ <;> rw [h] at hxw
  · rw [Go.bind_apply_ret h]
    exact hxw.trans (hf a w')
  · rwa [Go.bind_apply_panic h]

theorem appends_pure (a : α) : (pure a : Go α).Appends := fun w => .refl w

theorem appends_fail (msg : String) : (fail msg : Go α).Appends := fun w => .refl w

theorem appends_expect (ok : Bool) (msg : String) : (expect ok msg).Appends := by
  unfold expect
  split
  · exact appends_pure _
  · exact appends_fail _

theorem appends_syscall : (syscall kernel).Appends := fun _ => .of_eq rfl rfl

theorem appends_attachedTo (t : NsType) : (attachedTo t).Appends := fun w => .refl w

theorem appends_type (fd : Int) : (type fd).Appends := fun w => by
  rw [type_world]
  exact .refl w

theorem appends_ino (fd : Int) (t : NsType) : (ino fd t).Appends := by
  intro w
  unfold ino
  split <;> (try split) <;> exact .refl w

theorem appends_openNs (t : NsType) : (openNs t).Appends := fun _ =>
  ⟨by simp [openNs, List.prefix_append], rfl⟩

theorem appends_closeFd (fd : Int) : (closeFd fd).Appends := fun _ =>
  ⟨by simp [closeFd, List.prefix_append], rfl⟩

theorem appends_setns (fd : Int) (nstype : Option NsType) : (setns kernel fd nstype).Appends := by
  intro w
  rcases setns_cases kernel (w := w) fd nstype with ⟨t, i, -, -, h⟩ | ⟨n, h⟩ <;> rw [h] <;>
    exact .of_eq rfl rfl

theorem appends_switchInto (fd : Int) (nstype : Option NsType) (msg : String) :
    (switchInto kernel fd nstype msg).Appends :=
  Go.appends_bind (appends_setns kernel fd nstype) fun ok => appends_expect ok msg

theorem appends_call (fn : Fn) : (call fn).Appends := by
  intro w
  rw [call_apply]
  cases fn w.attach <;> exact .of_eq rfl rfl

theorem appends_typeSelf (typ : NsType) : (typeSelf kernel typ).Appends :=
  Go.appends_bind (appends_syscall kernel) fun _ => Go.appends_bind (appends_expect _ _) fun _ =>
    Go.appends_bind (appends_openNs typ) fun fd => Go.appends_bind (appends_type fd) fun t =>
      Go.appends_bind (appends_closeFd fd) fun _ => appends_pure t

theorem appends_inoSelf (typ : NsType) : (inoSelf kernel typ).Appends :=
  Go.appends_bind (appends_syscall kernel) fun _ => Go.appends_bind (appends_expect _ _) fun _ =>
    Go.appends_bind (appends_attachedTo typ) fun i =>
      Go.appends_bind (appends_typeSelf kernel typ) fun _ =>
        Go.appends_bind (appends_expect _ _) fun _ => appends_pure i

end Appends

/-! ## `goInAndOut` -/

section InAndOut

variable (kernel : Nat → Bool)

/-- The loop of `goInAndOut`: for each handle, append `Current` of its type to
`callersNamespaces`, then switch into the handle's namespace. Returns `callersNamespaces`,
also after a panic, for the deferred restoration. -/
def attachAll : List Int → List Int → World → Outcome Unit × List Int × World
  | [], callers, w => (.ret (), callers, w)
  | nsfd :: fds, callers, w =>
    match type nsfd w with
    | (.panic m, w) => (.panic m, callers, w)
    | (.ret typ, w) =>
      match current kernel typ w with
      | (.panic m, w) => (.panic m, callers, w)
      | (.ret orig, w) =>
        match switchInto kernel nsfd (some typ) ("cannot switch into " ++ name typ ++ " namespace")
            w with
        | (.panic m, w) => (.panic m, callers ++ [orig], w)
        | (.ret (), w) => attachAll fds (callers ++ [orig]) w

/-- The deferred restoration when nothing panicked: switch back to each recorded namespace in
turn; a failure fails the test, naming the namespace's type. -/
def restore : List Int → Go Unit
  | [] => pure ()
  | nsfd :: fds => do
    if ← setns kernel nsfd none then restore fds
    else fail ("cannot restore " ++ name (← type nsfd) ++ " namespace")

/-- The deferred restoration after a panic: try each switch back, ignoring failures. -/
def restoreQuietly : List Int → Go Unit
  | [] => pure ()
  | nsfd :: fds => do
    let _ ← setns kernel nsfd none
    restoreQuietly fds

/-- `goInAndOut`: pin the calling goroutine to its thread, switch it into the namespaces of
`othernsfds` and call `fn`. The deferred function switches back to the recorded namespaces
newest first (`slices.Backward`): after a panic quietly, rethrowing the panic and leaving the
goroutine pinned; otherwise asserting each switch, and unpinning only when all succeeded. -/
def goInAndOut (fn : Fn) (othernsfds : List Int) : Go Unit := fun w =>
  let (r, callers, w) := attachAll kernel othernsfds [] { w with pins := w.pins + 1 }
  let (r, w) := match r with
    | .ret () => call fn w
    | .panic m => (.panic m, w)
  match r with
  | .panic m => (.panic m, (restoreQuietly kernel callers.reverse w).2)
  | .ret () => (do restore kernel callers.reverse; unlockOSThread) w

end InAndOut

/-! ## `goSeparate` and `Execute` -/

section Separate

variable (kernel : Nat → Bool)

/-- The namespace types a worker thread takes over from the calling thread unless told
otherwise. -/
def pickupTypes : List NsType := [.cgroup, .ipc, .net, .pid, .time, .uts]

/-- `slices.DeleteFunc` of the type of each handle from the pickup types. -/
def dropTypes : List Int → List NsType → Go (List NsType)
  | [], ts => pure ts
  | nsfd :: fds, ts => do
    let typ ← type nsfd
    dropTypes fds (ts.filter (· != typ))

/-- `Current` of each type, in order: the `pickupfds`. -/
def currentAll : List NsType → Go (List Int)
  | [] => pure []
  | t :: ts => do
    let fd ← current kernel t
    let fds ← currentAll ts
    pure (fd :: fds)

/-- The worker's loop: switch into the namespace of each handle, skipping those the thread is
already attached to. -/
def attachUnlessCurrent : List Int → Go Unit
  | [] => pure ()
  | nsfd :: fds => do
    let typ ← type nsfd
    if (← ino nsfd typ) = (← inoSelf kernel typ) then attachUnlessCurrent fds
    else do
      switchInto kernel nsfd none ("cannot switch into " ++ name typ ++ " namespace")
      attachUnlessCurrent fds

/-- The worker goroutine's body: its own file attributes and the mount namespace, then the
other namespaces, then `fn`. -/
def worker (fn : Fn) (mntnsfd : Int) (nsfds : List Int) : Go Unit := do
  if mntnsfd ≥ 0 then
    expect (← syscall kernel) "cannot unshare file attributes of transient func call OS-level thread"
    switchInto kernel mntnsfd (some .mnt) "cannot switch into mnt namespace"
  attachUnlessCurrent kernel nsfds
  call fn

/-- Run `body` as a new goroutine, on a thread attached to `spare`, and wait for it; its panic
is rethrown on the caller. The calling thread keeps its namespaces. -/
def onWorker (spare : NsType → Nat) (body : Go Unit) : Go Unit := fun w =>
  let (r, w') := body { w with attach := spare }
  (r, { w' with attach := w.attach })

/-- `body`, then the deferred closing of `fds`, which runs whether or not `body` panicked. -/
def closingAfter (fds : List Int) (body : Go Unit) : Go Unit := fun w =>
  let (r, w) := body w
  (r, { w with proc := w.proc.closeAll fds })

/-- `goSeparate`: pin the calling goroutine (unpinning deferred), collect `Current` of each
pickup type on the calling thread, and run the worker on a thread that starts attached to
`spare`; the worker closes the pickup descriptors when it ends. -/
def goSeparate (spare : NsType → Nat) (fn : Fn) (mntnsfd : Int) (othernsfds : List Int) :
    Go Unit := fun w =>
  let (r, w) := (do
      let types ← dropTypes othernsfds pickupTypes
      let pickupfds ← currentAll kernel types
      onWorker spare (closingAfter pickupfds (worker kernel fn mntnsfd (othernsfds ++ pickupfds))))
    { w with pins := w.pins + 1 }
  (r, { w with pins := w.pins - 1 })

/-- The loop of `Execute` that sorts the handles: a user namespace fails the test, the last
mount namespace is kept apart, and all others are collected in order. -/
def classify : List Int → Int → List Int → Go (Int × List Int)
  | [], mntnsfd, others => pure (mntnsfd, others)
  | nsfd :: fds, mntnsfd, others => do
    match ← type nsfd with
    | .user => fail "cannot Execute() in different user namespace"
    | .mnt => classify fds nsfd others
    | _ => classify fds mntnsfd (others ++ [nsfd])

/-- `Execute(fn, nsfd, nsfds...)`; a worker starts on a thread attached to `spare`. -/
def execute (spare : NsType → Nat) (fn : Fn) (nsfd : Int) (nsfds : List Int) : Go Unit := do
  let (mntnsfd, othernsfds) ← classify (nsfd :: nsfds) (-1) []
  if mntnsfd ≥ 0 then goSeparate kernel spare fn mntnsfd othernsfds
  else goInAndOut kernel fn othernsfds

end Separate

/-- The end of the test node: Ginkgo runs the `DeferCleanup`s, newest first. -/
def nodeEnd (w : World) : World := { w with proc := w.proc.closeAll w.cleanups, cleanups := [] }

@[simp] theorem nodeEnd_log (w : World) :
    (nodeEnd w).proc.log = w.proc.log ++ w.cleanups.map .closed :=
  Proc.closeAll_log _ _

end Spacetest
