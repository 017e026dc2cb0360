import Spacetest.Execute

/-!
# Switching the calling thread and back

`goInAndOut` switches the calling thread into other namespaces around a call of `fn`, and
switches it back to the namespaces `Current` recorded before each switch, which are what
`/proc/thread-self/ns` showed. What that restores is worked out first on the namespaces alone,
then for the Go code under every pattern of kernel failures.

* `applyAll`, `origPairs`, and **`applyAll_reverse_origPairs`**: switching back to the recorded
  namespaces newest first gives every switched type what procfs showed before its first switch,
  also when a type is switched more than once. For the PID type that is the process's own PID
  namespace, which need not be the one the thread's children went to;
* `attachAll_spec`, `restore_spec`, `restoreQuietly_spec`: what the loops of `goInAndOut` do;
* **`goInAndOut_restores_before_unpinning`**: the switches are made on a prefix of the handles,
  then on the recorded descriptors newest first; `fn` runs at most once, and its panic leaves the
  goroutine pinned; the goroutine is unpinned only when every switch and `fn` succeeded and the
  thread is back where procfs showed it on entry;
* **`goInAndOut_leaves_originals_open`**: the descriptors `Current` opened for the recorded
  namespaces are still open when `goInAndOut` returns, whatever happened.
-/

namespace Spacetest

/-! ## Switching and restoring, on the namespaces alone -/

/-- Switch the namespaces `a` into each namespace of `ps` in turn. -/
def applyAll (a : NsType → Nat) (ps : List (NsType × Nat)) : NsType → Nat :=
  ps.foldl (fun a p => Function.update a p.1 p.2) a

/-- What `Current` records while the namespaces `a` are switched through `ps`, in a process
whose own PID and time namespaces are `p` and `q`: before each switch, what
`/proc/thread-self/ns` shows for the type about to be switched. -/
def origPairs (p q : Nat) : (NsType → Nat) → List (NsType × Nat) → List (NsType × Nat)
  | _, [] => []
  | a, x :: xs => (x.1, procView p q a x.1) :: origPairs p q (Function.update a x.1 x.2) xs

@[simp] theorem applyAll_nil (a : NsType → Nat) : applyAll a [] = a := rfl

@[simp] theorem applyAll_cons (a : NsType → Nat) (p : NsType × Nat) (ps : List (NsType × Nat)) :
    applyAll a (p :: ps) = applyAll (Function.update a p.1 p.2) ps := rfl

theorem applyAll_append (a : NsType → Nat) (ps qs : List (NsType × Nat)) :
    applyAll a (ps ++ qs) = applyAll (applyAll a ps) qs := List.foldl_append _ _ _ _

theorem applyAll_of_not_mem {a : NsType → Nat} {ps : List (NsType × Nat)} {t : NsType}
    (h : t ∉ ps.map Prod.fst) : applyAll a ps t = a t := by
  induction ps generalizing a with
  | nil => rfl
  | cons p ps ih =>
    simp only [List.map_cons, List.mem_cons, not_or] at h
    rw [applyAll_cons, ih h.2, Function.update_noteq h.1]

/-- **Restoring newest first undoes the switches up to what procfs shows**, whatever the thread
was attached to in between: a type that was switched gets back what `/proc/thread-self/ns`
showed before its first switch, and any other type keeps what it has. For the PID and time
types that is the process's own namespace, not the one the thread's children were created in. -/
theorem applyAll_reverse_origPairs (p q : Nat) (a b : NsType → Nat) (ps : List (NsType × Nat))
    (t : NsType) :
    applyAll b (origPairs p q a ps).reverse t =
      if t ∈ ps.map Prod.fst then procView p q a t else b t := by
  induction ps generalizing a with
  | nil => simp [origPairs]
  | cons x ps ih =>
    rw [origPairs, List.reverse_cons, applyAll_append, applyAll_cons, applyAll_nil]
    by_cases ht : t = x.1
    · subst ht; simp
    · rw [Function.update_noteq ht, ih, procView_update_of_ne ht]
      by_cases hm : t ∈ ps.map Prod.fst <;> simp [hm, ht]

/-- The namespace behind a descriptor, if it is one: its type and inode number. -/
def FdTable.nsOf (T : FdTable) (fd : Int) : Option (NsType × Nat) :=
  match T.lookup fd with
  | some (.ns t i) => some (t, i)
  | _ => none

theorem FdTable.nsOf_of_lookup {T : FdTable} {fd : Int} {t : NsType} {i : Nat}
    (h : T.lookup fd = some (.ns t i)) : T.nsOf fd = some (t, i) := by
  simp [nsOf, h]

theorem FdTable.map_fst_filterMap_nsOf (T : FdTable) (L : List Int) :
    (L.filterMap T.nsOf).map Prod.fst = L.filterMap T.nstype := by
  rw [List.map_filterMap]
  congr 1
  funext fd
  simp only [nsOf, nstype]
  rcases T.lookup fd with _ | ⟨t, i⟩ | _ | _ | _ <;> rfl

/-! ## The loops of `goInAndOut` -/

section Loops

variable (kernel : Nat → Bool)

theorem attachAll_cons_cases {w : World} {fd : Int} {t : NsType} {i : Nat}
    (hfd : w.proc.table.lookup fd = some (.ns t i)) {L cs cs' : List Int} {r : Outcome Unit}
    {w' : World} (h : attachAll kernel (fd :: L) cs w = (r, cs', w')) :
    (kernel w.calls = false ∧ r ≠ .ret () ∧ cs' = cs ∧ w' = { w with calls := w.calls + 1 }) ∨
    (∃ n, setnsGranted kernel (w.calls + 1) t = false ∧ r ≠ .ret () ∧
      cs' = cs ++ [w.proc.table.lowestFree] ∧ w' = { w with
      calls := n
      proc := (w.proc.openFd (.ns t (w.procNs t))).2
      cleanups := w.proc.table.lowestFree :: w.cleanups
      trace := w.trace ++ [.setns fd false] }) ∨
    attachAll kernel L (cs ++ [w.proc.table.lowestFree]) { w with
      calls := w.calls + 1 + 1
      proc := (w.proc.openFd (.ns t (w.procNs t))).2
      cleanups := w.proc.table.lowestFree :: w.cleanups
      attach := Function.update w.attach t i
      trace := w.trace ++ [.setns fd true] } = (r, cs', w') := by
  rw [attachAll, type_of_lookup hfd] at h
  dsimp only at h
  rw [current_apply] at h
  by_cases hk : kernel w.calls
  · rw [if_pos hk] at h
    dsimp only at h
    rw [switchInto_of_lookup kernel (FdTable.keeps_install _ _ _ _ hfd) _ (by simp)] at h
    by_cases hk2 : setnsGranted kernel (w.calls + 1) t
    · rw [if_pos hk2] at h
      exact .inr (.inr h)
    · rw [if_neg hk2] at h
      simp only [Prod.mk.injEq] at h
      obtain ⟨rfl, rfl, rfl⟩ := h
      exact .inr (.inl ⟨w.calls + 1 + 1, by simpa using hk2, by simp, rfl, rfl⟩)
  · rw [if_neg hk] at h
    simp only [Prod.mk.injEq] at h
    obtain ⟨rfl, rfl, rfl⟩ := h
    exact .inl ⟨by simpa using hk, by simp, rfl, rfl⟩

/-- **The switching loop.** Whatever the kernel says, it records in order the descriptors it
opens, calls `setns` on a prefix of the handles and nothing else, and neither calls `fn` nor
unpins. When it gets through, every switch succeeded, the thread is in the handles' namespaces,
and each recorded descriptor holds the namespace its type had before that handle's switch. -/
theorem attachAll_spec (T : FdTable) (L : List Int)
    (hL : ∀ fd ∈ L, ∃ t i, T.lookup fd = some (.ns t i)) :
    ∀ cs w r cs' w', w.proc.table.Keeps T → attachAll kernel L cs w = (r, cs', w') →
      ∃ origs j, cs' = cs ++ origs ∧ openedOf w'.proc.log = openedOf w.proc.log ++ origs ∧
        switchesOf w'.trace = switchesOf w.trace ++ L.take j ∧ callsOf w'.trace = callsOf w.trace ∧
        w'.pins = w.pins ∧ w'.cleanups = origs.reverse ++ w.cleanups ∧
        w'.proc.table.Keeps w.proc.table ∧
        (∀ o ∈ origs, w.proc.table.lookup o = none ∧
          ∃ t i, w'.proc.table.lookup o = some (.ns t i)) ∧
        (r = .ret () → failuresOf w'.trace = failuresOf w.trace ∧
          w'.attach = applyAll w.attach (L.filterMap T.nsOf) ∧
          List.Forall₂ (fun o p => w'.proc.table.lookup o = some (.ns p.1 p.2)) origs
            (origPairs w.pidNs w.timeNs w.attach (L.filterMap T.nsOf))) := by
  induction L with
  | nil =>
    intro cs w r cs' w' _ h
    simp only [attachAll, Prod.mk.injEq] at h
    obtain ⟨rfl, rfl, rfl⟩ := h
    exact ⟨[], 0, by simp, by simp, by simp, rfl, rfl, by simp, .refl _, by simp,
      fun _ => ⟨rfl, rfl, .nil⟩⟩
  | cons fd L ih =>
    intro cs w r cs' w' hT h
    obtain ⟨t, i, hfd⟩ := hL fd (List.mem_cons_self _ _)
    have hnsOf : T.nsOf fd = some (t, i) := FdTable.nsOf_of_lookup hfd
    rcases attachAll_cons_cases kernel (hT _ _ hfd) h with
      ⟨-, hr, rfl, rfl⟩ | ⟨n, -, hr, rfl, rfl⟩ | h
    · exact ⟨[], 0, by simp, by simp, by simp, rfl, rfl, by simp, .refl _, by simp,
        fun h => absurd h hr⟩
    · refine ⟨[w.proc.table.lowestFree], 1, rfl, by simp [Proc.openFd], by simp, by simp, rfl,
        by simp, FdTable.keeps_install _ _, fun o ho => ?_, fun h => absurd h hr⟩
      obtain rfl := List.mem_singleton.mp ho
      exact ⟨FdTable.lookup_lowestFree _, t, _, Proc.lookup_openFd _ _⟩
    · have hT' : (w.proc.openFd (.ns t (w.procNs t))).2.table.Keeps T :=
        (FdTable.keeps_install _ _).trans hT
      obtain ⟨origs, j, rfl, hopen, hsw, hcalls, hpins, hcl, hkeep, hnew, hret⟩ :=
        ih (fun fd hfd => hL fd (List.mem_cons_of_mem _ hfd)) _ _ r cs' w' hT' h
      have hlf : w'.proc.table.lookup w.proc.table.lowestFree = some (.ns t (w.procNs t)) :=
        hkeep _ _ (Proc.lookup_openFd _ _)
      refine ⟨w.proc.table.lowestFree :: origs, j + 1, by simp, by simp [hopen, Proc.openFd],
        by simp [hsw], by simp [hcalls], hpins, by simp [hcl],
        hkeep.trans (FdTable.keeps_install _ _), ?_, fun hr => ?_⟩
      · refine List.forall_mem_cons.mpr ⟨⟨FdTable.lookup_lowestFree _, t, _, hlf⟩, fun o ho => ?_⟩
        obtain ⟨hnone, hopen⟩ := hnew o ho
        exact ⟨(FdTable.keeps_install _ _).lookup_eq_none hnone, hopen⟩
      obtain ⟨hfail, hatt, hrec⟩ := hret hr
      refine ⟨by simp [hfail], by simp [hatt, hnsOf], ?_⟩
      simp only [List.filterMap_cons, hnsOf, origPairs]
      exact .cons hlf hrec

/-- **The restoration after a normal return.** It calls `setns` on a prefix of the recorded
descriptors, in order, and stops at the first that fails; the process and the pins stay as
they are. When it gets through, no switch failed, and the thread has been switched into the
namespace of each descriptor in turn. -/
theorem restore_spec (fds : List Int) :
    ∀ w r w', restore kernel fds w = (r, w') →
      ∃ k, switchesOf w'.trace = switchesOf w.trace ++ fds.take k ∧
        callsOf w'.trace = callsOf w.trace ∧ w'.proc = w.proc ∧ w'.cleanups = w.cleanups ∧
        w'.pins = w.pins ∧
        (r = .ret () → k = fds.length ∧ failuresOf w'.trace = failuresOf w.trace ∧
          ∀ ps, List.Forall₂ (fun o p => w.proc.table.lookup o = some (.ns p.1 p.2)) fds ps →
            w'.attach = applyAll w.attach ps) := by
  induction fds with
  | nil =>
    intro w r w' h
    simp only [restore, Go.pure_apply, Prod.mk.injEq] at h
    obtain ⟨rfl, rfl⟩ := h
    exact ⟨0, by simp, rfl, rfl, rfl, rfl, fun _ => ⟨rfl, rfl, fun ps hps => by cases hps; rfl⟩⟩
  | cons fd fds ih =>
    intro w r w' h
    rw [restore, Go.bind_apply] at h
    rcases setns_cases kernel (w := w) fd none with ⟨t, i, -, hfd, hs⟩ | ⟨n, hs⟩
    · rw [hs] at h
      obtain ⟨k, hsw, hcalls, hproc, hcl, hpins, hret⟩ := ih _ r w' h
      refine ⟨k + 1, by simp [hsw], by simp [hcalls], hproc, hcl, hpins, fun hr => ?_⟩
      obtain ⟨hk, hfail, hatt⟩ := hret hr
      refine ⟨by simp [hk], by simp [hfail], fun ps hps => ?_⟩
      cases hps with
      | cons hp hps =>
        rw [hfd, Option.some.injEq, Obj.ns.injEq] at hp
        rw [hatt _ hps, applyAll_cons, ← hp.1, ← hp.2]
    · rw [hs] at h
      dsimp only at h
      simp only [Bool.false_eq_true, if_false] at h
      obtain ⟨m, hm⟩ := type_bind_fail (α := Unit)
        (w := { w with calls := n, trace := w.trace ++ [.setns fd false] }) fd
        fun t => "cannot restore " ++ name t ++ " namespace"
      rw [hm, Prod.mk.injEq] at h
      obtain ⟨rfl, rfl⟩ := h
      exact ⟨1, by simp, by simp, rfl, rfl, rfl, fun h => by cases h⟩

theorem restoreQuietly_spec (fds : List Int) (w : World) :
    switchesOf (restoreQuietly kernel fds w).2.trace = switchesOf w.trace ++ fds ∧
      callsOf (restoreQuietly kernel fds w).2.trace = callsOf w.trace ∧
      (restoreQuietly kernel fds w).2.proc = w.proc ∧
      (restoreQuietly kernel fds w).2.cleanups = w.cleanups ∧
      (restoreQuietly kernel fds w).2.pins = w.pins := by
  induction fds generalizing w with
  | nil => simp [restoreQuietly]
  | cons fd fds ih =>
    rw [restoreQuietly, Go.bind_apply]
    rcases setns_cases kernel (w := w) fd none with ⟨t, i, -, -, hs⟩ | ⟨n, hs⟩ <;> rw [hs] <;>
      obtain ⟨hsw, hcalls, hproc, hcl, hpins⟩ := ih _ <;>
      exact ⟨by simp [hsw], by simp [hcalls], hproc, hcl, hpins⟩

end Loops

/-! ## `goInAndOut` -/

theorem call_spec (fn : Fn) (w : World) :
    switchesOf (call fn w).2.trace = switchesOf w.trace ∧
      failuresOf (call fn w).2.trace = failuresOf w.trace ∧
      (call fn w).2.proc = w.proc ∧ (call fn w).2.pins = w.pins := by
  rw [call_apply]
  cases fn w.attach <;> simp

/-- **`goInAndOut` unpins only after restoring what procfs showed.** For every handle list,
every pattern of kernel failures and every `fn` that panics or leaves the types outside the
handles alone: the descriptors it opens are the recorded namespaces `origs`; it calls `setns` on a
prefix of the handles, then on a prefix of `origs` newest first; `fn` is called at most once, on
the thread switched through the handles, and when it panics `goInAndOut` panics with it and
stays pinned; and either the goroutine stays pinned, or `goInAndOut` returned, no switch failed,
every recorded namespace was restored, and the thread is attached, for each type of the handles,
to what `/proc/thread-self/ns` showed on entry, and for every other type to what it had. -/
theorem goInAndOut_restores_before_unpinning (kernel : Nat → Bool) (fn : Fn) (L : List Int)
    (w : World) (hL : ∀ fd ∈ L, ∃ t i, w.proc.table.lookup fd = some (.ns t i))
    (hfn : ∀ a a', fn a = .ret a' → ∀ t, t ∉ L.filterMap w.proc.table.nstype → a' t = a t) :
    ∀ r w', goInAndOut kernel fn L w = (r, w') →
      ∃ origs j k, openedOf w'.proc.log = openedOf w.proc.log ++ origs ∧
        switchesOf w'.trace = switchesOf w.trace ++ L.take j ++ origs.reverse.take k ∧
        (callsOf w'.trace = callsOf w.trace ∨
          (callsOf w'.trace =
              callsOf w.trace ++ [applyAll w.attach (L.filterMap w.proc.table.nsOf)] ∧
            ∀ m, fn (applyAll w.attach (L.filterMap w.proc.table.nsOf)) = .panic m →
              r = .panic m ∧ w'.pins = w.pins + 1)) ∧
        (w'.pins = w.pins + 1 ∨
          (w'.pins = w.pins ∧ r = .ret () ∧ k = origs.length ∧
            failuresOf w'.trace = failuresOf w.trace ∧
            ∀ t, w'.attach t =
              if t ∈ L.filterMap w.proc.table.nstype then w.procNs t else w.attach t)) := by
  intro r w' h
  unfold goInAndOut at h
  rcases hA : attachAll kernel L [] { w with pins := w.pins + 1 } with ⟨r1, cs, w2⟩
  obtain ⟨origs, j, hcs, hopen, hsw, hcalls, hpins, -, -, -, hret⟩ := attachAll_spec kernel
    w.proc.table L hL [] { w with pins := w.pins + 1 } r1 cs w2 (FdTable.Keeps.refl _) hA
  rw [List.nil_append] at hcs
  subst hcs
  rw [hA] at h
  dsimp only at h hopen hpins hsw hret hcalls
  -- after a panic the deferred function restores quietly and the goroutine stays pinned
  have quiet : ∀ m w3, switchesOf w3.trace = switchesOf w2.trace → w3.proc = w2.proc →
      w3.pins = w2.pins → (Outcome.panic m, (restoreQuietly kernel cs.reverse w3).2) = (r, w') →
      r = .panic m ∧ openedOf w'.proc.log = openedOf w.proc.log ++ cs ∧
        switchesOf w'.trace = switchesOf w.trace ++ L.take j ++ cs.reverse.take cs.length ∧
        callsOf w'.trace = callsOf w3.trace ∧ w'.pins = w.pins + 1 := by
    intro m w3 hsw3 hproc3 hpins3 hq
    obtain ⟨hsw4, hcalls4, hproc4, -, hpins4⟩ := restoreQuietly_spec kernel cs.reverse w3
    simp only [Prod.mk.injEq] at hq
    obtain ⟨rfl, rfl⟩ := hq
    exact ⟨rfl, by simpa [hproc4, hproc3] using hopen, by simp [hsw4, hsw3, hsw], hcalls4,
      by simp [hpins4, hpins3, hpins]⟩
  cases r1 with
  | panic m =>
    obtain ⟨-, ho, hs, hc, hp⟩ := quiet m w2 rfl rfl rfl h
    exact ⟨cs, j, cs.length, ho, hs, .inl (hc.trans hcalls), .inl hp⟩
  | ret u =>
    dsimp only at h
    obtain ⟨hfail, hatt, hrec⟩ := hret rfl
    obtain ⟨hswc, hfailc, hprocc, hpinsc⟩ := call_spec fn w2
    rw [call_apply] at h hswc hfailc hprocc hpinsc
    have hcalled : callsOf (w2.trace ++ [.called w2.attach]) = callsOf w.trace ++ [w2.attach] := by
      simp [hcalls]
    rw [← hatt]
    cases hf : fn w2.attach with
    | panic m =>
      rw [hf] at h hswc hprocc hpinsc
      dsimp only at h hswc hprocc hpinsc
      obtain ⟨rfl, ho, hs, hc, hp⟩ :=
        quiet m { w2 with trace := w2.trace ++ [.called w2.attach] } hswc hprocc hpinsc h
      refine ⟨cs, j, cs.length, ho, hs, .inr ⟨hc.trans hcalled, fun m' hm' => ?_⟩, .inl hp⟩
      obtain rfl := Outcome.panic.inj hm'
      exact ⟨rfl, hp⟩
    | ret a' =>
      rw [hf] at h hswc hfailc hprocc hpinsc
      dsimp only at h hswc hfailc hprocc hpinsc
      rw [Go.bind_apply] at h
      rcases hR : restore kernel cs.reverse _ with ⟨r4, w4⟩
      obtain ⟨k, hsw4, hc4, hproc4, -, hpins4, hret4⟩ := restore_spec kernel _ _ r4 w4 hR
      rw [hR] at h
      have hcalls' : ∀ w5 : World, callsOf w5.trace = callsOf w4.trace →
          callsOf w5.trace = callsOf w.trace ∨
          (callsOf w5.trace = callsOf w.trace ++ [w2.attach] ∧
            ∀ m, (Outcome.ret a' : Outcome (NsType → Nat)) = .panic m →
              r = .panic m ∧ w5.pins = w.pins + 1) :=
        fun w5 h5 => .inr ⟨h5.trans (hc4.trans hcalled), fun m hm => by cases hm⟩
      cases r4 with
      | panic m =>
        simp only [Prod.mk.injEq] at h
        obtain ⟨rfl, rfl⟩ := h
        exact ⟨cs, j, k, by simpa [hproc4] using hopen, by simp [hsw4, hsw], hcalls' w4 rfl,
          .inl (by simp [hpins4, hpins])⟩
      | ret u4 =>
        simp only [unlockOSThread, Prod.mk.injEq] at h
        obtain ⟨rfl, rfl⟩ := h
        obtain ⟨hk, hfail4, hatt4⟩ := hret4 rfl
        refine ⟨cs, j, k, by simpa [hproc4] using hopen, by simp [hsw4, hsw], hcalls' _ rfl,
          .inr ⟨by simp [hpins4, hpins], rfl, by simpa using hk, by simp [hfail4, hfail], ?_⟩⟩
        -- the thread is back where procfs showed it
        have hrec' : List.Forall₂ (fun o p => w2.proc.table.lookup o = some (.ns p.1 p.2))
            cs.reverse (origPairs w.pidNs w.timeNs w.attach
              (L.filterMap w.proc.table.nsOf)).reverse :=
          List.forall₂_reverse_iff.mpr hrec
        intro t
        dsimp only
        rw [hatt4 _ hrec', applyAll_reverse_origPairs, FdTable.map_fst_filterMap_nsOf]
        split
        · rfl
        · rename_i ht
          show a' t = w.attach t
          rw [hfn _ _ hf t ht, hatt, applyAll_of_not_mem (by rwa [FdTable.map_fst_filterMap_nsOf])]

theorem goInAndOut_proc (kernel : Nat → Bool) (fn : Fn) (L : List Int) (w : World) :
    (goInAndOut kernel fn L w).2.proc =
        (attachAll kernel L [] { w with pins := w.pins + 1 }).2.2.proc ∧
      (goInAndOut kernel fn L w).2.cleanups =
        (attachAll kernel L [] { w with pins := w.pins + 1 }).2.2.cleanups := by
  unfold goInAndOut
  rcases attachAll kernel L [] { w with pins := w.pins + 1 } with ⟨r1, cs, w2⟩
  have quiet := restoreQuietly_spec kernel cs.reverse
  cases r1 with
  | panic m => exact ⟨(quiet w2).2.2.1, (quiet w2).2.2.2.1⟩
  | ret u =>
    dsimp only
    rw [call_apply]
    cases fn w2.attach with
    | panic m => exact ⟨(quiet _).2.2.1, (quiet _).2.2.2.1⟩
    | ret a' =>
      dsimp only
      rw [Go.bind_apply]
      rcases hR : restore kernel cs.reverse _ with ⟨r4, w4⟩
      obtain ⟨k, -, -, hproc4, hcl4, -⟩ := restore_spec kernel _ _ r4 w4 hR
      cases r4 <;> exact ⟨hproc4, hcl4⟩

/-- **`goInAndOut` leaves the recorded namespaces open.** Whatever the kernel and `fn` do, the
descriptors it opens, one per successful `Current`, were not open on entry and are still open,
each for a namespace, when it returns: only `DeferCleanup` closes them, at the end of the test
node. The descriptors open on entry are left as they were. -/
theorem goInAndOut_leaves_originals_open (kernel : Nat → Bool) (fn : Fn) (L : List Int)
    (w : World) (hL : ∀ fd ∈ L, ∃ t i, w.proc.table.lookup fd = some (.ns t i)) :
    ∃ origs, openedOf (goInAndOut kernel fn L w).2.proc.log = openedOf w.proc.log ++ origs ∧
      (goInAndOut kernel fn L w).2.cleanups = origs.reverse ++ w.cleanups ∧
      (goInAndOut kernel fn L w).2.proc.table.Keeps w.proc.table ∧
      ∀ o ∈ origs, w.proc.table.lookup o = none ∧
        ∃ t i, (goInAndOut kernel fn L w).2.proc.table.lookup o = some (.ns t i) := by
  obtain ⟨hproc, hcl⟩ := goInAndOut_proc kernel fn L w
  rcases hA : attachAll kernel L [] { w with pins := w.pins + 1 } with ⟨r1, cs, w2⟩
  obtain ⟨origs, -, -, hopen, -, -, -, hcl2, hkeep, hnew, -⟩ := attachAll_spec kernel
    w.proc.table L hL [] { w with pins := w.pins + 1 } r1 cs w2 (FdTable.Keeps.refl _) hA
  rw [hA] at hproc hcl
  rw [hproc, hcl]
  exact ⟨origs, hopen, hcl2, hkeep, hnew⟩

/-- Every kernel call succeeds. -/
def allOk : Nat → Bool := fun _ => true

/-- A function that leaves its thread where it is. -/
def stayPut : Fn := fun a => .ret a

/-- The calling thread's namespaces in the examples, one per type. -/
def callerNs : NsType → Nat
  | .cgroup => 1
  | .ipc => 2
  | .mnt => 3
  | .net => 4
  | .pid => 5
  | .time => 6
  | .user => 7
  | .uts => 8

/-- A test process with its standard descriptors, a network namespace at 3 and a mount
namespace at 4, running on a thread attached to `callerNs`, whose children stay in the process's
own PID and time namespaces, pinned once. -/
def sampleWorld : World where
  proc := ⟨⟨[(4, .ns .mnt 33), (3, .ns .net 44), (2, .file 2), (1, .file 1), (0, .file 0)]⟩, []⟩
  attach := callerNs
  pidNs := 5
  timeNs := 6
  pins := 1

/-- Switching into the network namespace at 3 twice. -/
theorem goInAndOut_restores_net_twice :
    (∀ fd ∈ [3, 3], ∃ t i, sampleWorld.proc.table.lookup fd = some (.ns t i)) ∧
    (∀ a a', stayPut a = .ret a' →
      ∀ t, t ∉ [3, 3].filterMap sampleWorld.proc.table.nstype → a' t = a t) ∧
    ∀ r w', goInAndOut allOk stayPut [3, 3] sampleWorld = (r, w') →
      ∃ origs j k, openedOf w'.proc.log = openedOf sampleWorld.proc.log ++ origs ∧
        switchesOf w'.trace =
          switchesOf sampleWorld.trace ++ [3, 3].take j ++ origs.reverse.take k ∧
        (callsOf w'.trace = callsOf sampleWorld.trace ∨
          (callsOf w'.trace = callsOf sampleWorld.trace ++
              [applyAll sampleWorld.attach ([3, 3].filterMap sampleWorld.proc.table.nsOf)] ∧
            ∀ m, stayPut (applyAll sampleWorld.attach
                ([3, 3].filterMap sampleWorld.proc.table.nsOf)) = .panic m →
              r = .panic m ∧ w'.pins = sampleWorld.pins + 1)) ∧
        (w'.pins = sampleWorld.pins + 1 ∨
          (w'.pins = sampleWorld.pins ∧ r = .ret () ∧ k = origs.length ∧
            failuresOf w'.trace = failuresOf sampleWorld.trace ∧
            ∀ t, w'.attach t = if t ∈ [3, 3].filterMap sampleWorld.proc.table.nstype then
              sampleWorld.procNs t else sampleWorld.attach t)) :=
  have hL : ∀ fd ∈ [3, 3], ∃ t i, sampleWorld.proc.table.lookup fd = some (.ns t i) := by
    intro fd hfd
    obtain rfl : fd = 3 := by simpa using hfd
    exact ⟨.net, 44, by decide⟩
  have hfn : ∀ a a', stayPut a = .ret a' →
      ∀ t, t ∉ [3, 3].filterMap sampleWorld.proc.table.nstype → a' t = a t := by
    intro a a' h t _
    cases h
    rfl
  ⟨hL, hfn, goInAndOut_restores_before_unpinning allOk stayPut [3, 3] sampleWorld hL hfn⟩

/-- Switching into the network namespace at 3 and back. -/
theorem goInAndOut_leaves_net_open :
    (∀ fd ∈ [3], ∃ t i, sampleWorld.proc.table.lookup fd = some (.ns t i)) ∧
    ∃ origs, openedOf (goInAndOut allOk stayPut [3] sampleWorld).2.proc.log =
        openedOf sampleWorld.proc.log ++ origs ∧
      (goInAndOut allOk stayPut [3] sampleWorld).2.cleanups =
        origs.reverse ++ sampleWorld.cleanups ∧
      (goInAndOut allOk stayPut [3] sampleWorld).2.proc.table.Keeps sampleWorld.proc.table ∧
      ∀ o ∈ origs, sampleWorld.proc.table.lookup o = none ∧
        ∃ t i, (goInAndOut allOk stayPut [3] sampleWorld).2.proc.table.lookup o = some (.ns t i) :=
  have hL : ∀ fd ∈ [3], ∃ t i, sampleWorld.proc.table.lookup fd = some (.ns t i) := by
    intro fd hfd
    obtain rfl : fd = 3 := by simpa using hfd
    exact ⟨.net, 44, by decide⟩
  ⟨hL, goInAndOut_leaves_originals_open allOk stayPut [3] sampleWorld hL⟩

end Spacetest
