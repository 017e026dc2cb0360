import Spacetest.InAndOut

/-!
# Running on a worker thread, and `Execute`

`goSeparate` runs the function on a fresh worker thread, which it attaches to the handles'
namespaces and, for every other type it picks up, to the calling thread's namespace; `Execute`
chooses between that and `goInAndOut`.

* `requested`: the namespaces the function is to run in, as the spec says;
  `applyAll_filterMap_nsOf` relates them to switching through the handles in order;
* `switchUnlessShown`: the worker's loop on the namespaces alone, which skips a namespace procfs
  already shows; it ends where switching does for every type but PID and time;
* `classify_spec`, `dropTypes_spec`, `currentAll_spec`, `attachUnlessCurrent_spec`: what the
  steps of `Execute` and `goSeparate` do when the kernel grants every call;
* **`execute_runs_fn_in_requested_namespaces`**: when every kernel call succeeds, the function
  runs exactly once, on either path, in the requested namespace of every type but user, PID and
  time; a user namespace fails `Execute` before anything else happens;
* `appends_worker`: whatever the kernel and `fn` do, the worker queues no cleanup;
* `execute_leaves_current_open`, **`goSeparate_closes_pickups_twice`**: the descriptors of
  `Current` are closed by `DeferCleanup` at the end of the test node — after `Execute` returned
  on the pinned path, and a second time on the worker path, whose worker closed them already.
-/

namespace Spacetest

/-! ## The namespaces the function is to run in -/

/-- The inode number of the namespace behind a descriptor, 0 if there is none. -/
def FdTable.ino (T : FdTable) (fd : Int) : Nat := ((T.nsOf fd).map Prod.snd).getD 0

/-- Modelled from the spec: the namespace of type `t` that the function given to `Execute` is
to run in — that of the last handle of type `t` in `L`, or else the calling thread's. -/
def requested (T : FdTable) (attach : NsType → Nat) (L : List Int) (t : NsType) : Nat :=
  match (L.filter fun fd => T.nstype fd == some t).getLast? with
  | some fd => T.ino fd
  | none => attach t

section Requested

variable (T : FdTable)

theorem FdTable.nstype_eq_map_nsOf (fd : Int) : T.nstype fd = (T.nsOf fd).map Prod.fst := by
  simp only [nstype, nsOf]
  rcases T.lookup fd with _ | ⟨t, i⟩ | _ | _ | _ <;> rfl

theorem requested_append (a : NsType → Nat) (L L' : List Int) (t : NsType) :
    requested T a (L ++ L') t = requested T (requested T a L) L' t := by
  unfold requested
  rw [List.filter_append, List.getLast?_append]
  cases (L'.filter fun fd => T.nstype fd == some t).getLast? <;> rfl

/-- **Switching through the handles in order ends in the requested namespaces.** -/
theorem applyAll_filterMap_nsOf (a : NsType → Nat) (L : List Int) :
    applyAll a (L.filterMap T.nsOf) = requested T a L := by
  induction L using List.reverseRecOn generalizing a with
  | nil => funext t; simp [requested]
  | append_singleton L fd ih =>
    funext t
    rw [List.filterMap_append, applyAll_append, ih, requested_append]
    generalize requested T a L = b
    unfold requested
    rcases h : T.nsOf fd with _ | ⟨t', i⟩
    · simp [h, T.nstype_eq_map_nsOf]
    · by_cases ht : t' = t
      · subst ht; simp [h, T.nstype_eq_map_nsOf, FdTable.ino]
      · simp [h, T.nstype_eq_map_nsOf, ht, Function.update_noteq (Ne.symm ht)]

theorem requested_singleton (a : NsType → Nat) (fd : Int) (t : NsType) :
    requested T a [fd] t = if T.nstype fd = some t then T.ino fd else a t := by
  unfold requested
  by_cases h : T.nstype fd = some t <;> simp [h]

theorem requested_of_not_mem {a : NsType → Nat} {L : List Int} {t : NsType}
    (ht : t ∉ L.filterMap T.nstype) : requested T a L t = a t := by
  rw [← applyAll_filterMap_nsOf, applyAll_of_not_mem (by rwa [T.map_fst_filterMap_nsOf])]

theorem requested_of_mem {L : List Int} {t : NsType} (ht : t ∈ L.filterMap T.nstype)
    (a b : NsType → Nat) : requested T a L t = requested T b L t := by
  unfold requested
  cases h : (L.filter fun fd => T.nstype fd == some t).getLast? with
  | some fd => rfl
  | none =>
    obtain ⟨fd, hfd, hty⟩ := List.mem_filterMap.mp ht
    have : fd ∈ L.filter fun fd => T.nstype fd == some t := by simp [hfd, hty]
    simp [List.getLast?_eq_none_iff.mp h] at this

theorem requested_filter_ne_mnt (a : NsType → Nat) (L : List Int) {t : NsType} (ht : t ≠ .mnt) :
    requested T a (L.filter fun fd => T.nstype fd != some .mnt) t = requested T a L t := by
  unfold requested
  rw [List.filter_filter]
  congr 2
  apply List.filter_congr
  intro fd _
  by_cases h : T.nstype fd = some t
  · simp [h, ht]
  · simp [h]

theorem requested_congr {T' : FdTable} {L : List Int} (h : ∀ fd ∈ L, T'.lookup fd = T.lookup fd)
    (a : NsType → Nat) : requested T' a L = requested T a L := by
  rw [← applyAll_filterMap_nsOf, ← applyAll_filterMap_nsOf, List.filterMap_congr]
  intro fd hfd
  simp only [FdTable.nsOf, h fd hfd]

theorem exists_of_forall₂ {α β : Type} {R : α → β → Prop} {l : List α} {l' : List β}
    (h : List.Forall₂ R l l') : ∀ a ∈ l, ∃ b, R a b := by
  induction h with
  | nil => simp
  | cons hab _ ih => exact List.forall_mem_cons.mpr ⟨⟨_, hab⟩, ih⟩

theorem filterMap_nsOf_of_forall₂ {f : NsType → Nat} {fds : List Int} {ts : List NsType}
    (h : List.Forall₂ (fun fd t => T.lookup fd = some (.ns t (f t))) fds ts) :
    fds.filterMap T.nsOf = ts.map fun t => (t, f t) := by
  induction h with
  | nil => rfl
  | cons hfd _ ih => simp [FdTable.nsOf_of_lookup hfd, ih]

theorem applyAll_map_pairs (a f : NsType → Nat) (ts : List NsType) (t : NsType) :
    applyAll a (ts.map fun t => (t, f t)) t = if t ∈ ts then f t else a t := by
  induction ts generalizing a with
  | nil => simp
  | cons t' ts ih =>
    rw [List.map_cons, applyAll_cons, ih]
    by_cases h : t = t'
    · subst h; simp
    · simp [h, Function.update_noteq h]

/-- The worker's loop on the namespaces alone, in a process whose own PID and time namespaces
are `p` and `q`: a handle whose namespace `/proc/thread-self/ns` already shows is skipped, and
the thread is switched into any other. -/
def switchUnlessShown (p q : Nat) (a : NsType → Nat) (x : NsType × Nat) : NsType → Nat :=
  if x.2 = procView p q a x.1 then a else Function.update a x.1 x.2

theorem switchUnlessShown_of_shown {p q : Nat} {a : NsType → Nat} {x : NsType × Nat}
    (h : x.2 = procView p q a x.1) : switchUnlessShown p q a x = a := if_pos h

theorem switchUnlessShown_of_not_shown {p q : Nat} {a : NsType → Nat} {x : NsType × Nat}
    (h : x.2 ≠ procView p q a x.1) : switchUnlessShown p q a x = Function.update a x.1 x.2 :=
  if_neg h

theorem applyAll_congr_at {a b : NsType → Nat} {t : NsType} (h : a t = b t)
    (xs : List (NsType × Nat)) : applyAll a xs t = applyAll b xs t := by
  induction xs generalizing a b with
  | nil => exact h
  | cons x xs ih =>
    refine ih ?_
    by_cases hx : t = x.1
    · subst hx; simp
    · simp [Function.update_noteq hx, h]

theorem foldl_switchUnlessShown_of_ne (p q : Nat) {t : NsType} (hp : t ≠ .pid) (ht : t ≠ .time)
    (xs : List (NsType × Nat)) (a : NsType → Nat) :
    xs.foldl (switchUnlessShown p q) a t = applyAll a xs t := by
  induction xs generalizing a with
  | nil => rfl
  | cons x xs ih =>
    rw [List.foldl_cons, ih, applyAll_cons]
    by_cases hx : x.2 = procView p q a x.1
    · rw [switchUnlessShown_of_shown hx]
      refine applyAll_congr_at ?_ xs
      by_cases hxt : x.1 = t
      · subst hxt
        rw [procView_of_ne hp ht] at hx
        rw [Function.update_same, hx]
      · rw [Function.update_noteq (Ne.symm hxt)]
    · rw [switchUnlessShown_of_not_shown hx]

theorem foldl_switchUnlessShown_shown (p q : Nat) (t : NsType) (xs : List (NsType × Nat))
    (a : NsType → Nat) (h : ∀ x ∈ xs, x.1 = t → x.2 = procView p q a t) :
    xs.foldl (switchUnlessShown p q) a t = a t := by
  induction xs generalizing a with
  | nil => rfl
  | cons x xs ih =>
    have ih' : ∀ b, (∀ y ∈ x :: xs, y.1 = t → y.2 = procView p q b t) →
        xs.foldl (switchUnlessShown p q) b t = b t :=
      fun b hb => ih b fun y hy => hb y (.tail _ hy)
    rw [List.foldl_cons]
    by_cases hxt : x.1 = t
    · rw [switchUnlessShown_of_shown (by rw [hxt]; exact h x (.head _) hxt)]
      exact ih' a h
    · by_cases hx : x.2 = procView p q a x.1
      · rw [switchUnlessShown_of_shown hx]
        exact ih' a h
      · rw [switchUnlessShown_of_not_shown hx, ih', Function.update_noteq (Ne.symm hxt)]
        intro y hy hyt
        rw [procView_update_of_ne (Ne.symm hxt)]
        exact h y hy hyt

end Requested

/-! ## Sorting the handles -/

section Classify

variable (w : World)

theorem classify_spec (L : List Int)
    (hL : ∀ fd ∈ L, ∃ t i, t ≠ .user ∧ w.proc.table.lookup fd = some (.ns t i))
    (m : Int) (others : List Int) :
    classify L m others w =
      (.ret (L.foldl (fun m fd => if w.proc.table.nstype fd = some .mnt then fd else m) m,
        others ++ L.filter fun fd => w.proc.table.nstype fd != some .mnt), w) := by
  induction L generalizing m others with
  | nil => simp [classify]
  | cons fd L ih =>
    obtain ⟨t, i, hu, hfd⟩ := hL fd (List.mem_cons_self _ _)
    have hty : w.proc.table.nstype fd = some t := FdTable.nstype_of_lookup hfd
    have ih' := ih (fun fd h => hL fd (List.mem_cons_of_mem _ h))
    rw [classify, Go.bind_apply_ret (type_of_lookup hfd)]
    cases t with
    | user => exact absurd rfl hu
    | mnt => simp [ih', hty]
    | _ => simp [ih', hty]

theorem classify_user (L : List Int) (hL : ∀ fd ∈ L, ∃ t i, w.proc.table.lookup fd = some (.ns t i))
    (hu : ∃ fd ∈ L, w.proc.table.nstype fd = some .user) (m : Int) (others : List Int) :
    classify L m others w = (.panic "cannot Execute() in different user namespace", w) := by
  induction L generalizing m others with
  | nil => simp at hu
  | cons fd L ih =>
    obtain ⟨t, i, hfd⟩ := hL fd (List.mem_cons_self _ _)
    have hty : w.proc.table.nstype fd = some t := FdTable.nstype_of_lookup hfd
    rw [classify, Go.bind_apply_ret (type_of_lookup hfd)]
    have ih' : ∀ m others, t ≠ .user →
        classify L m others w = (.panic "cannot Execute() in different user namespace", w) := by
      intro m others ht
      refine ih (fun fd h => hL fd (List.mem_cons_of_mem _ h)) ?_ m others
      obtain ⟨fd', hfd', hu'⟩ := hu
      rcases List.mem_cons.mp hfd' with rfl | hfd'
      · exact absurd (Option.some.inj (hty.symm.trans hu')) ht
      · exact ⟨fd', hfd', hu'⟩
    cases t with
    | user => rfl
    | mnt => exact ih' _ _ (by decide)
    | _ => exact ih' _ _ (by decide)

theorem foldl_lastMnt (T : FdTable) (a : NsType → Nat) (L : List Int) (m : Int) :
    (L.foldl (fun m fd => if T.nstype fd = some .mnt then fd else m) m = m ∧
        .mnt ∉ L.filterMap T.nstype) ∨
      (L.foldl (fun m fd => if T.nstype fd = some .mnt then fd else m) m ∈ L ∧
        T.nstype (L.foldl (fun m fd => if T.nstype fd = some .mnt then fd else m) m) = some .mnt ∧
        requested T a L .mnt =
          T.ino (L.foldl (fun m fd => if T.nstype fd = some .mnt then fd else m) m)) := by
  induction L using List.reverseRecOn with
  | nil => simp
  | append_singleton L fd ih =>
    rw [List.foldl_append, List.foldl_cons, List.foldl_nil, requested_append, requested_singleton]
    by_cases h : T.nstype fd = some .mnt
    · simp [h]
    · simp only [h, if_false]
      rcases ih with ⟨h1, h2⟩ | ⟨h1, h2, h3⟩
      · exact .inl ⟨h1, by simp [h2, h]⟩
      · exact .inr ⟨List.mem_append_left _ h1, h2, h3⟩

theorem dropTypes_spec (w : World) (L : List Int)
    (hL : ∀ fd ∈ L, ∃ t, w.proc.table.nstype fd = some t) (ts : List NsType) :
    dropTypes L ts w = (.ret (ts.filter fun t => t ∉ L.filterMap w.proc.table.nstype), w) := by
  induction L generalizing ts with
  | nil => simp [dropTypes]
  | cons fd L ih =>
    obtain ⟨t, ht⟩ := hL fd (List.mem_cons_self _ _)
    rw [dropTypes, Go.bind_apply_ret (type_of_nstype ht),
      ih (fun fd h => hL fd (List.mem_cons_of_mem _ h)), List.filter_filter]
    congr 3
    funext t'
    by_cases h : t' = t <;> simp [h, ht]

end Classify

/-! ## What the worker does to the process -/

section WorkerFrame

variable (kernel : Nat → Bool)

theorem appends_attachUnlessCurrent (L : List Int) : (attachUnlessCurrent kernel L).Appends := by
  induction L with
  | nil => exact appends_pure _
  | cons fd L ih =>
    refine Go.appends_bind (appends_type fd) fun typ => Go.appends_bind (appends_ino fd typ)
      fun i => Go.appends_bind (appends_inoSelf kernel typ) fun j => ?_
    split
    · exact ih
    · exact Go.appends_bind (appends_switchInto kernel _ _ _) fun _ => ih

theorem appends_worker (fn : Fn) (mntnsfd : Int) (L : List Int) :
    (worker kernel fn mntnsfd L).Appends := by
  unfold worker
  have rest := Go.appends_bind (appends_attachUnlessCurrent kernel L) fun _ => appends_call fn
  dsimp only
  split
  · exact Go.appends_bind (appends_syscall kernel) fun _ =>
      Go.appends_bind (appends_expect _ _) fun _ =>
        Go.appends_bind (appends_switchInto kernel _ _ _) fun _ => rest
  · exact Go.appends_bind (appends_pure _) fun _ => rest

end WorkerFrame

/-! ## When the kernel grants every call -/

section AllOk

variable (kernel : Nat → Bool) (hok : ∀ n, kernel n = true)
include hok

theorem attachAll_ok (T : FdTable) (L : List Int)
    (hL : ∀ fd ∈ L, ∃ t i, t ≠ .time ∧ T.lookup fd = some (.ns t i)) :
    ∀ cs w, w.proc.table.Keeps T → (attachAll kernel L cs w).1 = .ret () := by
  induction L with
  | nil => intro cs w _; rfl
  | cons fd L ih =>
    intro cs w hT
    obtain ⟨t, i, htime, hfd⟩ := hL fd (List.mem_cons_self _ _)
    rcases h : attachAll kernel (fd :: L) cs w with ⟨r, cs', w'⟩
    rcases attachAll_cons_cases kernel (hT _ _ hfd) h with ⟨hk, -⟩ | ⟨n, hk, -⟩ | h'
    · simp [hok] at hk
    · simp [setnsGranted, hok, htime] at hk
    · rw [← congrArg Prod.fst h']
      exact ih (fun fd h => hL fd (List.mem_cons_of_mem _ h)) _ _
        ((FdTable.keeps_install _ _).trans hT)

theorem goInAndOut_calls (fn : Fn) (L : List Int) (w : World)
    (hL : ∀ fd ∈ L, ∃ t i, t ≠ .time ∧ w.proc.table.lookup fd = some (.ns t i)) :
    callsOf (goInAndOut kernel fn L w).2.trace =
      callsOf w.trace ++ [applyAll w.attach (L.filterMap w.proc.table.nsOf)] := by
  unfold goInAndOut
  rcases hA : attachAll kernel L [] { w with pins := w.pins + 1 } with ⟨r1, cs, w2⟩
  have hr1 := attachAll_ok kernel hok w.proc.table L hL [] { w with pins := w.pins + 1 }
    (FdTable.Keeps.refl _)
  rw [hA] at hr1
  subst hr1
  obtain ⟨origs, j, -, -, -, hcalls, -, -, -, -, hret⟩ := attachAll_spec kernel w.proc.table L
    (fun fd hfd => let ⟨t, i, _, h⟩ := hL fd hfd; ⟨t, i, h⟩) []
    { w with pins := w.pins + 1 } _ cs w2 (FdTable.Keeps.refl _) hA
  obtain ⟨-, hatt, -⟩ := hret rfl
  dsimp only
  rw [call_apply]
  cases fn w2.attach with
  | panic m =>
    dsimp only
    rw [(restoreQuietly_spec kernel _ _).2.1]
    simp [hcalls, hatt]
  | ret a' =>
    dsimp only
    rw [Go.bind_apply]
    rcases hR : restore kernel cs.reverse _ with ⟨r4, w4⟩
    obtain ⟨k, -, hc4, -⟩ := restore_spec kernel _ _ r4 w4 hR
    cases r4 <;> simp [unlockOSThread, hc4, hcalls, hatt]

theorem currentAll_spec (ts : List NsType) (w : World) :
    ∃ fds c p, currentAll kernel ts w = (.ret fds, { w with
        calls := c
        proc := p
        cleanups := fds.reverse ++ w.cleanups }) ∧ p.table.Keeps w.proc.table ∧
      List.Forall₂ (fun fd t => p.table.lookup fd = some (.ns t (w.procNs t))) fds ts ∧
      w.proc.log <+: p.log ∧ ∀ fd ∈ fds, w.proc.table.lookup fd = none := by
  induction ts generalizing w with
  | nil => exact ⟨[], w.calls, w.proc, rfl, .refl _, .nil, List.prefix_refl _, by simp⟩
  | cons t ts ih =>
    rw [currentAll, Go.bind_apply, current_apply, if_pos (hok _)]
    dsimp only
    obtain ⟨fds, c, p, h, hkeep, hrec, hlog, hnew⟩ := ih { w with
      calls := w.calls + 1
      proc := (w.proc.openFd (.ns t (w.procNs t))).2
      cleanups := w.proc.table.lowestFree :: w.cleanups }
    rw [Go.bind_apply, h]
    refine ⟨w.proc.table.lowestFree :: fds, c, p, by simp, hkeep.trans (FdTable.keeps_install _ _),
      .cons ?_ hrec,
      (List.prefix_append _ _).trans hlog, ?_⟩
    · exact hkeep _ _ (by simp [Proc.openFd])
    · refine List.forall_mem_cons.mpr ⟨FdTable.lookup_lowestFree _, fun fd hfd => ?_⟩
      exact (FdTable.keeps_install _ _).lookup_eq_none (hnew fd hfd)

theorem inoSelf_spec (t : NsType) (w : World) :
    ∃ c p, inoSelf kernel t w = (.ret (w.procNs t), { w with calls := c, proc := p }) ∧
      p.table = w.proc.table := by
  simp only [inoSelf, typeSelf, Go.bind_apply, syscall, hok, expect, if_true, Go.pure_apply,
    attachedTo, openNs, type, FdTable.nstype, Proc.lookup_openFd, Option.some_bind, Obj.nstype,
    closeFd, beq_self_eq_true]
  exact ⟨_, _, rfl, FdTable.close_install _ _⟩

theorem attachUnlessCurrent_spec (T : FdTable) (L : List Int)
    (hL : ∀ fd ∈ L, ∃ t i, T.lookup fd = some (.ns t i)) :
    ∀ w, w.proc.table.Keeps T → (∀ i, (NsType.time, i) ∈ L.filterMap T.nsOf → i = w.timeNs) →
      ∃ w', attachUnlessCurrent kernel L w = (.ret (), w') ∧
        w'.attach = (L.filterMap T.nsOf).foldl (switchUnlessShown w.pidNs w.timeNs) w.attach ∧
        w'.pidNs = w.pidNs ∧ w'.timeNs = w.timeNs ∧ w'.proc.table = w.proc.table ∧
        callsOf w'.trace = callsOf w.trace ∧ w'.pins = w.pins := by
  induction L with
  | nil => intro w _ _; exact ⟨w, rfl, rfl, rfl, rfl, rfl, rfl, rfl⟩
  | cons fd L ih =>
    intro w hT htime
    obtain ⟨t, i, hfd⟩ := hL fd (List.mem_cons_self _ _)
    have hw : w.proc.table.lookup fd = some (.ns t i) := hT _ _ hfd
    have hpair : T.nsOf fd = some (t, i) := FdTable.nsOf_of_lookup hfd
    have ih' := ih fun fd h => hL fd (List.mem_cons_of_mem _ h)
    have htime' : ∀ i, (NsType.time, i) ∈ L.filterMap T.nsOf → i = w.timeNs :=
      fun i h => htime i (by simp only [List.filterMap_cons, hpair]; exact .tail _ h)
    obtain ⟨c, p, hself, hp⟩ := inoSelf_spec kernel hok t w
    have hino : ino fd t w = (.ret i, w) := by simp [ino, hw]
    rw [attachUnlessCurrent, Go.bind_apply_ret (type_of_lookup hw), Go.bind_apply_ret hino,
      Go.bind_apply_ret hself]
    simp only [List.filterMap_cons, hpair, List.foldl_cons]
    by_cases hi : i = w.procNs t
    · rw [if_pos hi, switchUnlessShown_of_shown (p := w.pidNs) (q := w.timeNs) (a := w.attach)
        (x := (t, i)) hi]
      obtain ⟨w', h, hatt, hpid, htim, htab, hcalls, hpins⟩ :=
        ih' { w with calls := c, proc := p } (hp ▸ hT) htime'
      exact ⟨w', h, hatt, hpid, htim, htab.trans hp, hcalls, hpins⟩
    · rw [if_neg hi, switchUnlessShown_of_not_shown (p := w.pidNs) (q := w.timeNs)
        (a := w.attach) (x := (t, i)) hi]
      have htt : t ≠ .time := by
        rintro rfl
        exact hi (htime i (by simp [hpair]))
      rw [Go.bind_apply, switchInto_of_lookup kernel (w := { w with calls := c, proc := p })
        (hp ▸ hw) none rfl, if_pos (by simp [setnsGranted, hok, htt])]
      dsimp only
      obtain ⟨w', h, hatt, hpid, htim, htab, hcalls, hpins⟩ := ih' { w with
        calls := c + 1
        proc := p
        attach := Function.update w.attach t i
        trace := w.trace ++ [.setns fd true] } (hp ▸ hT) htime'
      exact ⟨w', h, hatt, hpid, htim, htab.trans hp, by simp [hcalls], hpins⟩

theorem worker_calls (fn : Fn) {m : Int} (hm : 0 ≤ m) {im : Nat} (T : FdTable)
    (hmnt : T.lookup m = some (.ns .mnt im)) (L : List Int)
    (hL : ∀ fd ∈ L, ∃ t i, T.lookup fd = some (.ns t i)) (w : World)
    (htime : ∀ i, (NsType.time, i) ∈ L.filterMap T.nsOf → i = w.timeNs)
    (hT : w.proc.table.Keeps T) :
    callsOf (worker kernel fn m L w).2.trace = callsOf w.trace ++
      [(L.filterMap T.nsOf).foldl (switchUnlessShown w.pidNs w.timeNs)
        (Function.update w.attach .mnt im)] := by
  simp only [worker, if_pos hm, Go.bind_apply, syscall, hok, expect, if_true, Go.pure_apply]
  rw [switchInto_of_lookup kernel (w := { w with calls := w.calls + 1 }) (hT _ _ hmnt)
    (some .mnt) rfl, if_pos (by simp [setnsGranted, hok])]
  dsimp only
  obtain ⟨w', h, hatt, -, -, -, hcalls, -⟩ := attachUnlessCurrent_spec kernel hok T L hL { w with
    calls := w.calls + 1 + 1
    attach := Function.update w.attach .mnt im
    trace := w.trace ++ [.setns m true] } hT htime
  rw [h]
  dsimp only
  rw [call_apply]
  cases fn w'.attach <;> simp [hcalls, hatt]

theorem goSeparate_calls (spare : NsType → Nat) (fn : Fn) {m : Int} (hm : 0 ≤ m) {im : Nat}
    (others : List Int) (w : World) (hmnt : w.proc.table.lookup m = some (.ns .mnt im))
    (hothers : ∀ fd ∈ others, ∃ t i, w.proc.table.lookup fd = some (.ns t i))
    (htime : ∀ i, (NsType.time, i) ∈ others.filterMap w.proc.table.nsOf → i = w.timeNs) :
    callsOf (goSeparate kernel spare fn m others w).2.trace = callsOf w.trace ++
      [(others.filterMap w.proc.table.nsOf ++
          (pickupTypes.filter fun t => t ∉ others.filterMap w.proc.table.nstype).map
            fun t => (t, w.procNs t)).foldl (switchUnlessShown w.pidNs w.timeNs)
        (Function.update spare .mnt im)] := by
  have htypes : ∀ fd ∈ others, ∃ t, w.proc.table.nstype fd = some t := fun fd hfd =>
    let ⟨t, _, h⟩ := hothers fd hfd
    ⟨t, FdTable.nstype_of_lookup h⟩
  unfold goSeparate
  rw [Go.bind_apply_ret (dropTypes_spec { w with pins := w.pins + 1 } others htypes _)]
  obtain ⟨fds, c, p, hc, hkeep1, hrec, -⟩ := currentAll_spec kernel hok
    (pickupTypes.filter fun t => t ∉ others.filterMap w.proc.table.nstype)
    { w with pins := w.pins + 1 }
  rw [Go.bind_apply_ret hc]
  dsimp only [onWorker, closingAfter]
  have hfds : ∀ fd ∈ fds, ∃ t i, p.table.lookup fd = some (.ns t i) := fun fd hfd =>
    let ⟨t, h⟩ := exists_of_forall₂ hrec fd hfd
    ⟨t, _, h⟩
  have hL : ∀ fd ∈ others ++ fds, ∃ t i, p.table.lookup fd = some (.ns t i) := by
    intro fd hfd
    rcases List.mem_append.mp hfd with hfd | hfd
    · obtain ⟨t, i, h⟩ := hothers fd hfd
      exact ⟨t, i, hkeep1 _ _ h⟩
    · exact hfds fd hfd
  have hothers' : others.filterMap p.table.nsOf = others.filterMap w.proc.table.nsOf := by
    refine List.filterMap_congr fun fd hfd => ?_
    obtain ⟨t, i, h⟩ := hothers fd hfd
    rw [FdTable.nsOf_of_lookup h, FdTable.nsOf_of_lookup (hkeep1 _ _ h)]
  have hpairs : (others ++ fds).filterMap p.table.nsOf = others.filterMap w.proc.table.nsOf ++
      (pickupTypes.filter fun t => t ∉ others.filterMap w.proc.table.nstype).map
        fun t => (t, w.procNs t) := by
    rw [List.filterMap_append, hothers', filterMap_nsOf_of_forall₂ _ hrec]
    rfl
  have htime' : ∀ i, (NsType.time, i) ∈ (others ++ fds).filterMap p.table.nsOf → i = w.timeNs := by
    intro i hi
    rw [hpairs, List.mem_append] at hi
    rcases hi with hi | hi
    · exact htime i hi
    · obtain ⟨t, -, ht⟩ := List.mem_map.mp hi
      obtain ⟨rfl, rfl⟩ := Prod.mk.inj ht
      rfl
  rw [worker_calls kernel hok fn hm p.table (hkeep1 _ _ hmnt) (others ++ fds) hL { w with
    pins := w.pins + 1
    calls := c
    proc := p
    cleanups := fds.reverse ++ w.cleanups
    attach := spare } htime' (FdTable.Keeps.refl _), hpairs]

end AllOk

/-! ## `Execute` -/

theorem mem_pickupTypes {t : NsType} : t ∈ pickupTypes ↔ t ≠ .mnt ∧ t ≠ .user := by
  cases t <;> decide

theorem mem_others_types (T : FdTable) (L : List Int) {t : NsType} (ht : t ≠ .mnt) :
    t ∈ (L.filter fun fd => T.nstype fd != some .mnt).filterMap T.nstype ↔
      t ∈ L.filterMap T.nstype := by
  simp only [List.mem_filterMap, List.mem_filter]
  constructor
  · rintro ⟨fd, ⟨hfd, -⟩, h⟩
    exact ⟨fd, hfd, h⟩
  · rintro ⟨fd, hfd, h⟩
    exact ⟨fd, ⟨hfd, by simp [h, ht]⟩, h⟩

/-- **`Execute` runs `fn` once, in the requested namespaces, on either path, for every type but
user, PID and time.** When every kernel call succeeds and the handles are open namespace
descriptors, none of a time namespace: without a user namespace among them, `fn` is called
exactly once — on the calling thread, or on a worker when a mount namespace is among them — on a
thread attached, for every type but user, PID and time, to the namespace of the last handle of
that type, or else to the calling thread's; with one, `Execute` fails before anything else
happens. -/
theorem execute_runs_fn_in_requested_namespaces (kernel : Nat → Bool)
    (hok : ∀ n, kernel n = true) (spare : NsType → Nat) (fn : Fn) (nsfd : Int)
    (nsfds : List Int) (w : World)
    (hns : ∀ fd ∈ nsfd :: nsfds,
      0 ≤ fd ∧ ∃ t i, t ≠ .time ∧ w.proc.table.lookup fd = some (.ns t i)) :
    ((∀ fd ∈ nsfd :: nsfds, w.proc.table.nstype fd ≠ some .user) →
      ∃ a, callsOf (execute kernel spare fn nsfd nsfds w).2.trace = callsOf w.trace ++ [a] ∧
        ∀ t, t ≠ .user → t ≠ .pid → t ≠ .time →
          a t = requested w.proc.table w.attach (nsfd :: nsfds) t) ∧
    ((∃ fd ∈ nsfd :: nsfds, w.proc.table.nstype fd = some .user) →
      execute kernel spare fn nsfd nsfds w =
        (.panic "cannot Execute() in different user namespace", w)) := by
  have hns' : ∀ fd ∈ nsfd :: nsfds, ∃ t i, w.proc.table.lookup fd = some (.ns t i) :=
    fun fd h => let ⟨t, i, _, h⟩ := (hns fd h).2; ⟨t, i, h⟩
  refine ⟨fun hnu => ?_, fun hu => ?_⟩
  · have hL : ∀ fd ∈ nsfd :: nsfds, ∃ t i, t ≠ .user ∧ w.proc.table.lookup fd = some (.ns t i) := by
      intro fd hfd
      obtain ⟨t, i, h⟩ := hns' fd hfd
      exact ⟨t, i, fun ht => hnu fd hfd (ht ▸ FdTable.nstype_of_lookup h), h⟩
    have hothers : ∀ fd ∈ (nsfd :: nsfds).filter fun fd => w.proc.table.nstype fd != some .mnt,
        ∃ t i, t ≠ .time ∧ w.proc.table.lookup fd = some (.ns t i) :=
      fun fd hfd => (hns fd (List.mem_filter.mp hfd).1).2
    rw [execute, Go.bind_apply_ret (classify_spec w _ hL (-1) [])]
    dsimp only
    rw [List.nil_append]
    rcases foldl_lastMnt w.proc.table w.attach (nsfd :: nsfds) (-1) with
      ⟨hm, hnomnt⟩ | ⟨hmem, hmty, hmreq⟩
    · -- no mount namespace: the pinned path
      rw [hm, if_neg (by decide)]
      refine ⟨_, goInAndOut_calls kernel hok fn _ w hothers, fun t _ _ _ => ?_⟩
      rw [applyAll_filterMap_nsOf]
      by_cases htm : t = .mnt
      · subst htm
        rw [requested_of_not_mem _ hnomnt, requested_of_not_mem]
        simp only [List.mem_filterMap, List.mem_filter, not_exists, not_and]
        exact fun fd hfd h => hnomnt (List.mem_filterMap.mpr ⟨fd, hfd.1, h⟩)
      · exact requested_filter_ne_mnt _ _ _ htm
    · -- a mount namespace: the worker path
      generalize hm : List.foldl _ (-1) _ = m at hmem hmty hmreq
      obtain ⟨t', im, hlook⟩ := hns' m hmem
      obtain rfl : t' = .mnt := Option.some.inj ((FdTable.nstype_of_lookup hlook).symm.trans hmty)
      have htime : ∀ i, (NsType.time, i) ∈ ((nsfd :: nsfds).filter fun fd =>
          w.proc.table.nstype fd != some .mnt).filterMap w.proc.table.nsOf → i = w.timeNs := by
        intro i hi
        obtain ⟨fd, hfd, hns⟩ := List.mem_filterMap.mp hi
        obtain ⟨t, j, ht, hj⟩ := hothers fd hfd
        rw [FdTable.nsOf_of_lookup hj, Option.some.injEq, Prod.mk.injEq] at hns
        exact absurd hns.1 ht
      rw [if_pos (hns m hmem).1]
      refine ⟨_, goSeparate_calls kernel hok spare fn (hns m hmem).1 _ w hlook
        (fun fd hfd => let ⟨t, i, _, h⟩ := hothers fd hfd; ⟨t, i, h⟩) htime,
        fun t htu htp htt => ?_⟩
      rw [foldl_switchUnlessShown_of_ne _ _ htp htt, applyAll_append, applyAll_map_pairs]
      split_ifs with hpick
      · -- a type picked up from the calling thread
        obtain ⟨hpt, hnot⟩ := List.mem_filter.mp hpick
        have hnot' : t ∉ (nsfd :: nsfds).filterMap w.proc.table.nstype := by
          rw [← mem_others_types _ _ (mem_pickupTypes.mp hpt).1]
          exact of_decide_eq_true hnot
        rw [requested_of_not_mem _ hnot']
        exact procView_of_ne htp htt _ _ _
      · rw [applyAll_filterMap_nsOf]
        by_cases htm : t = .mnt
        · -- the mount namespace of the last mount handle
          subst htm
          rw [requested_of_not_mem, Function.update_same, hmreq]
          · simp [FdTable.ino, FdTable.nsOf_of_lookup hlook]
          · simp only [List.mem_filterMap, List.mem_filter, not_exists, not_and]
            intro fd hfd h
            simp [h] at hfd
        · -- a type of the other handles
          have hmemo : t ∈ ((nsfd :: nsfds).filter fun fd =>
              w.proc.table.nstype fd != some .mnt).filterMap w.proc.table.nstype := by
            by_contra hno
            exact hpick (List.mem_filter.mpr ⟨mem_pickupTypes.mpr ⟨htm, htu⟩, decide_eq_true hno⟩)
          rw [requested_of_mem _ hmemo _ w.attach, requested_filter_ne_mnt _ _ _ htm]
  · rw [execute, Go.bind_apply_panic (classify_user w _ hns' hu (-1) [])]

/-- A mount and a network namespace: the worker path. -/
theorem execute_runs_stayPut_on_worker :
    (∀ n, allOk n = true) ∧
    (∀ fd ∈ [4, 3], 0 ≤ fd ∧ ∃ t i, t ≠ .time ∧ sampleWorld.proc.table.lookup fd = some (.ns t i)) ∧
    ((∀ fd ∈ [4, 3], sampleWorld.proc.table.nstype fd ≠ some .user) →
      ∃ a, callsOf (execute allOk callerNs stayPut 4 [3] sampleWorld).2.trace =
          callsOf sampleWorld.trace ++ [a] ∧
        ∀ t, t ≠ .user → t ≠ .pid → t ≠ .time →
          a t = requested sampleWorld.proc.table sampleWorld.attach [4, 3] t) ∧
    ((∃ fd ∈ [4, 3], sampleWorld.proc.table.nstype fd = some .user) →
      execute allOk callerNs stayPut 4 [3] sampleWorld =
        (.panic "cannot Execute() in different user namespace", sampleWorld)) :=
  have hok : ∀ n, allOk n = true := fun _ => rfl
  have hns : ∀ fd ∈ [4, 3],
      0 ≤ fd ∧ ∃ t i, t ≠ .time ∧ sampleWorld.proc.table.lookup fd = some (.ns t i) := by
    intro fd hfd
    rcases List.mem_cons.mp hfd with rfl | hfd
    · exact ⟨by decide, .mnt, 33, by decide, by decide⟩
    · obtain rfl : fd = 3 := by simpa using hfd
      exact ⟨by decide, .net, 44, by decide, by decide⟩
  ⟨hok, hns,
    execute_runs_fn_in_requested_namespaces allOk hok callerNs stayPut 4 [3] sampleWorld hns⟩

/-- When `Current` cannot open the calling thread's network namespace, `Execute` fails without
attempting a switch and without calling the function. -/
example :
    (execute (fun _ => false) callerNs stayPut 3 [] sampleWorld).1 =
        .panic "cannot determine current net namespace from procfs" ∧
      switchesOf (execute (fun _ => false) callerNs stayPut 3 [] sampleWorld).2.trace = [] ∧
      (callsOf (execute (fun _ => false) callerNs stayPut 3 [] sampleWorld).2.trace).length =
        0 := by
  decide

/-- On the pinned path, `Execute` returns with descriptor 5, which `Current` opened for the
calling thread's network namespace, still open. -/
theorem execute_leaves_current_open :
    sampleWorld.proc.table.lookup 5 = none ∧
      (execute allOk callerNs stayPut 3 [] sampleWorld).1 = .ret () ∧
      (execute allOk callerNs stayPut 3 [] sampleWorld).2.proc.table.lookup 5 =
        some (.ns .net 4) := by
  decide

/-- **The worker path closes each pickup descriptor twice.** When the kernel grants every
call, `goSeparate` opens one descriptor for each pickup type the handles leave out, none of them
open on entry. Whatever the worker and `fn` do, those descriptors are closed when `goSeparate`
returns, and `DeferCleanup` of `Current` still has them queued: by the end of the test node each
has been closed twice. -/
theorem goSeparate_closes_pickups_twice (kernel : Nat → Bool) (hok : ∀ n, kernel n = true)
    (spare : NsType → Nat) (fn : Fn) (m : Int) (others : List Int) (w : World)
    (hothers : ∀ fd ∈ others, ∃ t, w.proc.table.nstype fd = some t) :
    ∃ fds : List Int, fds.length =
        (pickupTypes.filter fun t => t ∉ others.filterMap w.proc.table.nstype).length ∧
      ∀ fd ∈ fds, w.proc.table.lookup fd = none ∧
        (goSeparate kernel spare fn m others w).2.proc.table.lookup fd = none ∧
        2 ≤ ((nodeEnd (goSeparate kernel spare fn m others w).2).proc.log.drop
          w.proc.log.length).count (.closed fd) := by
  unfold goSeparate
  rw [Go.bind_apply_ret (dropTypes_spec { w with pins := w.pins + 1 } others hothers _)]
  obtain ⟨fds, c, p, hc, -, hrec, ⟨l1, hl1⟩, hnew⟩ := currentAll_spec kernel hok
    (pickupTypes.filter fun t => t ∉ others.filterMap w.proc.table.nstype)
    { w with pins := w.pins + 1 }
  rw [Go.bind_apply_ret hc]
  obtain ⟨⟨l2, hl2⟩, hcl2⟩ := appends_worker kernel fn m (others ++ fds) { w with
    pins := w.pins + 1
    calls := c
    proc := p
    cleanups := fds.reverse ++ w.cleanups
    attach := spare }
  refine ⟨fds, hrec.length_eq, fun fd hfd => ⟨hnew fd hfd, ?_, ?_⟩⟩
  · simp [onWorker, closingAfter, Proc.lookup_closeAll, hfd]
  · have hlog1 : p.log = w.proc.log ++ l1 := hl1.symm
    have hcount : ∀ l : List Int, fd ∈ l → 1 ≤ (l.map FdEvent.closed).count (.closed fd) :=
      fun l h => List.one_le_count_iff.mpr (List.mem_map_of_mem _ h)
    simp only [onWorker, closingAfter, nodeEnd_log, Proc.closeAll_log]
    rw [← hl2, hcl2]
    simp only [hlog1, List.append_assoc, List.drop_left, List.count_append]
    have := hcount _ hfd
    have := hcount (fds.reverse ++ w.cleanups) (by simp [hfd])
    omega

/-- A mount and a network namespace: five pickup types. -/
theorem goSeparate_closes_five_pickups_twice :
    (∀ n, allOk n = true) ∧ (∀ fd ∈ [3], ∃ t, sampleWorld.proc.table.nstype fd = some t) ∧
    ∃ fds : List Int, fds.length =
        (pickupTypes.filter fun t => t ∉ [3].filterMap sampleWorld.proc.table.nstype).length ∧
      ∀ fd ∈ fds, sampleWorld.proc.table.lookup fd = none ∧
        (goSeparate allOk callerNs stayPut 4 [3] sampleWorld).2.proc.table.lookup fd = none ∧
        2 ≤ ((nodeEnd (goSeparate allOk callerNs stayPut 4 [3] sampleWorld).2).proc.log.drop
          sampleWorld.proc.log.length).count (.closed fd) :=
  have hothers : ∀ fd ∈ [3], ∃ t, sampleWorld.proc.table.nstype fd = some t := by
    intro fd hfd
    obtain rfl : fd = 3 := by simpa using hfd
    exact ⟨.net, by decide⟩
  ⟨fun _ => rfl, hothers,
    goSeparate_closes_pickups_twice allOk (fun _ => rfl) callerNs stayPut 4 [3] sampleWorld hothers⟩

end Spacetest
