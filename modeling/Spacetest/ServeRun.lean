import Spacetest.SubspaceCall

/-!
# The broker over a whole run of `Serve`

`Serve` runs in the broker's process. The Spacer's methods open descriptors there, and after each
send `Serve` closes the descriptors it sent. `serveOn` threads the process through the rounds with
those closes applied; `serve`, generic in the Spacer's state, only logs them.

* `closesOf`, `serveOn`: the closes of a round, and `Serve` over the broker's process;
* `FdTable.Retains`: a table holds at every positive number what another holds, or a pidfd
  where the other holds nothing;
* `Spacer.Accounts`: a Spacer over the process whose answers send only descriptors that were free
  before them, and change the table at no positive number they do not send, but by adding
  pidfds;
* `serveRound_retains`, `serveOn_retains`: for every such Spacer, every round and so every run
  retains the process's table;
* `spacemaker_dispatch`, `spacemaker_accounts`: `Spacemaker` is such a Spacer, for every pattern
  of kernel answers;
* **`serveOn_spacemaker_keeps`**: over every run of `Serve` with a `Spacemaker`, the broker holds
  at every positive number what it held when `Serve` started, or the pidfd of a subspace child
  it started: it loses no descriptor, and leaks only those pidfds.
-/

namespace Spacetest

/-! ## `Serve` in the broker's process -/

/-- The descriptors `Serve` closes in a round. -/
def closesOf (evs : List ServeEvent) : List Int :=
  evs.filterMap fun
    | .close fd => some fd
    | _ => none

/-- `Serve` in the broker's process: the rounds of `serveRound`, with `Serve`'s closes of the
descriptors it sent applied to the process before the next round. -/
def serveOn (sp : Spacer Proc) : List Tick → Proc → List (List ServeEvent) × Outcome (Option Proc)
  | [], p => ([], .ret (some p))
  | t :: ts, p =>
    match serveRound sp p t with
    | (evs, .ret (some p')) =>
      (evs :: (serveOn sp ts (p'.closeAll (closesOf evs))).1,
        (serveOn sp ts (p'.closeAll (closesOf evs))).2)
    | (evs, e) => ([evs], e)

theorem closesOf_answer (req : Request) (resp : Response) (sends : Bool) :
    closesOf (.receive :: .dispatch req :: answer resp true sends) = resp.encodeFds.1 := by
  simp only [closesOf, answer, if_true, List.filterMap_cons, List.filterMap_map]
  exact List.filterMap_some _

/-- `T'` holds at every positive number what `T` holds, or a pidfd where `T` holds nothing. -/
def FdTable.Retains (T' T : FdTable) : Prop :=
  ∀ fd, 0 < fd → T'.lookup fd = T.lookup fd ∨
    T.lookup fd = none ∧ ∃ pid, T'.lookup fd = some (.pidfd pid)

theorem FdTable.Retains.refl (T : FdTable) : T.Retains T := fun _ _ => .inl rfl

theorem FdTable.Retains.trans {T T' T'' : FdTable} (h' : T''.Retains T') (h : T'.Retains T) :
    T''.Retains T := fun fd hfd => by
  rcases h fd hfd with h1 | ⟨h0, pid, h1⟩ <;> rcases h' fd hfd with h2 | ⟨h2, pid', h3⟩
  · exact .inl (h2.trans h1)
  · exact .inr ⟨h1 ▸ h2, pid', h3⟩
  · exact .inr ⟨h0, pid, h2.trans h1⟩
  · rw [h1] at h2
    cases h2

/-- A Spacer over the broker's process that accounts for its descriptors: an answer sends only
descriptors that were free before it, and changes the table at no other positive number, but by
adding pidfds. -/
structure Spacer.Accounts (sp : Spacer Proc) : Prop where
  fresh : ∀ p req resp p', sp.dispatch p req = some (.ret resp, p') →
    ∀ fd ∈ resp.encodeFds.1, p.table.lookup fd = none
  only : ∀ p req resp p', sp.dispatch p req = some (.ret resp, p') →
    ∀ fd, 0 < fd → p'.table.lookup fd ≠ p.table.lookup fd → fd ∈ resp.encodeFds.1 ∨
      p.table.lookup fd = none ∧ ∃ pid, p'.table.lookup fd = some (.pidfd pid)

section Retains

variable {sp : Spacer Proc} (h : sp.Accounts)
include h

theorem serveRound_retains {p p' : Proc} {t : Tick} {evs : List ServeEvent}
    (hr : serveRound sp p t = (evs, .ret (some p'))) :
    (p'.closeAll (closesOf evs)).table.Retains p.table := by
  cases t with
  | timeout =>
    simp only [serveRound, Prod.mk.injEq, Outcome.ret.injEq, Option.some.injEq] at hr
    obtain ⟨rfl, rfl⟩ := hr
    exact FdTable.Retains.refl _
  | request req encodes sends =>
    rcases hd : sp.dispatch p req with _ | ⟨resp | _, s'⟩
    · cases req <;> simp only [serveRound, hd, Prod.mk.injEq, Outcome.ret.injEq, reduceCtorEq,
        and_false] at hr
    · rw [serveRound_request sp hd] at hr
      obtain ⟨rfl, hs⟩ := Prod.mk.inj hr
      cases encodes <;> cases sends <;>
        simp only [Bool.and_false, Bool.and_true, Bool.false_eq_true, ↓reduceIte,
          Outcome.ret.injEq, Option.some.injEq, reduceCtorEq] at hs
      subst hs
      intro fd hfd
      rw [Proc.lookup_closeAll, closesOf_answer]
      by_cases hmem : fd ∈ resp.encodeFds.1
      · rw [if_pos hmem, h.fresh p req resp _ hd fd hmem]
        exact .inl rfl
      · rw [if_neg hmem]
        by_cases hne : s'.table.lookup fd = p.table.lookup fd
        · exact .inl hne
        · exact .inr ((h.only p req resp _ hd fd hfd hne).resolve_left hmem)
    · rw [serveRound_request sp hd] at hr
      cases hr
  | _ => cases hr

/-- **No run of `Serve` loses a positive descriptor, and it leaks only pidfds.** While `Serve`
goes on, the process retains the table it had when `Serve` started. -/
theorem serveOn_retains :
    ∀ (ts : List Tick) (p q : Proc), (serveOn sp ts p).2 = .ret (some q) →
      q.table.Retains p.table
  | [], p, q, hq => by
    obtain rfl : p = q := Option.some.inj (Outcome.ret.inj hq)
    exact FdTable.Retains.refl _
  | t :: ts, p, q, hq => by
    rw [serveOn] at hq
    rcases hr : serveRound sp p t with ⟨evs, ⟨_ | p'⟩ | m⟩ <;> rw [hr] at hq <;> dsimp only at hq
    · cases hq
    · exact (serveOn_retains ts _ q hq).trans (serveRound_retains h hr)
    · cases hq

end Retains

/-! ## The `Spacemaker` accounts for its descriptors -/

theorem spacemaker_dispatch (os : NsType → NewNsOs) (subOs : SubspaceOs) {p p' : Proc}
    {req : Request} {resp : Response}
    (hd : (Spacemaker.spacerOn os subOs).dispatch p req = some (.ret resp, p')) :
    (∀ fd ∈ resp.encodeFds.1, p.table.lookup fd = none) ∧
      ∀ fd, 0 < fd → p'.table.lookup fd ≠ p.table.lookup fd → fd ∈ resp.encodeFds.1 ∨
        p.table.lookup fd = none ∧ ∃ pid, p'.table.lookup fd = some (.pidfd pid) := by
  cases req with
  | unhandlebar => cases hd
  | rooms rq =>
    obtain ⟨h1, rfl⟩ : (Spacemaker.roomOn os rq p).1 = resp ∧ (Spacemaker.roomOn os rq p).2 = p' :=
      Prod.mk.inj (Option.some.inj hd) |>.imp Outcome.ret.inj id
    cases resp with
    | error e =>
      exact ⟨fun fd hfd => (by cases hfd),
        fun fd _ hne => absurd (roomOn_error_keeps os rq p h1 fd) hne⟩
    | rooms r =>
      obtain ⟨-, -, hfresh, hchg⟩ := roomOn_rooms os rq p h1
      refine ⟨fun fd hfd => ?_, fun fd _ hne => .inl ?_⟩
      · obtain ⟨t, hpos, rfl⟩ := RoomsResponse.mem_encodeFds.mp hfd
        exact (hfresh t hpos).1
      · obtain ⟨t, hpos, rfl⟩ := hchg fd hne
        exact RoomsResponse.mem_encodeFds.mpr ⟨t, hpos, rfl⟩
    | subspace r =>
      rcases roomOn_cases os rq p with ⟨_, he⟩ | ⟨-, he⟩ | ⟨-, he⟩ <;> rw [he] at h1 <;> cases h1
  | subspace rq =>
    replace hd : Spacemaker.subspace subOs rq p = some (.ret resp, p') := hd
    cases resp with
    | error e =>
      refine ⟨fun fd hfd => (by cases hfd), fun fd _ hne => .inr ?_⟩
      rcases subspace_error_accounts subOs rq p p' hd with h | ⟨pfd, hA, hpfd⟩
      · exact absurd (h fd) hne
      · have hfd : fd = pfd := by_contra fun h => hne (hA.agree fd h)
        subst hfd
        exact ⟨hA.fresh fd rfl, _, hpfd⟩
    | rooms r => exact absurd hd (subspace_ne_rooms subOs rq p p' r)
    | subspace r =>
      obtain ⟨-, pfd, hA, hpfd, -, -, -, hp0⟩ := subspace_granted subOs rq p p' hd
      have hmem : ∀ fd, fd ∈ (Response.subspace r).encodeFds.1 ↔
          (fd = r.conn ∨ fd = r.user ∨ fd = r.pid) ∧ 0 < fd := fun fd => by
        simp [Response.encodeFds_fst, Response.fields, SubspaceResponse.fields]
      refine ⟨fun fd hfd => hA.fresh fd ?_, fun fd hpos hne => ?_⟩
      · -- a positive field sent is the connection or a requested namespace
        obtain ⟨hfd | hfd | hfd, hpos⟩ := (hmem fd).mp hfd
        · exact .inr (.inl hfd)
        · exact .inr (.inr (.inl hfd))
        · by_cases hp : rq.spaces &&& NsType.pid.flag = 0
          · rw [hfd, hp0 hp] at hpos; exact absurd hpos (lt_irrefl 0)
          · exact .inr (.inr (.inr ⟨hp, hfd⟩))
      · -- a changed descriptor is the pidfd or one the response sends
        by_cases hS : fd = pfd ∨ fd = r.conn ∨ fd = r.user ∨
            (rq.spaces &&& NsType.pid.flag ≠ 0 ∧ fd = r.pid)
        · rcases hS with rfl | hS
          · exact .inr ⟨hA.fresh fd (.inl rfl), _, hpfd⟩
          · refine .inl ((hmem fd).mpr ⟨?_, hpos⟩)
            rcases hS with h | h | ⟨-, h⟩
            exacts [.inl h, .inr (.inl h), .inr (.inr h)]
        · exact absurd (hA.agree fd hS) hne

theorem spacemaker_accounts (os : NsType → NewNsOs) (subOs : SubspaceOs) :
    (Spacemaker.spacerOn os subOs).Accounts :=
  ⟨fun _ _ _ _ hd => (spacemaker_dispatch os subOs hd).1,
    fun _ _ _ _ hd => (spacemaker_dispatch os subOs hd).2⟩

/-- Six rooms, then a subspace with both namespaces, then a timeout. -/
def roomsThenSubspace : List Tick :=
  [.request (.rooms sixRooms) true true,
    .request (.subspace (Client.subspaceRequest true true)) true true, .timeout]

/- The child's pidfd is descriptor 6 there, left open once `Serve` has closed what it sent. -/
example : ∃ q, (serveOn (Spacemaker.spacerOn (fun _ => { newIno := 7 }) grantingOs)
      roomsThenSubspace stdioProc).2 = .ret (some q) ∧
    q.table.lookup 6 = some (.pidfd 0) ∧ stdioProc.table.lookup 6 = none :=
  ⟨_, rfl, by decide, rfl⟩

/- A `Subspace` asked for a PID namespace alone never answers, and `Serve` waits for ever. -/
example : serveOn (Spacemaker.spacerOn (fun _ => {}) {})
      [.request (.subspace ⟨NsType.pid.flag⟩) true true, .timeout] stdioProc =
    ([[.receive, .dispatch (.subspace ⟨NsType.pid.flag⟩)]], .ret none) := by
  decide

end Spacetest
