import Spacetest.Api

/-!
# The service loop

`service.Serve` reads requests from its connection, hands each to a `Spacer`, and sends the
response back with the response's descriptors attached.

* `Tick`: what the context, the kernel and the peer do in one round of the loop;
* `Spacer`: the interface `Serve` dispatches to, over a state of its own; a method may never
  return, and `Serve` then waits for ever;
* `serveRound`, `serve`: one round, and a run over a sequence of rounds, logging the events
  `ServeEvent` round by round;
* `RoundLog`: what a round with a given tick can log. **`serve_rounds`**: every round of every
  run logs what its tick allows, every round but the last goes on with a timeout or an answered
  request, and a request the Spacer answers is answered with the send of that answer;
* **`serve_sends_fds_in_band`**: every send's payload is the response as the Spacer returned
  it, and its descriptors are that payload's positive fields.
-/

namespace Spacetest

/-- What happens in one round of `Serve`'s loop, in the order `Serve` looks: the context is
done; `SetReadDeadline` fails; `ReceiveWithFds` hits the deadline, finds the peer gone
(`io.EOF`, `net.ErrClosed`) or fails otherwise; the message does not decode; or it decodes to
`req`, and `enc.Encode` and `SendWithFds` then succeed or fail. -/
inductive Tick
  | cancelled
  | deadlineFailed
  | timeout
  | disconnected
  | recvFailed
  | garbled
  | request (req : Request) (encodes sends : Bool)
  deriving DecidableEq, Repr

/-- `service.Spacer`, over the state `σ` of its implementation: each method returns a
response or panics, or never returns (`none`). -/
structure Spacer (σ : Type) where
  subspace : SubspaceRequest → σ → Option (Outcome Response × σ)
  room : RoomsRequest → σ → Option (Outcome Response × σ)

/-- What `Serve` does to its connection and its descriptors. -/
inductive ServeEvent
  | receive
  | dispatch (req : Request)
  | send (payload : Response) (fds : List Int) (ok : Bool)
  | close (fd : Int)
  deriving DecidableEq, Repr

section Serve

variable {σ : Type} (sp : Spacer σ)

/-- The type switch of `Serve`: the Spacer's method for a registered request, `none` for any
other request and for a method that never returns. -/
def Spacer.dispatch (s : σ) : Request → Option (Outcome Response × σ)
  | .subspace r => sp.subspace r s
  | .rooms r => sp.room r s
  | .unhandlebar => none

/-- What `Serve` does with a response: `enc.Encode(&resp)` encodes the response as the Spacer
returned it, and only then does `EncodeFds` borrow its descriptors, which `SendWithFds`
attaches and `Serve` closes one by one, whatever the send did. When the encoding fails,
`Serve` returns at once. -/
def answer (resp : Response) (encodes sends : Bool) : List ServeEvent :=
  if encodes then .send resp resp.encodeFds.1 sends :: resp.encodeFds.1.map .close else []

/-- One round of `Serve`'s loop: its events, and the Spacer's state for the next round, or
`none` when `Serve` returns, or waits for ever on a Spacer's method that never returns. A
Spacer that panics takes `Serve` down with it. -/
def serveRound (s : σ) : Tick → List ServeEvent × Outcome (Option σ)
  | .cancelled | .deadlineFailed => ([], .ret none)
  | .timeout => ([.receive], .ret (some s))
  | .disconnected | .recvFailed | .garbled => ([.receive], .ret none)
  | .request .unhandlebar _ _ => ([.receive], .ret none)
  | .request req encodes sends =>
    match sp.dispatch s req with
    | none => ([.receive, .dispatch req], .ret none)
    | some (.panic m, _) => ([.receive, .dispatch req], .panic m)
    | some (.ret resp, s') =>
      (.receive :: .dispatch req :: answer resp encodes sends,
        .ret (if encodes && sends then some s' else none))

/-- `Serve` over a sequence of rounds: the log of each round it went through, and how it
stands after the last: still looping (with the Spacer's state), stopped, or panicked. -/
def serve : List Tick → σ → List (List ServeEvent) × Outcome (Option σ)
  | [], s => ([], .ret (some s))
  | t :: ts, s =>
    match serveRound sp s t with
    | (evs, .ret (some s')) => (evs :: (serve ts s').1, (serve ts s').2)
    | (evs, e) => ([evs], e)

end Serve

/-! ## What a round logs -/

/-- What a round with the tick `t` can log: nothing, when `Serve` stops before receiving; a
receive and nothing else, after a timeout, a failed receive or decode, or an unhandled request;
a request dispatched and left without an answer; or a request dispatched and, when its response
encodes, answered by one send, with the tick's outcome, of a response with the descriptors
`EncodeFds` borrows from it, each then closed once. -/
inductive RoundLog : Tick → List ServeEvent → Prop
  | idle {t : Tick} : t = .cancelled ∨ t = .deadlineFailed → RoundLog t []
  | received {t : Tick} : t = .timeout ∨ t = .disconnected ∨ t = .recvFailed ∨ t = .garbled →
      RoundLog t [.receive]
  | unhandled (encodes sends : Bool) : RoundLog (.request .unhandlebar encodes sends) [.receive]
  | unanswered {req : Request} (encodes sends : Bool) : req ≠ .unhandlebar →
      RoundLog (.request req encodes sends) [.receive, .dispatch req]
  | answered {req : Request} (resp : Response) (sends : Bool) : req ≠ .unhandlebar →
      RoundLog (.request req true sends) (.receive :: .dispatch req ::
        .send resp resp.encodeFds.1 sends :: resp.encodeFds.1.map .close)

/-- The rounds after which the loop goes on: a timeout, or a request answered by a send that
succeeded. -/
def Continues (t : Tick) (evs : List ServeEvent) : Prop :=
  t = .timeout ∧ evs = [.receive] ∨ ∃ req resp, t = .request req true true ∧
    evs = .receive :: .dispatch req :: .send resp resp.encodeFds.1 true ::
      resp.encodeFds.1.map .close

section Rounds

variable {σ : Type} (sp : Spacer σ)

theorem answer_log {req : Request} (hreq : req ≠ .unhandlebar) (resp : Response)
    (encodes sends : Bool) :
    RoundLog (.request req encodes sends) (.receive :: .dispatch req :: answer resp encodes sends) := by
  unfold answer
  cases encodes
  · exact .unanswered false sends hreq
  · exact .answered resp sends hreq

theorem serveRound_request {s : σ} {req : Request} {o : Outcome Response × σ}
    (hd : sp.dispatch s req = some o) (encodes sends : Bool) :
    serveRound sp s (.request req encodes sends) =
      match o with
      | (.panic m, _) => ([.receive, .dispatch req], .panic m)
      | (.ret resp, s') => (.receive :: .dispatch req :: answer resp encodes sends,
          .ret (if encodes && sends then some s' else none)) := by
  obtain ⟨r, s'⟩ := o
  cases req with
  | unhandlebar => cases hd
  | _ => cases r <;> simp only [serveRound, hd]

theorem serveRound_log (s : σ) (t : Tick) : RoundLog t (serveRound sp s t).1 := by
  cases t with
  | request req encodes sends =>
    by_cases hreq : req = .unhandlebar
    · subst hreq
      exact .unhandled encodes sends
    rcases hd : sp.dispatch s req with _ | ⟨resp | m, s'⟩
    · cases req
      · simp only [serveRound, hd]; exact .unanswered encodes sends hreq
      · simp only [serveRound, hd]; exact .unanswered encodes sends hreq
      · exact absurd rfl hreq
    · rw [serveRound_request sp hd]
      exact answer_log hreq resp encodes sends
    · rw [serveRound_request sp hd]
      exact .unanswered encodes sends hreq
  | cancelled | deadlineFailed => exact .idle (by simp)
  | _ => exact .received (by simp)

theorem serveRound_continues (s s' : σ) (t : Tick)
    (h : (serveRound sp s t).2 = .ret (some s')) : Continues t (serveRound sp s t).1 := by
  cases t with
  | request req encodes sends =>
    rcases hd : sp.dispatch s req with _ | ⟨resp | m, s''⟩
    · cases req <;> simp [serveRound, hd] at h
    · rw [serveRound_request sp hd] at h ⊢
      cases encodes <;> cases sends <;> simp at h
      exact .inr ⟨req, resp, rfl, rfl⟩
    · rw [serveRound_request sp hd] at h
      cases h
  | timeout => exact .inl ⟨rfl, rfl⟩
  | _ => cases h

theorem serveRound_answers {s s' : σ} {req : Request} {resp : Response}
    (hd : sp.dispatch s req = some (.ret resp, s')) (sends : Bool) :
    (serveRound sp s (.request req true sends)).1 = .receive :: .dispatch req ::
      .send resp resp.encodeFds.1 sends :: resp.encodeFds.1.map .close := by
  rw [serveRound_request sp hd]
  rfl

theorem serve_append (ts₁ ts₂ : List Tick) {s s₁ : σ} (h : (serve sp ts₁ s).2 = .ret (some s₁)) :
    serve sp (ts₁ ++ ts₂) s = ((serve sp ts₁ s).1 ++ (serve sp ts₂ s₁).1, (serve sp ts₂ s₁).2) := by
  induction ts₁ generalizing s with
  | nil =>
    obtain rfl : s = s₁ := Option.some.inj (Outcome.ret.inj h)
    rfl
  | cons t ts ih =>
    simp only [serve, List.cons_append] at h ⊢
    rcases hr : serveRound sp s t with ⟨evs, (_ | s') | m⟩ <;>
      simp only [hr, List.append_eq] at h ⊢
    · cases h
    · rw [ih h]; rfl
    · cases h

theorem serve_length {ts : List Tick} {s s' : σ} (h : (serve sp ts s).2 = .ret (some s')) :
    (serve sp ts s).1.length = ts.length := by
  induction ts generalizing s with
  | nil => rfl
  | cons t ts ih =>
    simp only [serve] at h ⊢
    rcases hr : serveRound sp s t with ⟨evs, (_ | s'') | m⟩ <;> simp only [hr] at h ⊢
    · cases h
    · simp [ih h]
    · cases h

theorem serve_log (ts : List Tick) (s : σ) :
    List.Forall₂ RoundLog (ts.take (serve sp ts s).1.length) (serve sp ts s).1 := by
  induction ts generalizing s with
  | nil => exact .nil
  | cons t ts ih =>
    have hround := serveRound_log sp s t
    unfold serve
    rcases hr : serveRound sp s t with ⟨evs, (_ | s') | m⟩ <;> rw [hr] at hround <;>
      dsimp only
    · exact .cons hround .nil
    · exact .cons hround (ih s')
    · exact .cons hround .nil

theorem exists_of_forall₂_right {α β : Type} {R : α → β → Prop} {l : List α} {l' : List β}
    (h : List.Forall₂ R l l') : ∀ b ∈ l', ∃ a, R a b := by
  induction h with
  | nil => simp
  | cons hab _ ih => exact List.forall_mem_cons.mpr ⟨⟨_, hab⟩, ih⟩

theorem serve_continues (ts : List Tick) (s : σ) :
    List.Forall₂ Continues (ts.take ((serve sp ts s).1.length - 1)) (serve sp ts s).1.dropLast := by
  induction ts generalizing s with
  | nil => exact .nil
  | cons t ts ih =>
    have hgo := fun s' => serveRound_continues sp s s' t
    unfold serve
    rcases hr : serveRound sp s t with ⟨evs, (_ | s') | m⟩ <;> rw [hr] at hgo <;> dsimp only
    · exact .nil
    · have hcont := ih s'
      rcases hrest : (serve sp ts s').1 with _ | ⟨y, ys⟩
      · exact .nil
      · rw [hrest] at hcont
        simpa [List.dropLast_cons₂] using List.Forall₂.cons (hgo s' rfl) hcont
    · exact .nil

/-- **Every round of every run logs what its tick allows**, and every round but the last goes
on with a timeout or a request answered by a successful send; a run that goes on went through
a round for every tick; and a request that reaches the Spacer in the state the run has reached,
and whose answer encodes, is answered by the send of that answer. -/
theorem serve_rounds (ts : List Tick) (s : σ) :
    List.Forall₂ RoundLog (ts.take (serve sp ts s).1.length) (serve sp ts s).1 ∧
      List.Forall₂ Continues (ts.take ((serve sp ts s).1.length - 1))
        (serve sp ts s).1.dropLast ∧
      (∀ s', (serve sp ts s).2 = .ret (some s') → (serve sp ts s).1.length = ts.length) ∧
      ∀ ts₁ ts₂ s₁ req sends resp s', ts = ts₁ ++ .request req true sends :: ts₂ →
        (serve sp ts₁ s).2 = .ret (some s₁) → sp.dispatch s₁ req = some (.ret resp, s') →
        (serve sp ts s).1[ts₁.length]? = some (.receive :: .dispatch req ::
          .send resp resp.encodeFds.1 sends :: resp.encodeFds.1.map .close) := by
  refine ⟨serve_log sp ts s, serve_continues sp ts s, fun _ h => serve_length sp h,
    fun ts₁ ts₂ s₁ req sends resp s' hts h₁ hd => ?_⟩
  subst hts
  rw [serve_append sp _ _ h₁, List.getElem?_append_right (le_of_eq (serve_length sp h₁)),
    serve_length sp h₁, Nat.sub_self]
  simp only [serve]
  rcases hr : serveRound sp s₁ (.request req true sends) with ⟨evs, o⟩
  have hevs : evs = _ := (congrArg Prod.fst hr).symm.trans (serveRound_answers sp hd sends)
  subst hevs
  rcases o with (_ | _) | _ <;> simp [hr]

end Rounds

/-! ## What a send carries -/

/-- A Spacer that answers every rooms request with the network namespace at descriptor 7,
and refuses subspaces. -/
def netSpacer : Spacer Unit where
  subspace _ s := some (.ret (.error ⟨"no subspaces"⟩), s)
  room _ s := some (.ret (.rooms { net := 7 }), s)

/-- **Descriptors travel in-band as well.** In every run, each send attempt carries the
response the Spacer returned as its payload, and attaches exactly that payload's positive
handle fields. -/
theorem serve_sends_fds_in_band {σ : Type} (sp : Spacer σ) (ts : List Tick) (s : σ) :
    ∀ evs ∈ (serve sp ts s).1, ∀ p fds ok, .send p fds ok ∈ evs →
      fds = p.fields.filter (0 < ·) := by
  intro evs hevs p fds ok hsend
  obtain ⟨t, hlog⟩ := exists_of_forall₂_right (serve_log sp ts s) evs hevs
  cases hlog with
  | answered resp ok' =>
    simp only [List.mem_cons, ServeEvent.send.injEq, reduceCtorEq, false_or, List.mem_map,
      and_false, exists_false, or_false] at hsend
    obtain ⟨rfl, rfl, -⟩ := hsend
    exact Response.encodeFds_fst _
  | _ => simp at hsend

/-- The send of the network namespace at 7. -/
theorem serve_sends_net_in_band :
    [.receive, .dispatch (.rooms ⟨NsType.net.flag⟩), .send (.rooms { net := 7 }) [7] true,
        .close 7] ∈ (serve netSpacer [.request (.rooms ⟨NsType.net.flag⟩) true true] ()).1 ∧
      ServeEvent.send (.rooms { net := 7 }) [7] true ∈ [.receive,
        .dispatch (.rooms ⟨NsType.net.flag⟩), .send (.rooms { net := 7 }) [7] true, .close 7] ∧
      [7] = (Response.rooms { net := 7 }).fields.filter (0 < ·) :=
  have hround : [.receive, .dispatch (.rooms ⟨NsType.net.flag⟩),
      .send (.rooms { net := 7 }) [7] true, .close 7] ∈
        (serve netSpacer [.request (.rooms ⟨NsType.net.flag⟩) true true] ()).1 := by
    decide
  have hsend : ServeEvent.send (.rooms { net := 7 }) [7] true ∈ [.receive,
      .dispatch (.rooms ⟨NsType.net.flag⟩), .send (.rooms { net := 7 }) [7] true, .close 7] := by
    decide
  ⟨hround, hsend, serve_sends_fds_in_band netSpacer _ () _ hround _ _ true hsend⟩

/-- Descriptor 7 is sent out-of-band and its number in-band, in the `Net` field of the
payload. -/
theorem serve_sends_net_twice :
    serve netSpacer [.request (.rooms ⟨NsType.net.flag⟩) true true] () =
      ([[.receive, .dispatch (.rooms ⟨NsType.net.flag⟩), .send (.rooms { net := 7 }) [7] true,
        .close 7]], .ret (some ())) := by
  decide

/-- When the response does not encode, `Serve` returns without closing descriptor 7. -/
theorem serve_leaks_unencoded_response :
    serve netSpacer [.request (.rooms ⟨NsType.net.flag⟩) false true, .timeout] () =
      ([[.receive, .dispatch (.rooms ⟨NsType.net.flag⟩)]], .ret none) := by
  decide

end Spacetest
