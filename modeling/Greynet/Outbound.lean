/-
  What goes out on a connection, over whole runs.

  The gate of `expect_ident` is about what comes in.  Here is the other direction: a new connection
  gets the node's IDENT and nothing else.  Broadcasts reach ready connections only; every other
  message goes to a connection that the node has kept since something came in on it, and nothing
  comes in before the gate is passed.  No handler checks that a connection it has kept is still past
  the gate, and none has to: nothing ever makes a connection unready again.

  1. `Vetted` — the connections kept for later, of a query's origin and of an adaptor, are ready;
     `Run.vetted`.
  2. `Spoken` — everything ever written on a connection: nothing, or one IDENT, and only then other
     messages; the state of the connection says how far it has come.  `Greets` — the two steps that
     write an IDENT, the dialling of a connection and the accepting of the other end's IDENT.
     `outbound_gate` puts them together.
  3. `Backed` — what is kept for later came in past the gate; `nothing_unsolicited`: every message
     greets, or answers what came in, or passes it on, or is playdar's own.  Each of the reasons
     that one step can have (`Because`, in `Greynet.Causes`) is traced back to the history here.
-/
import Greynet.Causes
import Greynet.Origins
import Greynet.Streams

namespace Greynet

variable {C : Type} [LinearOrder C]

namespace Node

/-! ## The connections kept for later -/

/-- What is kept for later: the origins, the adaptors and the timers; and no connection is ready
    that was never made.  A handler that writes to a connection it has kept asks nothing about it
    any more, so this is where the gate has to be remembered. -/
structure Vetted (n : Node C) : Prop where
  known : ∀ c, (n.mesh.router.conn c).ready = true → c ∈ n.mesh.router.known
  origin : ∀ qid c, n.queries.qidorigins qid = some c → (n.mesh.router.conn c).ready = true
  adaptor : ∀ c sid, (c, sid) ∈ Transfers.fixed n.transfers.adaptors →
    (n.mesh.router.conn c).ready = true
  timer : ∀ t ∈ n.queries.timers, t.msgp.type = .query

/-- A connection that is ready stays so: nothing calls `set_ready(false)`, and a connection that
    closes is only taken off the list of the open ones. -/
theorem ready_kept {host : Host C} {n n' : Node C} {e : Event C} {out : List (Action C)}
    (hv : n.Vetted) (hok : step host n e = .ok (n', out)) {c : C}
    (hready : (n.mesh.router.conn c).ready = true) : (n'.mesh.router.conn c).ready = true := by
  rcases step_moves hok with ⟨conn, o, me, he, ho, hrouter⟩ |
    ⟨conn, msgp, answer, uuid, name, incoming, he, hexp, hp, hrouter⟩ | hk
  · rw [hrouter, Router.add_conn_ne]
    · exact hready
    · rintro rfl
      exact (Mesh.opens_some ho).1 (hv.known c hready)
  · rw [hrouter]
    by_cases hc : c = conn
    · subst hc
      rw [Router.modify_conn_self]
      rfl
    · rw [Router.modify_conn_ne _ _ hc]
      exact hready
  · rw [hk.conn]
    exact hready

/-- A connection that is ready has been made, for it is made ready where its IDENT is accepted. -/
theorem ready_known {host : Host C} {n n' : Node C} {e : Event C} {out : List (Action C)}
    {hist : History C} (hr : Run host hist n) (hv : n.Vetted)
    (hok : step host n e = .ok (n', out)) {c : C}
    (hready : (n'.mesh.router.conn c).ready = true) : c ∈ n'.mesh.router.known := by
  rcases step_moves hok with ⟨conn, o, me, he, ho, hrouter⟩ |
    ⟨conn, msgp, answer, uuid, name, incoming, he, hexp, hp, hrouter⟩ | hk
  · rw [hrouter] at hready ⊢
    rw [Router.mem_add_known]
    by_cases hc : c = conn
    · exact Or.inl hc
    · rw [Router.add_conn_ne _ _ hc] at hready
      exact Or.inr (hv.known c hready)
  · rw [hrouter] at hready ⊢
    by_cases hc : c = conn
    · subst hc
      exact hr.gated.known c hexp.isOpen
    · rw [Router.modify_conn_ne _ _ hc] at hready
      exact hv.known c hready
  · rw [hk.conn] at hready
    rw [hk.known]
    exact hv.known c hready

/-- A message that has a reason is no IDENT, and goes to a ready connection.  Each reason either
    comes in on that connection past the gate, or goes by a connection kept for later, or asks
    `ready` itself. -/
theorem Because.vetted {host : Host C} {hist : History C} {n : Node C} {e : Event C}
    (hr : Run host hist n) (hv : n.Vetted) {c : C} {m : Message} (h : Because host n e c m) :
    m.type ≠ .ident ∧ (n.mesh.router.conn c).ready = true := by
  cases h with
  | pong ping answer uuid he hgate ht hm => exact ⟨by simp [hm, pongMessage], hr.pastGate hgate⟩
  | stop conn answer uuid he hgate ht ho hready => exact ⟨by simp [ht], hready⟩
  | resolve qid uuid x he hx hm hready => exact ⟨by simp [hm, queryMessage], hready⟩
  | forward i err t he hti hm hready =>
    exact ⟨by simp [hm, hv.timer t (List.mem_of_getElem? hti)], hready⟩
  | result i uuid cb it he hcb ho hit hm =>
    exact ⟨by simp [hm, queryResultMessage], hv.origin cb.qid c ho⟩
  | stream ht hasked =>
    refine ⟨fun hident => ?_, ?_⟩
    · rw [hident] at ht
      simp at ht
    · rcases hasked with hin | ⟨req, answer, uuid, he, hgate, -⟩
      · exact hv.adaptor c m.guid hin
      · exact hr.pastGate hgate
  | request ss aa uuid he hc hready hm => exact ⟨by simp [hm, generalMessage], hready⟩
  | pass conn req url oid uuid ss he hgate ht hss hc hready hm =>
    exact ⟨by simp [hm, generalMessage], hready⟩

/-- An event keeps it so.  What is added to the origins or to the adaptors has just come in past the
    gate, and a connection that is ready stays so. -/
theorem vetted_step {host : Host C} {hist : History C} {n n' : Node C} {e : Event C}
    {out : List (Action C)} (hr : Run host hist n) (hv : n.Vetted)
    (hok : step host n e = .ok (n', out)) : n'.Vetted := by
  refine ⟨fun c hready => ready_known hr hv hok hready, fun qid c ho => ?_, fun c sid hin => ?_,
    fun t ht => ?_⟩
  · refine ready_kept hv hok ?_
    rcases step_queries hok with ⟨-, hsame⟩ | ⟨qe, out', hqe, hq⟩
    · exact hv.origin qid c (hsame ▸ ho)
    · rcases Queries.origin_step (Queries.step_effect hq) with hsame |
        ⟨r, conn, msgp, rq, rfl, -, -, hup, -⟩
      · exact hv.origin qid c (hsame ▸ ho)
      · rw [hup] at ho
        by_cases hid : qid = rq.id
        · subst hid
          rw [Function.update_self] at ho
          obtain rfl := Option.some.inj ho
          -- a QUERY comes in past the gate
          obtain ⟨-, hopen, answer, uuid, rfl⟩ := seenAs_of_queryEvent hqe
          rw [queryEvent] at hqe
          split at hqe
          · rename_i hgate
            exact hr.pastGate ⟨hgate.1, hgate.2⟩
          · cases hqe
        · rw [Function.update_of_ne hid] at ho
          exact hv.origin qid c ho
  · refine ready_kept hv hok ?_
    rcases step_speaks hr.transfers.sound hok with ⟨_, _, _, _, _, _, _, hrest, -⟩ |
      ⟨_, _, _, _, _, _, _, _, _, _, hrest, -⟩ | ⟨-, hout⟩
    · rw [hrest] at hin
      exact hv.adaptor c sid hin
    · rw [hrest] at hin
      exact hv.adaptor c sid hin
    · rcases hout.adaptor c sid hin with hin | ⟨req, answer, uuid, he, hgate, -⟩
      · exact hv.adaptor c sid hin
      · exact hr.pastGate hgate
  · rcases step_queries hok with ⟨-, hsame⟩ | ⟨qe, out', hqe, hq⟩
    · exact hv.timer t (hsame ▸ ht)
    · rcases Queries.timer_of_effect (Queries.step_effect hq) ht with ht | ⟨-, -, hasks⟩
      · exact hv.timer t ht
      · unfold Queries.asks at hasks
        exact (of_decide_eq_true hasks).1

/-- **What is kept for later is past the gate**, in every run; by `vetted_step`, from a node that
    keeps nothing. -/
theorem Run.vetted {host : Host C} {hist : History C} {n : Node C} (hr : Run host hist n) :
    n.Vetted := by
  refine Runs.Run.invariant (I := fun _ n => n.Vetted) ?_ ?_ hr
  · rintro n rfl
    exact ⟨fun c h => (by cases h), fun qid c h => (by cases h), fun c sid h => (by cases h),
      fun t h => (by cases h)⟩
  · intro hist n e n' out hr hv hok
    exact vetted_step hr hv hok

/-! ## Everything written on a connection -/

/-- Everything written on the connection in a run, in order, as the other end will get it. -/
def written (hist : History C) (c : C) : List Message := hist.flatMap fun st => sentOn c st.out

/-- One more step adds what it writes there. -/
theorem written_snoc (hist : History C) (st : Runs.Step (Node C) (Event C) (Action C)) (c : C) :
    written (hist ++ [st]) c = written hist c ++ sentOn c st.out := by
  rw [written, List.flatMap_append, List.flatMap_singleton]
  rfl

omit [LinearOrder C] in
/-- A message is among those sent on the connection if and only if it is written there. -/
theorem mem_sentOn [DecidableEq C] {c : C} {m : Message} {out : List (Action C)} :
    m ∈ sentOn c out ↔ .asyncWrite c m ∈ out := by
  rw [sentOn, List.mem_filterMap]
  constructor
  · rintro ⟨a, hin, ha⟩
    split at ha
    · rename_i d msg
      split at ha
      · rename_i hd
        obtain rfl := Option.some.inj ha
        exact hd ▸ hin
      · cases ha
    · cases ha
  · intro hin
    exact ⟨_, hin, if_pos rfl⟩

/-- An IDENT of the node's own, without a cookie or with that of the dial, in which case the history
    has made the connection by that dial. -/
def OwnIdent (host : Host C) (hist : History C) (c : C) (m : Message) : Prop :=
  ∃ uuid, m = identMessage (host.js.write (.obj [("name", .str host.jid)])) uuid ∨
    ∃ d, (∃ st ∈ hist, ∃ me, st.event = .mesh me ∧ st.pre.mesh.opens me = some (c, some d)) ∧
      m = identMessage (host.js.write (Mesh.identObject host (Mesh.fresh (some d)))) uuid

/-- It is an IDENT, of course. -/
theorem OwnIdent.type {host : Host C} {hist : History C} {c : C} {m : Message}
    (h : OwnIdent host hist c m) : m.type = .ident := by
  obtain ⟨uuid, rfl | ⟨d, -, rfl⟩⟩ := h <;> rfl

/-- It stays one of the node's own as the history goes on. -/
theorem OwnIdent.mono {host : Host C} {hist : History C} {c : C} {m : Message}
    (h : OwnIdent host hist c m) (st : Runs.Step (Node C) (Event C) (Action C)) :
    OwnIdent host (hist ++ [st]) c m := by
  obtain ⟨uuid, h⟩ := h
  refine ⟨uuid, h.imp_right ?_⟩
  rintro ⟨d, ⟨st', hst', hopens⟩, hm⟩
  exact ⟨d, ⟨st', List.mem_append_left _ hst', hopens⟩, hm⟩

/-- What has been written on a connection, by the state it is in: this is the invariant, one clause
    for each of the three states that a connection can be in. -/
structure Spoken (host : Host C) (hist : History C) (c : C) (known : Prop) (x : Connection) :
    Prop where
  /-- not made yet -/
  unmade : ¬ known → written hist c = []
  /-- made and not ready: the IDENT of a dialled one -/
  waiting : known → x.ready = false → (x.messageReceivedCbs = [true] ∧ written hist c = []) ∨
    (x.messageReceivedCbs = [false] ∧ ∃ m, OwnIdent host hist c m ∧ written hist c = [m])
  /-- ready -/
  ready : x.ready = true → ∃ m rest, OwnIdent host hist c m ∧ written hist c = m :: rest ∧
    ∀ m' ∈ rest, m'.type ≠ .ident

/-- A step that writes nothing on the connection, and leaves it as it was, leaves it so. -/
theorem Spoken.keep {host : Host C} {hist : History C} {c : C} {known known' : Prop}
    {x : Connection} (h : Spoken host hist c known x)
    {st : Runs.Step (Node C) (Event C) (Action C)} (hknown : known' ↔ known)
    (hsent : sentOn c st.out = []) : Spoken host (hist ++ [st]) c known' x := by
  have hsame : written (hist ++ [st]) c = written hist c := by
    rw [written_snoc, hsent, List.append_nil]
  refine ⟨fun hk => hsame.trans (h.unmade fun hold => hk (hknown.mpr hold)), fun hk hnot => ?_,
    fun hready => ?_⟩
  · rw [hsame]
    refine (h.waiting (hknown.mp hk) hnot).imp_right ?_
    rintro ⟨hcbs, m, hm, hw⟩
    exact ⟨hcbs, m, hm.mono st, hw⟩
  · rw [hsame]
    obtain ⟨m, rest, hm, hw, hrest⟩ := h.ready hready
    exact ⟨m, rest, hm.mono st, hw, hrest⟩

omit [LinearOrder C] in
/-- If nothing is written there, nothing is sent there. -/
theorem sentOn_eq_nil [DecidableEq C] {c : C} {out : List (Action C)}
    (h : ∀ m, .asyncWrite c m ∉ out) : sentOn c out = [] :=
  List.eq_nil_iff_forall_not_mem.mpr fun m hm => h m (mem_sentOn.mp hm)

omit [LinearOrder C] in
/-- One message written there is what is sent there. -/
@[simp] theorem sentOn_singleton [DecidableEq C] (c : C) (m : Message) :
    sentOn c [.asyncWrite c m] = [m] := List.filterMap_cons_some (if_pos rfl)

omit [LinearOrder C] in
/-- The greeting of another connection is not sent here, ... -/
theorem sentOn_greeting_ne [DecidableEq C] {host : Host C} {c conn : C} (h : c ≠ conn)
    (o : Option Dial) (uuid : String) : sentOn c (Mesh.greeting host conn o uuid) = [] := by
  cases o with
  | none => rfl
  | some d => exact List.filterMap_cons_none (if_neg h.symm)

omit [LinearOrder C] in
/-- ... nor is the reply to another one's IDENT. -/
theorem sentOn_identReply_ne [DecidableEq C] {host : Host C} {c conn : C} (h : c ≠ conn)
    (incoming : Bool) (uuid : String) :
    sentOn c (Mesh.identReply host conn incoming uuid) = [] := by
  cases incoming with
  | false => rfl
  | true => exact List.filterMap_cons_none (if_neg h.symm)

/-- **One step, for every connection.**  An event of the mesh makes one connection and greets it; a
    message accepted makes one ready and may reply; and whatever else is written has a reason, and
    so goes to a connection that is ready. -/
theorem spoken_step {host : Host C} {hist : History C} {n n' : Node C} {e : Event C}
    {out : List (Action C)} (hr : Run host hist n)
    (hsp : ∀ c, Spoken host hist c (c ∈ n.mesh.router.known) (n.mesh.router.conn c))
    (hok : step host n e = .ok (n', out)) (c : C) :
    Spoken host (hist ++ [⟨n, e, n', out⟩]) c (c ∈ n'.mesh.router.known)
      (n'.mesh.router.conn c) := by
  have hlast : (⟨n, e, n', out⟩ : Runs.Step _ _ _) ∈ hist ++ [⟨n, e, n', out⟩] :=
    List.mem_concat_self
  rcases step_speaks hr.transfers.sound hok with ⟨conn, o, me, uuid, he, ho, hrouter, -, hout⟩ |
    ⟨conn, msgp, answer, uuid, name, incoming, he, hexp, hp, hrouter, -, hout⟩ | ⟨hk, hout⟩
  · rw [hrouter]
    by_cases hc : c = conn
    · subst hc
      have hbefore := (hsp c).unmade (Mesh.opens_some ho).1
      have hknown : c ∈ (n.mesh.router.add c (Mesh.fresh o)).known :=
        Router.mem_add_known.mpr (Or.inl rfl)
      rw [Router.add_conn_self]
      refine ⟨fun hno => absurd hknown hno, fun _ _ => ?_, fun hready => ?_⟩
      · rw [written_snoc, hbefore, hout]
        cases o with
        | none => exact Or.inl ⟨rfl, rfl⟩
        | some d =>
          have hown : OwnIdent host (hist ++ [⟨n, e, n', Mesh.greeting host c (some d) uuid⟩]) c
              (identMessage (host.js.write (Mesh.identObject host (Mesh.fresh (some d)))) uuid) :=
            ⟨uuid, Or.inr ⟨d, ⟨_, hout ▸ hlast, me, he, ho⟩, rfl⟩⟩
          exact Or.inr ⟨rfl, _, hown, sentOn_singleton c _⟩
      · cases o <;> cases hready
    · rw [Router.add_conn_ne _ _ hc]
      refine (hsp c).keep ?_ ((congrArg (sentOn c) hout).trans (sentOn_greeting_ne hc o uuid))
      rw [Router.mem_add_known]
      exact or_iff_right hc
  · rw [hrouter]
    by_cases hc : c = conn
    · subst hc
      have hknown := hr.gated.known c hexp.isOpen
      have hready : ((n.mesh.router.modify c (Mesh.identified incoming name)).conn c).ready =
          true := by
        rw [Router.modify_conn_self]
        rfl
      -- `expect_ident` is still waiting, so the connection is not ready yet
      have hnot : (n.mesh.router.conn c).ready = false := by
        by_contra hyes
        have hnil := (Mesh.handshaken_of_reachable hr.mesh c).ready (by simpa using hyes)
        have hcbs := hexp.callback
        rw [hnil] at hcbs
        cases hcbs
      refine ⟨fun hno => absurd hknown hno, fun _ hno => ?_, fun _ => ?_⟩
      · rw [hready] at hno
        cases hno
      · -- the reply is the first message of an incoming connection, and there is none on another
        have hcbs := hexp.callback
        rw [written_snoc]
        rcases (hsp c).waiting hknown hnot with ⟨hin, hw⟩ | ⟨hin, m, hm, hw⟩
        · rw [hin] at hcbs
          obtain rfl := Option.some.inj hcbs
          refine ⟨_, [], ⟨uuid, Or.inl rfl⟩, ?_, fun m' hm' => by cases hm'⟩
          rw [hw, hout]
          exact sentOn_singleton c _
        · rw [hin] at hcbs
          obtain rfl := Option.some.inj hcbs
          refine ⟨m, [], hm.mono _, ?_, fun m' hm' => by cases hm'⟩
          rw [hw, hout]
          rfl
    · rw [Router.modify_conn_ne _ _ hc]
      exact (hsp c).keep Iff.rfl
        ((congrArg (sentOn c) hout).trans (sentOn_identReply_ne hc incoming uuid))
  · rw [hk.conn, hk.known]
    by_cases hready : (n.mesh.router.conn c).ready = true
    · refine ⟨fun hno => absurd (hr.vetted.known c hready) hno, fun _ hno => ?_, fun _ => ?_⟩
      · rw [hready] at hno
        cases hno
      · -- what it writes now has a reason, and no reason is one for an IDENT
        obtain ⟨m, rest, hm, hw, hrest⟩ := (hsp c).ready hready
        refine ⟨m, rest ++ sentOn c out, hm.mono _, ?_, fun m' hm' => ?_⟩
        · rw [written_snoc, hw, List.cons_append]
        · rcases List.mem_append.mp hm' with hm' | hm'
          · exact hrest m' hm'
          · exact ((hout.writes c m' (mem_sentOn.mp hm')).vetted hr hr.vetted).1
    · exact (hsp c).keep Iff.rfl
        (sentOn_eq_nil fun m hin => hready ((hout.writes c m hin).vetted hr hr.vetted).2)

/-- And so for a run: what has been written goes by the state the connection is in. -/
theorem Run.spoken {host : Host C} {hist : History C} {n : Node C} (hr : Run host hist n) (c : C) :
    Spoken host hist c (c ∈ n.mesh.router.known) (n.mesh.router.conn c) := by
  refine Runs.Run.invariant (I := fun hist n => ∀ c, Spoken host hist c
    (c ∈ n.mesh.router.known) (n.mesh.router.conn c)) ?_ ?_ hr c
  · rintro n rfl c
    exact ⟨fun _ => rfl, fun hk => (by cases hk), fun hready => (by cases hready)⟩
  · intro hist n e n' out hr hsp hok c
    exact spoken_step hr hsp hok c

/-- A step at which the node introduces itself on the connection, with the IDENT `m`: it has just
    dialled the other end, and shows the cookie of the dial; or the other end has just been accepted
    on a connection that came in, and the reply shows no cookie. -/
inductive Greets (host : Host C) (st : Runs.Step (Node C) (Event C) (Action C)) (c : C)
    (m : Message) : Prop
  | dials (me : Mesh.Event C) (d : Dial) (uuid : String) (he : st.event = .mesh me)
      (ho : st.pre.mesh.opens me = some (c, some d))
      (hm : m = identMessage (host.js.write (Mesh.identObject host (Mesh.fresh (some d)))) uuid)
  | replies (msgp : Message) (answer : SsAnswer) (uuid name : String)
      (he : st.event = .received c msgp answer uuid) (hexp : st.pre.Expecting c true)
      (hp : Mesh.Passes host st.pre.mesh msgp true name)
      (hm : m = identMessage (host.js.write (.obj [("name", .str host.jid)])) uuid)

/-- What goes out on a connection.  The first three say what has been written by the state that the
    connection is in; `greets`, `atOnce` and `replies` say which steps write the IDENT; and the rest
    says the same without the state. -/
structure OutboundGate (host : Host C) (hist : History C) (n : Node C) (c : C) : Prop where
  /-- before the connection is made, nothing has been written on it -/
  unmade : c ∉ n.mesh.router.known → written hist c = []
  /-- while `expect_ident` waits, nothing on a connection that came in, and one IDENT on a dialled
      one -/
  waiting : c ∈ n.mesh.router.known → (n.mesh.router.conn c).ready = false →
    ((n.mesh.router.conn c).messageReceivedCbs = [true] ∧ written hist c = []) ∨
    ((n.mesh.router.conn c).messageReceivedCbs = [false] ∧
      ∃ m, OwnIdent host hist c m ∧ written hist c = [m])
  /-- once it is ready, one IDENT and then whatever is none -/
  ready : (n.mesh.router.conn c).ready = true → ∃ m rest, OwnIdent host hist c m ∧
    written hist c = m :: rest ∧ ∀ m' ∈ rest, m'.type ≠ .ident
  /-- an IDENT is only ever written to introduce the node -/
  greets : ∀ h₁ st h₂ m, hist = h₁ ++ st :: h₂ → .asyncWrite c m ∈ st.out → m.type = .ident →
    Greets host st c m
  /-- whoever dials introduces himself at once, and says nothing else -/
  atOnce : ∀ h₁ st h₂ me d, hist = h₁ ++ st :: h₂ → st.event = .mesh me →
    st.pre.mesh.opens me = some (c, some d) → ∃ m, Greets host st c m ∧ sentOn c st.out = [m]
  /-- so does whoever accepts an IDENT on a connection that came in -/
  replies : ∀ h₁ st h₂ msgp answer uuid, hist = h₁ ++ st :: h₂ →
    st.event = .received c msgp answer uuid → st.pre.Expecting c true →
    (st.post.mesh.router.conn c).ready = true → ∃ m, Greets host st c m ∧ sentOn c st.out = [m]
  /-- nothing, or an IDENT of our own, and then never another one -/
  shape : written hist c = [] ∨ ∃ m rest, OwnIdent host hist c m ∧ written hist c = m :: rest ∧
    ∀ m' ∈ rest, m'.type ≠ .ident
  /-- until the connection is ready no more than that ... -/
  first : (n.mesh.router.conn c).ready = false → (written hist c).length ≤ 1
  /-- ... and on an incoming one nothing at all -/
  silent : n.Expecting c true → written hist c = []
  /-- anything else comes after an IDENT from the other end has been accepted -/
  behind : ∀ h₁ st h₂ m, hist = h₁ ++ st :: h₂ → .asyncWrite c m ∈ st.out → m.type ≠ .ident →
    ∃ st' ∈ h₁, Accepted st' c

/-- An IDENT is written to introduce the node: nothing else that has a reason is one. -/
theorem greets_step {host : Host C} {hist : History C} {n n' : Node C} {e : Event C}
    {out : List (Action C)} (hr : Run host hist n) (hok : step host n e = .ok (n', out)) {c : C}
    {m : Message} (hin : .asyncWrite c m ∈ out) (hty : m.type = .ident) :
    Greets host ⟨n, e, n', out⟩ c m := by
  rcases step_speaks hr.transfers.sound hok with ⟨conn, o, me, uuid, he, ho, -, -, hout⟩ |
    ⟨conn, msgp, answer, uuid, name, incoming, he, hexp, hp, -, -, hout⟩ | ⟨-, hout⟩
  · rw [hout] at hin
    cases o with
    | none => cases hin
    | some d =>
      obtain ⟨rfl, rfl⟩ := Action.asyncWrite.inj (List.mem_singleton.mp hin)
      exact .dials me d uuid he ho rfl
  · rw [hout] at hin
    cases incoming with
    | false => cases hin
    | true =>
      obtain ⟨rfl, rfl⟩ := Action.asyncWrite.inj (List.mem_singleton.mp hin)
      exact .replies msgp answer uuid name he hexp hp rfl
  · exact absurd hty ((hout.writes c m hin).vetted hr hr.vetted).1

/-- A connection that is dialled is greeted in the same step: `new_outgoing_connection` calls
    `send_ident` before it returns. -/
theorem greets_dialled {host : Host C} {n n' : Node C} {me : Mesh.Event C} {out : List (Action C)}
    (hok : step host n (.mesh me) = .ok (n', out)) {c : C} {d : Dial}
    (ho : n.mesh.opens me = some (c, some d)) :
    ∃ m, Greets host ⟨n, .mesh me, n', out⟩ c m ∧ sentOn c out = [m] := by
  obtain ⟨m', hs⟩ : ∃ m', n.mesh.step host me = .ok (m', out) := by
    cases me with
    | newOutgoingConnection conn i uuid =>
      obtain ⟨m', hs, -⟩ := onMesh_ok hok
      exact ⟨m', hs⟩
    | newIncomingConnection conn =>
      obtain ⟨m', hs, -⟩ := onMesh_ok hok
      exact ⟨m', hs⟩
    | _ => cases ho
  obtain ⟨uuid, hout⟩ := Mesh.opened_out ho hs
  exact ⟨_, .dials me d uuid rfl ho rfl, by rw [hout]; exact sentOn_singleton c _⟩

/-- An IDENT that is accepted on an incoming connection is answered in the same step, and with
    nothing else: `expect_ident` calls `send_ident` once, before it sets the connection ready. -/
theorem greets_accepted {host : Host C} {hist : History C} {n n' : Node C} {c : C} {msgp : Message}
    {answer : SsAnswer} {uuid : String} {out : List (Action C)} (hr : Run host hist n)
    (hok : step host n (.received c msgp answer uuid) = .ok (n', out)) (hexp : n.Expecting c true)
    (hready : (n'.mesh.router.conn c).ready = true) :
    ∃ m, Greets host ⟨n, .received c msgp answer uuid, n', out⟩ c m ∧ sentOn c out = [m] := by
  rcases step_speaks hr.transfers.sound hok with ⟨conn, o, me, uuid', he, -⟩ |
    ⟨conn, msgp', answer', uuid', name, incoming, he, hexp', hp, -, -, hout⟩ | ⟨hk, -⟩
  · cases he
  · obtain ⟨rfl, rfl, rfl, rfl⟩ := Event.received.inj he
    obtain rfl : true = incoming := Option.some.inj (hexp.callback.symm.trans hexp'.callback)
    refine ⟨_, .replies msgp answer uuid name rfl hexp hp rfl, ?_⟩
    rw [hout]
    exact sentOn_singleton c _
  · -- a connection that still waits is not ready, and nothing has changed it
    rw [hk.conn] at hready
    have hcb := hexp.callback
    rw [(Mesh.handshaken_of_reachable hr.mesh c).ready hready] at hcb
    cases hcb

/-- **The gate holds in the other direction as well**: a node says nothing to anybody on a
    connection but who it is, until the other end has said so.  The clauses about the state are the
    invariant, those about the steps are read off the step in question, and the rest follows from
    them. -/
theorem outbound_gate (host : Host C) (hist : History C) (n : Node C) (hr : Run host hist n)
    (c : C) : OutboundGate host hist n c := by
  have hsp := hr.spoken c
  -- the run breaks off before each of its steps, at the state the step is made from
  have hcut : ∀ {h₁ st h₂}, hist = h₁ ++ st :: h₂ → Run host h₁ st.pre ∧
      step host st.pre st.event = .ok (st.post, st.out) := by
    rintro h₁ st h₂ rfl
    obtain ⟨hr₁, hok, -⟩ := hr.cut
    exact ⟨hr₁, hok⟩
  refine ⟨hsp.unmade, hsp.waiting, hsp.ready, fun h₁ st h₂ m hh hin hty => ?_,
    fun h₁ st h₂ me d hh he ho => ?_, fun h₁ st h₂ msgp answer uuid hh he hexp hready => ?_, ?_,
    fun hnot => ?_, fun hexp => ?_, fun h₁ st h₂ m hh hin hty => ?_⟩
  · obtain ⟨hr₁, hok⟩ := hcut hh
    exact greets_step hr₁ hok hin hty
  · obtain ⟨-, hok⟩ := hcut hh
    obtain ⟨n₁, e, n₂, out⟩ := st
    obtain rfl : e = .mesh me := he
    exact greets_dialled hok ho
  · obtain ⟨hr₁, hok⟩ := hcut hh
    obtain ⟨n₁, e, n₂, out⟩ := st
    obtain rfl : e = .received c msgp answer uuid := he
    exact greets_accepted hr₁ hok hexp hready
  · -- nothing has been written, or an IDENT and nothing else, or the connection is ready
    by_cases hknown : c ∈ n.mesh.router.known
    · cases hready : (n.mesh.router.conn c).ready with
      | true => exact Or.inr (hsp.ready hready)
      | false =>
        rcases hsp.waiting hknown hready with ⟨-, hw⟩ | ⟨-, m, hm, hw⟩
        · exact Or.inl hw
        · exact Or.inr ⟨m, [], hm, hw, fun m' hm' => by cases hm'⟩
    · exact Or.inl (hsp.unmade hknown)
  · by_cases hknown : c ∈ n.mesh.router.known
    · rcases hsp.waiting hknown hnot with ⟨-, hw⟩ | ⟨-, m, -, hw⟩
      · rw [hw]
        exact Nat.zero_le _
      · rw [hw]
        exact Nat.le_refl _
    · rw [hsp.unmade hknown]
      exact Nat.zero_le _
  · have hknown := hr.gated.known c hexp.isOpen
    cases hready : (n.mesh.router.conn c).ready with
    | true =>
      have hcbs := hexp.callback
      rw [(Mesh.handshaken_of_reachable hr.mesh c).ready hready] at hcbs
      cases hcbs
    | false =>
      rcases hsp.waiting hknown hready with ⟨-, hw⟩ | ⟨hcbs, -⟩
      · exact hw
      · have hcb := hexp.callback
        rw [hcbs] at hcb
        cases hcb
  · obtain ⟨hrun, hok⟩ := hcut hh
    rcases step_speaks hrun.transfers.sound hok with ⟨conn, o, me, uuid, -, -, -, -, hout⟩ |
      ⟨conn, msgp, answer, uuid, name, incoming, -, -, -, -, -, hout⟩ | ⟨-, hout⟩
    · exact absurd (Mesh.greeting_type (hout ▸ hin)) hty
    · exact absurd (Mesh.identReply_type (hout ▸ hin)) hty
    · -- all but the two greetings goes to a connection that is ready, and that one has been
      -- accepted
      have hready := ((hout.writes c m hin).vetted hrun hrun.vetted).2
      exact (hrun.gated.conn c (hrun.vetted.known c hready)).passed hready

/-- Alice's connection: an IDENT came in on it, and one went out.  It is she who has dialled, so the
    node's own is a reply and shows no cookie. -/
theorem outbound_meeting : OutboundGate sampleHost (Runs.trace (step sampleHost) empty meeting)
    (Runs.after (step sampleHost) empty meeting) 0 :=
  outbound_gate sampleHost _ _ (Runs.run_trace meeting rfl) 0

/-! ## What was asked for -/

/-- The message came in on the connection, past the gate, at some step of the history;
    `expect_ident` hears messages too, but nothing else comes of those. -/
def Heard (hist : History C) (c : C) (m : Message) : Prop :=
  ∃ st ∈ hist, ∃ answer uuid, st.event = .received c m answer uuid ∧ st.pre.PastGate c

/-- What has been heard stays heard. -/
theorem Heard.mono {hist hist' : History C} {c : C} {m : Message} (h : Heard hist c m) :
    Heard (hist ++ hist') c m := by
  obtain ⟨st, hst, h⟩ := h
  exact ⟨st, List.mem_append_left _ hst, h⟩

/-- What comes in past the gate has been heard from then on. -/
theorem heard_last {hist : History C} {n n' : Node C} {c : C} {m : Message} {answer : SsAnswer}
    {uuid : String} {out : List (Action C)} (h : n.PastGate c) :
    Heard (hist ++ [⟨n, .received c m answer uuid, n', out⟩]) c m :=
  ⟨_, List.mem_concat_self, answer, uuid, rfl, h⟩

/-- A SIDREQUEST for `sid` came in on the connection; it carries the sid as its payload. -/
def Requested (hist : History C) (c : C) (sid : Sid) : Prop :=
  ∃ req, Heard hist c req ∧ req.type = .sidrequest ∧ req.payload = sid

/-- A step at which the sid is asked for is one after which it has been. -/
theorem requested_last {hist : History C} {n n' : Node C} {e : Event C} {c : C} {sid : Sid}
    {out : List (Action C)} (h : n.AsksFor e c sid) :
    Requested (hist ++ [⟨n, e, n', out⟩]) c sid := by
  obtain ⟨req, answer, uuid, rfl, hgate, hty, hpay⟩ := h
  exact ⟨req, heard_last hgate, hty, hpay⟩

/-- What is kept for later came in past the gate: the QUERY of each timer, and a SIDREQUEST for each
    adaptor. -/
structure Backed (hist : History C) (n : Node C) : Prop where
  timer : ∀ t ∈ n.queries.timers, Heard hist t.conn t.msgp
  adaptor : ∀ c sid, (c, sid) ∈ Transfers.fixed n.transfers.adaptors → Requested hist c sid

/-- A timer is set for a QUERY that comes in, and for nothing else; it keeps the message and the
    connection it came in on. -/
theorem timer_step {host : Host C} {n n' : Node C} {e : Event C} {out : List (Action C)}
    (hok : step host n e = .ok (n', out)) {t : Timer C} (ht : t ∈ n'.queries.timers) :
    t ∈ n.queries.timers ∨
      ∃ answer uuid, e = .received t.conn t.msgp answer uuid ∧ n.PastGate t.conn := by
  rcases step_queries hok with ⟨-, hsame⟩ | ⟨qe, out', hqe, hq⟩
  · exact Or.inl (hsame ▸ ht)
  · rcases Queries.timer_received (Queries.step_effect hq) ht with ht | ⟨r, rfl⟩
    · exact Or.inl ht
    · obtain ⟨-, -, answer, uuid, rfl⟩ := seenAs_of_queryEvent hqe
      rw [queryEvent] at hqe
      split at hqe
      · rename_i hgate
        exact Or.inr ⟨answer, uuid, rfl, hgate.1, hgate.2⟩
      · cases hqe

/-- And so in every run: what is kept for later was asked for before. -/
theorem Run.backed {host : Host C} {hist : History C} {n : Node C} (hr : Run host hist n) :
    Backed hist n := by
  refine Runs.Run.invariant (I := fun hist n => Backed hist n) ?_ ?_ hr
  · rintro n rfl
    exact ⟨fun t h => (by cases h), fun c sid h => (by cases h)⟩
  · intro hist n e n' out hr hb hok
    -- what was requested before is still requested
    have hkept : ∀ c sid, (c, sid) ∈ Transfers.fixed n.transfers.adaptors →
        Requested (hist ++ [⟨n, e, n', out⟩]) c sid := by
      intro c sid hin
      obtain ⟨req, hheard, hreq⟩ := hb.adaptor c sid hin
      exact ⟨req, hheard.mono, hreq⟩
    refine ⟨fun t ht => ?_, fun c sid hin => ?_⟩
    · rcases timer_step hok ht with ht | ⟨answer, uuid, rfl, hgate⟩
      · exact (hb.timer t ht).mono
      · exact heard_last hgate
    · rcases step_speaks (Run.transfers hr).sound hok with ⟨_, _, _, _, _, _, _, hrest, -⟩ |
        ⟨_, _, _, _, _, _, _, _, _, _, hrest, -⟩ | ⟨-, hout⟩
      · rw [hrest] at hin
        exact hkept c sid hin
      · rw [hrest] at hin
        exact hkept c sid hin
      · rcases hout.adaptor c sid hin with hin | hasks
        · exact hkept c sid hin
        · exact requested_last hasks

/-- Why a message is written to `c` at the step `st`, which comes after the history `h₁`.  Apart
    from the two IDENTs it always goes to a connection that is ready, and what it answers has come
    in past the gate. -/
inductive Solicited (host : Host C) (h₁ : History C)
    (st : Runs.Step (Node C) (Event C) (Action C)) (c : C) (m : Message) : Prop
  /-- an IDENT greets somebody we have dialled ... -/
  | greets (me : Mesh.Event C) (d : Dial) (he : st.event = .mesh me)
      (ho : st.pre.mesh.opens me = some (c, some d)) (ht : m.type = .ident)
  /-- ... or answers one that is accepted at this very step -/
  | answers (hacc : Accepted st c) (ht : m.type = .ident)
  /-- a PONG answers a PING that has come in past the gate -/
  | pong (ping : Message) (answer : SsAnswer) (uuid : String)
      (he : st.event = .received c ping answer uuid) (hgate : st.pre.PastGate c)
      (hping : ping.type = .ping) (hm : m = pongMessage uuid)
      (hready : (st.pre.mesh.router.conn c).ready = true)
  /-- a QUERYSTOP comes from the peer that asked first -/
  | stop (conn : C) (answer : SsAnswer) (uuid : String)
      (he : st.event = .received conn m answer uuid) (hgate : st.pre.PastGate conn)
      (ht : m.type = .querystop) (ho : FirstAsked host h₁ m.guid conn)
      (hready : (st.pre.mesh.router.conn c).ready = true) (hne : c ≠ conn)
  /-- a QUERY is one playdar has ... -/
  | resolve (qid : Qid) (uuid : String) (x : Query) (he : st.event = .startResolving qid uuid)
      (hx : st.pre.queries.queries qid = some x) (hm : m = queryMessage host.js x.rq uuid)
      (hready : (st.pre.mesh.router.conn c).ready = true)
  /-- ... or came in, as it is, from another peer -/
  | forward (conn : C) (hheard : Heard h₁ conn m) (ht : m.type = .query)
      (hready : (st.pre.mesh.router.conn c).ready = true) (hne : c ≠ conn)
  /-- a QUERYRESULT goes to the peer that asked first -/
  | result (qid : Qid) (it : ResolvedItem) (uuid : String)
      (hm : m = queryResultMessage host.js qid it uuid) (ho : FirstAsked host h₁ qid c)
      (hready : (st.pre.mesh.router.conn c).ready = true)
  /-- a message of a stream goes to a peer that asked for the stream -/
  | stream (ht : m.type ∈ [MsgType.siddata, .sidfail, .sidheaders])
      (hasked : Requested (h₁ ++ [st]) c m.guid)
      (hready : (st.pre.mesh.router.conn c).ready = true)
  /-- a SIDREQUEST is playdar's ... -/
  | request (ss : SsGreynet C) (aa : AdaptorId) (uuid : String)
      (he : st.event = .startReply ss aa uuid) (hc : c = ss.conn)
      (hm : m = generalMessage .sidrequest ss.sid uuid)
      (hready : (st.pre.mesh.router.conn c).ready = true)
  /-- ... or passes on that of another peer, which has come in past the gate -/
  | pass (conn : C) (req : Message) (url : String) (oid : Nat) (uuid : String) (ss : SsGreynet C)
      (he : st.event = .received conn req (.greynet url oid) uuid)
      (hgate : st.pre.PastGate conn) (hreq : req.type = .sidrequest)
      (hss : ssFactory host st.pre.mesh.router url oid = some ss) (hc : c = ss.conn)
      (hm : m = generalMessage .sidrequest ss.sid uuid)
      (hready : (st.pre.mesh.router.conn c).ready = true)

/-- **Nothing is written unasked**, in any run: a message greets, or answers what came in on its
    connection, or passes on what came in on another one, or is playdar's own.  The reasons are
    those that one step has (`Because`); what they go by, origins, timers and adaptors, is traced
    back to the history by `Run.origins` and `Run.backed`. -/
theorem nothing_unsolicited (host : Host C) (hist : History C) (n : Node C)
    (hr : Run host hist n) :
    Runs.Each (fun h₁ st => ∀ c m, .asyncWrite c m ∈ st.out → Solicited host h₁ st c m) hist := by
  rintro h₁ ⟨n₁, e, n₂, out⟩ h₂ rfl c m hin
  obtain ⟨hr₁, hok, -⟩ := hr.cut
  have hrun : Run host h₁ n₁ := hr₁
  rcases step_speaks hrun.transfers.sound hok with ⟨conn, o, me, uuid, he, ho, -, -, hout⟩ |
    ⟨conn, msgp, answer, uuid, name, incoming, he, hexp, -, hrouter, -, hout⟩ | ⟨-, hout⟩
  · rw [hout] at hin
    cases o with
    | none => cases hin
    | some d =>
      obtain ⟨rfl, rfl⟩ := Action.asyncWrite.inj (List.mem_singleton.mp hin)
      exact .greets me d he ho rfl
  · rw [hout] at hin
    cases incoming with
    | false => cases hin
    | true =>
      obtain ⟨rfl, rfl⟩ := Action.asyncWrite.inj (List.mem_singleton.mp hin)
      refine .answers ⟨msgp, answer, uuid, true, he, hexp, ?_⟩ rfl
      rw [hrouter, Router.modify_conn_self]
      rfl
  · -- neither of the two greetings, so one of the reasons of `Because`
    have hready := ((hout.writes c m hin).vetted hrun hrun.vetted).2
    cases hout.writes c m hin with
    | pong ping answer uuid he hgate ht hm => exact .pong ping answer uuid he hgate ht hm hready
    | stop conn answer uuid he hgate ht ho _ hne =>
      exact .stop conn answer uuid he hgate ht
        (hrun.origins.some _ _ (Queries.getQueryOrigin_eq_some.mp ho).1) hready hne
    | resolve qid uuid x he hx hm => exact .resolve qid uuid x he hx hm hready
    | forward i err t he ht hm _ hne =>
      have htimer := List.mem_of_getElem? ht
      exact .forward t.conn (hm ▸ hrun.backed.timer t htimer) (hm ▸ hrun.vetted.timer t htimer)
        hready hne
    | result i uuid cb it he hcb ho hit hm =>
      exact .result cb.qid (it.rmJsonValue "url") uuid hm (hrun.origins.some _ _ ho) hready
    | stream ht hasked =>
      refine .stream ht ?_ hready
      -- the adaptor was made for a request, in an earlier step or in this one
      rcases hasked with hin | hasks
      · obtain ⟨req, hheard, hreq⟩ := hrun.backed.adaptor c m.guid hin
        exact ⟨req, hheard.mono, hreq⟩
      · exact requested_last hasks
    | request ss aa uuid he hc _ hm => exact .request ss aa uuid he hc hm hready
    | pass conn req url oid uuid ss he hgate ht hss hc _ hm =>
      exact .pass conn req url oid uuid ss he hgate ht hss hc hm hready

/-- Alice asks, and bob is asked in turn. -/
theorem nothing_unsolicited_asking : Runs.Each
    (fun h₁ st => ∀ c m, .asyncWrite c m ∈ st.out → Solicited sampleHost h₁ st c m)
    (Runs.trace (step sampleHost) empty asking) :=
  nothing_unsolicited sampleHost _ _ (Runs.run_trace asking rfl)

end Node

end Greynet
