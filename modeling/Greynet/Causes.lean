/-
  Why a message is written.

  Mesh, queries and transfers all write to connections: some answer where something came in, some
  tell every ready connection, some go back to a connection remembered from before.  Here each
  message that one event writes gets its reason, so that what is proved later of all that a node has
  written goes by the reasons and not by the handlers.

  1. `Mesh.Speaks`, `Queries.Sends`, `Transfers.step_writes` — what each of the three writes, and
     to which connections.
  2. `Because` — the reasons for a message other than an IDENT.
  3. `Speaks` — what one event of the node does to the connections and writes on them;
     `step_speaks`: every event greets, or answers an IDENT, or has reasons for what it writes.
-/
import Greynet.Gate
import Greynet.QuerySteps

namespace Greynet

variable {C : Type} [LinearOrder C]

/-! ## What the mesh writes

  An IDENT, and nothing else: on a connection just dialled, and in reply to one that was
  accepted. -/

namespace Mesh

/-- What goes out on a connection just opened: an IDENT where it was dialled, and nothing where it
    came in. -/
def greeting (h : Host C) (conn : C) (o : Option Dial) (uuid : String) : List (Action C) :=
  match o with
  | none => []
  | some d => [.asyncWrite conn (identMessage (h.js.write (identObject h (fresh (some d)))) uuid)]

omit [LinearOrder C] in
/-- A greeting is an IDENT, ... -/
theorem greeting_type {h : Host C} {conn c : C} {o : Option Dial} {uuid : String} {m : Message}
    (hin : .asyncWrite c m ∈ greeting h conn o uuid) : m.type = .ident := by
  cases o with
  | none => cases hin
  | some d =>
    obtain ⟨-, rfl⟩ := Action.asyncWrite.inj (List.mem_singleton.mp hin)
    rfl

omit [LinearOrder C] in
/-- ... and so is the reply to one, if there is any. -/
theorem identReply_type {h : Host C} {conn c : C} {incoming : Bool} {uuid : String} {m : Message}
    (hin : .asyncWrite c m ∈ identReply h conn incoming uuid) : m.type = .ident := by
  cases incoming with
  | false => cases hin
  | true =>
    obtain ⟨-, rfl⟩ := Action.asyncWrite.inj (List.mem_singleton.mp hin)
    rfl

/-- What a step does to the connections, and what it writes: it opens one and greets it, accepts an
    IDENT and may reply, or is quiet and sets nothing on any connection. -/
inductive Speaks (h : Host C) (m : Mesh C) (e : Event C) (m' : Mesh C) (out : List (Action C)) :
    Prop
  | opened (conn : C) (o : Option Dial) (uuid : String) (ho : m.opens e = some (conn, o))
      (hrouter : m'.router = m.router.add conn (fresh o)) (hout : out = greeting h conn o uuid)
  | accepts (conn : C) (msgp : Message) (uuid : String) (incoming : Bool) (cbs : List Bool)
      (name : String) (he : e = .received conn msgp uuid) (hopen : conn ∈ m.router.connections)
      (hcbs : (m.router.conn conn).messageReceivedCbs = incoming :: cbs)
      (hp : Passes h m msgp incoming name)
      (hm : m' = { m with router := m.router.modify conn (identified incoming name) })
      (hout : out = identReply h conn incoming uuid)
  | quiet (ho : m.opens e = none) (hconn : m'.router.conn = m.router.conn)
      (hknown : m'.router.known = m.router.known) (hout : ∀ c msg, .asyncWrite c msg ∉ out)

/-- What a step that opens a connection writes is the greeting, with some guid. -/
theorem opened_out {h : Host C} {m m' : Mesh C} {e : Event C} {out : List (Action C)} {conn : C}
    {o : Option Dial} (ho : m.opens e = some (conn, o)) (hok : step h m e = .ok (m', out)) :
    ∃ uuid, out = greeting h conn o uuid := by
  cases e with
  | newIncomingConnection c =>
    rw [opens] at ho
    split at ho
    · cases ho
    · rename_i hnew
      obtain ⟨rfl, rfl⟩ := Prod.mk.inj (Option.some.inj ho)
      rw [step, if_neg hnew] at hok
      exact ⟨"", (Prod.mk.inj (Except.ok.inj hok)).2.symm⟩
  | newOutgoingConnection c i uuid =>
    simp only [opens] at ho
    split at ho
    · cases ho
    · rename_i d hd
      split at ho
      · cases ho
      · rename_i hnew
        obtain ⟨rfl, rfl⟩ := Prod.mk.inj (Option.some.inj ho)
        simp only [step, hd, if_neg hnew] at hok
        refine ⟨uuid, (Prod.mk.inj (Except.ok.inj hok)).2.symm.trans ?_⟩
        -- the IDENT is written when the callback is on top already
        show sendIdent h _ c uuid = _
        rw [sendIdent, Router.add_modify, Router.add_conn_self]
        rfl
  | _ => cases ho

/-- Each step of the mesh is one of these; the cases are those of `step_does`, with what is written
    put to them. -/
theorem step_speaks {h : Host C} {m m' : Mesh C} {e : Event C} {out : List (Action C)}
    (hok : step h m e = .ok (m', out)) : Speaks h m e m' out := by
  have hdoes := step_does hok
  cases hdoes with
  | idle ho => exact .quiet ho rfl rfl fun c msg hin => by cases hin
  | issues jid cookie body he =>
    subst he
    exact .quiet rfl rfl rfl fun c msg hin => by cases List.mem_singleton.mp hin
  | dials d ho => exact .quiet ho rfl rfl fun c msg hin => by cases List.mem_singleton.mp hin
  | fails i he =>
    subst he
    exact .quiet rfl rfl rfl fun c msg hin => by cases hin
  | opened conn o _ _ ho hrouter =>
    obtain ⟨uuid, hout⟩ := opened_out ho hok
    exact .opened conn o uuid ho hrouter hout
  | accepts conn msgp uuid incoming cbs name he hopen hcbs hp =>
    exact .accepts conn msgp uuid incoming cbs name he hopen hcbs hp rfl rfl
  | closes conn _ he hout =>
    refine .quiet ?_ rfl rfl fun c msg hin => ?_
    · rcases he with rfl | rfl | ⟨msgp, uuid, rfl⟩ <;> rfl
    · rcases hout with rfl | rfl
      · cases hin
      · cases List.mem_singleton.mp hin
  | releases conn he =>
    subst he
    exact .quiet rfl rfl rfl fun c msg hin => by cases hin

end Mesh

/-! ## What the queries write -/

namespace Queries

/-- Whom the queries write to, and what: a stop to all but the origin, a query to all, or to all but
    the one that asked, and a result to the one that asked.  Always the connection is ready. -/
inductive Sends (h : Host C) (q : Queries C) (e : Event C) (c : C) (m : Message) : Prop
  /-- a stop that is passed on, to all but its origin -/
  | stopped (r : Router C) (conn : C) (he : e = .received r conn m) (ht : m.type = .querystop)
      (ho : q.getQueryOrigin r m.guid = some conn) (hready : (r.conn c).ready = true)
      (hne : c ≠ conn)
  /-- `start_resolving`, to all but the origin -/
  | resolved (r : Router C) (qid : Qid) (uuid : String) (x : Query)
      (he : e = .startResolving r qid uuid) (hx : q.queries qid = some x)
      (hm : m = queryMessage h.js x.rq uuid) (hready : (r.conn c).ready = true)
      (hne : q.getQueryOrigin r x.rq.id ≠ some c)
  /-- `fwd_search`, to all but the connection the timer holds -/
  | forwarded (r : Router C) (i : Nat) (err : Bool) (t : Timer C) (he : e = .fwdSearch r i err)
      (ht : q.timers[i]? = some t) (hm : m = t.msgp) (hready : (r.conn c).ready = true)
      (hne : c ≠ t.conn)
  /-- `send_response`, to the origin -/
  | answered (r : Router C) (i : Nat) (uuid : String) (cb : Callback) (it : ResolvedItem)
      (he : e = .callback r i uuid) (hcb : q.callbacks[i]? = some cb)
      (ho : q.qidorigins cb.qid = some c) (hit : q.items[cb.item]? = some it)
      (hm : m = queryResultMessage h.js cb.qid (it.rmJsonValue "url") uuid)

/-- What a step of the queries writes has one of these reasons; the events that write nothing have
    no case. -/
theorem sends_of_effect {h : Host C} {q q' : Queries C} {e : Event C} {out : List (Action C)}
    (heff : Effect h q e q' out) {c : C} {m : Message} (hin : .asyncWrite c m ∈ out) :
    Sends h q e c m := by
  -- three of the handlers broadcast, and a broadcast goes to ready connections only
  have hbroadcast : ∀ {r : Router C} {msg : Message} {ex : Option C},
      .asyncWrite c m ∈ h.lib.broadcastExcept r msg ex →
        m = msg ∧ (r.conn c).ready = true ∧ some c ≠ ex := by
    intro r msg ex hin
    obtain ⟨d, -, hready, hne, he⟩ := Libf2f.mem_broadcastExcept.mp hin
    obtain ⟨rfl, rfl⟩ := Action.asyncWrite.inj he
    exact ⟨rfl, hready, hne⟩
  cases heff with
  | idle | called | solved | dropped => cases hin
  | noted r conn msgp out hadm hquery hresult hout =>
    rcases hout with rfl | rfl
    · cases hin
    · cases List.mem_singleton.mp hin
  | stopped r conn msgp hadm ht hex ho =>
    obtain ⟨rfl, hready, hne⟩ := hbroadcast hin
    exact .stopped r conn rfl ht ho hready fun hc => hne (congrArg some hc)
  | forwarded r i err t out ht hout =>
    rcases fwdSearch_ok hout with rfl | rfl
    · cases hin
    · obtain ⟨rfl, hready, hne⟩ := hbroadcast hin
      exact .forwarded r i err t rfl ht rfl hready fun hc => hne (congrArg some hc)
  | resolved r k uuid x hx =>
    obtain ⟨rfl, hready, hne⟩ := hbroadcast hin
    exact .resolved r k uuid x rfl hx rfl hready hne.symm
  | answered r i uuid cb hcb hrel =>
    -- without an origin, or without the item, `send_response` writes nothing
    rcases ho : getQueryOrigin { q with callbacks := q.callbacks.eraseIdx i } r cb.qid with _ | d
    · rw [sendResponse_none uuid ho] at hin
      cases hin
    · rcases hit : q.items[cb.item]? with _ | it
      · unfold sendResponse at hin
        simp only [ho, hit] at hin
        cases hin
      · rw [sendResponse_some uuid ho hit] at hin
        obtain ⟨rfl, rfl⟩ := Action.asyncWrite.inj (List.mem_singleton.mp hin)
        exact .answered r i uuid cb it rfl hcb (getQueryOrigin_eq_some.mp ho).1 hit rfl
  | accepted | reported | localQuery | reportResults => cases List.mem_singleton.mp hin

/-- A timer was pending, or has just been set for the QUERY that came in.  So what a timer forwards
    has been received. -/
theorem timer_received {h : Host C} {q q' : Queries C} {e : Event C} {out : List (Action C)}
    (heff : Effect h q e q' out) {t : Timer C} (ht : t ∈ q'.timers) :
    t ∈ q.timers ∨ ∃ r, e = .received r t.conn t.msgp := by
  cases heff with
  | accepted r conn msgp rq =>
    simp only [accept, note_timers] at ht
    rcases List.mem_append.mp ht with ht | ht
    · exact Or.inl ht
    · obtain rfl := List.mem_singleton.mp ht
      exact Or.inr ⟨r, rfl⟩
  | noted r conn msgp => exact Or.inl (note_timers q msgp ▸ ht)
  | stopped r conn msgp => exact Or.inl (note_timers q msgp ▸ ht)
  | reported r conn msgp =>
    rw [(reportResults_frame ..).2.2, note_timers] at ht
    exact Or.inl ht
  | forwarded => exact Or.inl (List.mem_of_mem_eraseIdx ht)
  | answered =>
    rw [(sendResponse_frame ..).1] at ht
    exact Or.inl ht
  | reportResults =>
    rw [(reportResults_frame ..).2.2] at ht
    exact Or.inl ht
  | _ => exact Or.inl ht

end Queries

/-! ## What the transfers write

  Adaptors write what they are called with, to the connection they were made for; apart from them
  there is only the SIDREQUEST of `start_reply`. -/

namespace Transfers

omit [LinearOrder C] in
/-- The connection and the sid of an adaptor: its constructor fixes them, and no call changes
    them. -/
def fixed (as : List (GreynetAsyncadaptor C)) : List (C × Sid) := as.map fun a => (a.conn, a.sid)

omit [LinearOrder C] in
/-- One of them is there for a connection and a sid exactly if an adaptor has the two. -/
theorem mem_fixed {as : List (GreynetAsyncadaptor C)} {c : C} {sid : Sid} :
    (c, sid) ∈ fixed as ↔ ∃ a ∈ as, a.conn = c ∧ a.sid = sid := by
  rw [fixed, List.mem_map]
  exact exists_congr fun a => and_congr_right fun _ => Prod.mk_inj

omit [LinearOrder C] in
/-- A call leaves them as they are, ... -/
theorem fixed_receive (a : GreynetAsyncadaptor C) (call : AdaptorCall) :
    ((a.receive call).1.conn, (a.receive call).1.sid) = (a.conn, a.sid) := by
  cases call <;> rfl

omit [LinearOrder C] in
/-- ... also in the list of all adaptors. -/
theorem fixed_speak (as : List (GreynetAsyncadaptor C)) (x : AdaptorId × AdaptorCall) :
    fixed (speak as x).1 = fixed as := by
  obtain ⟨n | k, call⟩ := x
  · simp only [speak]
    split
    · rfl
    · rename_i a ha
      rw [fixed, List.map_set, fixed_receive, fixed]
      refine List.ext_getElem? fun i => ?_
      rw [List.getElem?_set]
      split
      · rename_i hi
        subst hi
        split
        · rw [List.getElem?_map, ha]
          rfl
        · rename_i hlen
          rw [List.getElem?_eq_none (by omega)]
      · rfl
  · rfl

/-- A message of a stream, of one of these adaptors: it goes to its connection and has its sid for a
    guid. -/
def OfAdaptor (l : List (C × Sid)) (c : C) (m : Message) : Prop :=
  m.type ∈ [MsgType.siddata, .sidfail, .sidheaders] ∧ (c, m.guid) ∈ l

omit [LinearOrder C] in
/-- What an adaptor sends at a call is such a message, whatever the call is. -/
theorem writes_speak (as : List (GreynetAsyncadaptor C)) (x : AdaptorId × AdaptorCall) :
    ∀ y ∈ (speak as x).2, ∀ c m, y = .asyncWrite c m → OfAdaptor (fixed as) c m := by
  rintro y hy c m rfl
  obtain ⟨n | k, call⟩ := x
  · simp only [speak] at hy
    split at hy
    · cases List.mem_singleton.mp hy
    · rename_i a ha
      rcases List.mem_cons.mp hy with hy | hy
      · cases hy
      · obtain ⟨msg, he, hguid, hty⟩ := receive_writes a call _ hy
        obtain ⟨rfl, rfl⟩ := Action.asyncWrite.inj he
        exact ⟨hty, mem_fixed.mpr ⟨a, List.mem_of_getElem? ha, rfl, hguid.symm⟩⟩
  · cases List.mem_singleton.mp hy

/-- The adaptors a script leaves are those there were, and the messages they send are all theirs. -/
theorem Plays.writes {t t' : Transfers C} {calls : List (AdaptorId × AdaptorCall)}
    {out : List (Action C)} (h : Plays t calls t' out) :
    fixed t'.adaptors = fixed t.adaptors ∧
      ∀ c m, .asyncWrite c m ∈ out → OfAdaptor (fixed t.adaptors) c m := by
  have hinv := Transducers.feed_invariant (f := speak (C := C))
    (J := fun as => fixed as = fixed t.adaptors)
    (P := fun y => ∀ c m, y = .asyncWrite c m → OfAdaptor (fixed t.adaptors) c m)
    (fun as x has => ⟨(fixed_speak as x).trans has, fun y hy => has ▸ writes_speak as x y hy⟩)
    calls t.adaptors rfl
  rw [Plays] at h
  rw [h] at hinv
  exact ⟨hinv.1, fun c m hin => hinv.2 _ (List.mem_filter.mpr ⟨hin, rfl⟩) c m rfl⟩

/-- **What the transfers write**: what an adaptor sends, or the request of a transfer.  The handlers
    themselves write nothing; they call adaptors. -/
theorem step_writes {t t' : Transfers C} {e : Event C} {out : List (Action C)} (hs : t.Sound)
    (hok : step t e = .ok (t', out)) {c : C} {m : Message} (hin : .asyncWrite c m ∈ out) :
    OfAdaptor (fixed t.adaptors) c m ∨ ∃ ss aa uuid, e = .startReply ss aa true uuid ∧
      c = ss.conn ∧ m = generalMessage .sidrequest ss.sid uuid := by
  rcases step_plays hs hok with h | ⟨ss, aa, uuid, he, -, rfl⟩ | ⟨conn, sid, -, -, rfl⟩
  · exact Or.inl (h.writes.2 c m hin)
  · obtain ⟨rfl, rfl⟩ := Action.asyncWrite.inj (List.mem_singleton.mp hin)
    exact Or.inr ⟨ss, aa, uuid, he, rfl, rfl⟩
  · cases hin

/-- An adaptor was there, or has just been made.  None is ever removed here, for whoever holds one
    may call it later. -/
theorem step_fixed {t t' : Transfers C} {e : Event C} {out : List (Action C)} (hs : t.Sound)
    (hok : step t e = .ok (t', out)) :
    fixed t'.adaptors = fixed t.adaptors ∨ ∃ conn sid, e = .newAdaptor conn sid ∧
      fixed t'.adaptors = fixed t.adaptors ++ [(conn, sid)] := by
  rcases step_plays hs hok with h | ⟨ss, aa, uuid, -, hsame, -⟩ | ⟨conn, sid, he, hnew, -⟩
  · exact Or.inl h.writes.1
  · exact Or.inl (congrArg fixed hsame)
  · exact Or.inr ⟨conn, sid, he, by rw [hnew, fixed, List.map_append]; rfl⟩

end Transfers

namespace Node

/-! ## Why a message is written

  The reasons are those of the three parts, in the node's own words.  One that remembers something
  from an earlier event, as the origin of a query or the connection of an adaptor, says where it is
  remembered. -/

/-- A stream is asked for by a SIDREQUEST, past the gate, with the sid for a payload. -/
def AsksFor (n : Node C) (e : Event C) (c : C) (sid : Sid) : Prop :=
  ∃ req answer uuid, e = .received c req answer uuid ∧ n.PastGate c ∧ req.type = .sidrequest ∧
    req.payload = sid

/-- Why a message that is no IDENT is written to `c`.  Each reason has the event it is written at,
    but for a stream's: any call of an adaptor's may send a message of that, as long as it was asked
    for. -/
inductive Because (host : Host C) (n : Node C) (e : Event C) (c : C) (m : Message) : Prop
  /-- a PING came in on it -/
  | pong (ping : Message) (answer : SsAnswer) (uuid : String)
      (he : e = .received c ping answer uuid) (hgate : n.PastGate c) (ht : ping.type = .ping)
      (hm : m = pongMessage uuid)
  /-- the query's origin stops it, and everybody else is told -/
  | stop (conn : C) (answer : SsAnswer) (uuid : String) (he : e = .received conn m answer uuid)
      (hgate : n.PastGate conn) (ht : m.type = .querystop)
      (ho : n.queries.getQueryOrigin n.mesh.router m.guid = some conn)
      (hready : (n.mesh.router.conn c).ready = true) (hne : c ≠ conn)
  /-- playdar has a query resolved: everybody but its origin is asked -/
  | resolve (qid : Qid) (uuid : String) (x : Query) (he : e = .startResolving qid uuid)
      (hx : n.queries.queries qid = some x) (hm : m = queryMessage host.js x.rq uuid)
      (hready : (n.mesh.router.conn c).ready = true)
      (hne : n.queries.getQueryOrigin n.mesh.router x.rq.id ≠ some c)
  /-- the timer of a QUERY runs out: it is passed on to everybody else -/
  | forward (i : Nat) (err : Bool) (t : Timer C) (he : e = .fwdSearch i err)
      (ht : n.queries.timers[i]? = some t) (hm : m = t.msgp)
      (hready : (n.mesh.router.conn c).ready = true) (hne : c ≠ t.conn)
  /-- a result goes to the origin of its query -/
  | result (i : Nat) (uuid : String) (cb : Callback) (it : ResolvedItem)
      (he : e = .callback i uuid) (hcb : n.queries.callbacks[i]? = some cb)
      (ho : n.queries.qidorigins cb.qid = some c) (hit : n.queries.items[cb.item]? = some it)
      (hm : m = queryResultMessage host.js cb.qid (it.rmJsonValue "url") uuid)
  /-- a stream that was asked for on it, or its refusal -/
  | stream (ht : m.type ∈ [MsgType.siddata, .sidfail, .sidheaders])
      (hasked : (c, m.guid) ∈ Transfers.fixed n.transfers.adaptors ∨ n.AsksFor e c m.guid)
  /-- playdar wants a song of its -/
  | request (ss : SsGreynet C) (aa : AdaptorId) (uuid : String) (he : e = .startReply ss aa uuid)
      (hc : c = ss.conn) (hready : (n.mesh.router.conn c).ready = true)
      (hm : m = generalMessage .sidrequest ss.sid uuid)
  /-- another peer wants a song of its -/
  | pass (conn : C) (req : Message) (url : String) (oid : Nat) (uuid : String) (ss : SsGreynet C)
      (he : e = .received conn req (.greynet url oid) uuid) (hgate : n.PastGate conn)
      (ht : req.type = .sidrequest) (hss : ssFactory host n.mesh.router url oid = some ss)
      (hc : c = ss.conn) (hready : (n.mesh.router.conn c).ready = true)
      (hm : m = generalMessage .sidrequest ss.sid uuid)

/-- Every message among some actions has a reason, and so has every adaptor then: it was there
    before, or its stream has just been asked for. -/
structure Reasons (host : Host C) (n : Node C) (e : Event C) (n' : Node C)
    (out : List (Action C)) : Prop where
  writes : ∀ c m, .asyncWrite c m ∈ out → Because host n e c m
  adaptor : ∀ c sid, (c, sid) ∈ Transfers.fixed n'.transfers.adaptors →
    (c, sid) ∈ Transfers.fixed n.transfers.adaptors ∨ n.AsksFor e c sid

/-- Where nothing is written and the adaptors are as before there is nothing to explain. -/
theorem Reasons.silent {host : Host C} {n n' : Node C} {e : Event C} {out : List (Action C)}
    (ht : n'.transfers = n.transfers) (hout : ∀ c m, .asyncWrite c m ∉ out) :
    Reasons host n e n' out :=
  ⟨fun c m hin => absurd hin (hout c m), fun _ _ hin => Or.inl (ht ▸ hin)⟩

/-- What the queries see of an event.  Their messages have reasons of their own (`Queries.Sends`),
    which become the node's one by one. -/
theorem reasons_queries {host : Host C} {n n' : Node C} {e : Event C} {q : Queries C}
    {qe : Queries.Event C} {out : List (Action C)} (hqe : n.queryEvent e = some qe)
    (ht : n'.transfers = n.transfers) (hok : n.queries.step host qe = .ok (q, out)) :
    Reasons host n e n' out := by
  refine ⟨fun c m hin => ?_, fun c sid hin => Or.inl (ht ▸ hin)⟩
  -- what the queries see is what the node's event gives them to see
  have hseen := seenAs_of_queryEvent hqe
  cases Queries.sends_of_effect (Queries.step_effect hok) hin with
  | stopped r conn he hty ho hready hne =>
    subst he
    obtain ⟨rfl, hopen, answer, uuid, rfl⟩ := hseen
    rw [queryEvent] at hqe
    split at hqe
    · rename_i hgate
      exact .stop conn answer uuid rfl ⟨hgate.1, hgate.2⟩ hty ho hready hne
    · cases hqe
  | resolved r qid uuid x he hx hm hready hne =>
    subst he
    obtain ⟨rfl, rfl⟩ := hseen
    exact .resolve qid uuid x rfl hx hm hready hne
  | forwarded r i err t he hti hm hready hne =>
    subst he
    obtain ⟨rfl, rfl⟩ := hseen
    exact .forward i err t rfl hti hm hready hne
  | answered r i uuid cb it he hcb ho hit hm =>
    subst he
    obtain ⟨rfl, rfl⟩ := hseen
    exact .result i uuid cb it rfl hcb ho hit hm

/-- An event of the transfers; they may find an adaptor more than there was, where
    `handle_sidrequest` has just made one. -/
theorem reasons_transfers {host : Host C} {n n' : Node C} {e : Event C} {t t' : Transfers C}
    {te : Transfers.Event C} {out : List (Action C)} (hs : t.Sound)
    (hfixed : ∀ c sid, (c, sid) ∈ Transfers.fixed t.adaptors →
      (c, sid) ∈ Transfers.fixed n.transfers.adaptors ∨ n.AsksFor e c sid)
    (hstart : ∀ ss aa uuid, te = .startReply ss aa true uuid →
      Because host n e ss.conn (generalMessage .sidrequest ss.sid uuid))
    (hnew : ∀ conn sid, te ≠ .newAdaptor conn sid) (hn' : n'.transfers = t')
    (hok : t.step te = .ok (t', out)) : Reasons host n e n' out := by
  refine ⟨fun c m hin => ?_, fun c sid hin => ?_⟩
  · rcases Transfers.step_writes hs hok hin with ⟨hty, hof⟩ | ⟨ss, aa, uuid, he, rfl, rfl⟩
    · exact .stream hty (hfixed c m.guid hof)
    · exact hstart ss aa uuid he
  · rcases Transfers.step_fixed hs hok with hsame | ⟨conn, sid', he, -⟩
    · exact hfixed c sid (hsame ▸ hn' ▸ hin)
    · exact absurd he (hnew conn sid')

/-- `handle_sidrequest`; `n₁` has noted the message.  It makes an adaptor first and calls it, or
    starts a transfer that will, so its messages are those of the request. -/
theorem reasons_handleSidrequest {host : Host C} {n n₁ n' : Node C} {conn : C} {msgp : Message}
    {answer : SsAnswer} {uuid : String} {out : List (Action C)} (hs : n.transfers.Sound)
    (hmesh : n₁.mesh = n.mesh) (htransfers : n₁.transfers = n.transfers)
    (hgate : n.PastGate conn) (hty : msgp.type = .sidrequest)
    (hok : n₁.handleSidrequest host conn msgp answer uuid = .ok (n', out)) :
    Reasons host n (.received conn msgp answer uuid) n' out := by
  have hasks : n.AsksFor (.received conn msgp answer uuid) conn msgp.payload :=
    ⟨msgp, answer, uuid, rfl, hgate, hty, rfl⟩
  have hgone : ∀ {n₂ : Node C}, n₂.transfers = n.transfers →
      Reasons host n (.received conn msgp answer uuid) n₂ [.asyncWrite conn
        (generalMessage .sidheaders "status\t404\n" msgp.payload)] := by
    intro n₂ hsame
    refine ⟨fun c m hin => ?_, fun c sid hin => Or.inl (hsame ▸ hin)⟩
    obtain ⟨rfl, rfl⟩ := Action.asyncWrite.inj (List.mem_singleton.mp hin)
    exact .stream (by simp [generalMessage]) (Or.inr hasks)
  -- the adaptor is made first, whoever has the song
  have hmade : ∀ c sid, (c, sid) ∈ Transfers.fixed
      (n₁.transfers.adaptors ++ [{ sid := msgp.payload, conn := conn }]) →
      (c, sid) ∈ Transfers.fixed n.transfers.adaptors ∨
        n.AsksFor (.received conn msgp answer uuid) c sid := by
    intro c sid hin
    rw [htransfers, Transfers.fixed, List.map_append] at hin
    rcases List.mem_append.mp hin with hin | hin
    · exact Or.inl hin
    · obtain ⟨rfl, rfl⟩ := Prod.mk.inj (List.mem_singleton.mp hin)
      exact Or.inr hasks
  simp only [handleSidrequest] at hok
  split at hok
  · obtain ⟨rfl, rfl⟩ := Prod.mk.inj (Except.ok.inj hok)
    exact hgone htransfers
  · obtain ⟨rfl, rfl⟩ := Prod.mk.inj (Except.ok.inj hok)
    exact ⟨fun c m hin => (by cases hin), hmade⟩
  · rename_i url oid
    split at hok
    · obtain ⟨rfl, rfl⟩ := Prod.mk.inj (Except.ok.inj hok)
      exact hgone htransfers
    · rename_i ss hss
      obtain ⟨t, hstart, rfl⟩ := onTransfers_ok hok
      have hsound : Transfers.Sound { n₁.transfers with
          adaptors := n₁.transfers.adaptors ++ [{ sid := msgp.payload, conn := conn }] } :=
        Transfers.sound_step (htransfers ▸ hs)
          (rfl : n₁.transfers.step (.newAdaptor conn msgp.payload) = _)
      have hstep : Transfers.step _ (.startReply ss _ _ uuid) = .ok (t, out) := hstart
      refine reasons_transfers hsound hmade (fun ss' aa uuid' he => ?_)
        (fun _ _ he => by cases he) rfl hstep
      obtain ⟨rfl, -, hflag, rfl⟩ := Transfers.Event.startReply.inj he
      rw [hmesh] at hss hflag
      exact .pass conn msgp url oid uuid ss rfl hgate hty hss rfl (host.lib.ready_set hflag) rfl

/-- `message_received`: one case for each type of message. -/
theorem reasons_messageReceived {host : Host C} {n n' : Node C} {conn : C} {msgp : Message}
    {answer : SsAnswer} {uuid : String} {out : List (Action C)} (hs : n.transfers.Sound)
    (hgate : n.PastGate conn)
    (hok : n.messageReceived host conn msgp answer uuid = .ok (n', out)) :
    Reasons host n (.received conn msgp answer uuid) n' out := by
  -- the three messages of a stream are alike: each is one step of the transfers
  have hstream : ∀ te, (∀ ss aa uuid, te ≠ .startReply ss aa true uuid) →
      (∀ c sid, te ≠ .newAdaptor c sid) → n.transfers.step te = .ok (n'.transfers, out) →
      Reasons host n (.received conn msgp answer uuid) n' out := fun te hstart hnew hstep =>
    reasons_transfers hs (fun c sid hin => Or.inl hin)
      (fun ss aa uuid he => absurd he (hstart ss aa uuid)) hnew rfl hstep
  unfold messageReceived at hok
  split at hok
  · rename_i hadm
    -- each type has its own reason to write, or none
    cases hty : msgp.type with
    | query | queryresult | querystop =>
      rw [hty] at hok
      obtain ⟨q, hq, rfl⟩ := onQueries_ok hok
      have hrec : n.queries.step host (.received n.mesh.router conn msgp) = .ok (q, out) := by
        simp only [Queries.step, Queries.received, if_pos hadm, hty]
        exact hq
      exact reasons_queries (if_pos ⟨hgate.isOpen, hgate.callback⟩) rfl hrec
    | sidrequest =>
      rw [hty] at hok
      obtain ⟨n₁, hn₁⟩ : ∃ n₁ : Node C, n₁ = { n with queries := n.queries.note msgp } := ⟨_, rfl⟩
      have hnoted : n₁.handleSidrequest host conn msgp answer uuid = .ok (n', out) := hn₁ ▸ hok
      exact reasons_handleSidrequest hs (hn₁ ▸ rfl) (hn₁ ▸ rfl) hgate hty hnoted
    | siddata =>
      rw [hty] at hok
      obtain ⟨t, ht, rfl⟩ := onTransfers_ok hok
      exact hstream (.siddata conn msgp) (fun _ _ _ he => by cases he) (fun _ _ he => by cases he)
        ht
    | sidheaders =>
      rw [hty] at hok
      obtain ⟨t, ht, rfl⟩ := onTransfers_ok hok
      exact hstream (.sidheaders conn msgp) (fun _ _ _ he => by cases he)
        (fun _ _ he => by cases he) ht
    | sidfail =>
      rw [hty] at hok
      obtain ⟨t, ht, rfl⟩ := onTransfers_ok hok
      exact hstream (.sidfail conn msgp) (fun _ _ _ he => by cases he) (fun _ _ he => by cases he)
        ht
    | ping =>
      rw [hty] at hok
      obtain ⟨rfl, rfl⟩ := Prod.mk.inj (Except.ok.inj hok)
      refine ⟨fun c m hin => ?_, fun c sid hin => Or.inl hin⟩
      obtain ⟨rfl, rfl⟩ := Action.asyncWrite.inj (List.mem_singleton.mp hin)
      exact .pong msgp answer uuid rfl hgate hty rfl
    | pong | ident | unknown _ =>
      rw [hty] at hok
      obtain ⟨rfl, rfl⟩ := Prod.mk.inj (Except.ok.inj hok)
      exact .silent rfl fun c m hin => by cases hin
  · obtain ⟨rfl, rfl⟩ := Prod.mk.inj (Except.ok.inj hok)
    exact .silent rfl fun c m hin => by cases hin

/-! ## What one event writes

  The IDENT of a greeting or a reply is the only message that goes out on a connection that is not
  ready.  All the others have reasons, and these say that the connection is ready or was given when
  it was. -/

/-- What an event does to the connections, and what it writes: the mesh's IDENTs, or messages with
    reasons, which leave the connections as they are or close some. -/
inductive Speaks (host : Host C) (n : Node C) (e : Event C) (n' : Node C) (out : List (Action C)) :
    Prop
  /-- a new connection; a dialled one is greeted -/
  | opened (conn : C) (o : Option Dial) (me : Mesh.Event C) (uuid : String) (he : e = .mesh me)
      (ho : n.mesh.opens me = some (conn, o))
      (hrouter : n'.mesh.router = n.mesh.router.add conn (Mesh.fresh o))
      (hrest : n' = { n with mesh := n'.mesh }) (hout : out = Mesh.greeting host conn o uuid)
  /-- an IDENT is accepted, and answered on an incoming connection -/
  | accepted (conn : C) (msgp : Message) (answer : SsAnswer) (uuid name : String)
      (incoming : Bool) (he : e = .received conn msgp answer uuid)
      (hexp : n.Expecting conn incoming) (hp : Mesh.Passes host n.mesh msgp incoming name)
      (hrouter : n'.mesh.router =
        n.mesh.router.modify conn (Mesh.identified incoming name))
      (hrest : n' = { n with mesh := n'.mesh })
      (hout : out = Mesh.identReply host conn incoming uuid)
  | kept (hk : OnlyCloses n n') (hout : Reasons host n e n' out)

/-- **Every event greets, or answers an IDENT, or has reasons for what it writes.**  The first two
    are the mesh's, and where neither happens the IDENTs are out of the question. -/
theorem step_speaks {host : Host C} {n n' : Node C} {e : Event C} {out : List (Action C)}
    (hs : n.transfers.Sound) (hok : step host n e = .ok (n', out)) :
    Speaks host n e n' out := by
  -- whatever opens no connection and accepts nothing only closes some
  have hkept : Reasons host n e n' out → (∀ me, e ≠ .mesh me) →
      (∀ conn msgp answer uuid, e ≠ .received conn msgp answer uuid) →
      Speaks host n e n' out := by
    intro hout hno hpast
    rcases step_moves hok with ⟨_, _, me, he, -⟩ | ⟨_, _, _, _, _, _, he, -⟩ | hk
    · exact absurd he (hno me)
    · exact absurd he (hpast _ _ _ _)
    · exact .kept hk hout
  have hidle : Except.ok (n, []) = Except.ok (ε := Fault) (n', out) → Speaks host n e n' out := by
    intro hx
    obtain ⟨rfl, rfl⟩ := Prod.mk.inj (Except.ok.inj hx)
    exact .kept (.of_mesh rfl) (.silent rfl fun c m hin => by cases hin)
  have hqueries : ∀ qe, n.queryEvent e = some qe →
      n.onQueries (n.queries.step host qe) = .ok (n', out) → Reasons host n e n' out := by
    intro qe hqe hx
    obtain ⟨q, hq, rfl⟩ := onQueries_ok hx
    exact reasons_queries hqe rfl hq
  have htransfers : ∀ te, (∀ ss aa uuid, te = .startReply ss aa true uuid →
      Because host n e ss.conn (generalMessage .sidrequest ss.sid uuid)) →
      (∀ c sid, te ≠ .newAdaptor c sid) →
      n.onTransfers (n.transfers.step te) = .ok (n', out) → Reasons host n e n' out := by
    intro te hstart hnew hx
    obtain ⟨t, ht, rfl⟩ := onTransfers_ok hx
    exact reasons_transfers hs (fun c sid hin => Or.inl hin) hstart hnew rfl ht
  cases e with
  | mesh me =>
    by_cases hrec : ∃ conn msgp uuid, me = .received conn msgp uuid
    · -- messages come as `Event.received`
      obtain ⟨conn, msgp, uuid, rfl⟩ := hrec
      exact hidle hok
    · rcases step_meshEvent host n me with hon | hon
      · exact hidle (hon ▸ hok)
      · rw [hon] at hok
        obtain ⟨m, hm, rfl⟩ := onMesh_ok hok
        cases Mesh.step_speaks hm with
        | opened conn o uuid ho hrouter hout =>
          exact .opened conn o me uuid rfl ho hrouter rfl hout
        | accepts conn msgp uuid incoming cbs name he => exact absurd ⟨conn, msgp, uuid, he⟩ hrec
        | quiet ho hconn hknown hout =>
          exact .kept ⟨hconn, hknown, (Mesh.router_step hm ho).isOpen⟩ (.silent rfl hout)
  | received conn msgp answer uuid =>
    simp only [step] at hok
    split at hok
    · rename_i hopen
      split at hok
      · rename_i incoming cbs hcbs
        obtain ⟨m, hm, rfl⟩ := onMesh_ok hok
        cases Mesh.step_speaks hm with
        | opened conn' o uuid' ho => cases ho
        | accepts conn' msgp' uuid' incoming' cbs' name he hopen' hcbs' hp hmesh hout =>
          obtain ⟨rfl, rfl, rfl⟩ := Mesh.Event.received.inj he
          obtain ⟨rfl, -⟩ := List.cons.inj (hcbs.symm.trans hcbs')
          exact .accepted conn msgp answer uuid name incoming rfl ⟨hopen, by rw [hcbs]; rfl⟩ hp
            (congrArg Mesh.router hmesh) rfl hout
        | quiet ho hconn hknown hout =>
          exact .kept ⟨hconn, hknown, (Mesh.router_step hm ho).isOpen⟩ (.silent rfl hout)
      · rename_i hcbs
        exact .kept (messageReceived_closes hok) (reasons_messageReceived hs ⟨hopen, hcbs⟩ hok)
    · exact hidle hok
  | connectionTerminated conn =>
    simp only [step] at hok
    split at hok
    · exact hidle hok
    · exact hkept (htransfers (.connectionTerminated conn) (fun _ _ _ he => by cases he)
        (fun _ _ he => by cases he) hok) (fun _ he => by cases he) fun _ _ _ _ he => by cases he
  | startReply ss aa uuid =>
    refine hkept (htransfers (.startReply ss aa _ uuid) (fun ss' aa' uuid' he => ?_)
      (fun _ _ he => by cases he) hok) (fun _ he => by cases he) fun _ _ _ _ he => by cases he
    obtain ⟨rfl, rfl, hflag, rfl⟩ := Transfers.Event.startReply.inj he
    exact .request ss aa uuid rfl rfl (host.lib.ready_set hflag) rfl
  | timerExpires ss =>
    exact hkept (htransfers (.timerExpires ss) (fun _ _ _ he => by cases he)
      (fun _ _ he => by cases he) hok) (fun _ he => by cases he) fun _ _ _ _ he => by cases he
  | timeoutCb ss =>
    exact hkept (htransfers (.timeoutCb ss) (fun _ _ _ he => by cases he)
      (fun _ _ he => by cases he) hok) (fun _ he => by cases he) fun _ _ _ _ he => by cases he
  | adaptorCall aa call =>
    exact hkept (htransfers (.adaptorCall aa call) (fun _ _ _ he => by cases he)
      (fun _ _ he => by cases he) hok) (fun _ he => by cases he) fun _ _ _ _ he => by cases he
  | _ =>
    simp only [step] at hok
    exact hkept (hqueries _ rfl hok) (fun _ he => by cases he) fun _ _ _ _ he => by cases he

end Node

end Greynet
