/-
  What a step of the node does for the queries.

  The queries share the node with the mesh and the transfers, and their handlers run inside
  `message_received`.  Here is what can be said of any step of the node, seen from them.

  1. `Queries.Writes` — every message the queries write comes from one of four places;
     `Queries.Came` — how a query of playdar's came to be what it is after a step.
  2. `Queries.Own` — the kinds of actions the queries take.
  3. `Node.ofQueries` — the actions that only the queries take; `step_forQueries`: a step of the
     node takes those that a step of the queries takes, and no others.
  4. `Node.SeenAs` — which event of the node the queries have seen.

  The point of 2 and 3 is that a run of the node is a run of the queries with gaps.  A PONG and a
  SIDHEADERS are written in steps that the queries see too, since the duplicate filter is theirs; so
  the actions of a step cannot all be theirs, and those that are must be told by their kind.
-/
import Greynet.Malformed
import Greynet.Relay
import Greynet.TransferCalls

namespace Greynet

/-! ## What the queries write

  Each message with where it comes from: an event, and what was remembered of an earlier one. -/

namespace Queries

variable {C : Type} [DecidableEq C]

/-- The origin found: the one recorded, if it is still alive.  So `send_response` has somebody to
    write to exactly then, whether or not the connection is still open. -/
theorem getQueryOrigin_eq_some {q : Queries C} {r : Router C} {qid : Qid} {c : C} :
    q.getQueryOrigin r qid = some c ↔ q.qidorigins qid = some c ∧ c ∉ r.expired := by
  unfold getQueryOrigin Router.lock
  rcases q.qidorigins qid with _ | d
  · simp
  · by_cases hd : d ∈ r.expired
    · simp only [if_pos hd, reduceCtorEq, Option.some.injEq, false_iff, not_and, not_not]
      rintro rfl
      exact hd
    · simp only [if_neg hd, Option.some.injEq]
      exact ⟨fun h => ⟨h, h ▸ hd⟩, And.left⟩

/-- What the queries can do.  They write on connections, close them, and hand queries and results to
    playdar; they neither dial nor touch a transfer. -/
def Own : Action C → Prop
  | .asyncWrite _ _ | .fin _ | .dispatch _ | .reportResults _ _ => True
  | _ => False

/-- No effect of theirs does anything else.  The broadcasts are all of one message, so it is enough
    to look at what a broadcast is made of. -/
theorem own_of_effect {h : Host C} {q q' : Queries C} {e : Event C} {out : List (Action C)}
    (heff : Effect h q e q' out) : ∀ a ∈ out, Own a := by
  have hbroadcast : ∀ (r : Router C) (m : Message) (ex : Option C),
      ∀ a ∈ h.lib.broadcastExcept r m ex, Own a := by
    intro r m ex a hin
    obtain ⟨d, -, -, -, rfl⟩ := Libf2f.mem_broadcastExcept.mp hin
    exact trivial
  intro a hin
  cases heff with
  | idle | called | solved | dropped => cases hin
  | noted r conn msgp out hadm hquery hresult hout =>
    rcases hout with rfl | rfl
    · cases hin
    · rw [List.mem_singleton.mp hin]
      exact trivial
  | stopped r conn msgp => exact hbroadcast _ _ _ a hin
  | forwarded r i err t out ht hout =>
    rcases fwdSearch_ok hout with rfl | rfl
    · cases hin
    · exact hbroadcast _ _ _ a hin
  | resolved r k uuid x => exact hbroadcast _ _ _ a hin
  | answered r i uuid cb hcb hrel =>
    rcases (sendResponse_frame h { q with callbacks := q.callbacks.eraseIdx i } r cb.qid cb.item
      uuid).2 with hout | ⟨conn, msgp, hout⟩
    · rw [hout] at hin
      cases hin
    · rw [hout] at hin
      rw [List.mem_singleton.mp hin]
      exact trivial
  | accepted | reported | localQuery | reportResults =>
    rw [List.mem_singleton.mp hin]
    exact trivial

/-- Where a message written comes from.  Each constructor has what the handler knew when it wrote:
    who is connected and ready, what is pending, what has been recorded, and who is left out. -/
inductive Writes (h : Host C) (q : Queries C) (e : Event C) (c : C) (m : Message) : Prop
  /-- a stop that is passed on -/
  | stopped (r : Router C) (conn : C) (he : e = .received r conn m) (ht : m.type = .querystop)
  /-- `start_resolving`, to all but the origin -/
  | resolved (r : Router C) (qid : Qid) (uuid : String) (x : Query)
      (he : e = .startResolving r qid uuid) (hx : q.queries qid = some x)
      (hun : x.unresolved = true) (hm : m = queryMessage h.js x.rq uuid)
      (hopen : c ∈ r.connections)
      (hready : (r.conn c).ready = true) (hne : q.getQueryOrigin r x.rq.id ≠ some c)
  /-- `fwd_search`, to all but the connection the timer holds -/
  | forwarded (r : Router C) (i : Nat) (t : Timer C) (x : Query) (he : e = .fwdSearch r i false)
      (ht : q.timers[i]? = some t) (hm : m = t.msgp) (hx : q.queries t.qid = some x)
      (hrunning : x.solved = false ∧ x.stopped = false) (hopen : c ∈ r.connections)
      (hne : c ≠ t.conn)
  /-- `send_response`, to the origin -/
  | answered (r : Router C) (i : Nat) (uuid : String) (cb : Callback) (it : ResolvedItem)
      (he : e = .callback r i uuid) (hcb : q.callbacks[i]? = some cb)
      (ho : q.getQueryOrigin r cb.qid = some c)
      (hm : m = queryResultMessage h.js cb.qid it uuid)

/-- **Every message the queries write comes from one of these.**  The one handler with branches that
    write nothing is `fwd_search`, which is taken apart here once and for all. -/
theorem writes_of_effect {h : Host C} {q q' : Queries C} {e : Event C} {out : List (Action C)}
    (heff : Effect h q e q' out) {c : C} {m : Message} (hin : .asyncWrite c m ∈ out) :
    Writes h q e c m := by
  rcases heff with ⟨e, hb⟩ | ⟨r, conn, msgp, out, hadm, hquery, hresult, hout⟩ |
    ⟨r, conn, msgp, rq, hadm, ht, hrq, hnew, ho⟩ | ⟨r, conn, msgp, hadm, ht, hex, ho⟩ |
    ⟨r, conn, msgp, qid, rip, url, hadm, ht, hd⟩ | ⟨r, i, err, t, out, ht, hout⟩ |
    ⟨r, qid, uuid, x, hx, hun⟩ | ⟨r, i, uuid, cb, hcb, hrel⟩ | ⟨r, i, uuid, cb, hcb, hrel⟩ |
    ⟨rq, hnew⟩ | ⟨qid, item⟩ | ⟨qid⟩ | ⟨qid⟩
  · cases hin
  · rcases hout with rfl | rfl
    · cases hin
    · cases List.mem_singleton.mp hin
  · cases List.mem_singleton.mp hin
  · obtain ⟨d, -, -, -, he⟩ := Libf2f.mem_broadcastExcept.mp hin
    obtain ⟨rfl, rfl⟩ := Action.asyncWrite.inj he
    exact .stopped r conn rfl ht
  · cases List.mem_singleton.mp hin
  · -- a timer writes only what it forwards, and only for a query that is still running
    unfold fwdSearch at hout
    split at hout
    · rw [← Except.ok.inj hout] at hin
      cases hin
    · rename_i herr
      split at hout
      · cases hout
      · rename_i x hx
        split at hout
        · rw [← Except.ok.inj hout] at hin
          cases hin
        · rename_i hsolved
          split at hout
          · rw [← Except.ok.inj hout] at hin
            cases hin
          · rename_i hstopped
            rw [← Except.ok.inj hout] at hin
            obtain ⟨d, hd, -, hne, he⟩ := Libf2f.mem_broadcastExcept.mp hin
            obtain ⟨rfl, rfl⟩ := Action.asyncWrite.inj he
            obtain rfl : err = false := by simpa using herr
            exact .forwarded r i t x rfl ht rfl hx ⟨by simpa using hsolved, by simpa using hstopped⟩
              hd fun heq => hne (congrArg some heq)
  · obtain ⟨d, hd, hready, hne, he⟩ := Libf2f.mem_broadcastExcept.mp hin
    obtain ⟨rfl, rfl⟩ := Action.asyncWrite.inj he
    exact .resolved r qid uuid x rfl hx hun rfl hd hready (Ne.symm hne)
  · rcases ho : getQueryOrigin { q with callbacks := q.callbacks.eraseIdx i } r cb.qid with _ | d
    · rw [sendResponse_none uuid ho] at hin
      cases hin
    · rcases hit : q.items[cb.item]? with _ | it
      · have hnone : sendResponse h { q with callbacks := q.callbacks.eraseIdx i } r cb.qid cb.item
            uuid = ({ q with callbacks := q.callbacks.eraseIdx i }, []) := by
          unfold sendResponse
          simp only [ho, hit]
        rw [hnone] at hin
        cases hin
      · rw [sendResponse_some uuid ho hit] at hin
        obtain ⟨rfl, rfl⟩ := Action.asyncWrite.inj (List.mem_singleton.mp hin)
        exact .answered r i uuid cb _ rfl hcb ho rfl
  · cases hin
  · cases List.mem_singleton.mp hin
  · cases List.mem_singleton.mp hin
  · cases hin
  · cases hin

/-- How a query of playdar's came to be what it is after a step.  The converse of `query_stays`,
    which looks forward from a query that is there. -/
inductive Came (h : Host C) (q : Queries C) (e : Event C) (qid : Qid) (x' : Query) : Prop
  /-- it was there; only a stop from its origin stops it -/
  | kept (x : Query) (hx : q.queries qid = some x) (hl : x.Later x')
      (hstop : x'.stopped = true → x.stopped = true ∨ ∃ r conn msgp, e = .received r conn msgp ∧
        msgp.type = .querystop ∧ msgp.guid = qid ∧ q.getQueryOrigin r qid = some conn)
  /-- a peer asked -/
  | received (r : Router C) (conn : C) (msgp : Message) (rq : ResolverQuery)
      (he : e = .received r conn msgp) (ht : msgp.type = .query)
      (hrq : decodeQuery h.js h.playdar msgp = some rq) (hid : rq.id = qid)
      (hnew : q.queries qid = none) (hx' : x' = { rq, relayed := true })
  /-- playdar started it -/
  | started (rq : ResolverQuery) (he : e = .localQuery rq) (hid : rq.id = qid)
      (hnew : q.queries qid = none) (hx' : x' = { rq, relayed := false })

/-- It was there before, or it is new; and only a stop from its origin stops it.  The last part is
    why `kept` has a clause of its own on `stopped`: all other changes leave that flag alone. -/
theorem came_of_effect {h : Host C} {q q' : Queries C} {e : Event C} {out : List (Action C)}
    (heff : Effect h q e q' out) {qid : Qid} {x' : Query} (hx' : q'.queries qid = some x') :
    Came h q e qid x' := by
  -- three ways to leave an old query where it was: untouched, modified, reported on
  have hsame : q.queries qid = some x' → Came h q e qid x' := fun hx =>
    .kept x' hx (.refl x') Or.inl
  have hmodify : ∀ {q₀ : Queries C} {k : Qid} {f : Query → Query},
      (q₀.modifyQuery k f).queries qid = some x' → q₀.queries = q.queries →
      (∀ y : Query, y.Later (f y)) → (∀ y : Query, (f y).stopped = y.stopped) →
      Came h q e qid x' := by
    intro q₀ k f hmod hq hf hs
    rw [modifyQuery_queries, hq] at hmod
    split at hmod
    · obtain ⟨x, hx, rfl⟩ := Option.map_eq_some_iff.mp hmod
      exact .kept x hx (hf x) fun hstop => Or.inl (hs x ▸ hstop)
    · exact hsame hmod
  have hreport : ∀ {q₀ : Queries C} {k : Qid} {item : ResolvedItem}, q₀.queries = q.queries →
      (q₀.reportResults k item).queries qid = some x' → Came h q e qid x' := by
    intro q₀ k item hq hx
    rcases hk : q₀.queries k with _ | y
    · rw [reportResults_none item hk, hq] at hx
      exact hsame hx
    · rw [reportResults_some item hk] at hx
      exact hmodify hx hq (fun y => ⟨rfl, rfl, id, id, id⟩) fun y => rfl
  cases heff with
  | idle => exact hsame hx'
  | noted r conn msgp =>
    rw [note_queries] at hx'
    exact hsame hx'
  | accepted r conn msgp rq hadm ht hrq hnew ho =>
    simp only [accept, note_queries] at hx'
    -- only the query just taken on is new
    by_cases hid : qid = rq.id
    · subst hid
      rw [Function.update_self] at hx'
      exact .received r conn msgp rq rfl ht hrq rfl hnew (Option.some.inj hx').symm
    · rw [Function.update_of_ne hid] at hx'
      exact hsame hx'
  | stopped r conn msgp hadm ht hex ho =>
    rw [modifyQuery_queries, note_queries] at hx'
    split at hx'
    · rename_i hid
      obtain ⟨x, hx, rfl⟩ := Option.map_eq_some_iff.mp hx'
      exact .kept x hx ⟨rfl, rfl, fun _ => rfl, id, id⟩ fun _ =>
        Or.inr ⟨r, conn, msgp, rfl, ht, hid.symm, hid ▸ ho⟩
    · exact hsame hx'
  | reported r conn msgp k rip url => exact hreport (note_queries q msgp) hx'
  | forwarded => exact hsame hx'
  | resolved r k uuid x hx hun =>
    exact hmodify hx' rfl (fun y => ⟨rfl, rfl, id, id, fun hy => by cases hy⟩) fun y => rfl
  | answered =>
    rw [(sendResponse_frame ..).1] at hx'
    exact hsame hx'
  | called => exact hsame hx'
  | localQuery rq hnew =>
    simp only [dispatch] at hx'
    by_cases hid : qid = rq.id
    · subst hid
      rw [Function.update_self] at hx'
      exact .started rq rfl rfl hnew (Option.some.inj hx').symm
    · rw [Function.update_of_ne hid] at hx'
      exact hsame hx'
  | reportResults k item => exact hreport rfl hx'
  | solved k => exact hmodify hx' rfl (fun y => ⟨rfl, rfl, id, fun _ => rfl, id⟩) fun y => rfl
  | dropped k =>
    simp only at hx'
    by_cases hid : qid = k
    · subst hid
      rw [Function.update_self] at hx'
      cases hx'
    · rw [Function.update_of_ne hid] at hx'
      exact hsame hx'

/-- Where a pending timer comes from: it was pending, or a query has just been taken on.  A new
    timer holds the connection that has been made the origin, so the two agree from the start. -/
theorem timer_of_effect {h : Host C} {q q' : Queries C} {e : Event C} {out : List (Action C)}
    (heff : Effect h q e q' out) {t : Timer C} (ht : t ∈ q'.timers) :
    t ∈ q.timers ∨ (q'.qidorigins t.qid = some t.conn ∧ q.queries t.qid = none ∧
      asks h.js h.playdar t.qid t.msgp = true) := by
  cases heff with
  -- the only effect that sets a timer
  | accepted r conn msgp rq hadm hty hrq hnew ho =>
    simp only [accept, note_timers] at ht
    rcases List.mem_append.mp ht with ht | ht
    · exact Or.inl ht
    · obtain rfl := List.mem_singleton.mp ht
      refine Or.inr ⟨Function.update_self .., hnew, ?_⟩
      rw [asks, hrq]
      simp [hty]
  | noted r conn msgp =>
    rw [note_timers] at ht
    exact Or.inl ht
  | stopped r conn msgp =>
    simp only [modifyQuery, note_timers] at ht
    exact Or.inl ht
  | reported r conn msgp k rip url =>
    rw [(reportResults_frame ..).2.2, note_timers] at ht
    exact Or.inl ht
  | forwarded r i err t' out ht' hout => exact Or.inl (List.mem_of_mem_eraseIdx ht)
  | answered =>
    rw [(sendResponse_frame ..).1] at ht
    exact Or.inl ht
  | reportResults k item =>
    rw [(reportResults_frame ..).2.2] at ht
    exact Or.inl ht
  | _ => exact Or.inl ht

end Queries

/-! ## What the node does for the queries

  A step of the node puts out the actions of all three machines.  Those that only the queries take
  can be told by their kind, so they are read off without knowing which machine has moved. -/

variable {C : Type} [LinearOrder C]

namespace Mesh

/-- What the mesh can do.  The only message it writes is an IDENT, which is what tells its writes
    from those of the others. -/
def Own : Action C → Prop
  | .asyncWrite _ msg => msg.type = .ident
  | .fin _ | .sendTo _ _ | .connectToRemote _ _ _ => True
  | _ => False

/-- No step of its does anything else.  Each handler returns no action or a single one, so a case
    for each event and in it one for each branch is all there is to it. -/
theorem own_step {h : Host C} {m m' : Mesh C} {e : Event C} {out : List (Action C)}
    (hok : step h m e = .ok (m', out)) : ∀ a ∈ out, Own a := by
  have hnil : ∀ {m₁ : Mesh C}, Except.ok (ε := Fault) (m₁, []) = .ok (m', out) →
      ∀ a ∈ out, Own a := by
    intro m₁ he a ha
    obtain ⟨-, rfl⟩ := Prod.mk.inj (Except.ok.inj he)
    cases ha
  -- what the mesh writes is a single action or none
  have hsingle : ∀ {b : Action C}, out = [b] → Own b → ∀ a ∈ out, Own a := by
    rintro b rfl hb a ha
    rwa [List.mem_singleton.mp ha]
  have hone : ∀ {m₁ : Mesh C} {b : Action C}, Except.ok (ε := Fault) (m₁, [b]) = .ok (m', out) →
      Own b → ∀ a ∈ out, Own a := fun he =>
    hsingle (Prod.mk.inj (Except.ok.inj he)).2.symm
  cases e with
  | jabberMsgReceived text jid =>
    simp only [step, jabberMsgReceived] at hok
    split at hok
    · split at hok
      · obtain ⟨n, -, hout⟩ := connectToPeer_ok hok
        exact hsingle hout trivial
      · exact hnil hok
    · exact hnil hok
  | jabberNewPeer jid cookie =>
    simp only [step, jabberNewPeer] at hok
    split at hok
    · exact hnil hok
    · split at hok
      · exact hnil hok
      · split at hok
        · exact hnil hok
        · exact hone hok trivial
  | connectToPeer ip port =>
    obtain ⟨n, -, hout⟩ := connectToPeer_ok hok
    exact hsingle hout trivial
  | dialFailed i => exact hnil hok
  | newIncomingConnection conn =>
    simp only [step] at hok
    split at hok <;> exact hnil hok
  | newOutgoingConnection conn i uuid =>
    simp only [step] at hok
    split at hok
    · exact hnil hok
    · split at hok
      · exact hnil hok
      · exact hone hok rfl
  | received conn msgp uuid =>
    simp only [step] at hok
    split at hok
    · split at hok
      · rename_i incoming _ _
        rcases expectIdent_cases h m msgp conn incoming uuid with ⟨name, -, heq⟩ | ⟨-, heq⟩
        · rw [heq, identReply] at hok
          split at hok
          · exact hone hok rfl
          · exact hnil hok
        · rw [heq] at hok
          exact hone hok trivial
      · exact hnil hok
    · exact hnil hok
  | newConnectionTimeout conn =>
    simp only [step, newConnectionTimeout] at hok
    split at hok
    · exact hnil hok
    · exact hone hok trivial
  | closed conn => exact hnil hok
  | released conn =>
    simp only [step] at hok
    split at hok <;> exact hnil hok

end Mesh

namespace Node

/-- An event of the mesh is one of its steps; its messages come in as events of the node.  The event
    `received` of the mesh is therefore idle here: `message_received` of the node hands on what is
    still the gate's. -/
theorem step_meshEvent (host : Host C) (n : Node C) (me : Mesh.Event C) :
    step host n (.mesh me) = .ok (n, []) ∨
      step host n (.mesh me) = n.onMesh (n.mesh.step host me) := by
  cases me with
  | received => exact Or.inl rfl
  | _ => exact Or.inr rfl

/-- What only the queries do: QUERY and QUERYRESULT messages, and what is handed to playdar.  A
    `fin` and a QUERYSTOP are not in it, since the one may be the mesh's and the other is passed on
    as it came. -/
def ofQueries : Action C → Bool
  | .asyncWrite _ msg => msg.type = .query || msg.type = .queryresult
  | .dispatch _ | .reportResults _ _ => true
  | _ => false

omit [LinearOrder C] in
/-- The mesh does none of it: an IDENT is of another type, ... -/
theorem ofQueries_mesh {a : Action C} (ha : Mesh.Own a) : ofQueries a = false := by
  cases a with
  | asyncWrite conn msg =>
    have hident : msg.type = .ident := ha
    simp [ofQueries, hident]
  | dispatch | reportResults => exact ha.elim
  | _ => rfl

omit [LinearOrder C] in
/-- ... nor do the transfers, whose messages are of the four SID types. -/
theorem ofQueries_transfers {a : Action C} (ha : Transfers.Own a) : ofQueries a = false := by
  cases a with
  | asyncWrite conn msg =>
    have hkind : msg.type ∈ [MsgType.sidrequest, .siddata, .sidfail, .sidheaders] := ha
    simp only [List.mem_cons, List.not_mem_nil, or_false] at hkind
    rcases hkind with h | h | h | h <;> simp [ofQueries, h]
  | dispatch | reportResults => exact ha.elim
  | _ => rfl

/-- `handle_sidrequest` does nothing for the queries: it writes a SIDHEADERS, or starts a transfer,
    and what that does is the transfers' own. -/
theorem handleSidrequest_own {host : Host C} {n n' : Node C} {conn : C} {msgp : Message}
    {answer : SsAnswer} {uuid : String} {out : List (Action C)} (ht : n.transfers.Sound)
    (hok : n.handleSidrequest host conn msgp answer uuid = .ok (n', out)) :
    ∀ a ∈ out, Transfers.Own a := by
  -- the adaptor is made before the transfer is started, so `start_reply` is called in a new state
  have hnew : Transfers.Sound { n.transfers with
      adaptors := n.transfers.adaptors ++ [{ sid := msgp.payload, conn := conn }] } :=
    Transfers.sound_step ht (rfl : n.transfers.step (.newAdaptor conn msgp.payload) = _)
  have hgone : ∀ a ∈ [Action.asyncWrite conn
      (generalMessage .sidheaders "status\t404\n" msgp.payload)], Transfers.Own a := by
    intro a ha
    rw [List.mem_singleton.mp ha]
    show MsgType.sidheaders ∈ _
    simp
  simp only [handleSidrequest] at hok
  split at hok
  · obtain ⟨-, rfl⟩ := Prod.mk.inj (Except.ok.inj hok)
    exact hgone
  · obtain ⟨-, rfl⟩ := Prod.mk.inj (Except.ok.inj hok)
    intro a ha
    cases ha
  · split at hok
    · obtain ⟨-, rfl⟩ := Prod.mk.inj (Except.ok.inj hok)
      exact hgone
    · rename_i ss _
      obtain ⟨t, hstart, -⟩ := onTransfers_ok hok
      exact Transfers.own_step hnew (e := .startReply ss _ _ uuid) hstart

/-- **A step, seen from the queries, with what it does for them**: one step of theirs that does just
    that, or nothing.  The effects of the node's step split by the machine that moved.  In a
    received message both the queries and another machine may move, and there the split is once more
    by the type of the message. -/
theorem step_forQueries {host : Host C} {n n' : Node C} {e : Event C} {out : List (Action C)}
    (ht : n.transfers.Sound) (hok : step host n e = .ok (n', out)) :
    (n.queryEvent e = none ∧ n'.queries = n.queries ∧ out.filter ofQueries = []) ∨
    ∃ qe out', n.queryEvent e = some qe ∧ n.queries.step host qe = .ok (n'.queries, out') ∧
      out.filter ofQueries = out'.filter ofQueries := by
  have hquiet : ∀ {l : List (Action C)}, (∀ a ∈ l, ofQueries a = false) →
      l.filter ofQueries = [] := by
    intro l h
    rw [List.filter_eq_nil_iff]
    exact fun a ha => by simp [h a ha]
  have hown : ∀ {l : List (Action C)}, (∀ a ∈ l, Transfers.Own a) → l.filter ofQueries = [] :=
    fun h => hquiet fun a ha => ofQueries_transfers (h a ha)
  cases step_effect hok with
  | idle hq => exact Or.inl ⟨hq, rfl, rfl⟩
  | mesh me m' out hq hs =>
    exact Or.inl ⟨hq, rfl, hquiet fun a ha => ofQueries_mesh (Mesh.own_step hs a ha)⟩
  | transfers te t out hq hs => exact Or.inl ⟨hq, rfl, hown (Transfers.own_step ht hs)⟩
  | queries qe q out hq hs => exact Or.inr ⟨qe, out, hq, hs, rfl⟩
  | received conn msgp n' answer uuid out hq hs =>
    refine Or.inr ?_
    -- the queries only note the message: they write nothing for it
    have hnone : out.filter ofQueries = [] →
        n.queries.received host n.mesh.router conn msgp = .ok (n'.queries, []) →
        ∃ qe out', n.queryEvent e = some qe ∧ n.queries.step host qe = .ok (n'.queries, out') ∧
          out.filter ofQueries = out'.filter ofQueries := fun hno hrec => ⟨_, [], hq, hrec, hno⟩
    unfold Queries.received at hnone
    unfold messageReceived at hs
    split at hs
    · rename_i hadm
      rw [if_pos hadm] at hnone
      cases htype : msgp.type with
      | query | queryresult | querystop =>
        rw [htype] at hs
        obtain ⟨q, hstep, rfl⟩ := onQueries_ok hs
        refine ⟨_, out, hq, ?_, rfl⟩
        show n.queries.received host n.mesh.router conn msgp = _
        rw [Queries.received, if_pos hadm, htype]
        exact hstep
      | sidrequest =>
        rw [htype] at hs hnone
        have hs' : Node.handleSidrequest host { n with queries := n.queries.note msgp } conn msgp
            answer uuid = .ok (n', out) := hs
        obtain ⟨-, hqueries, -⟩ := handleSidrequest_ok hs'
        have hsound : ({ n with queries := n.queries.note msgp } : Node C).transfers.Sound := ht
        exact hnone (hown (handleSidrequest_own hsound hs')) (by rw [hqueries])
      | siddata =>
        rw [htype] at hs hnone
        obtain ⟨t, hdata, rfl⟩ := onTransfers_ok hs
        exact hnone (hown (Transfers.own_step ht (e := .siddata conn msgp) hdata)) rfl
      | sidheaders =>
        rw [htype] at hs hnone
        obtain ⟨t, hheaders, rfl⟩ := onTransfers_ok hs
        exact hnone (hown (Transfers.own_step ht (e := .sidheaders conn msgp) hheaders)) rfl
      | sidfail =>
        rw [htype] at hs hnone
        obtain ⟨t, hfail, rfl⟩ := onTransfers_ok hs
        exact hnone (hown (Transfers.own_step ht (e := .sidfail conn msgp) hfail)) rfl
      | ping | pong | ident | unknown _ =>
        rw [htype] at hs hnone
        obtain ⟨rfl, rfl⟩ := Prod.mk.inj (Except.ok.inj hs)
        exact hnone rfl rfl
    · rename_i hadm
      rw [if_neg hadm] at hnone
      obtain ⟨rfl, rfl⟩ := Prod.mk.inj (Except.ok.inj hs)
      exact hnone rfl rfl

omit [LinearOrder C] in
/-- What only the queries do, the step does if the queries do it, and the other way round. -/
theorem mem_of_ofQueries {out out' : List (Action C)}
    (h : out.filter ofQueries = out'.filter ofQueries) {a : Action C} (ha : ofQueries a = true) :
    a ∈ out ↔ a ∈ out' := by
  have hmem : ∀ l : List (Action C), a ∈ l ↔ a ∈ l.filter ofQueries := fun l => by
    rw [List.mem_filter, ha]
    simp
  rw [hmem out, hmem out', h]

omit [LinearOrder C] in
/-- And if they do nothing, it is not done.  This is for the steps that the queries do not see at
    all. -/
theorem not_mem_of_ofQueries {out : List (Action C)} (h : out.filter ofQueries = [])
    {a : Action C} (ha : ofQueries a = true) : a ∉ out := by
  intro hin
  exact absurd ha (List.filter_eq_nil_iff.mp h a hin)

/-- The event of the node that the queries see as `qe`.  The router in it is that of the node, so
    what they were told about connections and names is what the mesh has. -/
def SeenAs (n : Node C) (e : Event C) : Queries.Event C → Prop
  | .received r conn msgp => r = n.mesh.router ∧ conn ∈ n.mesh.router.connections ∧
      ∃ answer uuid, e = .received conn msgp answer uuid
  | .fwdSearch r i err => r = n.mesh.router ∧ e = .fwdSearch i err
  | .startResolving r qid uuid => r = n.mesh.router ∧ e = .startResolving qid uuid
  | .callback r i uuid => r = n.mesh.router ∧ e = .callback i uuid
  | .localQuery rq => e = .localQuery rq
  | .reportResults qid item => e = .reportResults qid item
  | .solve qid => e = .solve qid
  | .drop qid => e = .drop qid

/-- What they see of an event is that event.  Everything a query's handler is given can be traced in
    this way to something that happened to the node. -/
theorem seenAs_of_queryEvent {n : Node C} {e : Event C} {qe : Queries.Event C}
    (he : n.queryEvent e = some qe) : n.SeenAs e qe := by
  cases e with
  | received c m answer uuid =>
    rw [queryEvent] at he
    split at he
    · rename_i hopen
      obtain rfl := Option.some.inj he
      exact ⟨rfl, hopen.1, answer, uuid, rfl⟩
    · cases he
  | mesh | connectionTerminated | startReply | timerExpires | timeoutCb | adaptorCall => cases he
  | fwdSearch | startResolving | callback =>
    obtain rfl := Option.some.inj he
    exact ⟨rfl, rfl⟩
  | _ =>
    obtain rfl := Option.some.inj he
    rfl

/-- An origin is recorded for good, over any step of the node: it goes unchanged through the steps
    that the queries do not see, and `origin_step` is about the others. -/
theorem origin_kept {host : Host C} {n n' : Node C} {e : Event C} {out : List (Action C)}
    (hok : step host n e = .ok (n', out)) {qid : Qid} {conn : C}
    (ho : n.queries.qidorigins qid = some conn) : n'.queries.qidorigins qid = some conn := by
  rcases step_queries hok with ⟨-, hsame⟩ | ⟨qe, out', -, hq⟩
  · rw [hsame, ho]
  · rcases Queries.origin_step (Queries.step_effect hq) with
      hsame | ⟨_, c, _, rq, -, -, hnone, hup, -⟩
    · rw [hsame, ho]
    · rw [hup, Function.update_of_ne, ho]
      rintro rfl
      rw [hnone] at ho
      cases ho

end Node

end Greynet
