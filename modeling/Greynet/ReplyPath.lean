/-
  The reply path of one node: where results and stops of a query may go and come from.

  The connection that delivers a QUERY the node takes on becomes the query's ORIGIN in
  `m_qidorigins`, as a weak pointer.  Four handlers read the table later: `send_response` writes
  results to the origin, `handle_querystop` takes a stop from nobody else, and `start_resolving`
  and `fwd_search` send the query to everybody else.

  1. `Rooted` — the invariant of queries and timers: whose ids they carry, and for whom they run.
  2. `Known` — the invariant of one query that playdar keeps: a peer's exactly if it has an origin.
  3. `Run.unasked` — nobody is asked for what playdar does not have, and an origin never.
  4. `replyPath_holds` — where results go, who is asked and who may stop, over whole runs.

  Nothing is assumed of the peers: these runs are of the whole node, with strangers, broken payloads
  and connections that come and go.  What a handler reads in the table may be old, but it is never
  wrong, because an entry is made once and stays (`origin_kept`).
-/
import Greynet.Origins

namespace Greynet

namespace Node

variable {C : Type} [LinearOrder C]

/-! ## Queries and timers

  A QUERY is known by the id in its JSON, which has been through the codec by then.  So what is
  assumed of the codec is that it keeps ids, if it reads what was written at all. -/

/-- The QUERY this node writes for `rq` is read, if at all, as one with the same id.  That is less
    than `Travels`: the fields of the query may change on the way, and it may fail to be read. -/
def KeepsId (host : Host C) (rq : ResolverQuery) : Prop :=
  ∀ uuid rq', Queries.decodeQuery host.js host.playdar (queryMessage host.js rq uuid) = some rq' →
    rq'.id = rq.id

/-- The codecs keep the ids of the queries that come in and of those playdar starts.  These are all
    the queries that this node will ever write. -/
structure KeepsIds (host : Host C) (hist : History C) : Prop where
  received : ∀ o rq, host.playdar.fromJson o = some rq → KeepsId host rq
  started : ∀ st ∈ hist, ∀ rq, st.event = .localQuery rq → KeepsId host rq

/-- That goes for each part of a run, as it is about events that have happened. -/
theorem KeepsIds.left {host : Host C} {h₁ h₂ : History C} (h : KeepsIds host (h₁ ++ h₂)) :
    KeepsIds host h₁ :=
  ⟨h.received, fun st hst => h.started st (List.mem_append_left _ hst)⟩

/-- **The invariant of queries and timers.**  The timer is the one place where the origin is held a
    second time, in the arguments bound to `fwd_search`; the invariant says that the two agree. -/
structure Rooted (host : Host C) (n : Node C) : Prop where
  queries : ∀ qid x, n.queries.queries qid = some x → x.rq.id = qid ∧ KeepsId host x.rq
  timers : ∀ t ∈ n.queries.timers, n.queries.qidorigins t.qid = some t.conn ∧
    Queries.asks host.js host.playdar t.qid t.msgp = true

/-- It holds in every run: a timer is set where the origin is, and both stay what they are.  For the
    queries it is their names that count, and `came_of_effect` says where each is from. -/
theorem Run.rooted {host : Host C} {hist : History C} {n : Node C} (hr : Run host hist n)
    (hids : KeepsIds host hist) : Rooted host n := by
  refine Runs.Run.invariant (I := fun hist n => KeepsIds host hist → Rooted host n) ?_ ?_ hr hids
  · rintro n rfl -
    exact ⟨fun qid x hx => (by cases hx), fun t ht => (by cases ht)⟩
  · intro hist n e n' out _ ih hok hids
    have hn := ih hids.left
    -- the timers there were still have their connection as origin
    have hold : ∀ t ∈ n.queries.timers, n'.queries.qidorigins t.qid = some t.conn ∧
        Queries.asks host.js host.playdar t.qid t.msgp = true := fun t ht =>
      ⟨origin_kept hok (hn.timers t ht).1, (hn.timers t ht).2⟩
    rcases step_queries hok with ⟨-, hsame⟩ | ⟨qe, out', hqe, hq⟩
    · refine ⟨fun qid x hx => hn.queries qid x (by rwa [hsame] at hx), fun t ht => hold t ?_⟩
      rwa [hsame] at ht
    · have heff := Queries.step_effect hq
      refine ⟨fun qid x' hx' => ?_, fun t ht => ?_⟩
      · rcases Queries.came_of_effect heff hx' with ⟨x, hx, hl, -⟩ |
          ⟨r, conn, msgp, rq, -, -, hrq, hid, -, rfl⟩ | ⟨rq, rfl, hid, -, rfl⟩
        · rw [hl.rq]
          exact hn.queries qid x hx
        · refine ⟨hid, ?_⟩
          unfold Queries.decodeQuery at hrq
          split at hrq
          · exact hids.received _ _ hrq
          · cases hrq
        · have hstarted : e = .localQuery rq := seenAs_of_queryEvent hqe
          exact ⟨hid, hids.started _ List.mem_concat_self rq
            hstarted⟩
      · rcases Queries.timer_of_effect heff ht with ht | ⟨ho, -, hasks⟩
        · exact hold t ht
        · exact ⟨ho, hasks⟩

/-- Why a QUERY for `qid` is written to `c`.  In both cases the query is there and `c` is not the
    one left out; what differs is how that one is found, in the table or in the timer. -/
inductive Asks (n : Node C) (e : Event C) (qid : Qid) (c : C) : Prop
  /-- `start_resolving` tells all but the origin -/
  | resolving (uuid : String) (x : Query) (he : e = .startResolving qid uuid)
      (hx : n.queries.queries qid = some x) (hun : x.unresolved = true)
      (hopen : c ∈ n.mesh.router.connections) (hready : (n.mesh.router.conn c).ready = true)
      (hne : n.queries.getQueryOrigin n.mesh.router qid ≠ some c)
  /-- `fwd_search` tells all but the connection its timer holds -/
  | forwarding (i : Nat) (t : Timer C) (x : Query) (he : e = .fwdSearch i false)
      (ht : n.queries.timers[i]? = some t) (hid : t.qid = qid)
      (hx : n.queries.queries qid = some x) (hrunning : x.solved = false ∧ x.stopped = false)
      (hne : c ≠ t.conn)

/-- **A QUERY for `qid` is written by `start_resolving` or by `fwd_search`.**  Of the four writers
    the other two are excluded by the type of their messages. -/
theorem Rooted.asks {host : Host C} {n n' : Node C} {e : Event C} {out : List (Action C)}
    (hn : Rooted host n) (ht : n.transfers.Sound) (hok : step host n e = .ok (n', out)) {c : C}
    {m : Message} {qid : Qid} (hin : .asyncWrite c m ∈ out)
    (hasks : Queries.asks host.js host.playdar qid m = true) : Asks n e qid c := by
  have hm : m.type = .query ∧ (Queries.decodeQuery host.js host.playdar m).map ResolverQuery.id =
      some qid := by simpa [Queries.asks] using hasks
  have hours : ofQueries (.asyncWrite c m) = true := by simp [ofQueries, hm.1]
  rcases step_forQueries ht hok with ⟨-, -, hout⟩ | ⟨qe, out', hqe, hq, hout⟩
  · exact absurd hin (not_mem_of_ofQueries hout hours)
  · have hin' := (mem_of_ofQueries hout hours).mp hin
    rcases Queries.writes_of_effect (Queries.step_effect hq) hin' with
      ⟨r, conn, -, hty⟩ | ⟨r, k, uuid, x, rfl, hx, hun, rfl, hopen, hready, hne⟩ |
      ⟨r, i, t, x, rfl, hti, rfl, hx, hrunning, -, hne⟩ | ⟨r, i, uuid, cb, it, -, -, -, rfl⟩
    · rw [hm.1] at hty
      cases hty
    · obtain ⟨hid, hk⟩ := hn.queries k x hx
      obtain ⟨rq', hrq', hid'⟩ := Option.map_eq_some_iff.mp hm.2
      -- what it asks for is the query that is being resolved
      obtain rfl : k = qid := by rw [← hid', hk uuid rq' hrq', hid]
      obtain ⟨rfl, rfl⟩ := seenAs_of_queryEvent hqe
      exact .resolving uuid x rfl hx hun hopen hready (hid ▸ hne)
    · obtain ⟨rfl, rfl⟩ := seenAs_of_queryEvent hqe
      obtain ⟨-, hasks'⟩ := hn.timers t (List.mem_of_getElem? hti)
      have hid : t.qid = qid := by
        have hm' : t.msgp.type = .query ∧ (Queries.decodeQuery host.js host.playdar t.msgp).map
            ResolverQuery.id = some t.qid := by simpa [Queries.asks] using hasks'
        exact Option.some.inj (hm'.2.symm.trans hm.2)
      exact .forwarding i t x rfl hti hid (hid ▸ hx) hrunning hne
    · cases hm.1

/-- A QUERY for `qid` is written only while playdar has it, and never to its origin.  An origin that
    has expired is not found in the table, but it is not among the open connections either. -/
theorem Rooted.asked {host : Host C} {n : Node C} {e : Event C} (hn : Rooted host n)
    (hliving : n.mesh.router.Living) {c : C} {qid : Qid} (hasks : Asks n e qid c) :
    n.queries.queries qid ≠ none ∧ n.queries.qidorigins qid ≠ some c := by
  rcases hasks with ⟨uuid, x, -, hx, -, hopen, -, hne⟩ | ⟨i, t, x, -, hti, rfl, hx, -, hne⟩
  · refine ⟨by rw [hx]; simp, fun ho => hne ?_⟩
    have halive : c ∉ n.mesh.router.expired := fun hgone => (hliving c hgone).2 hopen
    exact Queries.getQueryOrigin_eq_some.mpr ⟨ho, halive⟩
  · rw [hx, (hn.timers t (List.mem_of_getElem? hti)).1]
    exact ⟨by simp, fun he => hne (Option.some.inj he).symm⟩

/-! ## A query that playdar keeps

  If playdar forgets a query and it comes in again, `set_query_origin` asserts.  So what is said of
  origins is said of runs in which playdar keeps it. -/

/-- Playdar does not forget `qid`, so far.  Other queries it may forget. -/
def KeepsQuery (hist : History C) (qid : Qid) : Prop := ∀ st ∈ hist, st.event ≠ .drop qid

/-- It has not done so up to some point, ... -/
theorem KeepsQuery.left {h₁ h₂ : History C} {qid : Qid} (h : KeepsQuery (h₁ ++ h₂) qid) :
    KeepsQuery h₁ qid :=
  fun st hst => h st (List.mem_append_left _ hst)

/-- ... or in the last step. -/
theorem KeepsQuery.last {hist : History C} {qid : Qid}
    {st : Runs.Step (Node C) (Event C) (Action C)} (h : KeepsQuery (hist ++ [st]) qid) :
    st.event ≠ .drop qid :=
  h st List.mem_concat_self

/-- **The invariant of a query that playdar keeps**: it has an origin exactly if it is a peer's,
    and without one nobody stops it. -/
structure Known (n : Node C) (qid : Qid) : Prop where
  exists_of_origin : n.queries.qidorigins qid ≠ none → n.queries.queries qid ≠ none
  relayed : ∀ x, n.queries.queries qid = some x →
    (x.relayed = true ↔ n.queries.qidorigins qid ≠ none)
  running : ∀ x, n.queries.queries qid = some x → x.relayed = false → x.stopped = false

/-- A query taken on has its origin from that step, and one of playdar's own has none.  By cases on
    what the step has to do with this query: nothing, it comes from a peer, it is playdar's own. -/
theorem known_step {host : Host C} {n n' : Node C} {e : Event C} {out : List (Action C)}
    {qid : Qid} (hn : Known n qid) (hne : e ≠ .drop qid) (hok : step host n e = .ok (n', out)) :
    Known n' qid := by
  rcases step_queries hok with ⟨-, hsame⟩ | ⟨qe, out', hqe, hq⟩
  · exact ⟨by rw [hsame]; exact hn.exists_of_origin, by rw [hsame]; exact hn.relayed,
      by rw [hsame]; exact hn.running⟩
  · have heff := Queries.step_effect hq
    have hdrop : qe ≠ .drop qid := fun he => hne (queryEvent_drop (he ▸ hqe))
    -- a query that does not exist has no origin
    have hunknown : n.queries.queries qid = none → n.queries.qidorigins qid = none := fun hnone =>
      not_not.mp fun ho => hn.exists_of_origin ho hnone
    rcases Queries.takes_step heff qid hdrop with
      ⟨hexists, ho, -⟩ | ⟨r, conn, msgp, rq, rfl, -, -, -, hnew, hexists, ho, -⟩ |
      ⟨rq, rfl, -, hnew, hexists, ho, -⟩
    · -- it is there if it was there, and all that can happen to it is a stop
      have hkept : ∀ x', n'.queries.queries qid = some x' → ∃ x,
          n.queries.queries qid = some x ∧ x.Later x' ∧ (x'.stopped = true → x.stopped = true ∨
            n.queries.qidorigins qid ≠ none) := by
        intro x' hx'
        have hold : n.queries.queries qid ≠ none := fun hnone => by
          rw [hexists.mpr hnone] at hx'
          cases hx'
        rcases Queries.came_of_effect heff hx' with ⟨x, hx, hl, hstop⟩ |
          ⟨_, _, _, _, -, -, -, -, hnew, -⟩ | ⟨_, -, -, hnew, -⟩
        · refine ⟨x, hx, hl, fun hs => (hstop hs).imp_right ?_⟩
          rintro ⟨r, conn, msgp, -, -, -, hfrom⟩
          rw [(Queries.getQueryOrigin_eq_some.mp hfrom).1]
          simp
        · exact absurd hnew hold
        · exact absurd hnew hold
      refine ⟨fun horigin => ?_, fun x' hx' => ?_, fun x' hx' hlocal => ?_⟩
      · rw [ho] at horigin
        exact fun hnone => hn.exists_of_origin horigin (hexists.mp hnone)
      · obtain ⟨x, hx, hl, -⟩ := hkept x' hx'
        rw [hl.relayed, ho]
        exact hn.relayed x hx
      · obtain ⟨x, hx, hl, hstop⟩ := hkept x' hx'
        rw [hl.relayed] at hlocal
        by_contra hs
        rcases hstop (by simpa using hs) with hs | horigin
        · rw [hn.running x hx hlocal] at hs
          cases hs
        · rw [(hn.relayed x hx).mpr horigin] at hlocal
          cases hlocal
    · refine ⟨fun _ => hexists, fun x' hx' => ?_, fun x' hx' hlocal => ?_⟩
      all_goals rcases Queries.came_of_effect heff hx' with ⟨x, hx, -⟩ |
        ⟨_, _, _, _, -, -, -, -, -, rfl⟩ | ⟨_, he, -⟩
      · rw [hnew] at hx
        cases hx
      · rw [ho]
        simp
      · cases he
      · rw [hnew] at hx
        cases hx
      · cases hlocal
      · cases he
    · refine ⟨fun _ => hexists, fun x' hx' => ?_, fun x' hx' _ => ?_⟩
      all_goals rcases Queries.came_of_effect heff hx' with ⟨x, hx, -⟩ |
        ⟨_, _, _, _, he, -⟩ | ⟨_, -, -, -, rfl⟩
      · rw [hnew] at hx
        cases hx
      · cases he
      · rw [ho, hunknown hnew]
        simp
      · rw [hnew] at hx
        cases hx
      · cases he
      · rfl

/-- So it is in every run in which playdar keeps the query.  At the start there is neither query nor
    origin. -/
theorem Run.known {host : Host C} {hist : History C} {n : Node C} (hr : Run host hist n)
    {qid : Qid} (hkeep : KeepsQuery hist qid) : Known n qid := by
  refine Runs.Run.invariant (I := fun hist n => KeepsQuery hist qid → Known n qid) ?_ ?_ hr hkeep
  · rintro n rfl -
    exact ⟨fun ho => absurd rfl ho, fun x hx => (by cases hx), fun x hx => (by cases hx)⟩
  · intro hist n e n' out _ ih hok hkeep
    exact known_step (ih hkeep.left) hkeep.last hok

/-- Nobody is asked for a query playdar does not have yet, and its origin never.  The first part is
    there for the second: when an origin is recorded the query was not here, so nobody can have been
    asked before. -/
theorem Run.unasked {host : Host C} {hist : History C} {n : Node C} (hr : Run host hist n)
    (hids : KeepsIds host hist) {qid : Qid} (hkeep : KeepsQuery hist qid) :
    (n.queries.queries qid = none → ∀ st ∈ hist, ∀ c m, .asyncWrite c m ∈ st.out →
      Queries.asks host.js host.playdar qid m = false) ∧
    ∀ conn, n.queries.qidorigins qid = some conn → ∀ st ∈ hist, ∀ m, .asyncWrite conn m ∈ st.out →
      Queries.asks host.js host.playdar qid m = false := by
  refine Runs.Run.invariant (I := fun hist n => KeepsIds host hist → KeepsQuery hist qid →
    (n.queries.queries qid = none → ∀ st ∈ hist, ∀ c m, .asyncWrite c m ∈ st.out →
      Queries.asks host.js host.playdar qid m = false) ∧
    ∀ conn, n.queries.qidorigins qid = some conn → ∀ st ∈ hist, ∀ m, .asyncWrite conn m ∈ st.out →
      Queries.asks host.js host.playdar qid m = false) ?_ ?_ hr hids hkeep
  · rintro n rfl - -
    exact ⟨fun _ st hst => (by cases hst), fun _ _ st hst => (by cases hst)⟩
  · intro hist n e n' out hr ih hok hids hkeep
    obtain ⟨hnobody, hnot⟩ := ih hids.left hkeep.left
    -- who is asked is not the origin, of a query that exists
    have hasked : ∀ c m, .asyncWrite c m ∈ out →
        Queries.asks host.js host.playdar qid m = true →
        n.queries.queries qid ≠ none ∧ n.queries.qidorigins qid ≠ some c := fun c m hin hasks =>
      (Run.rooted hr hids.left).asked (Mesh.living_of_reachable (Run.mesh hr))
        ((Run.rooted hr hids.left).asks (Run.transfers hr).sound hok hin hasks)
    have hstays : n'.queries.queries qid = none → n.queries.queries qid = none := by
      intro hnone
      rcases step_queries hok with ⟨-, hsame⟩ | ⟨qe, out', hqe, hq⟩
      · rwa [hsame] at hnone
      · have hdrop : qe ≠ .drop qid := fun he => hkeep.last (queryEvent_drop (he ▸ hqe))
        exact (Queries.takes_step (Queries.step_effect hq) qid hdrop).unknown hnone
    refine ⟨fun hnone st hst c m hin => ?_, fun conn ho st hst m hin => ?_⟩
    · rcases List.mem_append.mp hst with hst | hst
      · exact hnobody (hstays hnone) st hst c m hin
      · obtain rfl := List.mem_singleton.mp hst
        by_contra hasks
        exact (hasked c m hin (by simpa using hasks)).1 (hstays hnone)
    · rcases dispatches_step (Run.transfers hr).sound hok qid with
        ⟨hsame, -⟩ | ⟨c, hnew, -⟩
      · -- the origin is as it was, or it is set in this step for a query that was not here
        rcases List.mem_append.mp hst with hst | hst
        · exact hnot conn (hsame ▸ ho) st hst m hin
        · obtain rfl := List.mem_singleton.mp hst
          by_contra hasks
          exact (hasked conn m hin (by simpa using hasks)).2 (hsame ▸ ho)
      · rcases List.mem_append.mp hst with hst | hst
        · exact hnobody hnew st hst conn m hin
        · obtain rfl := List.mem_singleton.mp hst
          by_contra hasks
          exact (hasked conn m hin (by simpa using hasks)).1 hnew

/-! ## Who is answered, and who stops a query

  The two handlers that read the origin and do something about it. -/

/-- **A QUERYRESULT is written by `send_response`**, to the origin of its query.  A timer cannot
    write one, since its message asks for the query. -/
theorem Rooted.answers {host : Host C} {n n' : Node C} {e : Event C} {out : List (Action C)}
    (hn : Rooted host n) (ht : n.transfers.Sound) (hok : step host n e = .ok (n', out)) {c : C}
    {m : Message} (hin : .asyncWrite c m ∈ out) (hm : m.type = .queryresult) :
    ∃ i uuid cb it, e = .callback i uuid ∧ n.queries.callbacks[i]? = some cb ∧
      m = queryResultMessage host.js cb.qid it uuid ∧
      n.queries.qidorigins cb.qid = some c ∧ c ∉ n.mesh.router.expired := by
  have hours : ofQueries (.asyncWrite c m) = true := by simp [ofQueries, hm]
  rcases step_forQueries ht hok with ⟨-, -, hout⟩ | ⟨qe, out', hqe, hq, hout⟩
  · exact absurd hin (not_mem_of_ofQueries hout hours)
  · have hin' := (mem_of_ofQueries hout hours).mp hin
    rcases Queries.writes_of_effect (Queries.step_effect hq) hin' with
      ⟨r, conn, -, hty⟩ | ⟨r, k, uuid, x, -, -, -, rfl, -⟩ | ⟨r, i, t, x, rfl, hti, rfl, -⟩ |
      ⟨r, i, uuid, cb, it, rfl, hcb, ho, rfl⟩
    · rw [hm] at hty
      cases hty
    · cases hm
    · have hasks : t.msgp.type = .query ∧ (Queries.decodeQuery host.js host.playdar t.msgp).map
          ResolverQuery.id = some t.qid := by
        simpa [Queries.asks] using (hn.timers t (List.mem_of_getElem? hti)).2
      rw [hm] at hasks
      cases hasks.1
    · obtain ⟨rfl, rfl⟩ := seenAs_of_queryEvent hqe
      exact ⟨i, uuid, cb, it, rfl, hcb, rfl, Queries.getQueryOrigin_eq_some.mp ho⟩

/-- A callback for a query without a living origin does nothing.  The result is still with playdar,
    where it was reported; it is only not passed on. -/
theorem step_callback_gone {host : Host C} {n n' : Node C} {i : Nat} {uuid : String}
    {out : List (Action C)} {cb : Callback} (hcb : n.queries.callbacks[i]? = some cb)
    (hgone : ∀ c, n.queries.qidorigins cb.qid = some c → c ∈ n.mesh.router.expired)
    (hok : step host n (.callback i uuid) = .ok (n', out)) : out = [] := by
  have hnone : Queries.getQueryOrigin { n.queries with
      callbacks := n.queries.callbacks.eraseIdx i } n.mesh.router cb.qid = none := by
    rw [Option.eq_none_iff_forall_ne_some]
    intro c ho
    obtain ⟨horigin, halive⟩ := Queries.getQueryOrigin_eq_some.mp ho
    exact halive (hgone c horigin)
  simp only [step] at hok
  obtain ⟨q, hq, -⟩ := onQueries_ok hok
  simp only [Queries.step, hcb] at hq
  split at hq
  · rw [Queries.sendResponse_none uuid hnone] at hq
    exact (Prod.mk.inj (Except.ok.inj hq)).2.symm
  · exact (Prod.mk.inj (Except.ok.inj hq)).2.symm

/-- **Only a QUERYSTOP from its origin stops a query.**  Playdar itself has no call here that stops
    one, so what is to be said is about messages. -/
theorem step_stops {host : Host C} {n n' : Node C} {e : Event C} {out : List (Action C)}
    (hok : step host n e = .ok (n', out)) {qid : Qid} {x x' : Query}
    (hx : n.queries.queries qid = some x) (hx' : n'.queries.queries qid = some x')
    (hrun : x.stopped = false) (hstop : x'.stopped = true) :
    ∃ conn msgp answer uuid, e = .received conn msgp answer uuid ∧ msgp.type = .querystop ∧
      msgp.guid = qid ∧ n.queries.qidorigins qid = some conn := by
  rcases step_queries hok with ⟨-, hsame⟩ | ⟨qe, out', hqe, hq⟩
  · rw [hsame, hx] at hx'
    obtain rfl := Option.some.inj hx'
    rw [hrun] at hstop
    cases hstop
  · rcases Queries.came_of_effect (Queries.step_effect hq) hx' with ⟨y, hy, -, hfrom⟩ |
      ⟨_, _, _, _, -, -, -, -, hnew, -⟩ | ⟨_, -, -, hnew, -⟩
    · -- it was running, so something has stopped it, and of that there is one kind
      rw [hx] at hy
      obtain rfl := Option.some.inj hy
      rcases hfrom hstop with hs | ⟨r, conn, msgp, rfl, hty, hid, ho⟩
      · rw [hrun] at hs
        cases hs
      · obtain ⟨rfl, -, answer, uuid, rfl⟩ := seenAs_of_queryEvent hqe
        exact ⟨conn, msgp, answer, uuid, rfl, hty, hid,
          (Queries.getQueryOrigin_eq_some.mp ho).1⟩
    · rw [hx] at hnew
      cases hnew
    · rw [hx] at hnew
      cases hnew

/-! ## The reply path -/

/-- Where the replies and the stops of queries go and come from.  Each field is about every step of
    the run, in the state that the step found. -/
structure ReplyPath (host : Host C) (hist : History C) (n : Node C) : Prop where
  /-- the origin recorded is the connection whose QUERY was dispatched first ... -/
  origin : ∀ qid conn, n.queries.qidorigins qid = some conn → FirstAsked host hist qid conn
  noOrigin : ∀ qid, n.queries.qidorigins qid = none → NeverAsked host hist qid
  /-- ... and it never changes -/
  kept : ∀ st ∈ hist, ∀ qid conn, st.post.queries.qidorigins qid = some conn →
    n.queries.qidorigins qid = some conn
  /-- a result goes to the origin of its query, which is alive ... -/
  replies : ∀ st ∈ hist, ∀ c m, .asyncWrite c m ∈ st.out → m.type = .queryresult →
    ∃ i uuid cb it, st.event = .callback i uuid ∧ st.pre.queries.callbacks[i]? = some cb ∧
      m = queryResultMessage host.js cb.qid it uuid ∧
      st.pre.queries.qidorigins cb.qid = some c ∧ c ∉ st.pre.mesh.router.expired
  /-- ... and nowhere once it is gone, or if there is none -/
  unheard : ∀ st ∈ hist, ∀ i uuid cb, st.event = .callback i uuid →
    st.pre.queries.callbacks[i]? = some cb →
    (∀ c, st.pre.queries.qidorigins cb.qid = some c → c ∈ st.pre.mesh.router.expired) → st.out = []
  /-- the origin of a query that playdar keeps is never asked it -/
  unasked : ∀ qid, KeepsQuery hist qid → ∀ conn, n.queries.qidorigins qid = some conn →
    ∀ st ∈ hist, ∀ m, .asyncWrite conn m ∈ st.out →
      Queries.asks host.js host.playdar qid m = false
  /-- a query is stopped by a QUERYSTOP that arrives on its origin only -/
  stops : ∀ st ∈ hist, ∀ qid x x', st.pre.queries.queries qid = some x →
    st.post.queries.queries qid = some x' → x.stopped = false → x'.stopped = true →
    ∃ conn msgp answer uuid, st.event = .received conn msgp answer uuid ∧
      msgp.type = .querystop ∧ msgp.guid = qid ∧ st.pre.queries.qidorigins qid = some conn
  /-- a query playdar started and keeps has no origin, and nobody stops it -/
  started : ∀ st ∈ hist, ∀ rq, st.event = .localQuery rq → Action.dispatch rq.id ∈ st.out →
    KeepsQuery hist rq.id → n.queries.qidorigins rq.id = none ∧
      ∃ x, n.queries.queries rq.id = some x ∧ x.stopped = false

/-- A query playdar has started is there, as its own, until playdar forgets it.  This is about the
    rest of a run, from any state that has it. -/
theorem started_stays {host : Host C} {n n' : Node C} {hist : History C} {qid : Qid}
    (hr : Runs.Run (step host) (fun n₀ => n₀ = n) hist n') (hkeep : KeepsQuery hist qid)
    (hx : ∃ x, n.queries.queries qid = some x ∧ x.relayed = false) :
    ∃ x, n'.queries.queries qid = some x ∧ x.relayed = false := by
  refine Runs.Run.invariant (I := fun hist n' => KeepsQuery hist qid →
    ∃ x, n'.queries.queries qid = some x ∧ x.relayed = false) ?_ ?_ hr hkeep
  · rintro n₀ rfl -
    exact hx
  · intro hist n₁ e n₂ out _ ih hok hkeep
    obtain ⟨x, hx, hrel⟩ := ih hkeep.left
    rcases step_queries hok with ⟨-, hsame⟩ | ⟨qe, out', hqe, hq⟩
    · exact ⟨x, by rw [hsame, hx], hrel⟩
    · have hdrop : qe ≠ .drop qid := fun he => hkeep.last (queryEvent_drop (he ▸ hqe))
      obtain ⟨x', hx', hl⟩ := Queries.query_stays (Queries.step_effect hq) hx hdrop
      exact ⟨x', hx', hl.relayed.trans hrel⟩

/-- **Reply-path integrity**, in every run: whatever connections, messages, timers and callbacks
    come in whatever order.  The codecs are such that a query keeps its id (`KeepsIds`). -/
theorem replyPath_holds (host : Host C) (hist : History C) (n : Node C) (hr : Run host hist n)
    (hids : KeepsIds host hist) : ReplyPath host hist n := by
  -- the run up to a step of it, the step, and the rest
  have hcut : ∀ st ∈ hist, ∃ h₁ h₂, hist = h₁ ++ st :: h₂ ∧ Run host h₁ st.pre ∧
      Rooted host st.pre ∧ step host st.pre st.event = .ok (st.post, st.out) ∧
      Runs.Run (step host) (fun n₀ => n₀ = st.post) h₂ n := by
    intro st hst
    obtain ⟨h₁, h₂, rfl⟩ := List.append_of_mem hst
    obtain ⟨hr₁, hs, hr₂⟩ := hr.cut
    exact ⟨h₁, h₂, rfl, hr₁, Run.rooted hr₁ hids.left, hs, hr₂⟩
  refine ⟨hr.origins.some, hr.origins.none, fun st hst qid conn ho => ?_,
    fun st hst c m hin hm => ?_, fun st hst i uuid cb he hcb hgone => ?_,
    fun qid hkeep => (hr.unasked hids hkeep).2,
    fun st hst qid x x' hx hx' hrun hstop => ?_, fun st hst rq he hin hkeep => ?_⟩
  · obtain ⟨-, h₂, -, -, -, -, hr₂⟩ := hcut st hst
    exact Runs.Run.invariant (I := fun _ n => n.queries.qidorigins qid = some conn)
      (fun s hs => hs ▸ ho) (fun _ _ _ _ _ _ ih hok => origin_kept hok ih) hr₂
  · obtain ⟨h₁, -, -, hr₁, hn₁, hs, -⟩ := hcut st hst
    exact hn₁.answers (Run.transfers hr₁).sound hs hin hm
  · obtain ⟨h₁, -, -, -, -, hs, -⟩ := hcut st hst
    rw [he] at hs
    exact step_callback_gone hcb hgone hs
  · obtain ⟨h₁, -, -, -, -, hs, -⟩ := hcut st hst
    exact step_stops hs hx hx' hrun hstop
  · obtain ⟨h₁, h₂, hhist, hr₁, -, hs, hr₂⟩ := hcut st hst
    have hfresh : ∃ x, st.post.queries.queries rq.id = some x ∧ x.relayed = false := by
      rw [he] at hs
      simp only [step] at hs
      obtain ⟨q, hq, hpost⟩ := onQueries_ok hs
      simp only [Queries.step] at hq
      split at hq
      · obtain ⟨-, hout⟩ := Prod.mk.inj (Except.ok.inj hq)
        rw [← hout] at hin
        cases hin
      · obtain ⟨rfl, -⟩ := Prod.mk.inj (Except.ok.inj hq)
        rw [hpost]
        exact ⟨{ rq, relayed := false }, Function.update_self .., rfl⟩
    have hkeep₂ : KeepsQuery h₂ rq.id := fun st' hst' =>
      hkeep st' (hhist ▸ List.mem_append_right _ (List.mem_cons_of_mem _ hst'))
    obtain ⟨x, hx, hrel⟩ := started_stays hr₂ hkeep₂ hfresh
    have hknown := hr.known hkeep
    refine ⟨?_, x, hx, hknown.running x hx hrel⟩
    by_contra ho
    rw [(hknown.relayed x hx).mpr ho] at hrel
    cases hrel

/-! ## Alice's query, and its answer

  A query comes in from alice, and a result for it is found. -/

/-- A codec of some texts reads back what it has written, or nothing. -/
theorem read_write_ofTexts {texts : List (String × Value)} (hnd : (texts.map Prod.fst).Nodup)
    (hne : "" ∉ texts.map Prod.fst) {v v' : Value}
    (h : (JsonSpirit.ofTexts texts).read ((JsonSpirit.ofTexts texts).write v) = some v') :
    v' = v := by
  obtain ⟨t', hfind, rfl⟩ := Option.map_eq_some_iff.mp h
  have hmem := List.mem_of_find?_eq_some hfind
  have htext : t'.1 = (JsonSpirit.ofTexts texts).write v := by simpa using List.find?_some hfind
  rcases hw : texts.find? fun t => t.2 = v with _ | t
  · have hempty : (JsonSpirit.ofTexts texts).write v = "" := by
      simp only [JsonSpirit.ofTexts, hw]
      rfl
    rw [hempty] at htext
    exact absurd (List.mem_map.mpr ⟨t', hmem, htext⟩) hne
  · have hwritten : (JsonSpirit.ofTexts texts).write v = t.1 := by
      simp only [JsonSpirit.ofTexts, hw]
      rfl
    have ht : t.2 = v := by simpa using List.find?_some hw
    have hsame := List.inj_on_of_nodup_map hnd hmem (List.mem_of_find?_eq_some hw)
      (htext.trans hwritten)
    rw [hsame, ht]

/-- So the sample codec keeps ids: what it reads back is what it wrote, and the id is in that. -/
theorem sample_keepsId {o : Object} {rq : ResolverQuery}
    (hrq : sampleHost.playdar.fromJson o = some rq) : KeepsId sampleHost rq := by
  have hjson : ∀ {o rq}, sampleHost.playdar.fromJson o = some rq →
      rq.json = o ∧ objToMap o "qid" = some (.str rq.id) := by
    intro o rq h
    simp only [sampleHost, Queries.samplePlaydar] at h
    split at h
    · rename_i qid hqid
      obtain rfl := Option.some.inj h
      exact ⟨rfl, hqid⟩
    · cases h
  intro uuid rq' hd
  unfold Queries.decodeQuery at hd
  split at hd
  · rename_i qo hread
    obtain rfl : qo = rq.json :=
      Value.obj.inj (read_write_ofTexts (by decide) (by decide) hread)
    obtain ⟨-, hid'⟩ := hjson hd
    obtain ⟨hjs, hid⟩ := hjson hrq
    rw [hjs, hid] at hid'
    exact (Value.str.inj (Option.some.inj hid')).symm
  · cases hd

/-- A result for alice's query, which is written to her.  The two events are the report and the
    callback that it makes due. -/
def answering : List (Event Nat) :=
  asking ++ [.reportResults "q" Queries.song, .callback 0 "u3"]

/-- It is written on the connection that her query came in on. -/
theorem replyPath_answering : ReplyPath sampleHost (Runs.trace (step sampleHost) empty answering)
    (Runs.after (step sampleHost) empty answering) := by
  refine replyPath_holds sampleHost _ _ (Runs.run_trace answering rfl)
    ⟨fun o rq => sample_keepsId, fun st hst rq he => ?_⟩
  exact absurd (Runs.mem_of_event hst he) (by simp [answering, asking, meeting])

end Node

end Greynet
