/-
  The whole plugin: mesh, transfers and queries behind one `message_received`.

  Source: `greynet.cpp` (`message_received`, `handle_sidrequest`, `connection_terminated`),
  `ss_greynet.cpp` (`factory`).

  1. `Node` — the three states side by side.  They meet in `message_received`, which passes a
     message to the handler of its type, and in the connections it may close.
  2. `Node.step` — every event of a running plugin.  A message goes to the callback on top of its
     connection's stack, which is `expect_ident` until the handshake is over.
  3. The PROJECTIONS: seen from one of the three, a step of the node is one or two steps of that
     machine, or nothing.  So what is proved about each of them holds of the node.

  The converse is not true and is not needed: not every run of a machine by itself can happen in a
  node, where the gate keeps some messages from it.  For an invariant that is no loss, since it is
  about all runs.
-/
import Greynet.Queries
import Greynet.TransferMaps

namespace Greynet

variable {C : Type} [LinearOrder C]

/-- What playdar finds when it is asked for the strategy of a sid.  The object of a greynet url is
    made by this plugin's own factory, so there the answer is the url. -/
inductive SsAnswer where
  | nothing
  /-- a strategy of another plugin -/
  | other
  /-- an item with a greynet url; `oid` is the object the factory would make -/
  | greynet (url : String) (oid : Nat)
  deriving DecidableEq, Repr

/-- `ss_greynet::factory`: after `greynet://`, the name up to the first `;` and then the sid.  The
    connection is looked up at once, so a strategy exists only for a peer that is connected then. -/
def ssFactory (h : Host C) (r : Router C) (url : String) (oid : Nat) : Option (SsGreynet C) :=
  let rest := url.toList.drop 10
  if ';' ∈ rest then
    match h.lib.getConnectionByName r (String.ofList (rest.takeWhile fun c => c ≠ ';')) with
    | some conn => some ⟨oid, conn, String.ofList ((rest.dropWhile fun c => c ≠ ';').drop 1)⟩
    | none => none
  else none

/-- The plugin: the mesh, the transfers and the queries.  They share the router, which is the
    mesh's, and the others are shown it as it is. -/
structure Node (C : Type) [LinearOrder C] where
  mesh : Mesh C
  transfers : Transfers C
  queries : Queries C

namespace Node

/-- The plugin as it is loaded: nobody is connected, nothing is asked and nothing is streamed. -/
def empty : Node C := ⟨.empty, .empty, .empty⟩

/-- Close the connections that a handler of `message_received` has closed.  The `fin` of a handler
    is an action of the queries, and the router is where it takes effect. -/
def applyFins (n : Node C) (out : List (Action C)) : Node C :=
  { n with mesh := { n.mesh with
      router := (finished out).foldl (fun r c => r.fin c) n.mesh.router } }

/-- The mesh has moved; the other two are as they were.  A fault in it is one of the node. -/
def onMesh (n : Node C) (x : Except Fault (Mesh C × List (Action C))) :
    Except Fault (Node C × List (Action C)) :=
  match x with
  | .ok (m, out) => .ok ({ n with mesh := m }, out)
  | .error f => .error f

/-- The transfers have moved; they close no connection. -/
def onTransfers (n : Node C) (x : Except Fault (Transfers C × List (Action C))) :
    Except Fault (Node C × List (Action C)) :=
  match x with
  | .ok (t, out) => .ok ({ n with transfers := t }, out)
  | .error f => .error f

/-- The queries have moved; their handlers may close connections. -/
def onQueries (n : Node C) (x : Except Fault (Queries C × List (Action C))) :
    Except Fault (Node C × List (Action C)) :=
  match x with
  | .ok (q, out) => .ok ({ n with queries := q }.applyFins out, out)
  | .error f => .error f

/-- `handle_sidrequest`; `answer` is what `get_ss` finds.  The adaptor is made before the strategy
    starts, and it stays also if the strategy is another plugin's, whose calls on it come later. -/
def handleSidrequest (h : Host C) (n : Node C) (conn : C) (msgp : Message) (answer : SsAnswer)
    (uuid : String) : Except Fault (Node C × List (Action C)) :=
  let sid := msgp.payload
  let gone : Node C × List (Action C) :=
    (n, [.asyncWrite conn (generalMessage .sidheaders "status\t404\n" sid)])
  let aptr := AdaptorId.greynet n.transfers.adaptors.length
  let t : Transfers C :=
    { n.transfers with adaptors := n.transfers.adaptors ++ [{ sid := sid, conn := conn }] }
  match answer with
  | .nothing => .ok gone
  | .other => .ok ({ n with transfers := t }, [])
  | .greynet url oid =>
    match ssFactory h n.mesh.router url oid with
    | none => .ok gone
    | some ss => n.onTransfers (t.startReply ss aptr (h.lib.ready n.mesh.router ss.conn) uuid)

/-- `message_received`: the duplicate filter, and then the handler of the message's type.  The guid
    is noted first, and a message without a handler is logged and forgotten. -/
def messageReceived (h : Host C) (n : Node C) (conn : C) (msgp : Message) (answer : SsAnswer)
    (uuid : String) : Except Fault (Node C × List (Action C)) :=
  if n.queries.admits msgp then
    let n₁ : Node C := { n with queries := n.queries.note msgp }
    match msgp.type with
    | .ping => .ok (n₁, [.asyncWrite conn (pongMessage uuid)])
    | .pong => .ok (n₁, [])
    | .query => n₁.onQueries (n₁.queries.handleQuery h conn msgp)
    | .queryresult => n₁.onQueries (n₁.queries.handleQueryresult h n₁.mesh.router conn msgp)
    | .querystop => n₁.onQueries (n₁.queries.handleQuerystop h n₁.mesh.router conn msgp)
    | .sidrequest => n₁.handleSidrequest h conn msgp answer uuid
    | .siddata => n₁.onTransfers (n₁.transfers.handleSiddata conn msgp)
    | .sidheaders => n₁.onTransfers (n₁.transfers.handleSidheaders conn msgp)
    | .sidfail => n₁.onTransfers (n₁.transfers.handleSidfail conn msgp)
    | .ident | .unknown _ => .ok (n₁, [])
  else .ok (n, [])

/-! ## Every event

  The events of the three machines, with what one of them needs to be told of another.  What comes
  from outside of the plugin, such as the answer of playdar's, is in the event. -/

/-- What reaches the plugin: the methods that libf2f, the XMPP bot and playdar call, and the
    handlers that asio runs. -/
inductive Event (C : Type) where
  /-- XMPP, dialling, and connections coming and going -/
  | mesh (e : Mesh.Event C)
  /-- libf2f delivers a message -/
  | received (conn : C) (msgp : Message) (answer : SsAnswer) (uuid : String)
  /-- libf2f reports that a connection has gone -/
  | connectionTerminated (conn : C)
  | fwdSearch (i : Nat) (e : Bool)
  | startResolving (qid : Qid) (uuid : String)
  | callback (i : Nat) (uuid : String)
  | localQuery (rq : ResolverQuery)
  | reportResults (qid : Qid) (item : ResolvedItem)
  | solve (qid : Qid)
  | drop (qid : Qid)
  /-- playdar starts a strategy this plugin made -/
  | startReply (ss : SsGreynet C) (aa : AdaptorId) (uuid : String)
  | timerExpires (ss : SsGreynet C)
  | timeoutCb (ss : SsGreynet C)
  /-- another strategy of playdar's drives an adaptor -/
  | adaptorCall (aa : AdaptorId) (call : AdaptorCall)

/-- The next state and the actions; an event that cannot happen yet changes nothing.  The gate is in
    the case `received`: as long as a callback is on the stack it gets the message, and the handlers
    do not. -/
def step (h : Host C) (n : Node C) : Event C → Except Fault (Node C × List (Action C))
  | .mesh (.received ..) => .ok (n, [])
  | .mesh e => n.onMesh (n.mesh.step h e)
  | .received conn msgp answer uuid =>
    if conn ∈ n.mesh.router.connections then
      match (n.mesh.router.conn conn).messageReceivedCbs with
      | _ :: _ => n.onMesh (n.mesh.step h (.received conn msgp uuid))
      | [] => n.messageReceived h conn msgp answer uuid
    else .ok (n, [])
  | .connectionTerminated conn =>
    if conn ∈ n.mesh.router.connections then .ok (n, [])
    else n.onTransfers (n.transfers.connectionTerminated conn)
  | .fwdSearch i e => n.onQueries (n.queries.step h (.fwdSearch n.mesh.router i e))
  | .startResolving qid uuid =>
    n.onQueries (n.queries.step h (.startResolving n.mesh.router qid uuid))
  | .callback i uuid => n.onQueries (n.queries.step h (.callback n.mesh.router i uuid))
  | .localQuery rq => n.onQueries (n.queries.step h (.localQuery rq))
  | .reportResults qid item => n.onQueries (n.queries.step h (.reportResults qid item))
  | .solve qid => n.onQueries (n.queries.step h (.solve qid))
  | .drop qid => n.onQueries (n.queries.step h (.drop qid))
  | .startReply ss aa uuid =>
    n.onTransfers (n.transfers.startReply ss aa (h.lib.ready n.mesh.router ss.conn) uuid)
  | .timerExpires ss => n.onTransfers (n.transfers.step (.timerExpires ss))
  | .timeoutCb ss => n.onTransfers (n.transfers.step (.timeoutCb ss))
  | .adaptorCall aa call => n.onTransfers (n.transfers.step (.adaptorCall aa call))

/-! ## Seen from one of the three

  Each projection has a run of one of the machines for a step of the node.  With the induction of
  `Runs` it carries over to runs, and so does every invariant. -/

/-- What the queries see of an event, with the router as it is then.  Every message that gets past
    the gate is seen, of whatever type, because the duplicate filter sees it. -/
def queryEvent (n : Node C) : Event C → Option (Queries.Event C)
  | .received conn msgp _ _ =>
    if conn ∈ n.mesh.router.connections ∧ (n.mesh.router.conn conn).messageReceivedCbs = [] then
      some (.received n.mesh.router conn msgp)
    else none
  | .fwdSearch i e => some (.fwdSearch n.mesh.router i e)
  | .startResolving qid uuid => some (.startResolving n.mesh.router qid uuid)
  | .callback i uuid => some (.callback n.mesh.router i uuid)
  | .localQuery rq => some (.localQuery rq)
  | .reportResults qid item => some (.reportResults qid item)
  | .solve qid => some (.solve qid)
  | .drop qid => some (.drop qid)
  | _ => none

/-- If the node has moved, then the mesh has, ... -/
theorem onMesh_ok {n n' : Node C} {x : Except Fault (Mesh C × List (Action C))}
    {out : List (Action C)} (h : n.onMesh x = .ok (n', out)) :
    ∃ m, x = .ok (m, out) ∧ n' = { n with mesh := m } := by
  cases x with
  | error f => cases h
  | ok y =>
    obtain ⟨rfl, rfl⟩ := Prod.mk.inj (Except.ok.inj h)
    exact ⟨_, rfl, rfl⟩

/-- ... or the transfers, ... -/
theorem onTransfers_ok {n n' : Node C} {x : Except Fault (Transfers C × List (Action C))}
    {out : List (Action C)} (h : n.onTransfers x = .ok (n', out)) :
    ∃ t, x = .ok (t, out) ∧ n' = { n with transfers := t } := by
  cases x with
  | error f => cases h
  | ok y =>
    obtain ⟨rfl, rfl⟩ := Prod.mk.inj (Except.ok.inj h)
    exact ⟨_, rfl, rfl⟩

/-- ... or the queries, and what they close is closed. -/
theorem onQueries_ok {n n' : Node C} {x : Except Fault (Queries C × List (Action C))}
    {out : List (Action C)} (h : n.onQueries x = .ok (n', out)) :
    ∃ q, x = .ok (q, out) ∧ n' = { n with queries := q }.applyFins out := by
  cases x with
  | error f => cases h
  | ok y =>
    obtain ⟨rfl, rfl⟩ := Prod.mk.inj (Except.ok.inj h)
    exact ⟨_, rfl, rfl⟩

/-- Closing connections is a run of the mesh, one step for each of them. -/
theorem run_applyFins (h : Host C) (n : Node C) (out : List (Action C)) :
    ∃ hist, Runs.Run (Mesh.step h) (· = n.mesh) hist (n.applyFins out).mesh := by
  have hrun : ∀ (cs : List C) (m : Mesh C), ∃ hist, Runs.Run (Mesh.step h) (· = m) hist
      { m with router := cs.foldl (fun r c => r.fin c) m.router } := by
    intro cs
    induction cs with
    | nil => intro m; exact ⟨[], .start rfl⟩
    | cons c cs ih =>
      intro m
      have hone : Mesh.step h m (.closed c) = .ok ({ m with router := m.router.fin c }, []) := rfl
      obtain ⟨hist, hr⟩ := ih { m with router := m.router.fin c }
      exact ⟨_, (Runs.Run.one hone).append hr⟩
  exact hrun (finished out) n.mesh

/-- `handle_sidrequest` makes an adaptor and starts a reply, or neither.  For the transfers these
    are two steps, which is why the projection speaks of runs. -/
theorem handleSidrequest_ok {h : Host C} {n n' : Node C} {conn : C} {msgp : Message}
    {answer : SsAnswer} {uuid : String} {out : List (Action C)}
    (hok : n.handleSidrequest h conn msgp answer uuid = .ok (n', out)) :
    n'.mesh = n.mesh ∧ n'.queries = n.queries ∧
      ∃ hist, Runs.Run Transfers.step (· = n.transfers) hist n'.transfers := by
  have hnew : Transfers.step n.transfers (.newAdaptor conn msgp.payload) =
      .ok ({ n.transfers with
        adaptors := n.transfers.adaptors ++ [{ sid := msgp.payload, conn := conn }] }, []) := rfl
  unfold handleSidrequest at hok
  simp only at hok
  split at hok
  · obtain ⟨rfl, rfl⟩ := Prod.mk.inj (Except.ok.inj hok)
    exact ⟨rfl, rfl, [], .start rfl⟩
  · obtain ⟨rfl, rfl⟩ := Prod.mk.inj (Except.ok.inj hok)
    exact ⟨rfl, rfl, _, .one hnew⟩
  · split at hok
    · obtain ⟨rfl, rfl⟩ := Prod.mk.inj (Except.ok.inj hok)
      exact ⟨rfl, rfl, [], .start rfl⟩
    · rename_i ss _
      obtain ⟨t, ht, rfl⟩ := onTransfers_ok hok
      have hstart : Transfers.step _ (.startReply ss _ _ uuid) = .ok (t, out) := ht
      exact ⟨rfl, rfl, _, (Runs.Run.one hnew).append (.one hstart)⟩

/-- **`message_received`, seen from each of the three.**  By the type of the message; each handler
    belongs to one of the machines and leaves the others alone, but for the connections that are
    closed. -/
theorem messageReceived_ok {h : Host C} {n n' : Node C} {conn : C} {msgp : Message}
    {answer : SsAnswer} {uuid : String} {out : List (Action C)}
    (hok : n.messageReceived h conn msgp answer uuid = .ok (n', out)) :
    (∃ out', n.queries.received h n.mesh.router conn msgp = .ok (n'.queries, out')) ∧
    (∃ hist, Runs.Run Transfers.step (· = n.transfers) hist n'.transfers) ∧
    (∃ hist, Runs.Run (Mesh.step h) (· = n.mesh) hist n'.mesh) := by
  unfold messageReceived at hok
  unfold Queries.received
  split at hok
  · rename_i hadm
    rw [if_pos hadm]
    -- a machine that takes no part has made a run of no steps
    have hstay : ∀ (m : Mesh C), ∃ hist, Runs.Run (Mesh.step h) (· = m) hist m :=
      fun m => ⟨[], .start rfl⟩
    have htstay : ∃ hist, Runs.Run Transfers.step (· = n.transfers) hist n.transfers :=
      ⟨[], .start rfl⟩
    cases ht : msgp.type with
    | query | queryresult | querystop =>
      rw [ht] at hok
      obtain ⟨q, hq, rfl⟩ := onQueries_ok hok
      exact ⟨⟨_, hq⟩, htstay, run_applyFins h _ _⟩
    | sidrequest =>
      rw [ht] at hok
      obtain ⟨hm, hq, hrun⟩ := handleSidrequest_ok hok
      exact ⟨⟨[], by rw [hq]⟩, hrun, by rw [hm]; exact hstay _⟩
    | siddata =>
      rw [ht] at hok
      obtain ⟨t, ht', rfl⟩ := onTransfers_ok hok
      have hs : n.transfers.step (.siddata conn msgp) = .ok (t, out) := ht'
      exact ⟨⟨[], rfl⟩, ⟨_, .one hs⟩, hstay _⟩
    | sidheaders =>
      rw [ht] at hok
      obtain ⟨t, ht', rfl⟩ := onTransfers_ok hok
      have hs : n.transfers.step (.sidheaders conn msgp) = .ok (t, out) := ht'
      exact ⟨⟨[], rfl⟩, ⟨_, .one hs⟩, hstay _⟩
    | sidfail =>
      rw [ht] at hok
      obtain ⟨t, ht', rfl⟩ := onTransfers_ok hok
      have hs : n.transfers.step (.sidfail conn msgp) = .ok (t, out) := ht'
      exact ⟨⟨[], rfl⟩, ⟨_, .one hs⟩, hstay _⟩
    | ping | pong | ident | unknown _ =>
      rw [ht] at hok
      obtain ⟨rfl, rfl⟩ := Prod.mk.inj (Except.ok.inj hok)
      exact ⟨⟨[], rfl⟩, htstay, hstay _⟩
  · rename_i hadm
    obtain ⟨rfl, rfl⟩ := Prod.mk.inj (Except.ok.inj hok)
    rw [if_neg hadm]
    exact ⟨⟨[], rfl⟩, ⟨[], .start rfl⟩, ⟨[], .start rfl⟩⟩

/-- What one event of the node is: nothing, one step of one machine, or a message for
    `message_received`. -/
inductive Effect (h : Host C) (n : Node C) (e : Event C) : Node C → List (Action C) → Prop
  /-- it cannot happen yet -/
  | idle (hq : n.queryEvent e = none) : Effect h n e n []
  | mesh (me : Mesh.Event C) (m : Mesh C) (out : List (Action C)) (hq : n.queryEvent e = none)
      (hs : n.mesh.step h me = .ok (m, out)) : Effect h n e { n with mesh := m } out
  | transfers (te : Transfers.Event C) (t : Transfers C) (out : List (Action C))
      (hq : n.queryEvent e = none) (hs : n.transfers.step te = .ok (t, out)) :
      Effect h n e { n with transfers := t } out
  | queries (qe : Queries.Event C) (q : Queries C) (out : List (Action C))
      (hq : n.queryEvent e = some qe) (hs : n.queries.step h qe = .ok (q, out)) :
      Effect h n e ({ n with queries := q }.applyFins out) out
  /-- a message that gets to `message_received` -/
  | received (conn : C) (msgp : Message) (n' : Node C) (answer : SsAnswer) (uuid : String)
      (out : List (Action C)) (hq : n.queryEvent e = some (.received n.mesh.router conn msgp))
      (hs : n.messageReceived h conn msgp answer uuid = .ok (n', out)) : Effect h n e n' out

/-- **Every step is one of these.**  Each event of the node is made for one machine, and only a
    received message has to be looked at. -/
theorem step_effect {h : Host C} {n n' : Node C} {e : Event C} {out : List (Action C)}
    (hok : step h n e = .ok (n', out)) : Effect h n e n' out := by
  -- five of the events are for the transfers, and they are alike
  have htransfers : ∀ te, n.queryEvent e = none →
      n.onTransfers (n.transfers.step te) = .ok (n', out) → Effect h n e n' out := by
    intro te hq hon
    obtain ⟨t, ht, rfl⟩ := onTransfers_ok hon
    exact .transfers te t out hq ht
  cases e with
  | mesh e =>
    have hmesh : n.onMesh (n.mesh.step h e) = .ok (n', out) → Effect h n (.mesh e) n' out := by
      intro hon
      obtain ⟨m, hm, rfl⟩ := onMesh_ok hon
      exact .mesh e m out rfl hm
    cases e with
    | received =>
      obtain ⟨rfl, rfl⟩ := Prod.mk.inj (Except.ok.inj hok)
      exact .idle rfl
    | _ => exact hmesh hok
  | received conn msgp answer uuid =>
    simp only [step] at hok
    split at hok
    · rename_i hopen
      split at hok
      · rename_i hcbs
        obtain ⟨m, hm, rfl⟩ := onMesh_ok hok
        exact .mesh _ m out (by simp [queryEvent, hcbs]) hm
      · rename_i hcbs
        exact .received conn msgp n' answer uuid out (if_pos ⟨hopen, hcbs⟩) hok
    · rename_i hopen
      obtain ⟨rfl, rfl⟩ := Prod.mk.inj (Except.ok.inj hok)
      exact .idle (by simp [queryEvent, hopen])
  | connectionTerminated conn =>
    simp only [step] at hok
    split at hok
    · obtain ⟨rfl, rfl⟩ := Prod.mk.inj (Except.ok.inj hok)
      exact .idle rfl
    · exact htransfers (.connectionTerminated conn) rfl hok
  | startReply ss aa uuid => exact htransfers (.startReply ss aa _ uuid) rfl hok
  | timerExpires ss => exact htransfers (.timerExpires ss) rfl hok
  | timeoutCb ss => exact htransfers (.timeoutCb ss) rfl hok
  | adaptorCall aa call => exact htransfers (.adaptorCall aa call) rfl hok
  | _ =>
    simp only [step] at hok
    obtain ⟨q, hs, rfl⟩ := onQueries_ok hok
    exact .queries _ q out rfl hs

/-- **A step, seen from the queries**: one step of theirs, or nothing.  This is the strongest of the
    three, as it says which step it is. -/
theorem step_queries {h : Host C} {n n' : Node C} {e : Event C} {out : List (Action C)}
    (hok : step h n e = .ok (n', out)) :
    (n.queryEvent e = none ∧ n'.queries = n.queries) ∨
    ∃ qe out', n.queryEvent e = some qe ∧ n.queries.step h qe = .ok (n'.queries, out') := by
  cases step_effect hok with
  | idle hq => exact Or.inl ⟨hq, rfl⟩
  | mesh me m out hq hs => exact Or.inl ⟨hq, rfl⟩
  | transfers te t out hq hs => exact Or.inl ⟨hq, rfl⟩
  | queries qe q out hq hs => exact Or.inr ⟨qe, out, hq, hs⟩
  | received conn msgp n' answer uuid out hq hs =>
    obtain ⟨⟨out', hrec⟩, -⟩ := messageReceived_ok hs
    exact Or.inr ⟨_, out', hq, hrec⟩

/-- **A step, seen from the transfers**: at most two steps of theirs, the adaptor and then the
    reply. -/
theorem step_transfers {h : Host C} {n n' : Node C} {e : Event C} {out : List (Action C)}
    (hok : step h n e = .ok (n', out)) :
    ∃ hist, Runs.Run Transfers.step (· = n.transfers) hist n'.transfers := by
  cases step_effect hok with
  | idle => exact ⟨[], .start rfl⟩
  | mesh => exact ⟨[], .start rfl⟩
  | transfers te t out hq hs => exact ⟨_, .one hs⟩
  | queries => exact ⟨[], .start rfl⟩
  | received conn msgp n' answer uuid out hq hs => exact (messageReceived_ok hs).2.1

/-- **A step, seen from the mesh**: one step of its own, or connections closed. -/
theorem step_mesh {h : Host C} {n n' : Node C} {e : Event C} {out : List (Action C)}
    (hok : step h n e = .ok (n', out)) :
    ∃ hist, Runs.Run (Mesh.step h) (· = n.mesh) hist n'.mesh := by
  cases step_effect hok with
  | idle => exact ⟨[], .start rfl⟩
  | mesh me m out hq hs => exact ⟨_, .one hs⟩
  | transfers => exact ⟨[], .start rfl⟩
  | queries => exact run_applyFins h _ _
  | received conn msgp n' answer uuid out hq hs => exact (messageReceived_ok hs).2.2

/-! ## Runs of the node

  What is proved of a machine's reachable states holds of the node's: `Run.transfers` and `Run.mesh`
  are where the other modules get it from. -/

/-- The history of a run of the node. -/
abbrev History (C : Type) [LinearOrder C] :=
  List (Runs.Step (Node C) (Event C) (Action C))

/-- The runs of one node from its start.  Whatever is in the events is up to the surroundings; the
    state is up to the code. -/
abbrev Run (host : Host C) (hist : History C) (n : Node C) : Prop :=
  Runs.Run (step host) (fun n₀ => n₀ = empty) hist n

/-- The transfers of a node are in a state that they reach by themselves, ... -/
theorem Run.transfers {host : Host C} {hist : History C} {n : Node C} (hr : Run host hist n) :
    n.transfers.Reachable :=
  hr.reachable.project (f := Node.transfers) (fun _ h0 => by rw [h0]; rfl)
    fun _ _ _ _ hs => step_transfers hs

/-- ... and so is its mesh. -/
theorem Run.mesh {host : Host C} {hist : History C} {n : Node C} (hr : Run host hist n) :
    Runs.Reachable (Mesh.step host) (fun m => m = Mesh.empty) n.mesh :=
  hr.reachable.project (f := Node.mesh) (fun _ h0 => by rw [h0]; rfl)
    fun _ _ _ _ hs => step_mesh hs

/-- `P` holds of every event of the schedule `es`, given the run up to it.  A schedule that faults
    midway has no run beyond that, and nothing is said of the events there. -/
def Throughout (host : Host C) (P : History C → Node C → Event C → Prop) (es : List (Event C)) :
    Prop :=
  ∀ es₁ e es₂ hist n, es = es₁ ++ e :: es₂ → Run host hist n →
    hist.map (fun st => st.event) = es₁ → P hist n e

/-- What is the same at every event of a run is the same throughout a schedule.  So an equivalence
    for one step is one for all schedules. -/
theorem throughout_congr {host : Host C} {P Q : History C → Node C → Event C → Prop}
    (h : ∀ hist n e, Run host hist n → (P hist n e ↔ Q hist n e)) (es : List (Event C)) :
    Throughout host P es ↔ Throughout host Q es := by
  constructor
  · intro hP es₁ e es₂ hist n hes hr hev
    exact (h hist n e hr).mp (hP es₁ e es₂ hist n hes hr hev)
  · intro hQ es₁ e es₂ hist n hes hr hev
    exact (h hist n e hr).mpr (hQ es₁ e es₂ hist n hes hr hev)

/-! ## A node with two peers -/

/-- Two IDENTs: alice's, with the cookie issued to her, ... -/
def aliceIdent : String := "\x7b\"name\":\"alice\",\"cookie\":\"k\"\x7d"

/-- ... and bob's with his. -/
def bobIdent : String := "\x7b\"name\":\"bob\",\"cookie\":\"l\"\x7d"

/-- A codec for them, for a query and for a text that is JSON but no object.  It reads these texts
    and no others, and writes what it can read. -/
def sampleJson : JsonSpirit := .ofTexts ([
  (aliceIdent, .obj [("name", .str "alice"), ("cookie", .str "k")]),
  (bobIdent, .obj [("name", .str "bob"), ("cookie", .str "l")]),
  ("[]", .array [])] ++ Queries.sampleTexts)

/-- A node with that codec. -/
def sampleHost : Host Nat where
  js := sampleJson
  lib := .table
  playdar := Queries.samplePlaydar
  addressFromString _ := some 0
  jid := "me"
  publicIp := "1.2.3.4"
  port := 60211

/-- Alice and bob connect, on connections 0 and 1.  Each has been issued a cookie, dials us, and
    shows the cookie in the IDENT. -/
def meeting : List (Event Nat) :=
  [.mesh (.jabberNewPeer "alice" "k"), .mesh (.jabberNewPeer "bob" "l"),
    .mesh (.newIncomingConnection 0), .mesh (.newIncomingConnection 1),
    .received 0 ⟨.ident, "g0", aliceIdent⟩ .nothing "u0",
    .received 1 ⟨.ident, "g1", bobIdent⟩ .nothing "u1"]

end Node

end Greynet
