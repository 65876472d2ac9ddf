/-
  The gate in front of `message_received`, over whole runs of the node.

  A new connection hands its messages to `expect_ident`, which accepts one or closes the
  connection; only then do messages go to `message_received`.  A watchdog closes what has not got
  through in time, and the name a connection gets is one that no open connection has.

  1. `Moves` — what one event of the node does to the connections, whichever handler it is in.
  2. `Gated` — the invariant of every connection ever made: the callback it was opened with, or
     ready with an accepted message behind it; `gated_step`.
  3. `gate_holds` — what is accepted, what a refusal leaves alone, what the watchdog does.
  4. `names_unique` — two open connections never bear one name, so a lookup by name and a
     greynet url mean at most one of them.
-/
import Greynet.Node

namespace Greynet

variable {C : Type} [LinearOrder C]

/-! ## Closing several connections

  A handler may close connections and the node then applies its `fin`s one after the other.  What
  the gate needs to know is that this sets nothing on any of them. -/

/-- Closing connections changes which are open, and nothing else.  What was an object, and who has
    been made, stays. -/
theorem Router.foldl_fin (cs : List C) : ∀ r : Router C,
    (cs.foldl (fun r c => r.fin c) r).conn = r.conn ∧
    (cs.foldl (fun r c => r.fin c) r).known = r.known ∧
    ∀ c, c ∈ (cs.foldl (fun r c => r.fin c) r).connections ↔ c ∈ r.connections ∧ c ∉ cs := by
  induction cs with
  | nil => exact fun r => ⟨rfl, rfl, fun c => by simp⟩
  | cons d cs ih =>
    intro r
    obtain ⟨hconn, hknown, hopen⟩ := ih (r.fin d)
    refine ⟨hconn, hknown, fun c => ?_⟩
    rw [List.foldl_cons, hopen, Router.mem_fin, List.mem_cons, not_or, and_assoc]

/-- Those that are left stand in the order they were in, so no connection comes to be open twice. -/
theorem Router.foldl_fin_sublist (cs : List C) : ∀ r : Router C,
    (cs.foldl (fun r c => r.fin c) r).connections.Sublist r.connections := by
  induction cs with
  | nil => exact fun r => .refl _
  | cons d cs ih => exact fun r => (ih (r.fin d)).trans List.filter_sublist

/-- Connections may have closed, and closed ones been destroyed.  This is what all but one kind of
    step does to the router. -/
structure Router.Shrinks (r r' : Router C) : Prop where
  isOpen : r'.connections.Sublist r.connections
  expired : ∀ c ∈ r'.expired, c ∈ r.expired ∨ (c ∈ r.known ∧ c ∉ r.connections)

omit [LinearOrder C] in
/-- It may also be that nothing has happened, as in most steps. -/
theorem Router.Shrinks.refl (r : Router C) : r.Shrinks r := ⟨.refl _, fun _ h => Or.inl h⟩

/-- Closing one is an instance; its object is still there, for whoever holds it. -/
theorem Router.shrinks_fin (r : Router C) (c : C) : r.Shrinks (r.fin c) :=
  ⟨List.filter_sublist, fun _ h => Or.inl h⟩

/-- An object is destroyed only once its connection is closed: the router holds on to those that are
    open. -/
def Router.Living (r : Router C) : Prop :=
  ∀ c ∈ r.expired, c ∈ r.known ∧ c ∉ r.connections

namespace Mesh

/-- A step that opens no connection leaves at most those that were open.  By the effects of the
    mesh, of which only one adds. -/
theorem router_step {h : Host C} {m m' : Mesh C} {e : Event C} {out : List (Action C)}
    (hok : step h m e = .ok (m', out)) (ho : m.opens e = none) :
    m.router.Shrinks m'.router := by
  cases step_does hok with
  | idle | issues | dials | fails => exact .refl m.router
  | opened conn o _ _ hopens =>
    rw [ho] at hopens
    cases hopens
  | accepts => exact ⟨.refl _, fun _ h => Or.inl h⟩
  | closes conn => exact m.router.shrinks_fin conn
  | releases conn he hclosed hknown =>
    refine ⟨.refl _, fun c hc => ?_⟩
    rcases List.mem_cons.mp hc with rfl | hc
    · exact Or.inr ⟨hknown, hclosed⟩
    · exact Or.inl hc

/-- **A destroyed connection is not open**: no handle is opened twice.  So a `weak_ptr` that is null
    never stands for a connection that messages come in on. -/
theorem living_of_reachable {h : Host C} {m : Mesh C}
    (hr : Runs.Reachable (step h) (fun m₀ => m₀ = empty) m) : m.router.Living := by
  refine hr.invariant (I := fun m => m.router.Living) ?_ ?_
  · rintro m rfl c hc
    cases hc
  · intro m e m' out hm hok c hc
    cases step_effect hok with
    | issues jid cookie body he hout hm' =>
      rw [hm'] at hc ⊢
      exact hm c hc
    | opened conn o ho hrouter =>
      rw [hrouter] at hc ⊢
      -- a connection opened is one that was never made, so it is none of the destroyed ones
      obtain ⟨hknown, hclosed⟩ := hm c hc
      refine ⟨Router.mem_add_known.mpr (Or.inr hknown), fun hopen => ?_⟩
      rcases Router.mem_add.mp hopen with rfl | hopen
      · exact (opens_some ho).1 hknown
      · exact hclosed hopen
    | accepts conn msgp uuid incoming cbs name he hopen hcbs hp hm' =>
      rw [hm'] at hc ⊢
      exact hm c hc
    | keeps ho hconn hknown =>
      have hshrinks := router_step hok ho
      rw [hknown]
      rcases hshrinks.expired c hc with hc | ⟨hk, hclosed⟩
      · exact ⟨(hm c hc).1, fun hopen => (hm c hc).2 (hshrinks.isOpen.subset hopen)⟩
      · exact ⟨hk, fun hopen => hclosed (hshrinks.isOpen.subset hopen)⟩

end Mesh

namespace Node

/-! ## What an event does to the connections

  All handlers of the plugin together do three things to them: open one, accept a message on one,
  and close some. -/

/-- The connection is open, and its next message goes to `expect_ident`, with the flag bound to
    it. -/
structure Expecting (n : Node C) (conn : C) (incoming : Bool) : Prop where
  isOpen : conn ∈ n.mesh.router.connections
  callback : (n.mesh.router.conn conn).messageReceivedCbs.head? = some incoming

/-- The connection is open, and its next message goes to `message_received`.  What the handlers do
    is of interest only there. -/
structure PastGate (n : Node C) (conn : C) : Prop where
  isOpen : conn ∈ n.mesh.router.connections
  callback : (n.mesh.router.conn conn).messageReceivedCbs = []

/-- Connections may close, and nothing else happens to them: no name, no flag, no callback. -/
structure OnlyCloses (n n' : Node C) : Prop where
  conn : n'.mesh.router.conn = n.mesh.router.conn
  known : n'.mesh.router.known = n.mesh.router.known
  isOpen : n'.mesh.router.connections.Sublist n.mesh.router.connections

/-- Where the mesh is as it was, so are the connections; that is most of what the transfers and the
    queries do. -/
theorem OnlyCloses.of_mesh {n n' : Node C} (hm : n'.mesh = n.mesh) : OnlyCloses n n' :=
  ⟨by rw [hm], by rw [hm], by rw [hm]⟩

/-- What a handler asks to have closed is closed, and it can ask for no more than that. -/
theorem OnlyCloses.of_applyFins (n n₁ : Node C) (hm : n₁.mesh = n.mesh)
    (out : List (Action C)) : OnlyCloses n (n₁.applyFins out) := by
  obtain ⟨hconn, hknown, -⟩ := Router.foldl_fin (finished out) n₁.mesh.router
  exact ⟨hconn.trans (by rw [hm]), hknown.trans (by rw [hm]),
    hm ▸ Router.foldl_fin_sublist (finished out) n₁.mesh.router⟩

/-- What an event does to the connections: one of the three.  They are told apart by the event and
    the state before it. -/
inductive Moves (host : Host C) (n : Node C) (e : Event C) (n' : Node C) : Prop
  /-- a new one is opened, with `expect_ident` for its messages -/
  | opened (conn : C) (o : Option Dial) (me : Mesh.Event C) (he : e = .mesh me)
      (ho : n.mesh.opens me = some (conn, o))
      (hrouter : n'.mesh.router = n.mesh.router.add conn (Mesh.fresh o))
  /-- a message is accepted -/
  | accepted (conn : C) (msgp : Message) (answer : SsAnswer) (uuid name : String)
      (incoming : Bool) (he : e = .received conn msgp answer uuid)
      (hexp : n.Expecting conn incoming) (hp : Mesh.Passes host n.mesh msgp incoming name)
      (hrouter : n'.mesh.router =
        n.mesh.router.modify conn (Mesh.identified incoming name))
  | kept (hk : OnlyCloses n n')

/-- `message_received` only ever closes connections: its own, if a message on it is malformed. -/
theorem messageReceived_closes {host : Host C} {n n' : Node C} {conn : C} {msgp : Message}
    {answer : SsAnswer} {uuid : String} {out : List (Action C)}
    (hok : n.messageReceived host conn msgp answer uuid = .ok (n', out)) : OnlyCloses n n' := by
  -- the handlers return through the queries or the transfers, neither of which opens connection
  have hqueries : ∀ {x : Except Fault (Queries C × List (Action C))} {q : Queries C},
      ({ n with queries := q } : Node C).onQueries x = .ok (n', out) → OnlyCloses n n' := by
    intro x q hx
    obtain ⟨q', -, rfl⟩ := onQueries_ok hx
    exact .of_applyFins n { n with queries := q' } rfl out
  have htransfers : ∀ {x : Except Fault (Transfers C × List (Action C))} {q : Queries C},
      ({ n with queries := q } : Node C).onTransfers x = .ok (n', out) → OnlyCloses n n' := by
    intro x q hx
    obtain ⟨t, -, rfl⟩ := onTransfers_ok hx
    exact .of_mesh rfl
  unfold messageReceived at hok
  split at hok
  · split at hok
    · obtain ⟨rfl, -⟩ := Prod.mk.inj (Except.ok.inj hok)
      exact .of_mesh rfl
    · obtain ⟨rfl, -⟩ := Prod.mk.inj (Except.ok.inj hok)
      exact .of_mesh rfl
    · exact hqueries hok
    · exact hqueries hok
    · exact hqueries hok
    · obtain ⟨hmesh, -, -⟩ := handleSidrequest_ok hok
      exact .of_mesh hmesh
    · exact htransfers hok
    · exact htransfers hok
    · exact htransfers hok
    · obtain ⟨rfl, -⟩ := Prod.mk.inj (Except.ok.inj hok)
      exact .of_mesh rfl
    · obtain ⟨rfl, -⟩ := Prod.mk.inj (Except.ok.inj hok)
      exact .of_mesh rfl
  · obtain ⟨rfl, -⟩ := Prod.mk.inj (Except.ok.inj hok)
    exact .of_mesh rfl

/-- **Every event opens a connection, or has a message accepted on one, or at most closes some.** -/
theorem step_moves {host : Host C} {n n' : Node C} {e : Event C} {out : List (Action C)}
    (hok : step host n e = .ok (n', out)) : Moves host n e n' := by
  have hmesh : ∀ me m, n.mesh.step host me = .ok (m, out) → n.mesh.opens me = none →
      m.router.conn = n.mesh.router.conn → m.router.known = n.mesh.router.known →
      Moves host n e { n with mesh := m } :=
    fun me m hs ho hconn hknown => .kept ⟨hconn, hknown, (Mesh.router_step hs ho).isOpen⟩
  have hqueries : ∀ x, n.onQueries x = .ok (n', out) → Moves host n e n' := by
    intro x hx
    obtain ⟨q, -, rfl⟩ := onQueries_ok hx
    exact .kept (.of_applyFins n { n with queries := q } rfl out)
  have htransfers : ∀ x, n.onTransfers x = .ok (n', out) → Moves host n e n' := by
    intro x hx
    obtain ⟨t, -, rfl⟩ := onTransfers_ok hx
    exact .kept (.of_mesh rfl)
  have hidle : Except.ok (n, []) = Except.ok (ε := Fault) (n', out) → Moves host n e n' := by
    intro hx
    obtain ⟨rfl, -⟩ := Prod.mk.inj (Except.ok.inj hx)
    exact .kept (.of_mesh rfl)
  cases e with
  | mesh me =>
    by_cases hrec : ∃ conn msgp uuid, me = .received conn msgp uuid
    · -- messages come as `Event.received`: the mesh's own event does nothing here
      obtain ⟨conn, msgp, uuid, rfl⟩ := hrec
      exact hidle hok
    · have hon : n.onMesh (n.mesh.step host me) = .ok (n', out) := by
        cases me with
        | received conn msgp uuid => exact absurd ⟨conn, msgp, uuid, rfl⟩ hrec
        | _ => exact hok
      obtain ⟨m, hs, rfl⟩ := onMesh_ok hon
      rcases Mesh.step_effect hs with ⟨jid, cookie, body, rfl, -, rfl⟩ | ⟨conn, o, ho, hrouter, -⟩ |
        ⟨conn, msgp, uuid, _, _, _, rfl, -⟩ | ⟨ho, hconn, hknown, -⟩
      · exact hmesh _ _ hs rfl rfl rfl
      · exact .opened conn o me rfl ho hrouter
      · exact absurd ⟨conn, msgp, uuid, rfl⟩ hrec
      · exact hmesh me m hs ho hconn hknown
  | received conn msgp answer uuid =>
    simp only [step] at hok
    split at hok
    · rename_i hopen
      split at hok
      · rename_i incoming cbs hcbs
        obtain ⟨m, hs, rfl⟩ := onMesh_ok hok
        -- the IDENT callback is on top, so it is `expect_ident` that gets the message
        have hexp : n.Expecting conn incoming := ⟨hopen, by rw [hcbs]; rfl⟩
        rcases Mesh.step_effect hs with ⟨_, _, _, he, -⟩ | ⟨_, _, ho, -⟩ |
          ⟨_, _, _, incoming', cbs', name, he, -, hcbs', hp, rfl⟩ | ⟨ho, hconn, hknown, -⟩
        · cases he
        · cases ho
        · obtain ⟨rfl, rfl, rfl⟩ := Mesh.Event.received.inj he
          obtain ⟨rfl, -⟩ := List.cons.inj (hcbs.symm.trans hcbs')
          exact .accepted conn msgp answer uuid name incoming rfl hexp hp rfl
        · exact hmesh _ m hs ho hconn hknown
      · exact .kept (messageReceived_closes hok)
    · exact hidle hok
  | connectionTerminated conn =>
    simp only [step] at hok
    split at hok
    · exact hidle hok
    · exact htransfers _ hok
  | startReply ss aa uuid => exact htransfers _ hok
  | timerExpires ss => exact htransfers _ hok
  | timeoutCb ss => exact htransfers _ hok
  | adaptorCall aa call => exact htransfers (n.transfers.step (.adaptorCall aa call)) hok
  | _ =>
    simp only [step] at hok
    exact hqueries _ hok

/-! ## Every connection, in every state of a run

  The invariant speaks of closed connections too, for an object that is closed may still be held by
  a song or a query. -/

/-- The connection was opened in the history, as an incoming one or as an outgoing one; it may be
    closed by now. -/
def Opened (hist : History C) (conn : C) (incoming : Bool) : Prop :=
  ∃ st ∈ hist, ∃ me o, st.event = .mesh me ∧ st.pre.mesh.opens me = some (conn, o) ∧
    o.isNone = incoming

/-- A message on the connection was accepted: `expect_ident` had it, and then the connection was
    ready. -/
def Accepted (st : Runs.Step (Node C) (Event C) (Action C)) (conn : C) : Prop :=
  ∃ msgp answer uuid incoming, st.event = .received conn msgp answer uuid ∧
    st.pre.Expecting conn incoming ∧ (st.post.mesh.router.conn conn).ready = true

/-- What a connection has behind it: while it is not ready, how it was opened, and once it is ready,
    the step that accepted a message on it. -/
structure GatedConn (hist : History C) (conn : C) (x : Connection) : Prop where
  waiting : x.ready = false → ∃ incoming, x.messageReceivedCbs = [incoming] ∧
    Opened hist conn incoming
  passed : x.ready = true → ∃ st ∈ hist, Accepted st conn

/-- **The invariant of every connection ever made**: it is known, it is open at most once, and there
    is a reason for the callback it has. -/
structure Gated (hist : History C) (n : Node C) : Prop where
  known : ∀ c ∈ n.mesh.router.connections, c ∈ n.mesh.router.known
  nodup : n.mesh.router.connections.Nodup
  conn : ∀ c ∈ n.mesh.router.known, GatedConn hist c (n.mesh.router.conn c)

/-- What lies behind it stays there, however the run goes on. -/
theorem GatedConn.mono {hist : History C} {conn : C} {x : Connection} (h : GatedConn hist conn x)
    (st : Runs.Step (Node C) (Event C) (Action C)) : GatedConn (hist ++ [st]) conn x := by
  refine ⟨fun hw => ?_, fun hp => ?_⟩
  · obtain ⟨incoming, hcbs, st', hst', hopened⟩ := h.waiting hw
    exact ⟨incoming, hcbs, st', List.mem_append_left _ hst', hopened⟩
  · obtain ⟨st', hst', hacc⟩ := h.passed hp
    exact ⟨st', List.mem_append_left _ hst', hacc⟩

/-- One case for each way to move: a new connection waits, an accepted one has the step behind it,
    and the others have what they had. -/
theorem gated_step {host : Host C} {hist : History C} {n n' : Node C} {e : Event C}
    {out : List (Action C)} (hg : Gated hist n) (hok : step host n e = .ok (n', out)) :
    Gated (hist ++ [⟨n, e, n', out⟩]) n' := by
  have hlast : (⟨n, e, n', out⟩ : Runs.Step _ _ _) ∈ hist ++ [⟨n, e, n', out⟩] :=
    List.mem_concat_self
  rcases step_moves hok with ⟨conn, o, me, he, ho, hrouter⟩ |
    ⟨conn, msgp, answer, uuid, name, incoming, he, hexp, hp, hrouter⟩ | hk
  · -- a new connection: nothing has been accepted on it
    have hfresh : GatedConn (hist ++ [⟨n, e, n', out⟩]) conn (Mesh.fresh o) := by
      refine ⟨fun _ => ⟨o.isNone, by cases o <;> rfl, _, hlast, me, o, he, ho, rfl⟩, fun hr => ?_⟩
      rcases o with _ | d
      · cases hr
      · cases hr
    refine ⟨fun c hc => ?_, ?_, fun c hc => ?_⟩
    · rw [hrouter] at hc ⊢
      rw [Router.mem_add_known]
      rcases Router.mem_add.mp hc with rfl | hc
      · exact Or.inl rfl
      · exact Or.inr (hg.known c hc)
    · rw [hrouter]
      exact List.nodup_cons.mpr
        ⟨fun hin => (Mesh.opens_some ho).1 (hg.known conn hin), hg.nodup⟩
    · rw [hrouter] at hc ⊢
      by_cases hcc : c = conn
      · rw [hcc, Router.add_conn_self]
        exact hfresh
      · rw [Router.add_conn_ne _ _ hcc]
        exact (hg.conn c ((Router.mem_add_known.mp hc).resolve_left hcc)).mono _
  · have hready : (n'.mesh.router.conn conn).ready = true := by
      rw [hrouter, Router.modify_conn_self]
      rfl
    refine ⟨fun c hc => ?_, by rw [hrouter]; exact hg.nodup, fun c hc => ?_⟩
    · rw [hrouter] at hc ⊢
      exact hg.known c hc
    · by_cases hcc : c = conn
      · subst hcc
        refine ⟨fun hw => ?_, fun _ => ⟨_, hlast, msgp, answer, uuid, incoming, he, hexp, hready⟩⟩
        rw [hready] at hw
        cases hw
      · rw [hrouter] at hc ⊢
        rw [Router.modify_conn_ne _ _ hcc]
        exact (hg.conn c hc).mono _
  · refine ⟨fun c hc => ?_, hg.nodup.sublist hk.isOpen, fun c hc => ?_⟩
    · rw [hk.known]
      exact hg.known c (hk.isOpen.subset hc)
    · rw [hk.known] at hc
      rw [hk.conn]
      exact (hg.conn c hc).mono _

/-- At the start there are no connections, and each step keeps it so.  This is the one induction of
    this module; the rest is read off it. -/
theorem Run.gated {host : Host C} {hist : History C} {n : Node C} (hr : Run host hist n) :
    Gated hist n := by
  refine Runs.Run.invariant (I := fun hist n => Gated hist n) ?_ ?_ hr
  · rintro n rfl
    exact ⟨fun c hc => (by cases hc), List.nodup_nil, fun c hc => (by cases hc)⟩
  · intro hist n e n' out _ ih hok
    exact gated_step ih hok

/-- On an open connection a message is `expect_ident`'s or `message_received`'s, and it is the
    latter's only if the connection is ready. -/
theorem Run.pastGate {host : Host C} {hist : History C} {n : Node C} (hr : Run host hist n)
    {conn : C} (hn : n.PastGate conn) : (n.mesh.router.conn conn).ready = true := by
  have hgated := hr.gated.conn conn (hr.gated.known conn hn.isOpen)
  by_contra hnot
  obtain ⟨incoming, hcbs, -⟩ := hgated.waiting (by simpa using hnot)
  rw [hn.callback] at hcbs
  cases hcbs

/-! ## What is accepted, and what a refusal leaves alone

  `expect_ident` makes a series of checks and closes the connection at the first that fails.  Their
  order does not show, for each failure does the same. -/

/-- A field of an object is a string if it is there and is one. -/
theorem strField_eq_some {m : String → Option Value} {key s : String} :
    strField m key = some s ↔ m key = some (.str s) := by
  unfold strField
  split
  · rename_i s' hs
    rw [hs]
    simp
  · rename_i hno
    exact ⟨fun h => (by cases h), fun h => absurd h (hno s)⟩

/-- The IDENT that `expect_ident` asks for: `o` is the object in it, `name` what it is called. -/
structure Acceptable (host : Host C) (n : Node C) (msgp : Message) (incoming : Bool) (o : Object)
    (name : String) : Prop where
  type : msgp.type = .ident
  object : host.js.read msgp.payload = some (.obj o)
  named : objToMap o "name" = some (.str name)
  free : ∀ c ∈ n.mesh.router.connections, (n.mesh.router.conn c).name ≠ some name
  cookie : incoming = true →
    ∃ k, objToMap o "cookie" = some (.str k) ∧ k ≠ "" ∧ n.mesh.peerCookies k ≠ none

/-- The checks of `expect_ident`, spelled out, with what `get_connection_by_name` answers said by
    the names of the open connections. -/
theorem passes_iff {host : Host C} {n : Node C} {msgp : Message} {incoming : Bool}
    {name : String} :
    Mesh.Passes host n.mesh msgp incoming name ↔
      ∃ o, Acceptable host n msgp incoming o name := by
  have hfree : host.lib.hasConnection n.mesh.router name = false ↔
      ∀ c ∈ n.mesh.router.connections, (n.mesh.router.conn c).name ≠ some name := by
    rw [← Bool.not_eq_true, Libf2f.hasConnection_iff]
    simp
  -- the two say the same of the same object, one by reading and one by its fields
  constructor
  · intro hp
    have hnamed := hp.named
    unfold identName identMap at hnamed
    split at hnamed
    · rename_i ht
      split at hnamed
      · rename_i o hread
        have hmap : identMap host.js msgp = some (objToMap o) := by
          unfold identMap
          rw [hread]
        refine ⟨o, ht, hread, strField_eq_some.mp hnamed, hfree.mp hp.free, fun hin => ?_⟩
        obtain ⟨k, hk, hne, hissued⟩ := hp.cookie hin
        rw [identCookie, if_pos ht, hmap] at hk
        exact ⟨k, strField_eq_some.mp hk, hne, hissued⟩
      · cases hnamed
    · cases hnamed
  · rintro ⟨o, ha⟩
    have hmap : identMap host.js msgp = some (objToMap o) := by
      unfold identMap
      rw [ha.object]
    refine ⟨?_, hfree.mpr ha.free, fun hin => ?_⟩
    · rw [identName, if_pos ha.type, hmap]
      exact strField_eq_some.mpr ha.named
    · obtain ⟨k, hk, hne, hissued⟩ := ha.cookie hin
      refine ⟨k, ?_, hne, hissued⟩
      rw [identCookie, if_pos ha.type, hmap]
      exact strField_eq_some.mpr hk

/-- The connection is let in, under `name`, and its messages go to `message_received` from now
    on. -/
structure LetIn (n' : Node C) (conn : C) (name : String) : Prop extends PastGate n' conn where
  ready : (n'.mesh.router.conn conn).ready = true
  named : (n'.mesh.router.conn conn).name = some name

/-- The connection is closed, and nothing else has changed: no flag, no name, no cookie, no query
    and no song. -/
structure ShutOut (n : Node C) (conn : C) (n' : Node C) : Prop where
  closed : conn ∉ n'.mesh.router.connections
  others : ∀ c, c ≠ conn → (c ∈ n'.mesh.router.connections ↔ c ∈ n.mesh.router.connections)
  /-- the ready flags and the names of all of them -/
  conn : n'.mesh.router.conn = n.mesh.router.conn
  cookies : n'.mesh.peerCookies = n.mesh.peerCookies
  queries : n'.queries = n.queries
  transfers : n'.transfers = n.transfers

/-- A connection `fin`ished by the mesh is shut out, and all the rest of the node is as it was. -/
theorem shutOut_refuse (n : Node C) (conn : C) :
    ShutOut n conn { n with mesh := (n.mesh.refuse conn).1 } := by
  refine ⟨?_, fun c hc => ?_, rfl, rfl, rfl, rfl⟩
  · show conn ∉ (n.mesh.router.fin conn).connections
    simp
  · show c ∈ (n.mesh.router.fin conn).connections ↔ _
    simp [hc]

/-- **What `expect_ident` does with any message**, in any state: it lets the connection in exactly
    if the message is acceptable, and shuts it out otherwise. -/
theorem step_expecting {host : Host C} {hist : History C} {n : Node C} (hr : Run host hist n)
    {conn : C} {incoming : Bool} (hexp : n.Expecting conn incoming) (msgp : Message)
    (answer : SsAnswer) (uuid : String) :
    (∃ o name n', Acceptable host n msgp incoming o name ∧ LetIn n' conn name ∧
      step host n (.received conn msgp answer uuid) =
        .ok (n', Mesh.identReply host conn incoming uuid)) ∨
    ∃ n', (∀ o name, ¬ Acceptable host n msgp incoming o name) ∧ ShutOut n conn n' ∧
      step host n (.received conn msgp answer uuid) = .ok (n', [.fin conn]) := by
  obtain ⟨cbs, hcbs⟩ := List.head?_eq_some_iff.mp hexp.callback
  have hstep : step host n (.received conn msgp answer uuid) =
      n.onMesh (n.mesh.step host (.received conn msgp uuid)) := by
    simp only [step, if_pos hexp.isOpen, hcbs]
  -- one of the names passes, or none does and the connection is refused
  by_cases hp : ∃ name, Mesh.Passes host n.mesh msgp incoming name
  · obtain ⟨name, hp⟩ := hp
    obtain ⟨o, ha⟩ := passes_iff.mp hp
    refine Or.inl ⟨o, name, { n with mesh := { n.mesh with
      router := n.mesh.router.modify conn (Mesh.identified incoming name) } }, ha, ?_, ?_⟩
    · have hconn := Router.modify_conn_self n.mesh.router conn (Mesh.identified incoming name)
      have hready : ((n.mesh.router.modify conn (Mesh.identified incoming name)).conn
          conn).ready = true := by rw [hconn]; rfl
      refine ⟨⟨hexp.isOpen, ?_⟩, hready, by rw [hconn]; rfl⟩
      have hshaken : Mesh.Handshaken (Mesh.identified incoming name (n.mesh.router.conn conn)) :=
        Mesh.handshaken_identified (Mesh.handshaken_of_reachable hr.mesh conn) hcbs
      rw [hconn]
      exact hshaken.ready rfl
    · rw [hstep, Mesh.step_passes uuid hexp.isOpen hcbs hp]
      rfl
  · refine Or.inr ⟨_, fun o name ha => hp ⟨name, passes_iff.mpr ⟨o, ha⟩⟩,
      shutOut_refuse n conn, ?_⟩
    rw [hstep, Mesh.step_refuses uuid hexp.isOpen hcbs fun name h => hp ⟨name, h⟩]
    rfl

/-! ## The watchdog

  `new_connection_timeout` runs once for each connection, some time after it was made.  The timer is
  never cancelled: when the connection is ready it finds nothing to do. -/

/-- The connection has been made, and is ready or closed.  Before that it can only wait for an
    IDENT. -/
def Settled (n : Node C) (conn : C) : Prop :=
  conn ∈ n.mesh.router.known ∧
    ((n.mesh.router.conn conn).ready = true ∨ conn ∉ n.mesh.router.connections)

/-- A connection is opened once, and is never made unready; so one that is settled stays so.  The
    three moves are looked at in turn. -/
theorem settled_step {host : Host C} {n n' : Node C} {e : Event C} {out : List (Action C)}
    {conn : C} (hn : n.Settled conn) (hok : step host n e = .ok (n', out)) : n'.Settled conn := by
  obtain ⟨hknown, hn⟩ := hn
  rcases step_moves hok with ⟨c, o, me, he, ho, hrouter⟩ |
    ⟨c, msgp, answer, uuid, name, incoming, he, hexp, hp, hrouter⟩ | hk
  · have hne : conn ≠ c := by
      rintro rfl
      exact (Mesh.opens_some ho).1 hknown
    rw [Settled, hrouter, Router.mem_add_known, Router.mem_add, Router.add_conn_ne _ _ hne]
    exact ⟨Or.inr hknown, hn.imp_right fun hclosed => not_or.mpr ⟨hne, hclosed⟩⟩
  · rw [Settled, hrouter]
    refine ⟨hknown, ?_⟩
    by_cases hc : conn = c
    · subst hc
      rw [Router.modify_conn_self]
      exact Or.inl rfl
    · rw [Router.modify_conn_ne _ _ hc]
      exact hn
  · rw [Settled, hk.known, hk.conn]
    exact ⟨hknown, hn.imp_right fun hclosed hopen => hclosed (hk.isOpen.subset hopen)⟩

/-- **The watchdog** leaves a ready connection alone, and closes one that is not.  It may run at any
    time, and also when the connection has been closed already. -/
theorem step_watchdog (host : Host C) (n : Node C) (conn : C) :
    ((n.mesh.router.conn conn).ready = true →
      step host n (.mesh (.newConnectionTimeout conn)) = .ok (n, [])) ∧
    ((n.mesh.router.conn conn).ready = false → ∃ n', ShutOut n conn n' ∧
      step host n (.mesh (.newConnectionTimeout conn)) = .ok (n', [.fin conn])) := by
  constructor
  · intro hready
    simp only [step, Mesh.step, Mesh.newConnectionTimeout, if_pos hready, onMesh]
  · intro hnot
    refine ⟨_, shutOut_refuse n conn, ?_⟩
    have hnot' : ¬ (n.mesh.router.conn conn).ready = true := by simp [hnot]
    simp only [step, Mesh.step, Mesh.newConnectionTimeout, if_neg hnot', onMesh, Mesh.refuse]

/-- Once its watchdog has run, a connection is ready or closed for good. -/
theorem Run.settled {host : Host C} {hist : History C} {n : Node C} (hr : Run host hist n)
    {st : Runs.Step (Node C) (Event C) (Action C)} (hst : st ∈ hist) {conn : C}
    (he : st.event = .mesh (.newConnectionTimeout conn))
    (hknown : conn ∈ st.pre.mesh.router.known) : n.Settled conn := by
  obtain ⟨h₁, h₂, rfl⟩ := List.append_of_mem hst
  obtain ⟨-, hs, hr₂⟩ := hr.cut
  -- right after the watchdog has run; from there on `settled_step` keeps it
  have hpost : st.post.Settled conn := by
    obtain ⟨hready, hnot⟩ := step_watchdog host st.pre conn
    rw [he] at hs
    by_cases hrd : (st.pre.mesh.router.conn conn).ready = true
    · rw [hready hrd] at hs
      obtain ⟨heq, -⟩ := Prod.mk.inj (Except.ok.inj hs)
      rw [← heq]
      exact ⟨hknown, Or.inl hrd⟩
    · obtain ⟨n', hshut, hs'⟩ := hnot (by simpa using hrd)
      -- the step closes at most, for the event is none that opens or accepts
      have hk : OnlyCloses st.pre n' := by
        rcases step_moves hs' with ⟨_, _, me, hme, ho, -⟩ | ⟨_, _, _, _, _, _, hme, -⟩ | hk
        · cases hme
          cases ho
        · cases hme
        · exact hk
      rw [hs'] at hs
      obtain ⟨heq, -⟩ := Prod.mk.inj (Except.ok.inj hs)
      rw [← heq]
      exact ⟨by rwa [hk.known], Or.inr hshut.closed⟩
  exact Runs.Run.invariant (I := fun _ n => n.Settled conn) (fun s hs => hs ▸ hpost)
    (fun _ _ _ _ _ _ ih hok => settled_step ih hok) hr₂

/-! ## The gate -/

/-- What stands between a new connection and `message_received`, in one state and in the history
    that has led to it. -/
structure Gate (host : Host C) (hist : History C) (n : Node C) : Prop where
  /-- a connection whose messages go to `message_received` had one accepted before -/
  authenticated : ∀ conn, n.PastGate conn → ∃ st ∈ hist, Accepted st conn
  /-- any other open connection hands them to `expect_ident`, bound to how it was opened -/
  expecting : ∀ conn ∈ n.mesh.router.connections, ¬ n.PastGate conn →
    ∃ incoming, n.Expecting conn incoming ∧ Opened hist conn incoming
  /-- what is acceptable is let in ... -/
  accepts : ∀ conn incoming msgp answer uuid o name, n.Expecting conn incoming →
    Acceptable host n msgp incoming o name →
    ∃ n' out, step host n (.received conn msgp answer uuid) = .ok (n', out) ∧ LetIn n' conn name
  /-- ... and any other message closes the connection and changes nothing else -/
  refuses : ∀ conn incoming msgp answer uuid, n.Expecting conn incoming →
    (∀ o name, ¬ Acceptable host n msgp incoming o name) →
    ∃ n', step host n (.received conn msgp answer uuid) = .ok (n', [.fin conn]) ∧
      ShutOut n conn n'
  /-- the watchdog closes no ready connection ... -/
  spared : ∀ conn, (n.mesh.router.conn conn).ready = true →
    step host n (.mesh (.newConnectionTimeout conn)) = .ok (n, [])
  /-- ... and leaves none that is open and not ready -/
  settled : ∀ st ∈ hist, ∀ conn, st.event = .mesh (.newConnectionTimeout conn) →
    conn ∈ st.pre.mesh.router.known →
    (n.mesh.router.conn conn).ready = true ∨ conn ∉ n.mesh.router.connections

/-- **The gate holds on every connection**, in every run.  The parts are put together from the
    lemmas above, one for each field. -/
theorem gate_holds (host : Host C) (hist : History C) (n : Node C) (hr : Run host hist n) :
    Gate host hist n where
  authenticated conn hn :=
    (hr.gated.conn conn (hr.gated.known conn hn.isOpen)).passed (hr.pastGate hn)
  expecting conn hopen hn := by
    have hgated := hr.gated.conn conn (hr.gated.known conn hopen)
    have hnot : (n.mesh.router.conn conn).ready = false := by
      by_contra hready
      refine hn ⟨hopen, (Mesh.handshaken_of_reachable hr.mesh conn).ready ?_⟩
      simpa using hready
    obtain ⟨incoming, hcbs, hopened⟩ := hgated.waiting hnot
    exact ⟨incoming, ⟨hopen, by rw [hcbs]; rfl⟩, hopened⟩
  accepts conn incoming msgp answer uuid o name hexp ha := by
    rcases step_expecting hr hexp msgp answer uuid with ⟨o', name', n', ha', hlet, hs⟩ |
      ⟨n', hno, -⟩
    · have hname : name' = name :=
        (passes_iff.mpr ⟨o', ha'⟩).unique (passes_iff.mpr ⟨o, ha⟩)
      exact ⟨n', _, hs, hname ▸ hlet⟩
    · exact absurd ha (hno o name)
  refuses conn incoming msgp answer uuid hexp hno := by
    rcases step_expecting hr hexp msgp answer uuid with ⟨o, name, n', ha, -⟩ | ⟨n', -, hshut, hs⟩
    · exact absurd ha (hno o name)
    · exact ⟨n', hs, hshut⟩
  spared conn hready := (step_watchdog host n conn).1 hready
  settled st hst conn he hknown := (hr.settled hst he hknown).2

/-- Alice and bob have got through the gate. -/
theorem gate_meeting : Gate sampleHost (Runs.trace (step sampleHost) empty meeting)
    (Runs.after (step sampleHost) empty meeting) :=
  gate_holds sampleHost _ _ (Runs.run_trace _ rfl)

/-! ## Names

  `expect_ident` refuses a name that an open connection has, and is the only one that gives names.
  A connection keeps its name when it closes, so it is the open ones that differ. -/

/-- **Names are unique**: an IDENT with a name that an open connection has is refused.  By induction
    on the run, with the step that gives a name the only case. -/
theorem Run.name_inj {host : Host C} {hist : History C} {n : Node C} (hr : Run host hist n)
    {c d : C} {name : String} (hc : c ∈ n.mesh.router.connections)
    (hd : d ∈ n.mesh.router.connections) (hcn : (n.mesh.router.conn c).name = some name)
    (hdn : (n.mesh.router.conn d).name = some name) : c = d := by
  refine Runs.Run.invariant (I := fun _ n => ∀ c ∈ n.mesh.router.connections,
    ∀ d ∈ n.mesh.router.connections, ∀ name, (n.mesh.router.conn c).name = some name →
    (n.mesh.router.conn d).name = some name → c = d) ?_ ?_ hr c hc d hd name hcn hdn
  · rintro n rfl c hc
    cases hc
  · intro hist n e n' out hr ih hok c hc d hd name hcn hdn
    rcases step_moves hok with ⟨conn, o, me, he, ho, hrouter⟩ |
      ⟨conn, msgp, answer, uuid, name', incoming, he, hexp, hp, hrouter⟩ | hk
    · -- a new connection has no name
      have hfresh : (Mesh.fresh o).name = none := by cases o <;> rfl
      have hold : ∀ x, x ∈ n'.mesh.router.connections →
          (n'.mesh.router.conn x).name = some name →
          x ∈ n.mesh.router.connections ∧ (n.mesh.router.conn x).name = some name := by
        intro x hx hxn
        rw [hrouter] at hx hxn
        by_cases hxc : x = conn
        · rw [hxc, Router.add_conn_self, hfresh] at hxn
          cases hxn
        · rw [Router.add_conn_ne _ _ hxc] at hxn
          exact ⟨(Router.mem_add.mp hx).resolve_left hxc, hxn⟩
      obtain ⟨hc, hcn⟩ := hold c hc hcn
      obtain ⟨hd, hdn⟩ := hold d hd hdn
      exact ih c hc d hd name hcn hdn
    · -- the name accepted was free
      rw [hrouter] at hc hd hcn hdn
      obtain ⟨o, ha⟩ := passes_iff.mp hp
      by_cases hcc : c = conn
      · by_cases hdc : d = conn
        · rw [hcc, hdc]
        · rw [hcc, Router.modify_conn_self] at hcn
          obtain rfl := Option.some.inj hcn
          rw [Router.modify_conn_ne _ _ hdc] at hdn
          exact absurd hdn (ha.free d hd)
      · rw [Router.modify_conn_ne _ _ hcc] at hcn
        by_cases hdc : d = conn
        · rw [hdc, Router.modify_conn_self] at hdn
          obtain rfl := Option.some.inj hdn
          exact absurd hcn (ha.free c hc)
        · rw [Router.modify_conn_ne _ _ hdc] at hdn
          exact ih c hc d hd name hcn hdn
    · rw [hk.conn] at hcn hdn
      exact ih c (hk.isOpen.subset hc) d (hk.isOpen.subset hd) name hcn hdn

/-- A name means at most one connection, for whoever looks it up: in `expect_ident`, for an advert,
    or with a greynet url. -/
structure UniqueNames (host : Host C) (n : Node C) : Prop where
  /-- no two open connections bear the same name, ready or not -/
  unique : ∀ c ∈ n.mesh.router.connections, ∀ d ∈ n.mesh.router.connections, ∀ name,
    (n.mesh.router.conn c).name = some name → (n.mesh.router.conn d).name = some name → c = d
  /-- what a lookup answers is the only connection with the name -/
  lookup : ∀ name c, host.lib.getConnectionByName n.mesh.router name = some c →
    ∀ d ∈ n.mesh.router.connections, (n.mesh.router.conn d).name = some name → d = c
  /-- what a greynet url resolves to is the only connection with the name in it -/
  factory : ∀ url oid ss, ssFactory host n.mesh.router url oid = some ss →
    ss.conn ∈ n.mesh.router.connections ∧
    ∃ name, name.toList = (url.toList.drop 10).takeWhile (fun c => c ≠ ';') ∧
      (n.mesh.router.conn ss.conn).name = some name ∧
      ∀ d ∈ n.mesh.router.connections, (n.mesh.router.conn d).name = some name → d = ss.conn

omit [LinearOrder C] in
/-- `ss_greynet::factory` asks for the connection with the name in the url, which ends at the first
    `;`. -/
theorem ssFactory_some {host : Host C} {r : Router C} {url : String} {oid : Nat}
    {ss : SsGreynet C} (h : ssFactory host r url oid = some ss) :
    host.lib.getConnectionByName r
      (String.ofList ((url.toList.drop 10).takeWhile fun c => c ≠ ';')) = some ss.conn := by
  simp only [ssFactory] at h
  split at h
  · split at h
    · rename_i conn hconn
      obtain rfl := Option.some.inj h
      exact hconn
    · cases h
  · cases h

/-- **Connection names are unique**, in every run, and what a lookup answers is the one that has
    it. -/
theorem names_unique (host : Host C) (hist : History C) (n : Node C) (hr : Run host hist n) :
    UniqueNames host n where
  unique c hc d hd name hcn hdn := hr.name_inj hc hd hcn hdn
  lookup name c hl d hd hdn := by
    obtain ⟨hc, hcn⟩ := host.lib.found hl
    exact hr.name_inj hd hc hdn hcn
  factory url oid ss hss := by
    obtain ⟨hopen, hnamed⟩ := host.lib.found (ssFactory_some hss)
    refine ⟨hopen, _, String.toList_ofList, hnamed, fun d hd hdn => ?_⟩
    exact hr.name_inj hd hopen hdn hnamed

/-- Alice's name means her connection, and bob's his. -/
theorem names_meeting : UniqueNames sampleHost (Runs.after (step sampleHost) empty meeting) :=
  names_unique sampleHost _ _ (Runs.run_trace meeting rfl)

end Node

end Greynet
