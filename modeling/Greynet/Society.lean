/-
  Many nodes at once.

  Each node runs the plugin.  Two of them may be connected by a TCP connection, which carries the
  messages each writes to the other in order and loses none while it is open; either end may be
  closed at any time.  Besides, every node may be connected to strangers, who send it what they
  like, and anybody may send it adverts and queries.

  Between nodes the handshake is always the same: the dialling end writes an IDENT, the accepting
  end one in reply, and neither writes anything else before.  It is the two ends of a queue of which
  one writes a greeting first and the other waits for it; `Greynet.Lib.Greetings` is about such
  queues.

  1. `On` — what one event of a node does to one of its connections.
  2. `Society`, `World` — the nodes, who holds which connection, and what is on the way; `step`.
  3. `Sane` — the invariant: on a connection between two nodes the IDENT comes first, and only
     once, and bears the JID of the node at the other end; `sane_step`, `Run.sane`.

  A node in the world is the node of `Greynet.Node`, with the same step and all its events; the
  world only restricts which of its connections it may be told about, and where a message comes from
  that has come from another node.  So whatever holds in every run of a node holds of each node
  here.
-/
import Greynet.CrossDial
import Greynet.Lib.Greetings
import Greynet.Outbound

namespace Greynet

variable {C : Type} [LinearOrder C]

/-! ## One connection of a node

  What a node does is seen here from one of its connections: it is opened and greeted, it has an
  IDENT accepted, or it is left as it is, open or closed. -/

namespace Node

/-- What an event does to the connection `c`, and what it writes there.  The three cases are about
    one connection, also where the event is about another: then the case is `kept`. -/
inductive On (host : Host C) (n : Node C) (e : Event C) (n' : Node C) (out : List (Action C))
    (c : C) : Prop
  | opened (o : Option Dial) (me : Mesh.Event C) (uuid : String) (he : e = .mesh me)
      (ho : n.mesh.opens me = some (c, o)) (hconn : n'.mesh.router.conn c = Mesh.fresh o)
      (hknown : c ∈ n'.mesh.router.known) (hopen : c ∈ n'.mesh.router.connections)
      (hsent : sentOn c out = sentOn c (Mesh.greeting host c o uuid))
  | accepted (msgp : Message) (answer : SsAnswer) (uuid name : String) (incoming : Bool)
      (he : e = .received c msgp answer uuid) (hexp : n.Expecting c incoming)
      (hp : Mesh.Passes host n.mesh msgp incoming name)
      (hconn : n'.mesh.router.conn c =
        Mesh.identified incoming name (n.mesh.router.conn c))
      (hknown : c ∈ n'.mesh.router.known) (hopen : c ∈ n'.mesh.router.connections)
      (hsent : sentOn c out = sentOn c (Mesh.identReply host c incoming uuid))
  /-- neither; a message refused closes it -/
  | kept (hconn : n'.mesh.router.conn c = n.mesh.router.conn c)
      (hknown : c ∈ n'.mesh.router.known ↔ c ∈ n.mesh.router.known)
      (hopen : c ∈ n'.mesh.router.connections → c ∈ n.mesh.router.connections)
      (hshut : ∀ msgp answer uuid incoming, e = .received c msgp answer uuid →
        n.Expecting c incoming → c ∉ n'.mesh.router.connections)
      (hsent : ∀ m ∈ sentOn c out, m.type ≠ .ident ∧ (n.mesh.router.conn c).ready = true)

/-- **An event opens the connection, or has an IDENT accepted on it, or leaves it as it is.**  It is
    `step_speaks` with one connection singled out.  What is new is `hshut`: had an IDENT been waited
    for and a message come, the connection would be ready or closed now. -/
theorem step_on {host : Host C} {hist : History C} {n n' : Node C} {e : Event C}
    {out : List (Action C)} (hr : Run host hist n) (hok : step host n e = .ok (n', out)) (c : C) :
    On host n e n' out c := by
  rcases step_speaks hr.transfers.sound hok with ⟨conn, o, me, uuid, he, ho, hrouter, -, hout⟩ |
    ⟨conn, msgp, answer, uuid, name, incoming, he, hexp, hp, hrouter, -, hout⟩ | ⟨hk, hout⟩
  · by_cases hc : c = conn
    · subst hc
      refine .opened o me uuid he ho ?_ ?_ ?_ (by rw [hout])
      · rw [hrouter, Router.add_conn_self]
      · rw [hrouter]
        exact Router.mem_add_known.mpr (Or.inl rfl)
      · rw [hrouter]
        exact Router.mem_add.mpr (Or.inl rfl)
    · have hsent : sentOn c out = [] := by
        rw [hout]
        exact sentOn_greeting_ne hc o uuid
      refine .kept ?_ ?_ (fun hopen => ?_) (fun _ _ _ _ hrec => ?_) fun m hm => ?_
      · rw [hrouter, Router.add_conn_ne _ _ hc]
      · rw [hrouter, Router.mem_add_known]
        exact or_iff_right hc
      · rw [hrouter] at hopen
        exact (Router.mem_add.mp hopen).resolve_left hc
      · rw [he] at hrec
        cases hrec
      · rw [hsent] at hm
        cases hm
  · by_cases hc : c = conn
    · subst hc
      refine .accepted msgp answer uuid name incoming he hexp hp ?_ ?_ ?_ (by rw [hout])
      · rw [hrouter, Router.modify_conn_self]
      · rw [hrouter]
        exact hr.gated.known c hexp.isOpen
      · rw [hrouter]
        exact hexp.isOpen
    · have hsent : sentOn c out = [] := by
        rw [hout]
        exact sentOn_identReply_ne hc incoming uuid
      refine .kept ?_ ?_ (fun hopen => ?_) (fun _ _ _ _ hrec => ?_) fun m hm => ?_
      · rw [hrouter, Router.modify_conn_ne _ _ hc]
      · rw [hrouter]
        exact Iff.rfl
      · rw [hrouter] at hopen
        exact hopen
      · rw [he] at hrec
        exact absurd (Event.received.inj hrec).1.symm hc
      · rw [hsent] at hm
        cases hm
  · refine .kept (by rw [hk.conn]) (by rw [hk.known]) (fun h => hk.isOpen.subset h) ?_
      fun m hm => (hout.writes c m (mem_sentOn.mp hm)).vetted hr hr.vetted
    rintro msgp answer uuid incoming rfl hexp
    rcases step_expecting hr hexp msgp answer uuid with ⟨o, name, n₁, -, hlet, hs⟩ |
      ⟨n₁, -, hshut, hs⟩
    · -- had it been let in, it would be ready
      rw [hs] at hok
      obtain ⟨rfl, -⟩ := Prod.mk.inj (Except.ok.inj hok)
      have hready := hlet.ready
      rw [hk.conn] at hready
      have hcb := hexp.callback
      rw [(Mesh.handshaken_of_reachable hr.mesh c).ready hready] at hcb
      cases hcb
    · rw [hs] at hok
      obtain ⟨rfl, -⟩ := Prod.mk.inj (Except.ok.inj hok)
      exact hshut.closed

end Node

/-! ## Many nodes

  An event of the world is an event of one node, a delivery on a connection between two, or a TCP
  connection that is made.  Who is connected to whom is up to whoever makes the connections. -/

/-- The nodes, each with its libraries and its settings.  The two assumptions are on what they are
    set up with: JIDs are distinct, and what the one json_spirit writes the other reads. -/
structure Society (N C : Type) where
  host : N → Host C
  /-- no two of them have the same JID -/
  jid_inj : ∀ i j, (host i).jid = (host j).jid → i = j
  /-- each reads the IDENTs of each as they were written -/
  reads : ∀ i j x, (host i).js.read ((host j).js.write (Mesh.identObject (host j) x)) =
    some (Mesh.identObject (host j) x)

/-- The nodes' states, their connections, and the messages on the way.  A connection has a different
    name at each of its ends, so that `c` alone says whose it is. -/
structure World (N C : Type) [LinearOrder C] where
  node : N → Node C
  /-- the node a connection belongs to, once there is one -/
  holder : C → Option N
  /-- the other end, if that is a node's as well -/
  mate : C → Option C
  /-- whether it is the dialling end -/
  dials : C → Bool
  /-- the messages on the way to it -/
  wire : C → List Message

/-- What happens in the world.  The order is arbitrary, so a message may be on the way for any time
    while others are taken. -/
inductive World.Event (N C : Type) where
  /-- a TCP connection is made from `i` to `j`, with the ends `c` and `d` -/
  | cable (i j : N) (c d : C)
  /-- one is made with somebody else -/
  | stranger (i : N) (c : C) (dials : Bool)
  /-- whatever reaches the node `i`, but for a message from another node -/
  | node (i : N) (e : Node.Event C)
  /-- the next message on the way to `c` -/
  | deliver (i : N) (c : C) (answer : SsAnswer) (uuid : String)

namespace World

variable {N : Type} [DecidableEq N]

/-- Nobody is connected, and every node has just been started.  No connection has a holder, so any
    of them can still be made. -/
def empty : World N C :=
  ⟨fun _ => .empty, fun _ => none, fun _ => none, fun _ => false, fun _ => []⟩

/-- The events that may reach a node by themselves: libf2f announces a connection as the end that
    it is, and a message that has not come from another node comes from a stranger. -/
def permits (w : World N C) (i : N) : Node.Event C → Bool
  | .received c _ _ _ => w.mate c = none
  | .mesh (.newIncomingConnection c) => w.holder c = some i && !w.dials c
  | .mesh (.newOutgoingConnection c _ _) => w.holder c = some i && w.dials c
  | _ => true

/-- What a node has written goes on the way, on connections that are open.  The node that writes
    looks at its router as it is after the step, so what it writes on a connection that it closes is
    lost. -/
def post (w : World N C) (n : Node C) (out : List (Action C)) (d : C) : List Message :=
  (w.mate d).elim [] fun c =>
    if n.mesh.router.connections.contains c then sentOn c out else []

/-- The node `i` takes an event; what it has written is posted.  Who has done what is recorded with
    the actions. -/
def act (S : Society N C) (w : World N C) (i : N) (e : Node.Event C) :
    Except Fault (World N C × List (N × Action C)) :=
  match Node.step (S.host i) (w.node i) e with
  | .error f => .error f
  | .ok (n, out) =>
    .ok ({ w with
        node := Function.update w.node i n
        wire := fun d => w.wire d ++ w.post n out d }, out.map fun a => (i, a))

/-- The next world, and who does what; an event that cannot happen yet changes nothing.  A delivery
    takes the first message on the way to an end, which is the order that TCP keeps. -/
def step (S : Society N C) (w : World N C) :
    Event N C → Except Fault (World N C × List (N × Action C))
  | .cable i j c d =>
    if c ≠ d ∧ w.holder c = none ∧ w.holder d = none then
      .ok ({ w with
        holder := Function.update (Function.update w.holder c (some i)) d (some j)
        mate := Function.update (Function.update w.mate c (some d)) d (some c)
        dials := Function.update (Function.update w.dials c true) d false }, [])
    else .ok (w, [])
  | .stranger i c dials =>
    if w.holder c = none then
      .ok ({ w with
        holder := Function.update w.holder c (some i)
        dials := Function.update w.dials c dials }, [])
    else .ok (w, [])
  | .node i e => if w.permits i e then w.act S i e else .ok (w, [])
  | .deliver i c answer uuid =>
    if w.holder c = some i ∧ (w.node i).mesh.router.connections.contains c then
      match w.wire c with
      | m :: rest =>
        act S { w with wire := Function.update w.wire c rest } i (.received c m answer uuid)
      | [] => .ok (w, [])
    else .ok (w, [])

/-- The history of a run of the world. -/
abbrev History (N C : Type) [LinearOrder C] :=
  List (Runs.Step (World N C) (Event N C) (N × Action C))

/-- The runs from a world in which nobody is connected, and nobody has been told anything. -/
abbrev Run (S : Society N C) (hist : History N C) (w : World N C) : Prop :=
  Runs.Run (step S) (fun w₀ => w₀ = empty) hist w

/-! ## The parts of a step

  A step of the world, one way for each branch.  The events of a node are the hard ones, and they
  are taken further below. -/

/-- What a step does: one way for each branch.  In the last two a node takes a step, by an event of
    its own or by a delivery. -/
inductive Does (S : Society N C) (w : World N C) :
    Event N C → World N C → List (N × Action C) → Prop
  | idle (e : Event N C) : Does S w e w []
  | cabled (i j : N) (c d : C) (hne : c ≠ d) (hc : w.holder c = none) (hd : w.holder d = none) :
    Does S w (.cable i j c d) { w with
      holder := Function.update (Function.update w.holder c (some i)) d (some j)
      mate := Function.update (Function.update w.mate c (some d)) d (some c)
      dials := Function.update (Function.update w.dials c true) d false } []
  | strange (i : N) (c : C) (dials : Bool) (hc : w.holder c = none) :
    Does S w (.stranger i c dials) { w with
      holder := Function.update w.holder c (some i)
      dials := Function.update w.dials c dials } []
  | acts (i : N) (e : Node.Event C) (n : Node C) (out : List (Action C))
      (hperm : w.permits i e = true) (hs : Node.step (S.host i) (w.node i) e = .ok (n, out)) :
    Does S w (.node i e) { w with
      node := Function.update w.node i n
      wire := fun d => w.wire d ++ w.post n out d } (out.map fun a => (i, a))
  | delivers (i : N) (c : C) (answer : SsAnswer) (uuid : String) (m : Message)
      (rest : List Message) (n : Node C) (out : List (Action C)) (hholder : w.holder c = some i)
      (hopen : c ∈ (w.node i).mesh.router.connections) (hwire : w.wire c = m :: rest)
      (hs : Node.step (S.host i) (w.node i) (.received c m answer uuid) = .ok (n, out)) :
    Does S w (.deliver i c answer uuid) { w with
      node := Function.update w.node i n
      wire := fun d => Function.update w.wire c rest d ++ w.post n out d }
      (out.map fun a => (i, a))

/-- **Every step does one of these things.**  Proved by the branches of `step`; from here on `step`
    is not unfolded any more. -/
theorem step_does {S : Society N C} {w w' : World N C} {e : Event N C}
    {out : List (N × Action C)} (hok : step S w e = .ok (w', out)) : Does S w e w' out := by
  -- an event that cannot happen changes nothing
  have hidle : Except.ok (w, []) = Except.ok (ε := Fault) (w', out) → Does S w e w' out := by
    intro hx
    obtain ⟨rfl, rfl⟩ := Prod.mk.inj (Except.ok.inj hx)
    exact .idle e
  cases e with
  | cable i j c d =>
    simp only [step] at hok
    split at hok
    · rename_i h
      obtain ⟨rfl, rfl⟩ := Prod.mk.inj (Except.ok.inj hok)
      exact .cabled i j c d h.1 h.2.1 h.2.2
    · exact hidle hok
  | stranger i c dials =>
    simp only [step] at hok
    split at hok
    · rename_i h
      obtain ⟨rfl, rfl⟩ := Prod.mk.inj (Except.ok.inj hok)
      exact .strange i c dials h
    · exact hidle hok
  | node i e =>
    simp only [step] at hok
    split at hok
    · rename_i hperm
      unfold act at hok
      split at hok
      · cases hok
      · rename_i n acts hs
        obtain ⟨rfl, rfl⟩ := Prod.mk.inj (Except.ok.inj hok)
        exact .acts i e n acts hperm hs
    · exact hidle hok
  | deliver i c answer uuid =>
    simp only [step] at hok
    split at hok
    · rename_i h
      split at hok
      · rename_i m rest hwire
        unfold act at hok
        split at hok
        · cases hok
        · rename_i n acts hs
          obtain ⟨rfl, rfl⟩ := Prod.mk.inj (Except.ok.inj hok)
          exact .delivers i c answer uuid m rest n acts h.1 (List.contains_iff_mem.mp h.2) hwire hs
      · exact hidle hok
    · exact hidle hok

/-! ## The invariant

  What holds of every world that can come about.  Strangers are everywhere in it, but nothing is
  said of a connection that has one at its other end. -/

/-- An IDENT of a node, written for whichever of its connections.  It depends on the connection in
    the cookie only, and that may be any. -/
def Introduces (h : Host C) (m : Message) : Prop :=
  ∃ x uuid, m = identMessage (h.js.write (Mesh.identObject h x)) uuid

/-- The end `c` at `i` and the end `d` at `j` are one connection.  The two nodes may be the same
    one: a node can be made to dial itself. -/
structure Joins (w : World N C) (i : N) (c : C) (j : N) (d : C) : Prop where
  mate : w.mate c = some d
  here : w.holder c = some i
  there : w.holder d = some j

/-- An IDENT has been accepted on the connection. -/
def Ready (w : World N C) (i : N) (c : C) : Prop := ((w.node i).mesh.router.conn c).ready = true

/-- The node has written its IDENT there: as the dialling end when it was made, as the other one
    when it accepted the dialler's. -/
def Spoke (w : World N C) (i : N) (c : C) : Prop :=
  w.Ready i c ∨ (c ∈ (w.node i).mesh.router.known ∧ w.dials c = true)

/-- The connection was made and is closed.  One that has not been made is not shut, as there may be
    something on the way to it that will be read. -/
def Shut (w : World N C) (i : N) (c : C) : Prop :=
  c ∈ (w.node i).mesh.router.known ∧ c ∉ (w.node i).mesh.router.connections

/-- **The invariant of the world.**  The first field has each node in a state that it reaches by
    itself, the next ones say that the tables of the world fit what the nodes know, and the last two
    are the point: a greeting comes first on every connection between nodes, and so the name is
    right. -/
structure Sane (S : Society N C) (w : World N C) : Prop where
  runs : ∀ i, ∃ hist, Node.Run (S.host i) hist (w.node i)
  known : ∀ i c, c ∈ (w.node i).mesh.router.known → w.holder c = some i
  mates : ∀ c d, w.mate c = some d → w.mate d = some c ∧ w.dials d = !w.dials c
  held : ∀ c, w.holder c = none → w.mate c = none
  quiet : ∀ c, w.mate c = none → w.wire c = []
  waiting : ∀ i c, c ∈ (w.node i).mesh.router.known → ¬ w.Ready i c →
    ((w.node i).mesh.router.conn c).messageReceivedCbs = [!w.dials c]
  flows : ∀ i c j d, w.Joins i c j d → Greetings.Flows (fun m => m.type = .ident)
    (Introduces (S.host j)) (w.Spoke j d) (w.Ready i c) (w.Shut i c) (w.wire c)
  named : ∀ i c j d, w.Joins i c j d → w.Ready i c →
    ((w.node i).mesh.router.conn c).name = some (S.host j).jid

omit [LinearOrder C] [DecidableEq N] in
/-- It is of that type. -/
theorem Introduces.type {h : Host C} {m : Message} (hm : Introduces h m) : m.type = .ident := by
  obtain ⟨x, uuid, rfl⟩ := hm
  rfl

omit [LinearOrder C] [DecidableEq N] in
/-- An IDENT bears the JID of the node that wrote it, whoever reads it.  This is where the codecs
    are needed, and `named` is the only field that comes of it. -/
theorem Introduces.named {S : Society N C} {i j : N} {m : Message}
    (hm : Introduces (S.host j) m) : identName (S.host i).js m = some (S.host j).jid := by
  obtain ⟨x, uuid, rfl⟩ := hm
  rw [(Cross.ident_fields uuid (S.reads i j x)).1, Node.strField_eq_some]
  split <;> simp [objToMap]

/-! ## A node acts

  By an event of its own or by a delivery.  In both cases one node has a new state, one queue may
  have lost its first message, and what the node has written is posted. -/

/-- The node `i` has taken the event `e`; `wire₀` is what is then still on the way, and what the
    node has written comes behind it.  With this an event of the node and a delivery are treated
    alike. -/
structure Acted (S : Society N C) (w w' : World N C) (i : N) (e : Node.Event C) (n : Node C)
    (out : List (Action C)) (wire₀ : C → List Message) : Prop where
  step : Node.step (S.host i) (w.node i) e = .ok (n, out)
  next : w' = { w with
    node := Function.update w.node i n
    wire := fun d => wire₀ d ++ w.post n out d }
  opened : ∀ me c o, e = .mesh me → (w.node i).mesh.opens me = some (c, o) →
    w.holder c = some i ∧ w.dials c = o.isSome
  taken : ∀ c m answer uuid, e = .received c m answer uuid → w.mate c ≠ none →
    w.holder c = some i ∧ c ∈ (w.node i).mesh.router.connections ∧ w.wire c = m :: wire₀ c
  others : ∀ c, (∀ m answer uuid, e ≠ .received c m answer uuid) → wire₀ c = w.wire c
  quiet : ∀ c, w.wire c = [] → wire₀ c = []

/-- The events of a step of the world, seen as those of a node, ... -/
theorem acted_acts {S : Society N C} {w : World N C} {i : N} {e : Node.Event C} {n : Node C}
    {out : List (Action C)} (hperm : w.permits i e = true)
    (hs : Node.step (S.host i) (w.node i) e = .ok (n, out)) :
    Acted S w { w with
      node := Function.update w.node i n
      wire := fun d => w.wire d ++ w.post n out d } i e n out w.wire := by
  refine ⟨hs, rfl, ?_, ?_, fun c _ => rfl, fun c hc => hc⟩
  · -- a connection opened is one that the node holds, as `permits` demands
    rintro me c o rfl ho
    cases me with
    | newIncomingConnection d =>
      simp only [permits, Bool.and_eq_true, decide_eq_true_eq, Bool.not_eq_true'] at hperm
      rw [Mesh.opens] at ho
      split at ho
      · cases ho
      · obtain ⟨rfl, rfl⟩ := Prod.mk.inj (Option.some.inj ho)
        exact ⟨hperm.1, hperm.2⟩
    | newOutgoingConnection d k uuid =>
      simp only [permits, Bool.and_eq_true, decide_eq_true_eq] at hperm
      simp only [Mesh.opens] at ho
      split at ho
      · cases ho
      · split at ho
        · cases ho
        · obtain ⟨rfl, rfl⟩ := Prod.mk.inj (Option.some.inj ho)
          exact ⟨hperm.1, hperm.2⟩
    | _ => cases ho
  · rintro c m answer uuid rfl hmate
    exact absurd (of_decide_eq_true hperm) hmate

/-- ... and its deliveries. -/
theorem acted_delivers {S : Society N C} {w : World N C} {i : N} {c : C} {answer : SsAnswer}
    {uuid : String} {m : Message} {rest : List Message} {n : Node C} {out : List (Action C)}
    (hholder : w.holder c = some i) (hopen : c ∈ (w.node i).mesh.router.connections)
    (hwire : w.wire c = m :: rest)
    (hs : Node.step (S.host i) (w.node i) (.received c m answer uuid) = .ok (n, out)) :
    Acted S w { w with
      node := Function.update w.node i n
      wire := fun d => Function.update w.wire c rest d ++ w.post n out d } i
      (.received c m answer uuid) n out (Function.update w.wire c rest) := by
  refine ⟨hs, rfl, fun me _ _ he => (by cases he), ?_, fun c' hno => ?_, fun c' hc' => ?_⟩
  · rintro c' m' answer' uuid' he -
    obtain ⟨rfl, rfl, -, -⟩ := Node.Event.received.inj he
    exact ⟨hholder, hopen, by rw [hwire, Function.update_self]⟩
  · refine Function.update_of_ne ?_ _ _
    rintro rfl
    exact hno m answer uuid rfl
  · rw [Function.update_of_ne, hc']
    rintro rfl
    rw [hwire] at hc'
    cases hc'

variable {S : Society N C} {w w' : World N C} {i : N} {e : Node.Event C} {n : Node C}
  {out : List (Action C)} {wire₀ : C → List Message}

/-- The node that acts has its new state, ... -/
theorem Acted.node_self (ha : Acted S w w' i e n out wire₀) : w'.node i = n := by
  rw [ha.next]
  exact Function.update_self ..

/-- ... and the others have theirs. -/
theorem Acted.node_ne (ha : Acted S w w' i e n out wire₀) {k : N} (hk : k ≠ i) :
    w'.node k = w.node k := by
  rw [ha.next]
  exact Function.update_of_ne hk ..

/-- No connection is made, and none goes: a connection that is closed still joins its two ends,
    ... -/
theorem Acted.joins (ha : Acted S w w' i e n out wire₀) {k l : N} {c d : C} :
    w'.Joins k c l d ↔ w.Joins k c l d := by
  rw [ha.next]
  exact ⟨fun h => ⟨h.mate, h.here, h.there⟩, fun h => ⟨h.mate, h.here, h.there⟩⟩

/-- ... and who has dialled which stays. -/
theorem Acted.dials (ha : Acted S w w' i e n out wire₀) : w'.dials = w.dials := by
  rw [ha.next]

/-- What the acting node's connections have become.  This is where the invariant is used to look
    into the node, through the run that it has behind it. -/
theorem Acted.on (ha : Acted S w w' i e n out wire₀) (h : Sane S w) (c : C) :
    Node.On (S.host i) (w.node i) e n out c := by
  obtain ⟨hist, hr⟩ := h.runs i
  exact Node.step_on hr ha.step c

/-- A node knows the connections it holds only: it is told of a new one only as its holder. -/
theorem Acted.known (ha : Acted S w w' i e n out wire₀) (h : Sane S w) {c : C}
    (hc : c ∈ n.mesh.router.known) : w.holder c = some i := by
  obtain ⟨hist, hr⟩ := h.runs i
  cases ha.on h c with
  | opened o me uuid he ho => exact (ha.opened me c o he ho).1
  | accepted msgp answer uuid name incoming he hexp =>
    exact h.known i c (hr.gated.known c hexp.isOpen)
  | kept hconn hknown => exact h.known i c (hknown.mp hc)

omit [DecidableEq N] in
/-- A connection on which an IDENT is expected is not ready: the callback that expects it is taken
    off when the connection becomes ready. -/
theorem Sane.not_ready (h : Sane S w) {c : C} {incoming : Bool}
    (hexp : (w.node i).Expecting c incoming) : ¬ w.Ready i c := by
  intro hready
  obtain ⟨hist, hr⟩ := h.runs i
  have hcb := hexp.callback
  rw [(Mesh.handshaken_of_reachable hr.mesh c).ready hready] at hcb
  cases hcb

omit [DecidableEq N] in
/-- Which side expects it is said by which side dialled.  The flag that was bound to `expect_ident`
    when the connection came up is therefore known here. -/
theorem Sane.expecting (h : Sane S w) {c : C} {incoming : Bool}
    (hexp : (w.node i).Expecting c incoming) : incoming = !w.dials c := by
  obtain ⟨hist, hr⟩ := h.runs i
  have hcb := hexp.callback
  rw [h.waiting i c (hr.gated.known c hexp.isOpen) (h.not_ready hexp)] at hcb
  exact (Option.some.inj hcb).symm

omit [DecidableEq N] in
/-- A connection not made yet is not ready. -/
theorem Sane.unmade (h : Sane S w) {c : C} (hc : c ∉ (w.node i).mesh.router.known) :
    ¬ w.Ready i c := by
  obtain ⟨hist, hr⟩ := h.runs i
  exact fun hready => hc (hr.vetted.known c hready)

/-- **The reader's end of a connection.**  Either the next message is taken, or nothing is.  A
    reader that is not ready and takes a message either becomes ready or is shut, and it is `shut`
    that stops the reading for good. -/
theorem Acted.takes (ha : Acted S w w' i e n out wire₀) (h : Sane S w) {k l : N} {c d : C}
    (hj : w.Joins k c l d) : Greetings.Takes (w.Ready k c) (w.Shut k c) (w'.Ready k c)
      (w'.Shut k c) (w.wire c) (wire₀ c) := by
  have hmate : w.mate c ≠ none := by
    rw [hj.mate]
    exact Option.some_ne_none d
  by_cases hk : k = i
  · subst hk
    rw [Ready, Ready, Shut, Shut, ha.node_self]
    cases ha.on h c with
    | opened o me uuid he ho hconn hknown hopen =>
      have hnew := (Mesh.opens_some ho).1
      refine .nothing ⟨fun hready => ?_, fun hready => absurd hready (h.unmade hnew)⟩
        (fun hsh => absurd hsh.1 hnew) (ha.others c fun _ _ _ hrec => ?_)
      · rw [hconn] at hready
        cases o <;> cases hready
      · rw [he] at hrec
        cases hrec
    | accepted msgp answer uuid name incoming he hexp hp hconn =>
      obtain ⟨-, hopen, hwire⟩ := ha.taken c msgp answer uuid he hmate
      refine .next msgp (fun hsh => hsh.2 hopen) ?_ hwire
      rw [hconn]
      rfl
    | kept hconn hknown hopen hshut =>
      by_cases hrec : ∃ m answer uuid, e = .received c m answer uuid
      · obtain ⟨m, answer, uuid, he⟩ := hrec
        obtain ⟨-, hisOpen, hwire⟩ := ha.taken c m answer uuid he hmate
        obtain ⟨hist, hr⟩ := h.runs k
        have hmade := hr.gated.known c hisOpen
        by_cases hready : w.Ready k c
        · refine .next m (fun hsh => hsh.2 hisOpen) ?_ hwire
          rw [hconn]
          exact hready
        · -- it was waiting for an IDENT, and has refused this one
          have hexp : (w.node k).Expecting c (!w.dials c) :=
            ⟨hisOpen, by rw [h.waiting k c hmade hready]; rfl⟩
          refine .refuses m ?_ ⟨hknown.mpr hmade, hshut m answer uuid _ he hexp⟩ hwire
          rw [hconn]
          exact hready
      · refine .nothing (by rw [hconn]) (fun hsh => ⟨hknown.mpr hsh.1, fun ho => hsh.2 (hopen ho)⟩)
          (ha.others c fun m answer uuid he => hrec ⟨m, answer, uuid, he⟩)
  · rw [Ready, Ready, Shut, Shut, ha.node_ne hk]
    refine .nothing Iff.rfl id (ha.others c fun m answer uuid he => ?_)
    obtain ⟨hheld, -⟩ := ha.taken c m answer uuid he hmate
    rw [hj.here] at hheld
    exact hk (Option.some.inj hheld)

omit [LinearOrder C] [DecidableEq N] in
/-- The reply of the accepting end is an IDENT like any other. -/
theorem introduces_reply (h : Host C) (uuid : String) :
    Introduces h (identMessage (h.js.write (.obj [("name", .str h.jid)])) uuid) :=
  ⟨{}, uuid, rfl⟩

/-- **The writer's end.**  A node greets when its connection is opened, if it dialled it, and when
    it accepts an IDENT, if it did not.  In all other steps it writes no IDENT, and nothing at all
    before the greeting. -/
theorem Acted.writes (ha : Acted S w w' i e n out wire₀) (h : Sane S w) {k l : N} {c d : C}
    (hj : w.Joins k c l d) : Greetings.Writes (fun m => m.type = .ident)
      (Introduces (S.host l)) (w.Spoke l d) (w'.Spoke l d) (w.post n out c) := by
  -- what arrives on the other side is what was sent, if the connection is still up
  have hpost : w.post n out c =
      if d ∈ n.mesh.router.connections then sentOn d out else [] := by
    simp only [post, hj.mate, Option.elim_some, List.contains_iff_mem]
  -- a step that says nothing on the connection may only leave it as silent as it was
  have hnil : ∀ {p q : Prop}, (q ↔ p) → sentOn d out = [] →
      Greetings.Writes (fun m => m.type = .ident) (Introduces (S.host l)) p q
        (w.post n out c) := by
    intro p q hsame hsent
    -- another node has acted, and it does not hold this end
    have hno : w.post n out c = [] := by rw [hpost, hsent, ite_self]
    rw [hno]
    exact .sends hsame (fun m hm => by cases hm) fun hne => absurd rfl hne
  by_cases hl : l = i
  · subst hl
    rw [Spoke, Spoke, Ready, Ready, ha.node_self, ha.dials]
    cases ha.on h d with
    | opened o me uuid he ho hconn hknown hopen hsent =>
      have hnew := (Mesh.opens_some ho).1
      -- the connection is new, so nothing can have been said on it
      have hbefore : ¬ (w.Ready l d ∨ (d ∈ (w.node l).mesh.router.known ∧ w.dials d = true)) :=
        not_or.mpr ⟨h.unmade hnew, fun hk => hnew hk.1⟩
      obtain ⟨-, hdials⟩ := ha.opened me d o he ho
      have hunready : (n.mesh.router.conn d).ready = false := by
        rw [hconn]
        cases o <;> rfl
      cases o with
      | none =>
        refine hnil ⟨fun hafter => ?_, fun hb => absurd hb hbefore⟩ hsent
        rcases hafter with hafter | hafter
        · rw [hunready] at hafter
          cases hafter
        · rw [hdials] at hafter
          cases hafter.2
      | some x =>
        refine .greets _ hbefore (Or.inr ⟨hknown, hdials⟩) ⟨Mesh.fresh (some x), uuid, rfl⟩ ?_
        rw [hpost, if_pos hopen, hsent]
        exact Node.sentOn_singleton d _
    | accepted msgp answer uuid name incoming he hexp hp hconn hknown hopen hsent =>
      have hnot := h.not_ready hexp
      have hside := h.expecting hexp
      have hready : (n.mesh.router.conn d).ready = true := by
        rw [hconn]
        rfl
      cases incoming with
      | true =>
        refine .greets _ ?_ (Or.inl hready) (introduces_reply (S.host l) uuid) ?_
        · rintro (hb | ⟨-, hb⟩)
          · exact hnot hb
          · rw [hb] at hside
            cases hside
        · rw [hpost, if_pos hopen, hsent]
          exact Node.sentOn_singleton d _
      | false =>
        have hdials : w.dials d = true := by simpa using hside
        obtain ⟨hist, hr⟩ := h.runs l
        exact hnil ⟨fun _ => Or.inr ⟨hr.gated.known d hexp.isOpen, hdials⟩,
          fun _ => Or.inl hready⟩ hsent
    | kept hconn hknown hopen hshut hsent =>
      have hmem : ∀ m ∈ w.post n out c, m.type ≠ .ident ∧ w.Ready l d := by
        intro m hm
        rw [hpost] at hm
        split at hm
        · exact hsent m hm
        · cases hm
      refine .sends (by rw [hconn, hknown]) (fun m hm => (hmem m hm).1) fun hne => ?_
      obtain ⟨m, hm⟩ := List.exists_mem_of_ne_nil _ hne
      exact Or.inl (hmem m hm).2
  · have hno : d ∉ n.mesh.router.connections := by
      intro hd
      obtain ⟨hist, hr⟩ := h.runs i
      have hr' : Node.Run (S.host i) (hist ++ [⟨w.node i, e, n, out⟩]) n := .snoc hr ha.step
      have hheld := ha.known h (hr'.gated.known d hd)
      rw [hj.there] at hheld
      exact hl (Option.some.inj hheld)
    rw [hpost, if_neg hno, Spoke, Spoke, Ready, Ready, ha.node_ne hl, ha.dials]
    exact .sends Iff.rfl (fun m hm => by cases hm) fun hne => absurd rfl hne

/-- A connection that becomes ready gets the name of the node at its other end.  The message taken
    is the first one there, and that is the greeting (`Greetings.Flows.head`). -/
theorem Acted.named (ha : Acted S w w' i e n out wire₀) (h : Sane S w) {k l : N} {c d : C}
    (hj : w.Joins k c l d) (hready : w'.Ready k c) :
    ((w'.node k).mesh.router.conn c).name = some (S.host l).jid := by
  have hmate : w.mate c ≠ none := by
    rw [hj.mate]
    exact Option.some_ne_none d
  by_cases hk : k = i
  · subst hk
    rw [Ready, ha.node_self] at hready
    rw [ha.node_self]
    cases ha.on h c with
    | opened o me uuid he ho hconn =>
      rw [hconn] at hready
      cases o <;> cases hready
    -- the message comes off the wire, where the first one is the IDENT of the other node
    | accepted msgp answer uuid name incoming he hexp hp hconn =>
      obtain ⟨-, hopen, hwire⟩ := ha.taken c msgp answer uuid he hmate
      have hours : Introduces (S.host l) msgp :=
        (h.flows k c l d hj).head (h.not_ready hexp) (fun hsh => hsh.2 hopen) hwire
      rw [hconn]
      exact hp.named.symm.trans hours.named
    | kept hconn =>
      rw [hconn] at hready ⊢
      exact h.named k c l d hj hready
  · rw [Ready, ha.node_ne hk] at hready
    rw [ha.node_ne hk]
    exact h.named k c l d hj hready

/-- **A node acts, and the invariant is kept.**  The fields in turn; in each, the node that acts is
    taken apart from the others.  The field `flows` is the two ends put together, by `take` and
    `write`. -/
theorem sane_acted (ha : Acted S w w' i e n out wire₀) (h : Sane S w) : Sane S w' := by
  -- the cables are as they were; only the wires have changed
  have hrest : w'.holder = w.holder ∧ w'.mate = w.mate ∧
      w'.wire = fun d => wire₀ d ++ w.post n out d := by
    rw [ha.next]
    exact ⟨rfl, rfl, rfl⟩
  obtain ⟨hholder, hmate, hwire⟩ := hrest
  refine ⟨fun k => ?_, fun k c hc => ?_, ?_, ?_, fun c hc => ?_, fun k c hc hnot => ?_,
    fun k c l d hj => ?_, fun k c l d hj hready => ha.named h (ha.joins.mp hj) hready⟩
  · by_cases hk : k = i
    · subst hk
      obtain ⟨hist, hr⟩ := h.runs k
      rw [ha.node_self]
      exact ⟨_, .snoc hr ha.step⟩
    · rw [ha.node_ne hk]
      exact h.runs k
  · rw [hholder]
    by_cases hk : k = i
    · subst hk
      rw [ha.node_self] at hc
      exact ha.known h hc
    · rw [ha.node_ne hk] at hc
      exact h.known k c hc
  · rw [hmate, ha.dials]
    exact h.mates
  · rw [hmate, hholder]
    exact h.held
  · rw [hmate] at hc
    have hpost : w.post n out c = [] := by
      rw [post, hc, Option.elim_none]
    rw [hwire]
    simp only [ha.quiet c (h.quiet c hc), hpost, List.append_nil]
  · rw [ha.dials]
    by_cases hk : k = i
    · subst hk
      rw [Ready, ha.node_self] at hnot
      rw [ha.node_self] at hc ⊢
      cases ha.on h c with
      | opened o me uuid he ho hconn =>
        rw [hconn, (ha.opened me c o he ho).2]
        cases o <;> rfl
      | accepted msgp answer uuid name incoming he hexp hp hconn =>
        rw [hconn] at hnot
        exact absurd rfl hnot
      | kept hconn hknown =>
        rw [hconn] at hnot ⊢
        exact h.waiting k c (hknown.mp hc) hnot
    · rw [Ready, ha.node_ne hk] at hnot
      rw [ha.node_ne hk] at hc ⊢
      exact h.waiting k c hc hnot
  · -- first the reader's end of the connection, then the writer's
    have hold := ha.joins.mp hj
    rw [hwire]
    exact ((h.flows k c l d hold).take (ha.takes h hold)).write (ha.writes h hold)

omit [DecidableEq N] in
/-- A connection that nobody holds yet is known to no node, for a node knows only what it holds. -/
theorem Sane.fresh (h : Sane S w) {c : C} (hc : w.holder c = none) (k : N) :
    c ∉ (w.node k).mesh.router.known := by
  intro hk
  rw [h.known k c hk] at hc
  cases hc

omit [DecidableEq N] in
/-- So nobody has spoken on it, and a new connection starts with an empty queue between two silent
    ends. -/
theorem Sane.not_spoke (h : Sane S w) {c : C} (hc : w.holder c = none)
    (hnode : w'.node = w.node) (k : N) : ¬ w'.Spoke k c := by
  rw [Spoke, Ready, hnode]
  exact not_or.mpr ⟨h.unmade (h.fresh hc k), fun hk => h.fresh hc k hk.1⟩

/-- Connections are made whose ends nobody held before.  What the nodes are and what is on the way
    stays as it was; they will be told of the connection later. -/
structure Extends (w w' : World N C) : Prop where
  node : w'.node = w.node
  wire : w'.wire = w.wire
  keeps : ∀ c, w.holder c ≠ none →
    w'.holder c = w.holder c ∧ w'.mate c = w.mate c ∧ w'.dials c = w.dials c
  mates : ∀ c d, w'.mate c = some d → w'.mate d = some c ∧ w'.dials d = !w'.dials c
  held : ∀ c, w'.holder c = none → w'.mate c = none
  fresh : ∀ c d, w.holder c = none → w'.mate c = some d → w.holder d = none

omit [DecidableEq N] in
/-- The connections there were are as they were: an old end has no new mate. -/
theorem Sane.joins_old (h : Sane S w) (hx : Extends w w') {k l : N} {c d : C}
    (hj : w'.Joins k c l d) (hc : w.holder c ≠ none) : w.Joins k c l d := by
  obtain ⟨hh, hm, -⟩ := hx.keeps c hc
  have hmate : w.mate c = some d := hm ▸ hj.mate
  have hd : w.holder d ≠ none := by
    intro hno
    have hback := (h.mates c d hmate).1
    rw [h.held d hno] at hback
    cases hback
  exact ⟨hmate, hh ▸ hj.here, (hx.keeps d hd).1 ▸ hj.there⟩

omit [DecidableEq N] in
/-- A connection that has been made has somebody who holds it; ... -/
theorem Sane.held_known (h : Sane S w) {k : N} {c : C} (hc : c ∈ (w.node k).mesh.router.known) :
    w.holder c ≠ none := fun hno => h.fresh hno k hc

omit [DecidableEq N] in
/-- ... so has one that is ready. -/
theorem Sane.held_ready (h : Sane S w) {k : N} {c : C} (hc : w.Ready k c) : w.holder c ≠ none :=
  fun hno => h.unmade (h.fresh hno k) hc

omit [DecidableEq N] in
/-- **Making connections keeps the invariant.**  For the old ones nothing has changed, and on the
    new ones nothing has been said. -/
theorem Sane.extend (h : Sane S w) (hx : Extends w w') : Sane S w' := by
  have ⟨hnode, hwire, hkeeps, hmates, hheld, hnew⟩ := hx
  refine ⟨fun k => ?_, fun k c hc => ?_, hmates, hheld, fun c hc => ?_, fun k c hc hnot => ?_,
    fun k c l d hj => ?_, fun k c l d hj hready => ?_⟩
  · rw [hnode]
    exact h.runs k
  · rw [hnode] at hc
    rw [(hkeeps c (h.held_known hc)).1]
    exact h.known k c hc
  · -- nothing is on the way on a connection without a mate, new or not
    rw [hwire]
    refine h.quiet c ?_
    by_cases hno : w.holder c = none
    · exact h.held c hno
    · exact (hkeeps c hno).2.1 ▸ hc
  · rw [hnode] at hc ⊢
    rw [Ready, hnode] at hnot
    rw [(hkeeps c (h.held_known hc)).2.2]
    exact h.waiting k c hc hnot
  · -- a new connection has nothing on it, an old one what it had
    by_cases hno : w.holder c = none
    · have hd := hnew c d hno hj.mate
      rw [hwire, h.quiet c (h.held c hno)]
      refine Greetings.flows_nil (h.not_spoke hd hnode l) ?_
      rw [Ready, hnode]
      exact h.unmade (h.fresh hno k)
    · have hj' := h.joins_old hx hj hno
      have hflows := h.flows k c l d hj'
      have hd : w.holder d ≠ none := by
        rw [hj'.there]
        exact Option.some_ne_none l
      rw [hwire, Spoke, Ready, Ready, Shut, hnode, (hkeeps d hd).2.2]
      exact hflows
  · rw [Ready, hnode] at hready
    rw [hnode]
    exact h.named k c l d (h.joins_old hx hj (h.held_ready hready)) hready

omit [DecidableEq N] in
/-- A connection made between two nodes extends the world, ... -/
theorem Sane.extends_cable (h : Sane S w) (i j : N) {c d : C} (hne : c ≠ d)
    (hc : w.holder c = none) (hd : w.holder d = none) :
    Extends w { w with
      holder := Function.update (Function.update w.holder c (some i)) d (some j)
      mate := Function.update (Function.update w.mate c (some d)) d (some c)
      dials := Function.update (Function.update w.dials c true) d false } := by
  -- an end that somebody holds is neither of the two new ones
  have hold : ∀ x, w.holder x ≠ none → x ≠ c ∧ x ≠ d := fun x hx =>
    ⟨fun he => hx (he ▸ hc), fun he => hx (he ▸ hd)⟩
  -- two ends that are joined are both held, so neither of them is new
  have hmated : ∀ {x y}, w.mate x = some y → w.holder x ≠ none ∧ w.holder y ≠ none := by
    intro x y hxy
    refine ⟨fun hno => ?_, fun hno => ?_⟩
    · rw [h.held x hno] at hxy
      cases hxy
    · have hback := (h.mates x y hxy).1
      rw [h.held y hno] at hback
      cases hback
  refine ⟨rfl, rfl, fun x hx => ?_, fun x y hxy => ?_, fun x hx => ?_, fun x y hx hxy => ?_⟩
  · obtain ⟨hxc, hxd⟩ := hold x hx
    simp only [Function.update_of_ne hxc, Function.update_of_ne hxd, and_self]
  · by_cases hxd : x = d
    · subst hxd
      simp only [Function.update_self, Option.some.injEq] at hxy
      subst hxy
      simp [Function.update_of_ne hne]
    · by_cases hxc : x = c
      · subst hxc
        simp only [Function.update_of_ne hxd, Function.update_self, Option.some.injEq] at hxy
        subst hxy
        simp [Function.update_of_ne hne]
      · simp only [Function.update_of_ne hxd, Function.update_of_ne hxc] at hxy ⊢
        obtain ⟨hyc, hyd⟩ := hold y (hmated hxy).2
        simp only [Function.update_of_ne hyd, Function.update_of_ne hyc]
        exact h.mates x y hxy
  · by_cases hxd : x = d
    · subst hxd
      simp at hx
    · by_cases hxc : x = c
      · subst hxc
        simp [Function.update_of_ne hne] at hx
      · simp only [Function.update_of_ne hxd, Function.update_of_ne hxc] at hx ⊢
        exact h.held x hx
  · by_cases hxd : x = d
    · subst hxd
      simp only [Function.update_self, Option.some.injEq] at hxy
      exact hxy ▸ hc
    · by_cases hxc : x = c
      · subst hxc
        simp only [Function.update_of_ne hxd, Function.update_self, Option.some.injEq] at hxy
        exact hxy ▸ hd
      · simp only [Function.update_of_ne hxd, Function.update_of_ne hxc] at hxy
        exact absurd hx (hmated hxy).1

omit [DecidableEq N] in
/-- ... or one with a stranger, which has no mate, so that nothing is ever on the way to it. -/
theorem Sane.extends_stranger (h : Sane S w) (i : N) {c : C} (dials : Bool)
    (hc : w.holder c = none) :
    Extends w { w with
      holder := Function.update w.holder c (some i)
      dials := Function.update w.dials c dials } := by
  have hnone := h.held c hc
  refine ⟨rfl, rfl, fun x hx => ?_, fun x y hxy => ?_, fun x hx => ?_, fun x y hx hxy => ?_⟩
  · have hxc : x ≠ c := fun he => hx (he ▸ hc)
    simp only [Function.update_of_ne hxc, and_self]
  · have hne : ∀ z, w.mate z ≠ none → z ≠ c := fun z hz he => hz (he ▸ hnone)
    have hback := (h.mates x y hxy).1
    simp only [Function.update_of_ne (hne x (by rw [hxy]; exact Option.some_ne_none y)),
      Function.update_of_ne (hne y (by rw [hback]; exact Option.some_ne_none x))]
    exact h.mates x y hxy
  · by_cases hxc : x = c
    · exact hxc ▸ hnone
    · simp only [Function.update_of_ne hxc] at hx
      exact h.held x hx
  · rw [h.held x hx] at hxy
    cases hxy

/-- One step of the world, whichever it is: a connection is made, or a node acts. -/
theorem sane_step {out : List (N × Action C)} {e : Event N C} (h : Sane S w)
    (hok : step S w e = .ok (w', out)) : Sane S w' := by
  cases step_does hok with
  | idle => exact h
  | cabled i j c d hne hc hd => exact h.extend (h.extends_cable i j hne hc hd)
  | strange i c dials hc => exact h.extend (h.extends_stranger i dials hc)
  | acts i e n out hperm hs => exact sane_acted (acted_acts hperm hs) h
  | delivers i c answer uuid m rest n out hholder hopen hwire hs =>
    exact sane_acted (acted_delivers hholder hopen hwire hs) h

/-- **The invariant holds in every run**, whatever strangers do. -/
theorem Run.sane {S : Society N C} {hist : History N C} {w : World N C} (hr : Run S hist w) :
    Sane S w := by
  refine hr.reachable.invariant (I := Sane S) ?_ fun w e w' out h hok => sane_step h hok
  rintro w rfl
  refine ⟨fun i => ⟨[], .start rfl⟩, fun i c hc => (by cases hc), fun c d hcd => (by cases hcd),
    fun c _ => rfl, fun c _ => rfl, fun i c hc => (by cases hc), fun i c j d hj => ?_,
    fun i c j d hj => ?_⟩
  · cases hj.mate
  · cases hj.mate

end World

end Greynet
