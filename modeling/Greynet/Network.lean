/-
  A network of nodes that run this plugin.

  A connection between two nodes is a pair of ENDS, each the other's `mate`; the end a node holds
  is what its router calls the connection.  Any finite graph of nodes can be built so, with
  cycles and with several connections between two nodes.  The mesh has been formed already: who is
  connected to whom is given, and connections only go away.

  1. `Network` — who holds which end, and the libraries; `Net` — the state: every node's router
     and queries, and the messages on the wire.
  2. `Network.step` — one message arrives, one timer runs out, playdar makes one call, or one end
     of a connection goes away.  ANY message on the wire may be the next to arrive; that TCP keeps
     the order on a connection is one of these orders.
  3. `Effect` — what a step can do: one node makes one step, or the wire or a router loses
     something.
  4. `Decent` — the invariant while queries and results survive the codecs.

  The nodes are those of `Greynet.Queries`, without their transfers.  A step of a node is one step
  of its queries, given its router, and nothing of a query's handler is repeated here.
-/
import Greynet.Results

namespace Greynet

/-- A network: its nodes' libraries and settings, and its connections.  Which of the ends is the
    dialling one does not matter any more, as the handshakes are over. -/
structure Network (N E : Type) where
  host : N → Host E
  /-- all of them are built with the same libraries -/
  js : JsonSpirit
  playdar : Playdar
  host_js : ∀ n, (host n).js = js
  host_playdar : ∀ n, (host n).playdar = playdar
  /-- the node that holds an end -/
  node : E → N
  /-- the other end -/
  mate : E → E
  mate_mate : ∀ e, mate (mate e) = e
  mate_ne : ∀ e, mate e ≠ e

/-- The state of a network.  The wire is one list for all connections, so there is no order kept
    between any two messages on it. -/
structure Net (N E : Type) where
  router : N → Router E
  queries : N → Queries E
  /-- messages on their way, each with the end it will arrive at -/
  wire : List (E × Message)
  /-- what `gen_uuid` has answered anywhere, query ids included -/
  issued : List String

/-- What is to be seen of a step from outside, with the end a message came in over.  The results
    that a node has found and those that it has been sent are told apart by that. -/
inductive Log (N E : Type) where
  /-- a message written on an end -/
  | wrote (e : E) (msgp : Message)
  /-- a query handed to the playdar of a node -/
  | dispatched (n : N) (qid : Qid)
  /-- a result reported to the playdar of a node that found it there -/
  | found (n : N) (qid : Qid) (item : ResolvedItem)
  /-- a result reported to playdar that came in over an end -/
  | relayed (e : E) (qid : Qid) (item : ResolvedItem)

variable {N E : Type} [DecidableEq N] [DecidableEq E]

namespace Network

/-- What can happen.  A node's timers and its playdar's calls come whenever they like, so the 100 ms
    are any time at all. -/
inductive Event (N E : Type) where
  /-- the `i`-th message on the wire arrives -/
  | deliver (i : Nat)
  | fwdSearch (n : N) (i : Nat) (err : Bool)
  | startResolving (n : N) (qid : Qid) (uuid : String)
  | callback (n : N) (i : Nat) (uuid : String)
  /-- a query is started at a node -/
  | localQuery (n : N) (rq : ResolverQuery)
  /-- a resolver of a node's playdar finds a result -/
  | reportResults (n : N) (qid : Qid) (item : ResolvedItem)
  | solve (n : N) (qid : Qid)
  /-- the node that holds the end sees its connection go -/
  | close (e : E)
  /-- ... and drops its last `shared_ptr` to it -/
  | release (e : E)

/-- The messages some actions of a node put on the wire: those on its open connections.  What is
    written on a closed one goes nowhere. -/
def packets (net : Network N E) (r : Router E) (acts : List (Action E)) : List (E × Message) :=
  acts.filterMap fun
    | .asyncWrite e msgp => if e ∈ r.connections then some (net.mate e, msgp) else none
    | _ => none

omit [DecidableEq N] [DecidableEq E] in
/-- What is to be seen of some actions of a node; `via` is the end a message came in over. -/
def logs (n : N) (via : Option E) (acts : List (Action E)) : List (Log N E) :=
  acts.filterMap fun
    | .asyncWrite e msgp => some (.wrote e msgp)
    | .dispatch qid => some (.dispatched n qid)
    | .reportResults qid item =>
      match via with
      | none => some (.found n qid item)
      | some e => some (.relayed e qid item)
    | _ => none

/-- A node has made a step: it has its new queries, has closed what it has `fin`ished, and what it
    has written is on the wire.  The writes come before the closing, as they do in the handlers. -/
def put (net : Network N E) (s : Net N E) (n : N) (q : Queries E) (acts : List (Action E)) :
    Net N E :=
  { s with
    router := Function.update s.router n
      ((finished acts).foldl (fun r c => r.fin c) (s.router n))
    queries := Function.update s.queries n q
    wire := s.wire ++ net.packets (s.router n) acts }

/-- Let a node make a step, with the queries' own. -/
def move (net : Network N E) (s : Net N E) (n : N) (via : Option E) (qe : Queries.Event E) :
    Except Fault (Net N E × List (Log N E)) :=
  match (s.queries n).step (net.host n) qe with
  | .error f => .error f
  | .ok (q, acts) => .ok (net.put s n q acts, logs n via acts)

/-- The next state; an event that cannot happen yet changes nothing.  A message that arrives at a
    closed connection is lost.  The ids that `gen_uuid` answers are new ones, which is what makes
    them good for guids; a result is reported only for a query that playdar has. -/
def step (net : Network N E) (s : Net N E) :
    Event N E → Except Fault (Net N E × List (Log N E))
  | .deliver i =>
    match s.wire[i]? with
    | none => .ok (s, [])
    | some (e, msgp) =>
      let s₁ : Net N E := { s with wire := s.wire.eraseIdx i }
      if e ∈ (s.router (net.node e)).connections then
        net.move s₁ (net.node e) (some e) (.received (s.router (net.node e)) e msgp)
      else .ok (s₁, [])
  | .fwdSearch n i err => net.move s n none (.fwdSearch (s.router n) i err)
  | .startResolving n qid uuid =>
    if uuid ∈ s.issued then .ok (s, [])
    else
      net.move { s with issued := uuid :: s.issued } n none
        (.startResolving (s.router n) qid uuid)
  | .callback n i uuid =>
    if uuid ∈ s.issued then .ok (s, [])
    else net.move { s with issued := uuid :: s.issued } n none (.callback (s.router n) i uuid)
  | .localQuery n rq =>
    if rq.id ∈ s.issued then .ok (s, [])
    else net.move { s with issued := rq.id :: s.issued } n none (.localQuery rq)
  | .reportResults n qid item =>
    if (s.queries n).queryExists qid then net.move s n none (.reportResults qid item)
    else .ok (s, [])
  | .solve n qid => net.move s n none (.solve qid)
  | .close e =>
    .ok ({ s with
      router := Function.update s.router (net.node e) ((s.router (net.node e)).fin e) }, [])
  | .release e =>
    if e ∈ (s.router (net.node e)).connections then .ok (s, [])
    else
      .ok ({ s with
        router := Function.update s.router (net.node e) ((s.router (net.node e)).release e) }, [])

/-- The network at the beginning: connected, and nothing asked yet.  Every connection has its
    handshake behind it. -/
structure Starts (net : Network N E) (s : Net N E) : Prop where
  queries : ∀ n, s.queries n = .empty
  wire : s.wire = []
  /-- every end is open at the node that holds it -/
  opened : ∀ n e, e ∈ (s.router n).connections ↔ net.node e = n
  nodup : ∀ n, (s.router n).connections.Nodup
  ready : ∀ n e, net.node e = n → ((s.router n).conn e).ready = true
  expired : ∀ n, (s.router n).expired = []

/-- The history of a run of the network. -/
abbrev History (N E : Type) := List (Runs.Step (Net N E) (Event N E) (Log N E))

/-- The runs of the network, from any beginning. -/
abbrev Run (net : Network N E) (hist : History N E) (s : Net N E) : Prop :=
  Runs.Run net.step net.Starts hist s

/-! ## What a step can do

  Everything that is proved of the network goes by these effects.  The one that counts is a node's
  own step, and of that `Queries.Effect` says what it can be. -/

/-- An event is a step of a node: which one, over which end, what its queries see, and the wire and
    the uuids then.  The message that arrives has left the wire before the node looks at it. -/
inductive Moves (net : Network N E) (s : Net N E) :
    Event N E → N → Option E → Queries.Event E → List (E × Message) → List String → Prop
  | deliver (i : Nat) (e : E) (msgp : Message) (hw : s.wire[i]? = some (e, msgp))
      (hopen : e ∈ (s.router (net.node e)).connections) :
      Moves net s (.deliver i) (net.node e) (some e) (.received (s.router (net.node e)) e msgp)
        (s.wire.eraseIdx i) s.issued
  | fwdSearch (n : N) (i : Nat) (err : Bool) :
      Moves net s (.fwdSearch n i err) n none (.fwdSearch (s.router n) i err) s.wire s.issued
  | startResolving (n : N) (qid : Qid) (uuid : String) (hnew : uuid ∉ s.issued) :
      Moves net s (.startResolving n qid uuid) n none (.startResolving (s.router n) qid uuid)
        s.wire (uuid :: s.issued)
  | callback (n : N) (i : Nat) (uuid : String) (hnew : uuid ∉ s.issued) :
      Moves net s (.callback n i uuid) n none (.callback (s.router n) i uuid)
        s.wire (uuid :: s.issued)
  | localQuery (n : N) (rq : ResolverQuery) (hnew : rq.id ∉ s.issued) :
      Moves net s (.localQuery n rq) n none (.localQuery rq) s.wire (rq.id :: s.issued)
  | reportResults (n : N) (qid : Qid) (item : ResolvedItem)
      (hex : (s.queries n).queries qid ≠ none) :
      Moves net s (.reportResults n qid item) n none (.reportResults qid item) s.wire s.issued
  | solve (n : N) (qid : Qid) : Moves net s (.solve n qid) n none (.solve qid) s.wire s.issued

/-- The event cannot happen yet: there is no such message, or the id is not a new one. -/
def Blocked (net : Network N E) (s : Net N E) : Event N E → Prop
  | .deliver i => s.wire[i]? = none
  | .startResolving _ _ uuid | .callback _ _ uuid => uuid ∈ s.issued
  | .localQuery _ rq => rq.id ∈ s.issued
  | .reportResults n qid _ => (s.queries n).queries qid = none
  | .release e => e ∈ (s.router (net.node e)).connections
  | .fwdSearch .. | .solve .. | .close _ => False

/-- What one event does: nothing, a loss, a change of a router, or a node's step.  Only the last one
    can put anything on the wire. -/
inductive Effect (net : Network N E) (s : Net N E) (ev : Event N E) :
    Net N E → List (Log N E) → Prop
  | idle (hb : net.Blocked s ev) : Effect net s ev s []
  /-- a message is lost: its connection is no longer open where it arrives -/
  | lost (i : Nat) (he : ev = .deliver i) (e : E) (msgp : Message)
      (hw : s.wire[i]? = some (e, msgp))
      (hclosed : e ∉ (s.router (net.node e)).connections) :
      Effect net s ev { s with wire := s.wire.eraseIdx i } []
  | rerouted (e : E) (he : ev = .close e ∨ ev = .release e) (r : Router E)
      (hconn : ∀ d ∈ r.connections, d ∈ (s.router (net.node e)).connections)
      (hnd : (s.router (net.node e)).connections.Nodup → r.connections.Nodup) :
      Effect net s ev { s with router := Function.update s.router (net.node e) r } []
  | moved (n : N) (via : Option E) (qe : Queries.Event E) (w : List (E × Message))
      (iss : List String) (hm : Moves net s ev n via qe w iss) (q : Queries E)
      (acts : List (Action E)) (heff : Queries.Effect (net.host n) (s.queries n) qe q acts) :
      Effect net s ev (net.put { s with wire := w, issued := iss } n q acts) (logs n via acts)

/-- A step of a node that returns has an effect of the queries', which is where the results on one
    node come in. -/
theorem move_ok {net : Network N E} {s s' : Net N E} {n : N} {via : Option E}
    {qe : Queries.Event E} {out : List (Log N E)} (hok : net.move s n via qe = .ok (s', out)) :
    ∃ q acts, Queries.Effect (net.host n) (s.queries n) qe q acts ∧
      s' = net.put s n q acts ∧ out = logs n via acts := by
  unfold move at hok
  split at hok
  · cases hok
  · rename_i q acts hstep
    obtain ⟨rfl, rfl⟩ := Prod.mk.inj (Except.ok.inj hok)
    exact ⟨q, acts, Queries.step_effect hstep, rfl, rfl⟩

/-- **Every step has one of these effects.**  The events that a node takes part in are all one case,
    with `Moves` for what they have in common. -/
theorem step_effect {net : Network N E} {s s' : Net N E} {ev : Event N E} {out : List (Log N E)}
    (hok : net.step s ev = .ok (s', out)) : Effect net s ev s' out := by
  -- the events that a node takes part in, all in one
  have hmoves : ∀ {n via qe w iss}, Moves net s ev n via qe w iss →
      net.move { s with wire := w, issued := iss } n via qe = .ok (s', out) →
      Effect net s ev s' out := by
    intro n via qe w iss hm hmove
    obtain ⟨q, acts, heff, rfl, rfl⟩ := move_ok hmove
    exact .moved n via qe w iss hm q acts heff
  cases ev with
  | deliver i =>
    simp only [step] at hok
    split at hok
    · rename_i hnone
      obtain ⟨rfl, rfl⟩ := Prod.mk.inj (Except.ok.inj hok)
      exact .idle hnone
    · rename_i e msgp hw
      split at hok
      · rename_i hopen
        exact hmoves (.deliver i e msgp hw hopen) hok
      · -- the link is gone, and what was on the wire with it
        rename_i hclosed
        obtain ⟨rfl, rfl⟩ := Prod.mk.inj (Except.ok.inj hok)
        exact .lost i rfl e msgp hw hclosed
  | fwdSearch n i err => exact hmoves (.fwdSearch n i err) hok
  | startResolving n qid uuid =>
    simp only [step] at hok
    split at hok
    · rename_i hold
      obtain ⟨rfl, rfl⟩ := Prod.mk.inj (Except.ok.inj hok)
      exact .idle hold
    · rename_i hnew
      exact hmoves (.startResolving n qid uuid hnew) hok
  | callback n i uuid =>
    simp only [step] at hok
    split at hok
    · rename_i hold
      obtain ⟨rfl, rfl⟩ := Prod.mk.inj (Except.ok.inj hok)
      exact .idle hold
    · rename_i hnew
      exact hmoves (.callback n i uuid hnew) hok
  | localQuery n rq =>
    simp only [step] at hok
    split at hok
    · rename_i hold
      obtain ⟨rfl, rfl⟩ := Prod.mk.inj (Except.ok.inj hok)
      exact .idle hold
    · rename_i hnew
      exact hmoves (.localQuery n rq hnew) hok
  | reportResults n qid item =>
    simp only [step] at hok
    split at hok
    · rename_i hex
      refine hmoves (.reportResults n qid item ?_) hok
      simpa [Queries.queryExists, Option.isSome_iff_ne_none] using hex
    · rename_i hno
      obtain ⟨rfl, rfl⟩ := Prod.mk.inj (Except.ok.inj hok)
      rw [Bool.not_eq_true, Queries.queryExists_eq_false] at hno
      exact .idle hno
  | solve n qid => exact hmoves (.solve n qid) hok
  | close e =>
    obtain ⟨rfl, rfl⟩ := Prod.mk.inj (Except.ok.inj hok)
    exact .rerouted e (Or.inl rfl) _ (fun d hd => (Router.mem_fin.mp hd).1) fun h => h.filter _
  | release e =>
    simp only [step] at hok
    split at hok
    · rename_i hopen
      obtain ⟨rfl, rfl⟩ := Prod.mk.inj (Except.ok.inj hok)
      exact .idle hopen
    · obtain ⟨rfl, rfl⟩ := Prod.mk.inj (Except.ok.inj hok)
      exact .rerouted e (Or.inr rfl) _ (fun d hd => hd) fun h => h

/-! ## Decent networks

  As long as the codecs read what they have written, no node meets a malformed message; so none
  closes a connection, and no handler throws. -/

/-- The queries started and the results found survive the codecs.  It is asked of what comes into
    the network from its users, and of nothing else. -/
def Encodes (net : Network N E) : Event N E → Prop
  | .localQuery _ rq => rq.Travels net.js net.playdar
  | .reportResults _ qid item => (item.rmJsonValue "url").Travels net.js net.playdar qid
  | _ => True

/-- The invariant: every node's tables are sane, and every message on the wire is honest. -/
structure Decent (net : Network N E) (s : Net N E) : Prop where
  sane : ∀ n, (s.queries n).Sane (net.host n)
  wire : ∀ p ∈ s.wire, Honest net.js net.playdar p.2
  held : ∀ n, ∀ e ∈ (s.router n).connections, net.node e = n
  nodup : ∀ n, (s.router n).connections.Nodup

omit [DecidableEq N] [DecidableEq E] in
/-- At the beginning there is nothing that could be otherwise: the tables and the wire are empty. -/
theorem decent_start {net : Network N E} {s : Net N E} (h0 : net.Starts s) : net.Decent s := by
  refine ⟨fun n => ?_, fun p hp => ?_, fun n e he => (h0.opened n e).mp he, h0.nodup⟩
  · rw [h0.queries n]
    exact Queries.sane_empty _
  · rw [h0.wire] at hp
    cases hp

omit [DecidableEq N] [DecidableEq E] in
/-- In a decent network a node only meets what it is made for.  A message that arrives was on the
    wire, and all on the wire is honest. -/
theorem Decent.welcome {net : Network N E} {s : Net N E} (hs : net.Decent s) {ev : Event N E}
    (hev : net.Encodes ev) {n : N} {via : Option E} {qe : Queries.Event E}
    {w : List (E × Message)} {iss : List String} (hm : Moves net s ev n via qe w iss) :
    Queries.Welcome (net.host n) qe := by
  cases hm with
  | deliver i e msgp hw =>
    show Honest (net.host (net.node e)).js (net.host (net.node e)).playdar msgp
    rw [net.host_js, net.host_playdar]
    exact hs.wire _ (List.mem_of_getElem? hw)
  | localQuery n rq =>
    show rq.Travels (net.host n).js (net.host n).playdar
    rw [net.host_js, net.host_playdar]
    exact hev
  | reportResults n qid item =>
    show (item.rmJsonValue "url").Travels (net.host n).js (net.host n).playdar qid
    rw [net.host_js, net.host_playdar]
    exact hev
  | _ => exact trivial

omit [DecidableEq N] in
/-- What is put on the wire is what is written on an open connection, for the end at the other
    side. -/
theorem mem_packets {net : Network N E} {r : Router E} {acts : List (Action E)}
    {p : E × Message} : p ∈ net.packets r acts ↔
      ∃ e ∈ r.connections, p.1 = net.mate e ∧ .asyncWrite e p.2 ∈ acts := by
  simp only [packets, List.mem_filterMap]
  constructor
  · rintro ⟨a, ha, hp⟩
    split at hp
    · rename_i e msgp
      split at hp
      · rename_i hopen
        obtain rfl := Option.some.inj hp
        exact ⟨e, hopen, rfl, ha⟩
      · cases hp
    · cases hp
  · rintro ⟨e, hopen, he, ha⟩
    refine ⟨_, ha, ?_⟩
    simp only [if_pos hopen, ← he]

omit [DecidableEq N] [DecidableEq E] in
/-- What is left on the wire was on it; only `deliver` takes anything off. -/
theorem Moves.wire_sub {net : Network N E} {s : Net N E} {ev : Event N E} {n : N}
    {via : Option E} {qe : Queries.Event E} {w : List (E × Message)} {iss : List String}
    (hm : Moves net s ev n via qe w iss) : ∀ p ∈ w, p ∈ s.wire := by
  cases hm with
  | deliver i e msgp => exact fun p hp => List.mem_of_mem_eraseIdx hp
  | _ => exact fun p hp => hp

omit [DecidableEq N] [DecidableEq E] in
/-- An id that has been used stays used, in whichever event it was. -/
theorem Moves.issued_sub {net : Network N E} {s : Net N E} {ev : Event N E} {n : N}
    {via : Option E} {qe : Queries.Event E} {w : List (E × Message)} {iss : List String}
    (hm : Moves net s ev n via qe w iss) :
    ∀ g ∈ s.issued, g ∈ iss := by
  cases hm with
  | startResolving => exact fun g hg => List.mem_cons_of_mem _ hg
  | callback => exact fun g hg => List.mem_cons_of_mem _ hg
  | localQuery => exact fun g hg => List.mem_cons_of_mem _ hg
  | _ => exact fun g hg => hg

/-- A node's step in a decent network: it closes nothing, and writes honest messages.  So `put` is
    simpler there than it is in general, and the proofs about runs use it in this form. -/
theorem Decent.put_eq {net : Network N E} {s : Net N E} (hs : net.Decent s) {ev : Event N E}
    (hev : net.Encodes ev) {n : N} {via : Option E} {qe : Queries.Event E}
    {w : List (E × Message)} {iss : List String} (hm : Moves net s ev n via qe w iss)
    {q : Queries E} {acts : List (Action E)}
    (heff : Queries.Effect (net.host n) (s.queries n) qe q acts) :
    net.put { s with wire := w, issued := iss } n q acts =
      { s with
        queries := Function.update s.queries n q
        wire := w ++ net.packets (s.router n) acts
        issued := iss } ∧
    ∀ p ∈ net.packets (s.router n) acts, Honest net.js net.playdar p.2 := by
  obtain ⟨hhonest, hfin⟩ := Queries.honest_out (hs.sane n) (hs.welcome hev hm) heff
  constructor
  · rw [put, hfin, List.foldl_nil, Function.update_eq_self]
  · intro p hp
    obtain ⟨e, -, -, ha⟩ := mem_packets.mp hp
    have hh := hhonest e p.2 ha
    rwa [net.host_js, net.host_playdar] at hh

/-- **The network stays decent**, whichever node moves.  Two lemmas on one node carry it,
    `sane_step` for the node that moves and `honest_out` for the wire. -/
theorem decent_step {net : Network N E} {s s' : Net N E} {ev : Event N E} {out : List (Log N E)}
    (hs : net.Decent s) (hev : net.Encodes ev) (hok : net.step s ev = .ok (s', out)) :
    net.Decent s' := by
  cases step_effect hok with
  | idle => exact hs
  | lost i he e msgp hw =>
    exact ⟨hs.sane, fun p hp => hs.wire p (List.mem_of_mem_eraseIdx hp), hs.held, hs.nodup⟩
  | rerouted e he r hconn hnd =>
    refine ⟨hs.sane, hs.wire, fun n d hd => ?_, fun n => ?_⟩
    · by_cases hn : n = net.node e
      · subst hn
        simp only [Function.update_self] at hd
        exact hs.held _ d (hconn d hd)
      · simp only [Function.update_of_ne hn] at hd
        exact hs.held n d hd
    · by_cases hn : n = net.node e
      · subst hn
        simp only [Function.update_self]
        exact hnd (hs.nodup _)
      · simp only [Function.update_of_ne hn]
        exact hs.nodup n
  | moved n via qe w iss hm q acts heff =>
    -- what the node writes is honest, and goes to ends that it holds
    obtain ⟨hput, hhonest⟩ := hs.put_eq hev hm heff
    rw [hput]
    refine ⟨fun m => ?_, fun p hp => ?_, hs.held, hs.nodup⟩
    · by_cases hn : m = n
      · subst hn
        simp only [Function.update_self]
        exact Queries.sane_step (hs.sane m) (hs.welcome hev hm) heff
      · simp only [Function.update_of_ne hn]
        exact hs.sane m
    · rcases List.mem_append.mp hp with hp | hp
      · exact hs.wire p (hm.wire_sub p hp)
      · exact hhonest p hp

/-- **Nothing that happens in a decent network is a fault.**  So a run can always go on, and a
    statement about all its steps is not one about runs that break off. -/
theorem Decent.step_ok {net : Network N E} {s : Net N E} (hs : net.Decent s) {ev : Event N E}
    (hev : net.Encodes ev) : ∃ s' out, net.step s ev = .ok (s', out) := by
  -- a node that is sane takes any event that is welcome to it
  have hmove : ∀ {n via qe w iss}, Moves net s ev n via qe w iss →
      ∃ s' out, net.move { s with wire := w, issued := iss } n via qe = .ok (s', out) := by
    intro n via qe w iss hm
    obtain ⟨q, acts, hstep⟩ := (hs.sane n).step_ok (hs.welcome hev hm)
    refine ⟨net.put { s with wire := w, issued := iss } n q acts, logs n via acts, ?_⟩
    unfold move
    rw [hstep]
  cases ev with
  | deliver i =>
    simp only [step]
    split
    · exact ⟨_, _, rfl⟩
    · rename_i e msgp hw
      split
      · rename_i hopen
        exact hmove (.deliver i e msgp hw hopen)
      · exact ⟨_, _, rfl⟩
  | fwdSearch n i err => exact hmove (.fwdSearch n i err)
  | startResolving n qid uuid =>
    simp only [step]
    split
    · exact ⟨_, _, rfl⟩
    · rename_i hnew
      exact hmove (.startResolving n qid uuid hnew)
  | callback n i uuid =>
    simp only [step]
    split
    · exact ⟨_, _, rfl⟩
    · rename_i hnew
      exact hmove (.callback n i uuid hnew)
  | localQuery n rq =>
    simp only [step]
    split
    · exact ⟨_, _, rfl⟩
    · rename_i hnew
      exact hmove (.localQuery n rq hnew)
  | reportResults n qid item =>
    simp only [step]
    split
    · rename_i hex
      refine hmove (.reportResults n qid item ?_)
      simpa [Queries.queryExists, Option.isSome_iff_ne_none] using hex
    · exact ⟨_, _, rfl⟩
  | solve n qid => exact hmove (.solve n qid)
  | close e => exact ⟨_, _, rfl⟩
  | release e =>
    simp only [step]
    split <;> exact ⟨_, _, rfl⟩

/-- Every event of the history encodes, which is a condition on the users of the network. -/
def AllEncode (net : Network N E) (hist : History N E) : Prop := ∀ st ∈ hist, net.Encodes st.event

omit [DecidableEq N] [DecidableEq E] in
/-- So does every event up to some point of it. -/
theorem AllEncode.of_append {net : Network N E} {h h' : History N E}
    (henc : net.AllEncode (h ++ h')) : net.AllEncode h := fun st hst =>
  henc st (List.mem_append_left _ hst)

/-- A run whose events all encode ends in a decent state, ... -/
theorem Run.decent {net : Network N E} {hist : History N E} {s : Net N E}
    (hr : net.Run hist s) (henc : net.AllEncode hist) : net.Decent s := by
  refine Runs.Run.invariant (I := fun hist s => net.AllEncode hist → net.Decent s) ?_ ?_ hr henc
  · intro s h0 _
    exact decent_start h0
  · intro hist s ev s' out _ ih hok henc
    exact decent_step (ih henc.of_append)
      (henc _ List.mem_concat_self) hok

/-- ... and so does it at each step: every step of a run starts in a decent state. -/
theorem Run.decent_pre {net : Network N E} {hist : History N E} {s : Net N E}
    (hr : net.Run hist s) (henc : net.AllEncode hist)
    {st : Runs.Step (Net N E) (Event N E) (Log N E)} (hst : st ∈ hist) :
    net.Decent st.pre ∧ net.Encodes st.event := by
  obtain ⟨h₁, h₂, rfl⟩ := List.append_of_mem hst
  exact ⟨Run.decent hr.cut.1 henc.of_append, henc st hst⟩

end Network

end Greynet
