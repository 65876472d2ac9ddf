/-
  Two nodes that dial each other.

  Both hold the other's advert and both dial, so there are two connections; each end drops a
  connection whose IDENT names somebody it already has an open connection to.  The name is set at
  different moments on the two sides: the ACCEPTING end names the connection when the first IDENT
  arrives, the DIALLING end when the reply to it does.

  1. `Cross` — the two nodes, as `Greynet.Mesh` models them, and the four queues between them.
     A delivery takes the next frame of a queue; `fin` puts a close frame behind what was sent.
  2. `Phase` — the abstract view: where one of the two connections is in its life.  What a
     delivery does to a phase depends only on the two phases.
  3. `Rel` — the simulation between the two views; `rel_step` is its one step.
  4. `crossDial_iff` — a connection survives exactly when the two drops do not cross: no reply
     reaches its dialler while the other connection, closed by the other node already, is still
     open here.

  The simulation leaves a finite game: there are six phases, so 36 pairs, and what a delivery does
  to them is decided by evaluation.  All that is about IDENTs, cookies and names is in the one step.
-/
import Greynet.Mesh

namespace Greynet

/-- One of the two nodes; also the connection it dials, for each dials once.  So there are two
    connections and four queues, and a side names one of each. -/
inductive Side where
  | a
  | b
  deriving DecidableEq, Repr

namespace Side

/-- The node at the other end; of the node that dials a connection it is the one that accepts it. -/
def other : Side → Side
  | a => b
  | b => a

/-- ... whichever is named first, ... -/
@[simp] theorem other_other (i : Side) : i.other.other = i := by cases i <;> rfl
@[simp] theorem other_ne (i : Side) : i.other ≠ i := by cases i <;> decide
@[simp] theorem ne_other (i : Side) : i ≠ i.other := by cases i <;> decide

/-- ... and there is no third. -/
theorem eq_or_eq_other (i k : Side) : k = i ∨ k = i.other := by
  cases i <;> cases k <;> decide

end Side

/-! ## Where one connection is

  This part knows nothing of the two nodes.  Each connection has a dialling and an accepting end,
  and what these do when something is delivered depends on whether the other connection is ready
  there. -/

/-- The life of a connection, from the dial to where it is up or closed.  What is on its way belongs
    to the phase, since it decides what can come next. -/
inductive Phase where
  /-- the first IDENT is on its way -/
  | dialled
  /-- the accepting end is ready, its reply on the way -/
  | replied
  /-- ready at both ends -/
  | up
  /-- the accepting end has closed it -/
  | refused
  /-- the dialling end has closed it on the reply -/
  | dropped
  /-- closed at both ends -/
  | dead
  deriving DecidableEq, Repr

/-- One end of a connection: it waits for an IDENT, is ready, or is closed.  Two ends and what is
    between them make a phase. -/
inductive EndState where
  | awaiting
  | ready
  | closed
  deriving DecidableEq, Repr

/-- What is on the way in one direction.  There is one thing at most: each end sends an IDENT once,
    and a close instead of another message. -/
inductive Transit where
  | nothing
  | ident
  | close
  deriving DecidableEq, Repr

namespace Phase

/-- The dialling end, in each phase; it is ready once the reply is there, ... -/
def dialler : Phase → EndState
  | dialled | replied | refused => .awaiting
  | up => .ready
  | dropped | dead => .closed

/-- ... and the accepting end, which is ready before that. -/
def acceptor : Phase → EndState
  | dialled => .awaiting
  | replied | up | dropped => .ready
  | refused | dead => .closed

/-- What is on its way from the dialling end, ... -/
def toAcceptor : Phase → Transit
  | dialled => .ident
  | dropped => .close
  | _ => .nothing

/-- ... and to it. -/
def toDialler : Phase → Transit
  | replied => .ident
  | refused => .close
  | _ => .nothing

/-- A delivery at the accepting end of `p`, the other connection being in phase `q`.  The node there
    has dialled the other one, so it knows the peer already if the dialling end of `q` is ready. -/
def atAcceptor (p q : Phase) : Phase :=
  match p with
  | dialled => if q.dialler = .ready then refused else replied
  | dropped => dead
  | p => p

/-- A delivery at the dialling end of `p`, the other connection being in phase `q`.  The node there
    has accepted the other one. -/
def atDialler (p q : Phase) : Phase :=
  match p with
  | replied => if q.acceptor = .ready then dropped else up
  | refused => dead
  | p => p

/-- The pairs of phases from which a connection is still sure to survive, unless two drops cross.
    In each of them one of the two connections is up or replied to, or both are still undecided. -/
def hopeful : Phase → Phase → Bool
  | dialled, dialled | dialled, replied | replied, dialled | replied, replied
  | up, dialled | dialled, up | up, refused | refused, up | up, dead | dead, up
  | dropped, replied | replied, dropped | dead, replied | replied, dead => true
  | _, _ => false

/-- Both connections are given up, at one end at least.  From there no delivery brings one back. -/
def lost (p q : Phase) : Bool :=
  (p = dropped || p = dead) && (q = dropped || q = dead)

/-- The two connections play the same part, so it is enough to look at a delivery on one of them. -/
theorem hopeful_symm (p q : Phase) : hopeful p q = hopeful q p := by
  cases p <;> cases q <;> rfl

/-- It does not matter either which of the two was lost first. -/
theorem lost_symm (p q : Phase) : lost p q = lost q p := by
  cases p <;> cases q <;> rfl

/-- A refusal of the first IDENT never loses both: the other connection is ready at that end, so its
    reply has come. -/
theorem hopeful_atAcceptor {p q : Phase} (h : hopeful p q = true) :
    hopeful (p.atAcceptor q) q = true := by
  revert h
  cases p <;> cases q <;> decide

/-- **Only two crossing drops lose both connections.**  A drop on the reply is harmless as long as
    the connection it makes way for is not dropped at its other end. -/
theorem hopeful_atDialler {p q : Phase} (h : hopeful p q = true)
    (hcross : ¬ (p = replied ∧ q = dropped)) : hopeful (p.atDialler q) q = true := by
  revert h hcross
  cases p <;> cases q <;> decide

/-- What is lost stays lost, by a delivery to an accepting end ... -/
theorem lost_atAcceptor {p q : Phase} (h : lost p q = true) : lost (p.atAcceptor q) q = true := by
  revert h
  cases p <;> cases q <;> decide

/-- ... as by one to a dialling end.  Both are decided by looking at all pairs. -/
theorem lost_atDialler {p q : Phase} (h : lost p q = true) : lost (p.atDialler q) q = true := by
  revert h
  cases p <;> cases q <;> decide

/-- And if the drops do cross, both are: the reply arrives where its connection is refused, and
    closes it. -/
theorem lost_crossing : lost (replied.atDialler dropped) dropped = true := by decide

/-- With nothing on the way, a hopeful pair has a connection that is up.  All other hopeful pairs
    have a frame to deliver. -/
theorem up_of_hopeful {p q : Phase} (h : hopeful p q = true)
    (hp : p.toAcceptor = .nothing ∧ p.toDialler = .nothing)
    (hq : q.toAcceptor = .nothing ∧ q.toDialler = .nothing) : p = up ∨ q = up := by
  revert h hp hq
  cases p <;> cases q <;> decide

/-- A lost pair has none, whatever is on the way. -/
theorem not_up_of_lost {p q : Phase} (h : lost p q = true) : p ≠ up ∧ q ≠ up := by
  revert h
  cases p <;> cases q <;> decide

end Phase

/-! ## The two nodes and their queues

  The nodes are those of `Greynet.Mesh`, each with its own state and its own handles.  What one of
  them sends on a connection is queued, and taken by the other one in that order. -/

variable {C : Type} [DecidableEq C]

/-- What travels on a connection: a message, or the close of it.  TCP delivers the close behind what
    was sent before it. -/
inductive Frame where
  | msg (m : Message)
  | close
  deriving DecidableEq, Repr

/-- The event a frame is for the node it arrives at, on its connection `conn`. -/
def Frame.event (conn : C) (uuid : String) : Frame → Mesh.Event C
  | msg m => .received conn m uuid
  | close => .closed conn

/-- The frames a node's actions put on its connection `conn`, in order; the other actions travel
    nowhere. -/
def framesOn (conn : C) (out : List (Action C)) : List Frame :=
  out.filterMap fun
    | .asyncWrite c m => if c = conn then some (.msg m) else none
    | .fin c => if c = conn then some .close else none
    | _ => none

/-- One of the two nodes: its host, its handles of the two connections, the cookie it was sent.  A
    handle means something at that node only. -/
structure Party (C : Type) where
  host : Host C
  /-- the connection it dials -/
  dialled : C
  /-- the connection the other node dials -/
  accepted : C
  cookie : String

/-- The two nodes and what is on the way; the queues are named by who dialled the connection and by
    which end they lead to. -/
structure Cross (C : Type) where
  mesh : Side → Mesh C
  toAcceptor : Side → List Frame
  toDialler : Side → List Frame

/-- A delivery on the connection a side dialled, at one of its two ends.  Nothing else happens here;
    what does is for `Greynet.Handshake`. -/
inductive Delivery where
  | atAcceptor (i : Side) (uuid : String)
  | atDialler (i : Side) (uuid : String)
  deriving DecidableEq, Repr

namespace Cross

/-- The node `j` takes an event; what it sends goes behind what is on the way.  What it sends on
    none of the two connections is put out, and there is none. -/
def take (X : Side → Party C) (s : Cross C) (j : Side) (e : Mesh.Event C) :
    Except Fault (Cross C × List Frame) :=
  match Mesh.step (X j).host (s.mesh j) e with
  | .error f => .error f
  | .ok (m, out) =>
    .ok ({ mesh := Function.update s.mesh j m
           toAcceptor := Function.update s.toAcceptor j
             (s.toAcceptor j ++ framesOn (X j).dialled out)
           toDialler := Function.update s.toDialler j.other
             (s.toDialler j.other ++ framesOn (X j).accepted out) }, [])

/-- One delivery; on an empty queue it does nothing.  The order of deliveries is anybody's choice,
    but for the order within each queue. -/
def step (X : Side → Party C) (s : Cross C) : Delivery → Except Fault (Cross C × List Frame)
  | .atAcceptor i uuid =>
    match s.toAcceptor i with
    | [] => .ok (s, [])
    | f :: rest =>
      take X { s with toAcceptor := Function.update s.toAcceptor i rest } i.other
        (f.event (X i.other).accepted uuid)
  | .atDialler i uuid =>
    match s.toDialler i with
    | [] => .ok (s, [])
    | f :: rest =>
      take X { s with toDialler := Function.update s.toDialler i rest } i
        (f.event (X i).dialled uuid)

/-- The dial a party makes from the advert it was sent: the cookie, and the JID that sent it.  The
    address is of no interest once the connection is there. -/
def dialOf (X : Side → Party C) (i : Side) : Dial :=
  ⟨0, 0, [("cookie", (X i).cookie), ("jid", (X i.other).host.jid)]⟩

/-- Both connections just opened at both ends, from the two nodes' states `m`.  The two first IDENTs
    are on their way, and each node awaits one on each connection. -/
def start (X : Side → Party C) (m : Side → Mesh C) (uuid : String) : Cross C where
  mesh i := (((m i).newIncomingConnection (X i).accepted).1.newOutgoingConnection (X i).host
    (X i).dialled (dialOf X i) uuid).1
  toAcceptor i := framesOn (X i).dialled
    (((m i).newIncomingConnection (X i).accepted).1.newOutgoingConnection (X i).host
      (X i).dialled (dialOf X i) uuid).2
  toDialler _ := []

/-- Nothing is left to deliver, in any of the four queues. -/
def Idle (s : Cross C) : Prop := ∀ i, s.toAcceptor i = [] ∧ s.toDialler i = []

/-- One of the two connections is open and ready at both ends, whichever it is.  It is all the nodes
    want: a second one is dropped on purpose. -/
def Connected (X : Side → Party C) (s : Cross C) : Prop :=
  ∃ i : Side,
    ((X i).dialled ∈ (s.mesh i).router.connections ∧
      ((s.mesh i).router.conn (X i).dialled).ready = true) ∧
    ((X i.other).accepted ∈ (s.mesh i.other).router.connections ∧
      ((s.mesh i.other).router.conn (X i.other).accepted).ready = true)

/-- The reply reaches the dialler while the other connection is still open here, but closed
    already by the node that dialled it. -/
def Crosses (X : Side → Party C) (s : Cross C) (e : Delivery) : Prop :=
  ∃ i uuid msgp rest, e = .atDialler i uuid ∧ s.toDialler i = .msg msgp :: rest ∧
    (X i).accepted ∈ (s.mesh i).router.connections ∧
    (X i.other).dialled ∉ (s.mesh i.other).router.connections

/-- Two honest nodes, not connected, each holding the other's advert.  They may have any other
    connections and any other cookies. -/
structure Honest (X : Side → Party C) (m : Side → Mesh C) : Prop where
  handles : ∀ i, (X i).dialled ≠ (X i).accepted
  jids : (X .a).host.jid ≠ (X .b).host.jid
  /-- neither has an open connection to the other -/
  strangers : ∀ i : Side, ∀ c ∈ (m i).router.connections,
    ((m i).router.conn c).name ≠ some (X i.other).host.jid
  /-- the cookie of each was issued to it by the other -/
  cookies : ∀ i : Side, (X i).cookie ≠ "" ∧
    (m i.other).peerCookies (X i).cookie = some (X i).host.jid
  /-- each reads the IDENTs the other writes -/
  codec : ∀ i : Side, ∀ v ∈ [Value.obj [("name", .str (X i).host.jid),
      ("cookie", .str (X i).cookie)], Value.obj [("name", .str (X i).host.jid)]],
    (X i.other).host.js.read ((X i).host.js.write v) = some v

/-! ## The simulation

  Each node is in the phase's state at each of its two ends, and each queue holds what the phase
  says.  The rest of a node's state is left open, except that nothing else there is open under the
  other's name. -/

/-- What a connection object is at one end; `peer` is the JID of the node at the other.  A closed
    one may have any name, as it is not looked up any more. -/
def EndIs (m : Mesh C) (conn : C) (incoming : Bool) (peer : String) : EndState → Prop
  | .awaiting => conn ∈ m.router.connections ∧
      (m.router.conn conn).messageReceivedCbs = [incoming] ∧
      (m.router.conn conn).ready = false ∧ (m.router.conn conn).name = none
  | .ready => conn ∈ m.router.connections ∧ (m.router.conn conn).ready = true ∧
      (m.router.conn conn).name = some peer
  | .closed => conn ∉ m.router.connections

/-- What a queue holds; `payload` is that of the IDENT sent this way.  Its guid may be anything,
    since an IDENT does not go through the duplicate filter. -/
def Holds (l : List Frame) (payload : String) : Transit → Prop
  | .nothing => l = []
  | .ident => ∃ guid, l = [.msg (identMessage payload guid)]
  | .close => l = [.close]

/-- The IDENT a dialler sends: name and cookie. -/
def firstIdent (X : Side → Party C) (i : Side) : Value :=
  .obj [("name", .str (X i).host.jid), ("cookie", .str (X i).cookie)]

/-- The IDENT an acceptor sends back: the name, for it has no cookie for that connection. -/
def replyIdent (X : Side → Party C) (i : Side) : Value :=
  .obj [("name", .str (X i).host.jid)]

/-- The two nodes are in the two phases, each of which is the phase of the connection a side has
    dialled. -/
structure Rel (X : Side → Party C) (s : Cross C) (ph : Side → Phase) : Prop where
  dialler : ∀ i : Side,
    EndIs (s.mesh i) (X i).dialled false (X i.other).host.jid (ph i).dialler
  acceptor : ∀ i : Side,
    EndIs (s.mesh i) (X i).accepted true (X i.other).host.jid (ph i.other).acceptor
  toAcceptor : ∀ i : Side,
    Holds (s.toAcceptor i) ((X i).host.js.write (firstIdent X i)) (ph i).toAcceptor
  toDialler : ∀ i : Side,
    Holds (s.toDialler i) ((X i.other).host.js.write (replyIdent X i.other)) (ph i).toDialler
  cookies : ∀ i : Side, (s.mesh i.other).peerCookies (X i).cookie = some (X i).host.jid
  strangers : ∀ i : Side, ∀ c ∈ (s.mesh i).router.connections, c ≠ (X i).dialled →
    c ≠ (X i).accepted → ((s.mesh i).router.conn c).name ≠ some (X i.other).host.jid

/-- The step from `m` to `m'` touches the connection `c` only, and issues no cookie.  So the other
    connection of the two is where it was. -/
structure OnlyAt (m m' : Mesh C) (c : C) : Prop where
  conn : ∀ d, d ≠ c → m'.router.conn d = m.router.conn d
  isOpen : ∀ d, d ≠ c → (d ∈ m'.router.connections ↔ d ∈ m.router.connections)
  cookies : m'.peerCookies = m.peerCookies

omit [DecidableEq C] in
/-- What an end is stays so when another connection is touched, open and name and callback. -/
theorem EndIs.onlyAt {m m' : Mesh C} {c d : C} {incoming : Bool} {peer : String} {st : EndState}
    (ho : OnlyAt m m' c) (hd : d ≠ c) (h : EndIs m d incoming peer st) :
    EndIs m' d incoming peer st := by
  cases st with
  | awaiting =>
    obtain ⟨h1, h2⟩ := h
    exact ⟨(ho.isOpen d hd).mpr h1, by rwa [ho.conn d hd]⟩
  | ready =>
    obtain ⟨h1, h2⟩ := h
    exact ⟨(ho.isOpen d hd).mpr h1, by rwa [ho.conn d hd]⟩
  | closed => exact fun hin => h ((ho.isOpen d hd).mp hin)

/-- Closing a connection touches that one, ... -/
theorem onlyAt_fin (m : Mesh C) (c : C) : OnlyAt m { m with router := m.router.fin c } c :=
  ⟨fun _ _ => rfl, fun _ hd => by simp [hd], rfl⟩

/-- ... and so does setting something on it. -/
theorem onlyAt_modify (m : Mesh C) (c : C) (f : Connection → Connection) :
    OnlyAt m { m with router := m.router.modify c f } c :=
  ⟨fun _ hd => Router.modify_conn_ne _ _ hd, fun _ _ => Iff.rfl, rfl⟩

omit [DecidableEq C] in
/-- The accepting end moves: it touches its end only, and the queue to it has been emptied.  The
    three other ends and the other three queues are as they were, but for what it sends back. -/
theorem Rel.moveAcceptor {X : Side → Party C} (hX : ∀ i, (X i).dialled ≠ (X i).accepted)
    {s : Cross C} {ph : Side → Phase} (h : Rel X s ph) (i : Side) {m' : Mesh C} {p : Phase}
    {fs : List Frame} (honly : OnlyAt (s.mesh i.other) m' (X i.other).accepted)
    (hend : EndIs m' (X i.other).accepted true (X i).host.jid p.acceptor)
    (hsame : p.dialler = (ph i).dialler) (hempty : p.toAcceptor = .nothing)
    (hsent : Holds fs ((X i.other).host.js.write (replyIdent X i.other)) p.toDialler) :
    Rel X { mesh := Function.update s.mesh i.other m'
            toAcceptor := Function.update s.toAcceptor i []
            toDialler := Function.update s.toDialler i fs } (Function.update ph i p) := by
  -- the two ends, the two queues, the cookies and the strangers; in each, this side and the other
  refine ⟨fun k => ?_, fun k => ?_, fun k => ?_, fun k => ?_, fun k => ?_, fun k => ?_⟩
  · rcases Side.eq_or_eq_other i k with rfl | rfl
    · simpa [hsame] using h.dialler k
    · simpa using (h.dialler i.other).onlyAt honly (hX _)
  · rcases Side.eq_or_eq_other i k with rfl | rfl
    · simpa using h.acceptor k
    · simpa using hend
  · rcases Side.eq_or_eq_other i k with rfl | rfl
    · simp [hempty, Holds]
    · simpa using h.toAcceptor i.other
  · rcases Side.eq_or_eq_other i k with rfl | rfl
    · simpa using hsent
    · simpa using h.toDialler i.other
  · rcases Side.eq_or_eq_other i k with rfl | rfl
    · simpa [honly.cookies] using h.cookies k
    · simpa using h.cookies i.other
  · rcases Side.eq_or_eq_other i k with rfl | rfl
    · simpa using h.strangers k
    · intro c hc hd ha
      simp only [Function.update_self] at hc ⊢
      rw [honly.conn c ha]
      exact h.strangers i.other c ((honly.isOpen c ha).mp hc) hd ha

omit [DecidableEq C] in
/-- The dialling end moves, in the same way: its own object and what it sends are new, and all else
    is kept. -/
theorem Rel.moveDialler {X : Side → Party C} (hX : ∀ i, (X i).dialled ≠ (X i).accepted)
    {s : Cross C} {ph : Side → Phase} (h : Rel X s ph) (i : Side) {m' : Mesh C} {p : Phase}
    {fs : List Frame} (honly : OnlyAt (s.mesh i) m' (X i).dialled)
    (hend : EndIs m' (X i).dialled false (X i.other).host.jid p.dialler)
    (hsame : p.acceptor = (ph i).acceptor) (hempty : p.toDialler = .nothing)
    (hsent : Holds fs ((X i).host.js.write (firstIdent X i)) p.toAcceptor) :
    Rel X { mesh := Function.update s.mesh i m'
            toAcceptor := Function.update s.toAcceptor i fs
            toDialler := Function.update s.toDialler i [] } (Function.update ph i p) := by
  refine ⟨fun k => ?_, fun k => ?_, fun k => ?_, fun k => ?_, fun k => ?_, fun k => ?_⟩
  · rcases Side.eq_or_eq_other i k with rfl | rfl
    · simpa using hend
    · simpa using h.dialler i.other
  · rcases Side.eq_or_eq_other i k with rfl | rfl
    · simpa using (h.acceptor k).onlyAt honly (hX k).symm
    · simpa [hsame] using h.acceptor i.other
  · rcases Side.eq_or_eq_other i k with rfl | rfl
    · simpa using hsent
    · simpa using h.toAcceptor i.other
  · rcases Side.eq_or_eq_other i k with rfl | rfl
    · simp [hempty, Holds]
    · simpa using h.toDialler i.other
  · rcases Side.eq_or_eq_other i k with rfl | rfl
    · simpa using h.cookies k
    · simpa [honly.cookies] using h.cookies i.other
  · rcases Side.eq_or_eq_other i k with rfl | rfl
    · intro c hc hd ha
      simp only [Function.update_self] at hc ⊢
      rw [honly.conn c hd]
      exact h.strangers k c ((honly.isOpen c hd).mp hc) hd ha
    · simpa using h.strangers i.other

/-! ## One delivery

  There are two that matter, of the first IDENT and of the reply; in each the node looks whether it
  has an open connection to the other one already, which the phases say. -/

/-- The phases after a delivery.  The phase of the other connection is an argument, since the IDENT
    is refused if that one is up here. -/
def next (ph : Side → Phase) : Delivery → Side → Phase
  | .atAcceptor i _ => Function.update ph i ((ph i).atAcceptor (ph i.other))
  | .atDialler i _ => Function.update ph i ((ph i).atDialler (ph i.other))

/-- What an event at the accepting end of `i` leads to, when it only sends on that connection: the
    frames it sends are all there is in the queue back. -/
theorem take_atAcceptor {X : Side → Party C} {s : Cross C} {i : Side} {e : Mesh.Event C}
    {m : Mesh C} {out : List (Action C)}
    (hstep : Mesh.step (X i.other).host (s.mesh i.other) e = .ok (m, out))
    (hother : framesOn (X i.other).dialled out = []) (hqueue : s.toDialler i = []) :
    take X { s with toAcceptor := Function.update s.toAcceptor i [] } i.other e =
      .ok ({ mesh := Function.update s.mesh i.other m
             toAcceptor := Function.update s.toAcceptor i []
             toDialler := Function.update s.toDialler i (framesOn (X i.other).accepted out) },
        []) := by
  unfold take
  simp only [hstep, hother, List.append_nil, Side.other_other, hqueue, List.nil_append,
    Function.update_eq_self]

/-- The same at the dialling end. -/
theorem take_atDialler {X : Side → Party C} {s : Cross C} {i : Side} {e : Mesh.Event C}
    {m : Mesh C} {out : List (Action C)}
    (hstep : Mesh.step (X i).host (s.mesh i) e = .ok (m, out))
    (hother : framesOn (X i).accepted out = []) (hqueue : s.toAcceptor i = []) :
    take X { s with toDialler := Function.update s.toDialler i [] } i e =
      .ok ({ mesh := Function.update s.mesh i m
             toAcceptor := Function.update s.toAcceptor i (framesOn (X i).dialled out)
             toDialler := Function.update s.toDialler i [] }, []) := by
  unfold take
  simp only [hstep, hother, List.append_nil, hqueue, List.nil_append, Function.update_eq_self]

/-- A node has an open connection to the other exactly when one of its two ends is ready.  This is
    where the check of the name in `expect_ident` becomes one of the phases. -/
theorem Rel.hasConnection {X : Side → Party C} {s : Cross C} {ph : Side → Phase}
    (h : Rel X s ph) (j : Side) :
    (X j).host.lib.hasConnection (s.mesh j).router (X j.other).host.jid = true ↔
      (ph j).dialler = .ready ∨ (ph j.other).acceptor = .ready := by
  -- an open end that bears the peer's name is a ready one
  have hready : ∀ {c incoming st}, EndIs (s.mesh j) c incoming (X j.other).host.jid st →
      c ∈ (s.mesh j).router.connections →
      ((s.mesh j).router.conn c).name = some (X j.other).host.jid → st = .ready := by
    intro c incoming st hend hopen hname
    cases st with
    | awaiting =>
      rw [hend.2.2.2] at hname
      cases hname
    | ready => rfl
    | closed => exact absurd hopen hend
  rw [Libf2f.hasConnection_iff]
  constructor
  · rintro ⟨c, hopen, hname⟩
    -- one of the two connections, or a stranger's, which has another name
    by_cases hd : c = (X j).dialled
    · subst hd
      exact Or.inl (hready (h.dialler j) hopen hname)
    · by_cases ha : c = (X j).accepted
      · subst ha
        exact Or.inr (hready (h.acceptor j) hopen hname)
      · exact absurd hname (h.strangers j c hopen hd ha)
  · rintro (hd | ha)
    · have hend := h.dialler j
      rw [hd] at hend
      exact ⟨_, hend.1, hend.2.2⟩
    · have hend := h.acceptor j
      rw [ha] at hend
      exact ⟨_, hend.1, hend.2.2⟩

omit [DecidableEq C] in
/-- The fields of an IDENT read back, once its text has been read as an object. -/
theorem ident_fields {js : JsonSpirit} {o : Object} {body : String} (guid : String)
    (hread : js.read body = some (.obj o)) :
    identName js (identMessage body guid) = strField (objToMap o) "name" ∧
      identCookie js (identMessage body guid) = strField (objToMap o) "cookie" := by
  have hmap : identMap js (identMessage body guid) = some (objToMap o) := by
    simp only [identMap, identMessage, hread]
  exact ⟨by rw [identName, hmap]; rfl, by rw [identCookie, hmap]; rfl⟩

/-- The first IDENT arrives.  Its cookie is one of the acceptor's, so it is refused only if the
    connection dialled from there is ready. -/
theorem rel_firstIdent {X : Side → Party C} {m₀ : Side → Mesh C} (hX : Honest X m₀) {s : Cross C}
    {ph : Side → Phase} (h : Rel X s ph) (i : Side) (hph : ph i = .dialled) (uuid : String) :
    ∃ s', step X s (.atAcceptor i uuid) = .ok (s', []) ∧
      Rel X s' (next ph (.atAcceptor i uuid)) := by
  have hqueue := h.toAcceptor i
  have hback := h.toDialler i
  have hend := h.acceptor i.other
  rw [Side.other_other, hph] at hend
  rw [hph] at hqueue hback
  obtain ⟨guid, hqueue⟩ := hqueue
  obtain ⟨hopen, hcbs, -, -⟩ := hend
  obtain ⟨hname, hcookie⟩ := ident_fields guid
    (hX.codec i (firstIdent X i) (List.mem_cons_self ..))
  have hhas := h.hasConnection i.other
  rw [Side.other_other, hph] at hhas
  rw [step, hqueue]
  simp only [next, hph, Phase.atAcceptor, Frame.event]
  by_cases hq : (ph i.other).dialler = .ready
  · -- the other connection is ready here already: refuse
    have hno : ∀ name, ¬ Mesh.Passes (X i.other).host (s.mesh i.other)
        (identMessage ((X i).host.js.write (firstIdent X i)) guid) true name := by
      intro name hp
      obtain rfl : (X i).host.jid = name := Option.some.inj (hname.symm.trans hp.named)
      have hfree := hp.free
      rw [hhas.mpr (Or.inl hq)] at hfree
      cases hfree
    have hstep := Mesh.step_refuses uuid hopen hcbs hno
    rw [if_pos hq]
    refine ⟨_, take_atAcceptor hstep ?_ hback, ?_⟩
    · simp [framesOn, (hX.handles i.other).symm]
    · refine h.moveAcceptor hX.handles i (onlyAt_fin _ _) ?_ ?_ rfl ?_
      · simp [EndIs, Phase.acceptor]
      · rw [hph]
        rfl
      · simp [framesOn, Holds, Phase.toDialler]
  · have hfree : (X i.other).host.lib.hasConnection (s.mesh i.other).router
        (X i).host.jid = false := by
      rw [Bool.eq_false_iff]
      intro hc
      rcases hhas.mp hc with hc | hc
      · exact hq hc
      · cases hc
    have hp : Mesh.Passes (X i.other).host (s.mesh i.other)
        (identMessage ((X i).host.js.write (firstIdent X i)) guid) true (X i).host.jid :=
      ⟨hname, hfree, fun _ => ⟨(X i).cookie, hcookie, (hX.cookies i).1, by
        rw [h.cookies i]
        simp⟩⟩
    have hstep := Mesh.step_passes uuid hopen hcbs hp
    rw [if_neg hq]
    refine ⟨_, take_atAcceptor hstep ?_ hback, ?_⟩
    · simp [Mesh.identReply, framesOn, (hX.handles i.other).symm]
    · refine h.moveAcceptor hX.handles i (onlyAt_modify _ _ _) ?_ ?_ rfl ?_
      · refine ⟨hopen, ?_, ?_⟩ <;> rw [Router.modify_conn_self] <;> rfl
      · rw [hph]
        rfl
      · simp [Mesh.identReply, framesOn, Holds, Phase.toDialler, replyIdent]

/-- The reply arrives.  No cookie is looked for in it; it is dropped if the connection accepted
    there is ready. -/
theorem rel_reply {X : Side → Party C} {m₀ : Side → Mesh C} (hX : Honest X m₀) {s : Cross C}
    {ph : Side → Phase} (h : Rel X s ph) (i : Side) (hph : ph i = .replied) (uuid : String) :
    ∃ s', step X s (.atDialler i uuid) = .ok (s', []) ∧
      Rel X s' (next ph (.atDialler i uuid)) := by
  have hqueue := h.toDialler i
  have hforth := h.toAcceptor i
  have hend := h.dialler i
  rw [hph] at hqueue hforth hend
  obtain ⟨guid, hqueue⟩ := hqueue
  obtain ⟨hopen, hcbs, -, -⟩ := hend
  have hcodec := hX.codec i.other (replyIdent X i.other)
    (List.mem_cons_of_mem _ (List.mem_cons_self ..))
  rw [Side.other_other] at hcodec
  obtain ⟨hname, -⟩ := ident_fields guid hcodec
  have hhas := h.hasConnection i
  rw [hph] at hhas
  rw [step, hqueue]
  simp only [next, hph, Phase.atDialler, Frame.event]
  by_cases hq : (ph i.other).acceptor = .ready
  · -- the connection accepted from the other node is open: drop this one
    have hno : ∀ name, ¬ Mesh.Passes (X i).host (s.mesh i)
        (identMessage ((X i.other).host.js.write (replyIdent X i.other)) guid) false name := by
      intro name hp
      obtain rfl : (X i.other).host.jid = name := Option.some.inj (hname.symm.trans hp.named)
      have hfree := hp.free
      rw [hhas.mpr (Or.inr hq)] at hfree
      cases hfree
    have hstep := Mesh.step_refuses uuid hopen hcbs hno
    rw [if_pos hq]
    refine ⟨_, take_atDialler hstep ?_ hforth, ?_⟩
    · simp [framesOn, hX.handles i]
    · refine h.moveDialler hX.handles i (onlyAt_fin _ _) ?_ ?_ rfl ?_
      · simp [EndIs, Phase.dialler]
      · rw [hph]
        rfl
      · simp [framesOn, Holds, Phase.toAcceptor]
  · have hfree : (X i).host.lib.hasConnection (s.mesh i).router (X i.other).host.jid = false := by
      rw [Bool.eq_false_iff]
      intro hc
      rcases hhas.mp hc with hc | hc
      · cases hc
      · exact hq hc
    have hp : Mesh.Passes (X i).host (s.mesh i)
        (identMessage ((X i.other).host.js.write (replyIdent X i.other)) guid) false
        (X i.other).host.jid := ⟨hname, hfree, fun hi => by cases hi⟩
    have hstep := Mesh.step_passes uuid hopen hcbs hp
    rw [if_neg hq]
    refine ⟨_, take_atDialler hstep rfl hforth, ?_⟩
    refine h.moveDialler hX.handles i (onlyAt_modify _ _ _) ?_ ?_ rfl rfl
    · refine ⟨hopen, ?_, ?_⟩ <;> rw [Router.modify_conn_self] <;> rfl
    · rw [hph]
      rfl

/-- **The simulation**: every delivery succeeds, and moves the phases as it should.  Where a queue
    is empty the phase does not move either. -/
theorem rel_step {X : Side → Party C} {m₀ : Side → Mesh C} (hX : Honest X m₀) {s : Cross C}
    {ph : Side → Phase} (h : Rel X s ph) (e : Delivery) :
    ∃ s', step X s e = .ok (s', []) ∧ Rel X s' (next ph e) := by
  cases e with
  | atAcceptor i uuid =>
    -- nothing is on its way in this phase
    have hnothing : (ph i).toAcceptor = .nothing → (ph i).atAcceptor (ph i.other) = ph i →
        ∃ s', step X s (.atAcceptor i uuid) = .ok (s', []) ∧
          Rel X s' (next ph (.atAcceptor i uuid)) := by
      intro hq hp
      have hempty := h.toAcceptor i
      rw [hq] at hempty
      refine ⟨s, by rw [step, show s.toAcceptor i = [] from hempty], ?_⟩
      rw [next, hp, Function.update_eq_self]
      exact h
    cases hph : ph i with
    | dialled => exact rel_firstIdent hX h i hph uuid
    | dropped =>
      have hqueue := h.toAcceptor i
      have hback := h.toDialler i
      rw [hph] at hqueue hback
      rw [step, show s.toAcceptor i = [.close] from hqueue]
      simp only [next, hph, Phase.atAcceptor, Frame.event]
      have hstep : Mesh.step (X i.other).host (s.mesh i.other) (.closed (X i.other).accepted) =
          .ok ({ s.mesh i.other with
            router := (s.mesh i.other).router.fin (X i.other).accepted }, []) := rfl
      refine ⟨_, take_atAcceptor hstep rfl hback, ?_⟩
      refine h.moveAcceptor hX.handles i (onlyAt_fin _ _) ?_ ?_ rfl rfl
      · simp [EndIs, Phase.acceptor]
      · rw [hph]
        rfl
    | replied => exact hnothing (by rw [hph]; rfl) (by rw [hph]; rfl)
    | up => exact hnothing (by rw [hph]; rfl) (by rw [hph]; rfl)
    | refused => exact hnothing (by rw [hph]; rfl) (by rw [hph]; rfl)
    | dead => exact hnothing (by rw [hph]; rfl) (by rw [hph]; rfl)
  | atDialler i uuid =>
    -- nor here the other way
    have hnothing : (ph i).toDialler = .nothing → (ph i).atDialler (ph i.other) = ph i →
        ∃ s', step X s (.atDialler i uuid) = .ok (s', []) ∧
          Rel X s' (next ph (.atDialler i uuid)) := by
      intro hq hp
      have hempty := h.toDialler i
      rw [hq] at hempty
      refine ⟨s, by rw [step, show s.toDialler i = [] from hempty], ?_⟩
      rw [next, hp, Function.update_eq_self]
      exact h
    cases hph : ph i with
    | replied => exact rel_reply hX h i hph uuid
    | refused =>
      have hqueue := h.toDialler i
      have hforth := h.toAcceptor i
      rw [hph] at hqueue hforth
      rw [step, show s.toDialler i = [.close] from hqueue]
      simp only [next, hph, Phase.atDialler, Frame.event]
      have hstep : Mesh.step (X i).host (s.mesh i) (.closed (X i).dialled) =
          .ok ({ s.mesh i with router := (s.mesh i).router.fin (X i).dialled }, []) := rfl
      refine ⟨_, take_atDialler hstep rfl hforth, ?_⟩
      refine h.moveDialler hX.handles i (onlyAt_fin _ _) ?_ ?_ rfl rfl
      · simp [EndIs, Phase.dialler]
      · rw [hph]
        rfl
    | dialled => exact hnothing (by rw [hph]; rfl) (by rw [hph]; rfl)
    | up => exact hnothing (by rw [hph]; rfl) (by rw [hph]; rfl)
    | dropped => exact hnothing (by rw [hph]; rfl) (by rw [hph]; rfl)
    | dead => exact hnothing (by rw [hph]; rfl) (by rw [hph]; rfl)

/-! ## Whole runs -/

/-- At the start both connections are just dialled, at both ends, and the simulation begins. -/
theorem rel_start {X : Side → Party C} {m : Side → Mesh C} (hX : Honest X m) (uuid : String) :
    Rel X (start X m uuid) fun _ => .dialled := by
  refine ⟨fun i => ?_, fun i => ?_, fun i => ?_, fun i => rfl, fun i => ?_, fun i c hc hd ha => ?_⟩
  · refine ⟨?_, ?_, ?_, ?_⟩ <;>
      simp [start, Mesh.newIncomingConnection, Mesh.newOutgoingConnection, Router.add_modify,
        Connection.pushMessageReceivedCb]
  · have hne : (X i).accepted ≠ (X i).dialled := (hX.handles i).symm
    refine ⟨?_, ?_, ?_, ?_⟩ <;>
      simp [start, Mesh.newIncomingConnection, Mesh.newOutgoingConnection, Router.add_modify,
        Router.add_conn_ne _ _ hne, Connection.pushMessageReceivedCb]
  · refine ⟨uuid, ?_⟩
    have hget : (dialOf X i).get "cookie" = (X i).cookie := rfl
    simp [start, Mesh.newIncomingConnection, Mesh.newOutgoingConnection, Router.add_modify,
      Mesh.sendIdent, Mesh.identObject, Connection.get, Connection.pushMessageReceivedCb, hget,
      (hX.cookies i).1, framesOn, firstIdent]
  · exact (hX.cookies i).2
  · simp only [start, Mesh.newIncomingConnection, Mesh.newOutgoingConnection,
      Router.add_modify] at hc ⊢
    rw [Router.add_conn_ne _ _ hd, Router.add_conn_ne _ _ ha]
    rw [Router.mem_add, Router.mem_add] at hc
    exact hX.strangers i c ((hc.resolve_left hd).resolve_left ha)

omit [DecidableEq C] in
/-- A crossing delivery, seen in the phases: a reply arrives while the other connection is
    dropped. -/
theorem crosses_iff {X : Side → Party C} {s : Cross C} {ph : Side → Phase} (h : Rel X s ph)
    (e : Delivery) :
    Crosses X s e ↔
      ∃ i uuid, e = .atDialler i uuid ∧ ph i = .replied ∧ ph i.other = .dropped := by
  constructor
  · rintro ⟨i, uuid, msgp, rest, rfl, hqueue, hopen, hclosed⟩
    refine ⟨i, uuid, rfl, ?_, ?_⟩
    · -- of all phases, only `replied` has a message on the way to the dialler
      have hholds := h.toDialler i
      rw [hqueue] at hholds
      cases hph : ph i <;> rw [hph] at hholds <;> simp [Phase.toDialler, Holds] at hholds
    · have hacc := h.acceptor i
      have hdial := h.dialler i.other
      cases hph : ph i.other <;> rw [hph] at hacc hdial
      case dead => exact absurd hopen hacc
      all_goals exact absurd hdial.1 hclosed
  · rintro ⟨i, uuid, rfl, hi, hj⟩
    have hqueue := h.toDialler i
    have hacc := h.acceptor i
    have hdial := h.dialler i.other
    rw [hi] at hqueue
    rw [hj] at hacc hdial
    obtain ⟨guid, hqueue⟩ := hqueue
    exact ⟨i, uuid, _, _, rfl, hqueue, hacc.1, hdial⟩

/-- After a run the pair of phases is hopeful, or two drops have crossed and it is lost.  The
    induction is on the run, and each step is the game's. -/
theorem rel_run {X : Side → Party C} {m : Side → Mesh C} (hX : Honest X m) {uuid : String}
    {hist : List (Runs.Step (Cross C) Delivery Frame)} {s : Cross C}
    (hr : Runs.Run (step X) (fun s₀ => s₀ = start X m uuid) hist s) :
    ∃ ph, Rel X s ph ∧
      (((∀ st ∈ hist, ¬ Crosses X st.pre st.event) ∧
          ∀ i : Side, Phase.hopeful (ph i) (ph i.other) = true) ∨
        ((∃ st ∈ hist, Crosses X st.pre st.event) ∧
          ∀ i : Side, Phase.lost (ph i) (ph i.other) = true)) := by
  refine Runs.Run.invariant (I := fun hist s => ∃ ph, Rel X s ph ∧
      (((∀ st ∈ hist, ¬ Crosses X st.pre st.event) ∧
          ∀ i : Side, Phase.hopeful (ph i) (ph i.other) = true) ∨
        ((∃ st ∈ hist, Crosses X st.pre st.event) ∧
          ∀ i : Side, Phase.lost (ph i) (ph i.other) = true))) ?_ ?_ hr
  · rintro s rfl
    exact ⟨_, rel_start hX uuid, Or.inl ⟨fun st hst => (by cases hst), fun i => rfl⟩⟩
  · rintro hist s e s' out - ⟨ph, hrel, hph⟩ hok
    obtain ⟨s₁, hstep, hrel'⟩ := rel_step hX hrel e
    rw [hok] at hstep
    obtain ⟨rfl, -⟩ := Prod.mk.inj (Except.ok.inj hstep)
    refine ⟨next ph e, hrel', ?_⟩
    -- what holds of the pair at one side holds at both, the tables being symmetric
    have hboth : ∀ (T : Phase → Phase → Bool) (i : Side) (p : Phase),
        (∀ p q, T p q = T q p) → T p (ph i.other) = true →
        ∀ k : Side, T (Function.update ph i p k) (Function.update ph i p k.other) = true := by
      intro T i p hsymm hT k
      rcases Side.eq_or_eq_other i k with rfl | rfl
      · simpa using hT
      · rw [hsymm]
        simpa using hT
    rcases hph with ⟨hno, hhope⟩ | ⟨⟨st, hst, hcross⟩, hlost⟩
    · cases e with
      | atAcceptor i u =>
        refine Or.inl ⟨fun st hst => ?_, ?_⟩
        · rcases List.mem_append.mp hst with hst | hst
          · exact hno st hst
          · obtain rfl := List.mem_singleton.mp hst
            rw [crosses_iff hrel]
            rintro ⟨k, u', he, -⟩
            cases he
        · exact hboth _ i _ Phase.hopeful_symm (Phase.hopeful_atAcceptor (hhope i))
      | atDialler i u =>
        by_cases hcross : ph i = .replied ∧ ph i.other = .dropped
        · refine Or.inr ⟨⟨_, List.mem_append_right _ (List.mem_singleton.mpr rfl),
            (crosses_iff hrel _).mpr ⟨i, u, rfl, hcross⟩⟩, ?_⟩
          refine hboth _ i _ Phase.lost_symm ?_
          rw [hcross.1, hcross.2]
          exact Phase.lost_crossing
        · refine Or.inl ⟨fun st hst => ?_, ?_⟩
          · rcases List.mem_append.mp hst with hst | hst
            · exact hno st hst
            · obtain rfl := List.mem_singleton.mp hst
              rw [crosses_iff hrel]
              rintro ⟨k, u', he, hk⟩
              cases he
              exact hcross hk
          · exact hboth _ i _ Phase.hopeful_symm (Phase.hopeful_atDialler (hhope i) hcross)
    · refine Or.inr ⟨⟨st, List.mem_append_left _ hst, hcross⟩, ?_⟩
      cases e with
      | atAcceptor i u => exact hboth _ i _ Phase.lost_symm (Phase.lost_atAcceptor (hlost i))
      | atDialler i u => exact hboth _ i _ Phase.lost_symm (Phase.lost_atDialler (hlost i))

omit [DecidableEq C] in
/-- With nothing on the way, a connection is up in its phase exactly when it is connected.  With
    something on the way it may be up here and closed already over there. -/
theorem connected_iff {X : Side → Party C} {s : Cross C} {ph : Side → Phase} (h : Rel X s ph)
    (hidle : Idle s) : Connected X s ↔ ∃ i : Side, ph i = .up := by
  constructor
  · rintro ⟨i, ⟨hd, hdr⟩, ⟨ha, har⟩⟩
    refine ⟨i, ?_⟩
    have hdial := h.dialler i
    have hacc := h.acceptor i.other
    have hqueue := h.toDialler i
    rw [Side.other_other] at hacc
    rw [(hidle i).2] at hqueue
    -- every phase but `up` has an end that is closed or waits, or a queue that is not empty
    cases hph : ph i <;> rw [hph] at hdial hacc hqueue
    case dialled =>
      rw [hdial.2.2.1] at hdr
      cases hdr
    case replied =>
      obtain ⟨guid, hq⟩ := hqueue
      cases hq
    case refused => exact absurd ha hacc
    case dropped => exact absurd hd hdial
    case dead => exact absurd hd hdial
  · rintro ⟨i, hup⟩
    have hdial := h.dialler i
    have hacc := h.acceptor i.other
    rw [Side.other_other] at hacc
    rw [hup] at hdial hacc
    exact ⟨i, ⟨hdial.1, hdial.2.1⟩, ⟨hacc.1, hacc.2.1⟩⟩

omit [DecidableEq C] in
/-- An idle pair of nodes has phases with nothing on the way, for a phase says what its queues
    hold. -/
theorem Rel.nothing {X : Side → Party C} {s : Cross C} {ph : Side → Phase} (h : Rel X s ph)
    (hidle : Idle s) (i : Side) :
    (ph i).toAcceptor = .nothing ∧ (ph i).toDialler = .nothing := by
  have hempty : ∀ {t : Transit} {payload : String}, Holds [] payload t → t = .nothing := by
    intro t payload hh
    cases t with
    | nothing => rfl
    | ident =>
      obtain ⟨guid, hq⟩ := hh
      cases hq
    | close => cases hh
  have hforth := h.toAcceptor i
  have hback := h.toDialler i
  rw [(hidle i).1] at hforth
  rw [(hidle i).2] at hback
  exact ⟨hempty hforth, hempty hback⟩

/-- **When everything is delivered the two nodes are connected, exactly when no two drops have
    crossed.** -/
theorem crossDial_iff (X : Side → Party C) (m : Side → Mesh C) (hX : Honest X m) (uuid : String)
    (hist : List (Runs.Step (Cross C) Delivery Frame)) (s : Cross C)
    (hr : Runs.Run (step X) (fun s₀ => s₀ = start X m uuid) hist s) (hidle : Idle s) :
    Connected X s ↔ ∀ st ∈ hist, ¬ Crosses X st.pre st.event := by
  obtain ⟨ph, hrel, hph⟩ := rel_run hX hr
  rw [connected_iff hrel hidle]
  rcases hph with ⟨hno, hhope⟩ | ⟨⟨st, hst, hcross⟩, hlost⟩
  · refine ⟨fun _ => hno, fun _ => ?_⟩
    rcases Phase.up_of_hopeful (hhope .a) (hrel.nothing hidle .a) (hrel.nothing hidle .b) with
      hup | hup
    · exact ⟨.a, hup⟩
    · exact ⟨.b, hup⟩
  · constructor
    · rintro ⟨i, hup⟩
      exact absurd hup (Phase.not_up_of_lost (hlost i)).1
    · intro hno
      exact absurd hcross (hno st hst)

/-- A codec for the IDENTs of two nodes: the first one of each, and its reply. -/
def twoNodeJson : JsonSpirit := .ofTexts [
  ("\x7b\"name\":\"alice\",\"cookie\":\"ka\"\x7d",
    .obj [("name", .str "alice"), ("cookie", .str "ka")]),
  ("\x7b\"name\":\"bob\",\"cookie\":\"kb\"\x7d",
    .obj [("name", .str "bob"), ("cookie", .str "kb")]),
  ("\x7b\"name\":\"alice\"\x7d", .obj [("name", .str "alice")]),
  ("\x7b\"name\":\"bob\"\x7d", .obj [("name", .str "bob")])]

/-- Alice and Bob; each calls the connection it dials 0 and the other one 1.  So one number means
    two different connections, which is what handles are like. -/
def aliceAndBob : Side → Party Nat
  | .a => ⟨⟨twoNodeJson, .table, .plain, fun _ => some 0, "alice", "1.1.1.1", 1⟩, 0, 1, "ka"⟩
  | .b => ⟨⟨twoNodeJson, .table, .plain, fun _ => some 0, "bob", "2.2.2.2", 2⟩, 0, 1, "kb"⟩

/-- Each has issued a cookie to the other, and nothing else has happened yet. -/
def advertised : Side → Mesh Nat
  | .a => { (Mesh.empty : Mesh Nat) with
      peerCookies := fun k => if k = "kb" then some "bob" else none }
  | .b => { (Mesh.empty : Mesh Nat) with
      peerCookies := fun k => if k = "ka" then some "alice" else none }

/-- They are two honest nodes. -/
theorem honest_aliceAndBob : Honest aliceAndBob advertised := by
  refine ⟨fun i => by cases i <;> decide, by decide, fun i c hc => ?_, fun i => ?_,
    fun i v hv => ?_⟩
  · cases i <;> cases hc
  · cases i <;> exact ⟨by decide, rfl⟩
  · simp only [List.mem_cons, List.not_mem_nil, or_false] at hv
    cases i <;> rcases hv with rfl | rfl <;> rfl

/-- Alice's dial is done before Bob's IDENT arrives, so hers is the one that stays ... -/
def oneAfterTheOther : List Delivery :=
  [.atAcceptor .a "1", .atDialler .a "2", .atAcceptor .b "3", .atDialler .b "4"]

/-- ... and they stay connected: his is refused at her end, by its name. -/
theorem connected_oneAfterTheOther :
    Connected aliceAndBob (Runs.after (step aliceAndBob) (start aliceAndBob advertised "0")
      oneAfterTheOther) := by
  refine (crossDial_iff aliceAndBob advertised honest_aliceAndBob "0" _ _
    (Runs.run_trace oneAfterTheOther rfl) ?_).mpr ?_
  · intro i
    cases i <;> exact ⟨rfl, rfl⟩
  · have hfour : Runs.trace (step aliceAndBob) (start aliceAndBob advertised "0")
        oneAfterTheOther = [⟨_, .atAcceptor .a "1", _, _⟩, ⟨_, .atDialler .a "2", _, _⟩,
          ⟨_, .atAcceptor .b "3", _, _⟩, ⟨_, .atDialler .b "4", _, _⟩] := rfl
    rw [hfour]
    simp only [List.mem_cons, List.not_mem_nil, or_false]
    rintro st (rfl | rfl | rfl | rfl) ⟨i, uuid, msgp, rest, he, hqueue, -, hclosed⟩
    · cases he
    · cases he
      exact absurd hclosed (not_not_intro (by decide))
    · cases he
    · cases he
      cases hqueue

/-- Both IDENTs arrive, then both replies, then both closes.  Nothing is unusual about the order; it
    is what happens when both dial at the same moment. -/
def crossing : List Delivery :=
  [.atAcceptor .a "1", .atAcceptor .b "2", .atDialler .a "3", .atDialler .b "4",
    .atAcceptor .a "5", .atAcceptor .b "6"]

/-- **Each drops the connection the other one keeps**, and none is left.  Each has accepted the
    other's dial when the reply to its own comes in, and so takes that one for a second
    connection. -/
theorem crossing_disconnects :
    Honest aliceAndBob advertised ∧
    ∃ s, Runs.Run (step aliceAndBob) (fun s₀ => s₀ = start aliceAndBob advertised "0")
        (Runs.trace (step aliceAndBob) (start aliceAndBob advertised "0") crossing) s ∧
      Idle s ∧ ¬ Connected aliceAndBob s := by
  refine ⟨honest_aliceAndBob, _, Runs.run_trace _ rfl, fun i => ?_, ?_⟩
  · cases i <;> exact ⟨rfl, rfl⟩
  · rintro ⟨i, ⟨hopen, -⟩, -⟩
    cases i <;> exact absurd hopen (by decide)

end Cross

end Greynet
