/-
  The handshake of two nodes, one of which dials the other.

  The dialler `a` has the advert of the acceptor `b`, with a cookie `b` issued to it.  There is
  one connection between them, in order in each direction, and meanwhile both nodes go on with
  everything else.  Either may broadcast at any time, from another thread, so also between two
  statements of its own `expect_ident`.  What keeps a broadcast from overtaking the IDENT is the
  order of the last statements there: the IDENT is sent, the callback goes, and only then is the
  connection ready.

  1. `Task` — those statements one by one; `expectIdent_eq` — they are what `expect_ident` does
     with an IDENT that passes.
  2. `Pair` — the two nodes and the two queues.  A delivery is one event, with the broadcasts of
     the node it arrives at between its statements; `hear_eq` ties it to `Mesh.step`.
  3. `Stage` — the abstract view: how far the two ends are, and where each event takes them.
  4. `Rel` — the simulation between the two views; `rel_step` is its one step.
  5. `handshake_agreement` — in every run.
-/
import Greynet.Adverts
import Greynet.CrossDial
import Greynet.Identity

namespace Greynet

namespace Handshake

/-! ## The last statements of `expect_ident`

  Of an IDENT that passes, the source sends the reply, pops the callback, sets the connection ready
  and names it, in this order and with no lock around them.  In `Greynet.Mesh` all of that is one
  step, and here the steps are taken apart to put the broadcasts of other threads between them. -/

/-- What `expect_ident` does once an IDENT has passed, statement by statement: lines 378 to 389 of
    `greynet.cpp`. -/
inductive Task where
  /-- `conn->set("cookie", "")` -/
  | forgetCookie
  | sendIdent (uuid : String)
  | popMessageReceivedCb
  /-- `conn->set_ready(true)` -/
  | setReady
  | setName (name : String)
  deriving DecidableEq, Repr

/-- The order they come in; the first two are for an incoming connection only.  The IDENT is sent
    before the connection is ready, which is what the whole argument rests on. -/
def identTasks (incoming : Bool) (name uuid : String) : List Task :=
  (if incoming then [.forgetCookie, .sendIdent uuid] else []) ++
    [.popMessageReceivedCb, .setReady, .setName name]

/-- What a task does to the connection object.  Sending changes nothing on it. -/
def Task.on : Task → Connection → Connection
  | .forgetCookie, x => x.set "cookie" ""
  | .sendIdent _, x => x
  | .popMessageReceivedCb, x => x.popMessageReceivedCb
  | .setReady, x => x.setReady true
  | .setName name, x => x.setName name

variable {C : Type} [DecidableEq C]

/-- A message another thread sends to every ready connection but one: a query, or a stop.  The
    threads are those of playdar, which call `start_resolving` when they like. -/
structure Cast (C : Type) where
  msg : Message
  except : Option C

/-- The broadcasts `cs`, in the state `m`, one after the other; each looks at who is ready at that
    moment. -/
def casts (h : Host C) (m : Mesh C) (cs : List (Cast C)) : List (Action C) :=
  cs.flatMap fun c => h.lib.broadcastExcept m.router c.msg c.except

/-- What a task sends; only one of them sends anything. -/
def Task.sends (h : Host C) (m : Mesh C) (conn : C) : Task → List (Action C)
  | .sendIdent uuid => m.sendIdent h conn uuid
  | _ => []

/-- The tasks one by one, each with the broadcasts that fall after it.  So a broadcast may see the
    connection between any two statements, with some of them done and some not. -/
def runTasks (h : Host C) (conn : C) :
    Mesh C → List Task → List (List (Cast C)) → Mesh C × List (Action C)
  | m, [], _ => (m, [])
  | m, t :: ts, during =>
    let m' : Mesh C := { m with router := m.router.modify conn t.on }
    let r := runTasks h conn m' ts during.tail
    (r.1, t.sends h m conn ++ (casts h m' (during.headD []) ++ r.2))

/-- The checks of `expect_ident`; with the name of an IDENT that passes them.  As a function it can
    be run, which `Mesh.Passes` cannot. -/
def identAccepted (h : Host C) (m : Mesh C) (msgp : Message) (incoming : Bool) : Option String :=
  match identName h.js msgp with
  | none => none
  | some name =>
    if h.lib.hasConnection m.router name then none
    else if incoming then
      match identCookie h.js msgp with
      | none => none
      | some cookie => if cookie = "" ∨ m.peerCookies cookie = none then none else some name
    else some name

omit [DecidableEq C] in
/-- They are those of `Mesh.Passes`, so what is known of those is known of these. -/
theorem identAccepted_iff {h : Host C} {m : Mesh C} {msgp : Message} {incoming : Bool}
    {name : String} :
    identAccepted h m msgp incoming = some name ↔ Mesh.Passes h m msgp incoming name := by
  constructor
  · intro hacc
    unfold identAccepted at hacc
    cases hname : identName h.js msgp with
    | none => simp [hname] at hacc
    | some n =>
      by_cases hfree : h.lib.hasConnection m.router n = true
      · simp [hname, hfree] at hacc
      · cases incoming with
        | false =>
          obtain rfl : n = name := by simpa [hname, hfree] using hacc
          exact ⟨hname, by simpa using hfree, fun hi => by cases hi⟩
        | true =>
          cases hcookie : identCookie h.js msgp with
          | none => simp [hname, hfree, hcookie] at hacc
          | some k =>
            by_cases hbad : k = "" ∨ m.peerCookies k = none
            · simp [hname, hfree, hcookie, hbad] at hacc
            · obtain rfl : n = name := by simpa [hname, hfree, hcookie, hbad] using hacc
              rw [not_or] at hbad
              exact ⟨hname, by simpa using hfree, fun _ => ⟨k, hcookie, hbad⟩⟩
  · rintro ⟨hname, hfree, hcookie⟩
    cases incoming with
    | false => simp [identAccepted, hname, hfree]
    | true =>
      obtain ⟨k, hk, hne, hin⟩ := hcookie rfl
      simp [identAccepted, hname, hfree, hk, hne, hin]

/-- The tasks leave the connection as all of them together make it: broadcasts change nothing on
    it. -/
theorem runTasks_fst (h : Host C) (conn : C) (ts : List Task) :
    ∀ (m : Mesh C) (during : List (List (Cast C))), (runTasks h conn m ts during).1 =
      { m with router := m.router.modify conn fun x => ts.foldl (fun x t => t.on x) x } := by
  induction ts with
  | nil =>
    intro m during
    simp [runTasks, Router.modify]
  | cons t ts ih =>
    intro m during
    rw [runTasks]
    simp only [ih]
    simp [Router.modify, Function.update_idem]

/-- All of them together identify it, whichever end this is.  Statement by statement or in one go
    makes no difference to the object. -/
theorem foldl_identTasks (incoming : Bool) (name uuid : String) (x : Connection) :
    (identTasks incoming name uuid).foldl (fun x t => t.on x) x =
      Mesh.identified incoming name x := by
  cases incoming <;> rfl

/-- Without its cookie a connection gives an IDENT that only names us.  The cookie is ours to check
    and not to show. -/
theorem sendIdent_forgotten (h : Host C) (m : Mesh C) (conn : C) (uuid : String) :
    Mesh.sendIdent h { m with router := m.router.modify conn Task.forgetCookie.on } conn uuid =
      [.asyncWrite conn (identMessage (h.js.write (.obj [("name", .str h.jid)])) uuid)] := by
  simp [Mesh.sendIdent, Mesh.identObject, Task.on, Connection.get, Connection.set]

/-- **`expect_ident`, statement by statement.**  Without broadcasts in between it is the handler of
    `Greynet.Mesh`; so what is proved here with them is about the same code. -/
theorem expectIdent_eq (h : Host C) (m : Mesh C) (msgp : Message) (conn : C) (incoming : Bool)
    (uuid : String) :
    m.expectIdent h msgp conn incoming uuid =
      match identAccepted h m msgp incoming with
      | none => m.refuse conn
      | some name => runTasks h conn m (identTasks incoming name uuid) [] := by
  rcases Mesh.expectIdent_cases h m msgp conn incoming uuid with ⟨name, hp, heq⟩ | ⟨hno, heq⟩
  · rw [heq, identAccepted_iff.mpr hp]
    refine Prod.ext ?_ ?_
    · rw [runTasks_fst]
      simp only [foldl_identTasks]
    · cases incoming with
      | false => rfl
      | true =>
        show _ = [] ++ ([] ++ (Mesh.sendIdent h _ conn uuid ++ _))
        rw [sendIdent_forgotten]
        rfl
  · have hnone : identAccepted h m msgp incoming = none := by
      cases hacc : identAccepted h m msgp incoming with
      | none => rfl
      | some name => exact absurd (identAccepted_iff.mp hacc) (hno name)
    rw [heq, hnone]

/-! ## The two nodes and their queues

  One queue in each direction, for a TCP connection keeps the order.  Everything else that happens
  at a node, on other connections or over XMPP, is an event of its mesh. -/

/-- The nodes: the host of each, its handle of the connection, the cookie in `b`'s advert.  These do
    not change during the handshake. -/
structure Nodes (C : Type) where
  host : Side → Host C
  conn : Side → C
  cookie : String

/-- `a` dials, so the connection comes in at `b`. -/
def incoming : Side → Bool
  | .a => false
  | .b => true

/-- The two nodes' states, and what is on its way to each.  A queue keeps the order, as TCP does. -/
structure Pair (C : Type) where
  mesh : Side → Mesh C
  inbox : Side → List Frame

/-- What can happen: a delivery, a broadcast at any time, a watchdog, or something elsewhere at a
    node. -/
inductive Event (C : Type) where
  /-- the next frame for `i` arrives: `during` are the broadcasts of `i` between the statements of
      its `expect_ident`, `answers` what its `message_received` sends back -/
  | deliver (i : Side) (uuid : String) (during : List (List (Cast C))) (answers : List Message)
  | broadcast (i : Side) (cast : Cast C)
  /-- the timer set when the connection was made fires -/
  | watchdog (i : Side)
  /-- anything else that reaches the node -/
  | elsewhere (i : Side) (e : Mesh.Event C)

/-- The node `i` takes the next frame.  A close ends the connection; a message goes to
    `expect_ident`, or, past it, to `message_received`, which may answer. -/
def hear (X : Nodes C) (i : Side) (m : Mesh C) (uuid : String) (during : List (List (Cast C)))
    (answers : List Message) : Frame → Mesh C × List (Action C)
  | .close => ({ m with router := m.router.fin (X.conn i) }, [])
  | .msg msgp =>
    if X.conn i ∈ m.router.connections then
      match (m.router.conn (X.conn i)).messageReceivedCbs with
      | incoming :: _ =>
        match identAccepted (X.host i) m msgp incoming with
        | none => m.refuse (X.conn i)
        | some name => runTasks (X.host i) (X.conn i) m (identTasks incoming name uuid) during
      | [] => (m, answers.map (.asyncWrite (X.conn i)))
    else (m, [])

/-- The node `i` is in a new state; what it sends goes behind what is on the way.  What it sends on
    other connections is none of this pair's business. -/
def put (X : Nodes C) (s : Pair C) (i : Side) (r : Mesh C × List (Action C)) : Pair C where
  mesh := Function.update s.mesh i r.1
  inbox := Function.update s.inbox i.other (s.inbox i.other ++ framesOn (X.conn i) r.2)

/-- One event; a delivery from an empty queue does nothing.  A delivery runs `expect_ident` to its
    end, with the broadcasts of that node in between; of the other node nothing happens meanwhile
    that could not happen before or after. -/
def step (X : Nodes C) (s : Pair C) : Event C → Except Fault (Pair C × List Frame)
  | .deliver i uuid during answers =>
    match s.inbox i with
    | [] => .ok (s, [])
    | f :: rest =>
      .ok (put X { s with inbox := Function.update s.inbox i rest } i
        (hear X i (s.mesh i) uuid during answers f), [])
  | .broadcast i cast => .ok (put X s i (s.mesh i, casts (X.host i) (s.mesh i) [cast]), [])
  | .watchdog i => .ok (put X s i ((s.mesh i).newConnectionTimeout (X.conn i)), [])
  | .elsewhere i e =>
    match Mesh.step (X.host i) (s.mesh i) e with
    | .error f => .error f
    | .ok r => .ok (put X s i r, [])

/-- Nothing else happening, a delivery is the mesh's.  So the tasks are no second model of
    `expect_ident`, but the same one cut into pieces. -/
theorem hear_eq (X : Nodes C) (i : Side) (m : Mesh C) (uuid : String) (f : Frame) :
    Mesh.step (X.host i) m (f.event (X.conn i) uuid) = .ok (hear X i m uuid [] [] f) := by
  cases f with
  | close => rfl
  | msg msgp =>
    rw [Frame.event, Mesh.step, hear]
    by_cases hopen : X.conn i ∈ m.router.connections
    · rw [if_pos hopen, if_pos hopen]
      cases hcbs : (m.router.conn (X.conn i)).messageReceivedCbs with
      | nil => rfl
      | cons incoming cbs =>
        simp only
        rw [expectIdent_eq]
    · rw [if_neg hopen, if_neg hopen]

/-! ## What goes out on the connection

  The order of the frames is all that matters here.  As long as the connection is not ready no
  broadcast is among them, so the IDENT comes first. -/

/-- A frame comes from a write on the connection, or from its close.  Nothing else of what a node
    does can be seen at the other end. -/
theorem mem_framesOn {conn : C} {out : List (Action C)} {f : Frame} :
    f ∈ framesOn conn out ↔ (∃ m, f = .msg m ∧ .asyncWrite conn m ∈ out) ∨
      (f = .close ∧ .fin conn ∈ out) := by
  rw [framesOn, List.mem_filterMap]
  constructor
  · rintro ⟨act, hin, hact⟩
    cases act with
    | asyncWrite c m =>
      by_cases hc : c = conn
      · subst hc
        obtain rfl : Frame.msg m = f := by simpa using hact
        exact Or.inl ⟨m, rfl, hin⟩
      · simp [hc] at hact
    | fin c =>
      by_cases hc : c = conn
      · subst hc
        obtain rfl : Frame.close = f := by simpa using hact
        exact Or.inr ⟨rfl, hin⟩
      · simp [hc] at hact
    | _ => cases hact
  · rintro (⟨m, rfl, hin⟩ | ⟨rfl, hin⟩)
    · exact ⟨_, hin, by simp⟩
    · exact ⟨_, hin, by simp⟩

/-- What is done first is sent first, and so arrives first. -/
theorem framesOn_append (conn : C) (o₁ o₂ : List (Action C)) :
    framesOn conn (o₁ ++ o₂) = framesOn conn o₁ ++ framesOn conn o₂ := List.filterMap_append

/-- Broadcasts go out on open ready connections, and close none.  The readiness is looked up when
    the broadcast is made. -/
theorem mem_casts {h : Host C} {m : Mesh C} {cs : List (Cast C)} {act : Action C}
    (hin : act ∈ casts h m cs) :
    ∃ c msg, act = .asyncWrite c msg ∧ (m.router.conn c).ready = true := by
  obtain ⟨cast, -, hact⟩ := List.mem_flatMap.mp hin
  obtain ⟨c, -, hready, -, rfl⟩ := Libf2f.mem_broadcastExcept.mp hact
  exact ⟨c, cast.msg, rfl, hready⟩

/-- So there is no close among them, and the other end is not closed by one. -/
theorem close_casts (h : Host C) (m : Mesh C) (cs : List (Cast C)) (conn : C) :
    Frame.close ∉ framesOn conn (casts h m cs) := by
  intro hin
  rcases mem_framesOn.mp hin with ⟨msg, hf, -⟩ | ⟨-, hfin⟩
  · cases hf
  · obtain ⟨c, msg, hact, -⟩ := mem_casts hfin
    cases hact

/-- **A broadcast does not reach a connection that is not ready.**  This is the whole of what
    protects the handshake: the flag is set last but one, after the IDENT has been sent. -/
theorem framesOn_casts {h : Host C} {m : Mesh C} {conn : C}
    (hready : (m.router.conn conn).ready = false) (cs : List (Cast C)) :
    framesOn conn (casts h m cs) = [] := by
  rw [List.eq_nil_iff_forall_not_mem]
  intro f hin
  rcases mem_framesOn.mp hin with ⟨msg, -, hact⟩ | ⟨-, hact⟩
  · obtain ⟨c, msg', he, hr⟩ := mem_casts hact
    obtain ⟨rfl, -⟩ := Action.asyncWrite.inj he
    rw [hready] at hr
    cases hr
  · obtain ⟨c, msg', he, -⟩ := mem_casts hact
    cases he

/-- No task closes the connection, nor does a broadcast that falls between two of them. -/
theorem close_runTasks (h : Host C) (conn : C) (ts : List Task) :
    ∀ (m : Mesh C) (during : List (List (Cast C))),
      Frame.close ∉ framesOn conn (runTasks h conn m ts during).2 := by
  induction ts with
  | nil =>
    intro m during hin
    cases hin
  | cons t ts ih =>
    intro m during
    rw [runTasks]
    simp only [framesOn_append, List.mem_append, not_or]
    refine ⟨?_, close_casts _ _ _ _, ih _ _⟩
    cases t <;> simp [Task.sends, Mesh.sendIdent, framesOn]

/-- **The IDENT goes out before any broadcast does.**  What follows it may be anything but a
    close. -/
theorem framesOn_identTasks (h : Host C) {m : Mesh C} {conn : C}
    (hready : (m.router.conn conn).ready = false) (incoming : Bool) (name uuid : String)
    (during : List (List (Cast C))) :
    ∃ l, Frame.close ∉ l ∧
      framesOn conn (runTasks h conn m (identTasks incoming name uuid) during).2 =
        framesOn conn (Mesh.identReply h conn incoming uuid) ++ l := by
  cases incoming with
  | false => exact ⟨_, close_runTasks h conn _ m during, rfl⟩
  | true =>
    -- the first task leaves it unready, and the second sends the IDENT
    let m₁ : Mesh C := { m with router := m.router.modify conn Task.forgetCookie.on }
    let m₂ : Mesh C := { m₁ with router := m₁.router.modify conn (Task.sendIdent uuid).on }
    let ts : List Task := [.popMessageReceivedCb, .setReady, .setName name]
    have hready₁ : (m₁.router.conn conn).ready = false := by
      simp only [m₁, Router.modify_conn_self]
      exact hready
    refine ⟨framesOn conn (casts h m₂ (during.tail.headD [])) ++
      framesOn conn (runTasks h conn m₂ ts during.tail.tail).2, ?_, ?_⟩
    · rw [List.mem_append, not_or]
      exact ⟨close_casts _ _ _ _, close_runTasks _ _ _ _ _⟩
    · show framesOn conn ([] ++ (casts h m₁ (during.headD []) ++ (m₁.sendIdent h conn uuid ++
        (casts h m₂ (during.tail.headD []) ++ (runTasks h conn m₂ ts during.tail.tail).2)))) = _
      rw [List.nil_append, framesOn_append, framesOn_casts hready₁, List.nil_append,
        framesOn_append, framesOn_append, sendIdent_forgotten]
      rfl

/-! ## How far the two nodes are

  A finite game again, as with two that dial each other: seven stages, and what a delivery or a
  watchdog does to them.  All facts about it are decided by looking at each stage. -/

/-- The stages of a handshake, with those it can be cut short in by a watchdog.  There are seven, as
    the two watchdogs may fire or not at several moments. -/
inductive Stage where
  /-- the first IDENT is on its way -/
  | dialled
  /-- `b` is ready, its IDENT is on its way -/
  | replied
  | up
  /-- the watchdog of `b` was faster than the first IDENT -/
  | timedOut
  /-- the watchdog of `a` was faster than it -/
  | abandoned
  /-- the watchdog of `a` was faster than the answer -/
  | left
  /-- closed at both ends before either was ready -/
  | dead
  deriving DecidableEq, Repr

/-- What a queue starts with; `whatever` where that no longer matters, for the end it goes to is
    past `expect_ident` or closed. -/
inductive Front where
  | nothing
  | ident
  | close
  | whatever
  deriving DecidableEq, Repr

namespace Stage

/-- Where each end is; `none` for one that is past `expect_ident`, open or not.  What becomes of a
    ready connection is no part of the handshake. -/
def standing : Stage → Side → Option EndState
  | dialled, _ | replied, .a | timedOut, .a | abandoned, .b => some .awaiting
  | replied, .b | up, _ => some .ready
  | left, .b => none
  | timedOut, .b | abandoned, .a | left, .a | dead, _ => some .closed

/-- What the queue to each end starts with, in each stage.  Only the front matters, since that is
    what is delivered next. -/
def front : Stage → Side → Front
  | dialled, .a => .nothing
  | dialled, .b | replied, .a | abandoned, .b => .ident
  | timedOut, .a => .close
  | _, _ => .whatever

/-- No end has closed, so there is no close on the way to either. -/
def lively : Stage → Bool
  | dialled | replied | up => true
  | _ => false

/-- The end `i` takes the next frame: an IDENT, a close, or something that moves nothing.  This is
    what a delivery should do. -/
def heard : Stage → Side → Stage
  | dialled, .b => replied
  | abandoned, .b => left
  | replied, .a => up
  | timedOut, .a => dead
  | g, _ => g

/-- The watchdog of the end `i` fires; an end that is past `expect_ident` it leaves alone. -/
def fired : Stage → Side → Stage
  | dialled, .a => abandoned
  | replied, .a => left
  | timedOut, .a => dead
  | dialled, .b => timedOut
  | abandoned, .b => dead
  | g, _ => g

/-- The stage after an event.  Broadcasts and other events leave it as it is; that they do is what
    `rel_step` shows. -/
def next (g : Stage) : Event C → Stage
  | .deliver i _ _ _ => g.heard i
  | .watchdog i => g.fired i
  | .broadcast _ _ | .elsewhere _ _ => g

/-- A delivery moves the end it arrives at only; the other end learns of it by a message, if at
    all. -/
theorem standing_heard_other (g : Stage) (i : Side) :
    (g.heard i).standing i.other = g.standing i.other := by
  cases g <;> cases i <;> rfl

/-- And closes none that was not closed already. -/
theorem lively_heard (g : Stage) (i : Side) : (g.heard i).lively = g.lively := by
  cases g <;> cases i <;> rfl

/-- Where anything may come, nothing changes: the end is past its IDENT, or it is closed. -/
theorem heard_whatever {g : Stage} {i : Side} (h : g.front i = .whatever) :
    g.heard i = g ∧ g.front i.other ≠ .nothing ∧ g.standing i ≠ some .awaiting := by
  revert h
  cases g <;> cases i <;> decide

/-- An end that gets an IDENT awaits it, and is past it afterwards.  Whether it is then ready or
    gone depends on what the other end has done in the meantime. -/
theorem heard_ident {g : Stage} {i : Side} (h : g.front i = .ident) :
    g.standing i = some .awaiting ∧ (g.heard i).front i = .whatever ∧
      ((g.heard i).standing i = some .ready ∨ (g.heard i).standing i = none) := by
  revert h
  cases g <;> cases i <;> decide

/-- Only a connection just dialled is answered, by the acceptor's IDENT.  The dialler has spoken
    already. -/
theorem front_heard_other {g : Stage} {i : Side} (h : g.front i = .ident) :
    (i = .b ∧ g.front i.other = .nothing ∧ (g.heard i).front i.other = .ident) ∨
      (g.heard i).front i.other = .whatever := by
  revert h
  cases g <;> cases i <;> decide

/-- An end that gets a close where it awaits an IDENT is closed too, and the handshake is over. -/
theorem heard_close {g : Stage} {i : Side} (h : g.front i = .close) :
    g.standing i = some .awaiting ∧ (g.heard i).standing i = some .closed ∧
      (g.heard i).front i = .whatever ∧ (g.heard i).front i.other = .whatever ∧
      (g.heard i).lively = false := by
  revert h
  cases g <;> cases i <;> decide

/-- An end that awaits its IDENT closes when its watchdog fires.  The other end stays where it is,
    and a close goes out to it, behind an IDENT that may still be on the way. -/
theorem fired_awaiting {g : Stage} {i : Side} (h : g.standing i = some .awaiting) :
    (g.fired i).standing i = some .closed ∧ (g.fired i).front i = .whatever ∧
      (g.fired i).lively = false ∧
      ((g.fired i).standing i.other = g.standing i.other ∨
        (g.standing i.other = some .ready ∧ (g.fired i).standing i.other = none)) ∧
      ((g.fired i).front i.other = .whatever ∨
        (g.fired i).front i.other = .ident ∧ g.front i.other = .ident ∨
        (g.fired i).front i.other = .close ∧ g.front i.other = .nothing) := by
  revert h
  cases g <;> cases i <;> decide

/-- Any other end stays as it is: the watchdog only looks at `ready`, and at whether there is
    anything to close. -/
theorem fired_of_ne {g : Stage} {i : Side} (h : g.standing i ≠ some .awaiting) :
    g.fired i = g ∧ g.front i.other ≠ .nothing := by
  revert h
  cases g <;> cases i <;> decide

/-- Nothing is on its way only to a node whose peer is not ready: the dialler, just after it has
    dialled. -/
theorem front_nothing {g : Stage} {i : Side} (h : g.front i.other = .nothing) :
    g.standing i = some .awaiting := by
  revert h
  cases g <;> cases i <;> decide

/-- While one end is ready for good, neither has closed, for an end closes in the handshake only
    before it is ready. -/
theorem lively_of_ready {g : Stage} {i : Side} (h : g.standing i = some .ready) :
    g.lively = true := by
  revert h
  cases g <;> cases i <;> decide

/-- An end that neither awaits its IDENT nor is ready stays where it is when it closes, and one
    that is there has closed before. -/
theorem standing_rest {g : Stage} {i : Side} (h : g.standing i ≠ some .awaiting)
    (hready : g.standing i ≠ some .ready) :
    g.standing i = (if g.standing i = none then none else some .closed) ∧ g.lively = false := by
  revert h hready
  cases g <;> cases i <;> decide

end Stage

/-! ## The simulation

  Each end is what the stage says, each queue starts as it says, and no other open connection of the
  two is between them; otherwise an IDENT could be refused because of that one. -/

/-- The IDENT each node sends: the dialler's with the cookie it was given, and the acceptor's
    without. -/
def identValue (X : Nodes C) : Side → Value
  | .a => .obj [("name", .str (X.host .a).jid), ("cookie", .str X.cookie)]
  | .b => .obj [("name", .str (X.host .b).jid)]

/-- And the text of it. -/
def identText (X : Nodes C) (i : Side) : String := (X.host i).js.write (identValue X i)

/-- The connection object of the node `i`; an end that has closed unready stays so.  This is the
    state of the code that goes with an `EndState` of the abstract view. -/
def Stands (X : Nodes C) (i : Side) (m : Mesh C) : Option EndState → Prop
  | none => (m.router.conn (X.conn i)).messageReceivedCbs = []
  | some .closed => X.conn i ∉ m.router.connections ∧ (m.router.conn (X.conn i)).ready = false
  | some e => Cross.EndIs m (X.conn i) (incoming i) (X.host i.other).jid e

/-- What a queue holds; `payload` is that of the IDENT sent this way.  Of what comes behind the
    front nothing is said. -/
def Starts (l : List Frame) (payload : String) : Front → Prop
  | .nothing => l = []
  | .ident => ∃ guid rest, l = .msg (identMessage payload guid) :: rest
  | .close => ∃ rest, l = .close :: rest
  | .whatever => True

/-- No other open connection of the two nodes is between them.  Otherwise an IDENT would be refused
    for its name, as it should be. -/
def Alone (X : Nodes C) (s : Pair C) : Prop :=
  ∀ i, ∀ c ∈ (s.mesh i).router.connections, c ≠ X.conn i →
    ((s.mesh i).router.conn c).name ≠ some (X.host i.other).jid

/-- What a node keeps in every stage: `m` is its state, `st` where its end stands.  One node at a
    time, so that a step of the other leaves it alone. -/
structure Keeps (X : Nodes C) (i : Side) (m : Mesh C) (st : Option EndState) : Prop where
  stands : Stands X i m st
  shaken : Mesh.Handshaken (m.router.conn (X.conn i))
  known : X.conn i ∈ m.router.known
  /-- the cookie it has issued -/
  cookie : i = .b → m.peerCookies X.cookie ≠ none

/-- The two nodes are in the stage `g`.  This is the simulation relation; with it the proofs are
    about seven stages and not about two plugins. -/
structure Rel (X : Nodes C) (s : Pair C) (g : Stage) : Prop where
  ends : ∀ i, Keeps X i (s.mesh i) (g.standing i)
  inbox : ∀ i, Starts (s.inbox i) (identText X i.other) (g.front i)
  quiet : g.lively = true → ∀ i, Frame.close ∉ s.inbox i
  alone : Alone X s

omit [DecidableEq C] in
/-- More behind a queue does not change what it starts with, unless it was empty.  So what is sent
    later cannot overtake. -/
theorem Starts.append {l : List Frame} {payload : String} {f : Front} (h : Starts l payload f)
    (hf : f ≠ .nothing) (l' : List Frame) : Starts (l ++ l') payload f := by
  cases f with
  | nothing => exact absurd rfl hf
  | ident =>
    obtain ⟨guid, rest, rfl⟩ := h
    exact ⟨guid, rest ++ l', rfl⟩
  | close =>
    obtain ⟨rest, rfl⟩ := h
    exact ⟨rest ++ l', rfl⟩
  | whatever => trivial

omit [DecidableEq C] in
/-- An end whose object and openness stay as they are stays where it is. -/
theorem Stands.congr {X : Nodes C} {i : Side} {m m' : Mesh C} {st : Option EndState}
    (h : Stands X i m st) (hconn : m'.router.conn (X.conn i) = m.router.conn (X.conn i))
    (hopen : X.conn i ∈ m'.router.connections ↔ X.conn i ∈ m.router.connections) :
    Stands X i m' st := by
  rcases st with _ | _ | _ | _
  · exact (congrArg Connection.messageReceivedCbs hconn).trans h
  · exact ⟨hopen.mpr h.1, by rw [hconn]; exact h.2⟩
  · exact ⟨hopen.mpr h.1, by rw [hconn]; exact h.2⟩
  · exact ⟨fun hin => h.1 (hopen.mp hin), by rw [hconn]; exact h.2⟩

/-- An end that is not ready, when it closes.  It is then closed for good: its object is not touched
    any more. -/
theorem Keeps.fin {X : Nodes C} {i : Side} {m : Mesh C} {st st' : Option EndState}
    (h : Keeps X i m st) (hst : st ≠ some .ready)
    (hst' : st' = if st = none then none else some .closed) :
    Keeps X i { m with router := m.router.fin (X.conn i) } st' := by
  refine ⟨?_, h.shaken, h.known, h.cookie⟩
  have hstands := h.stands
  subst hst'
  rcases st with _ | _ | _ | _
  · exact hstands
  · exact ⟨by simp, hstands.2.2.1⟩
  · exact absurd rfl hst
  · exact ⟨by simp, hstands.2⟩

omit [DecidableEq C] in
/-- A ready end is past `expect_ident`. -/
theorem Keeps.past {X : Nodes C} {i : Side} {m : Mesh C} (h : Keeps X i m (some .ready)) :
    Keeps X i m none :=
  ⟨h.shaken.ready h.stands.2.1, h.shaken, h.known, h.cookie⟩

/-- The node `i` moves to the state `r.1`, and the queue to it to `rest`.  What has to be shown is
    put together here once: the end that moved, the end that did not, the two queues. -/
theorem Rel.move {X : Nodes C} {s : Pair C} {g g' : Stage} (h : Rel X s g) (i : Side)
    {rest : List Frame} {r : Mesh C × List (Action C)}
    (hself : Keeps X i r.1 (g'.standing i))
    (hother : Keeps X i.other (s.mesh i.other) (g'.standing i.other))
    (hrest : Starts rest (identText X i.other) (g'.front i))
    (hsent : Starts (s.inbox i.other ++ framesOn (X.conn i) r.2) (identText X i)
      (g'.front i.other))
    (hquiet : g'.lively = true → g.lively = true ∧ (∀ f ∈ rest, f ∈ s.inbox i) ∧
      Frame.close ∉ framesOn (X.conn i) r.2)
    (halone : Alone X (put X { s with inbox := Function.update s.inbox i rest } i r)) :
    Rel X (put X { s with inbox := Function.update s.inbox i rest } i r) g' := by
  refine ⟨fun k => ?_, fun k => ?_, fun hl k => ?_, halone⟩
  · rcases Side.eq_or_eq_other i k with rfl | rfl
    · simpa [put] using hself
    · simpa [put] using hother
  · rcases Side.eq_or_eq_other i k with rfl | rfl
    · simpa [put] using hrest
    · simpa [put] using hsent
  · obtain ⟨hg, hsub, hout⟩ := hquiet hl
    rcases Side.eq_or_eq_other i k with rfl | rfl
    · simp only [put, Side.ne_other, ne_eq, not_false_eq_true, Function.update_of_ne,
        Function.update_self]
      exact fun hin => h.quiet hg k (hsub _ hin)
    · simp only [put, Function.update_self, Side.other_ne, ne_eq, not_false_eq_true,
        Function.update_of_ne, List.mem_append, not_or]
      exact ⟨h.quiet hg i.other, hout⟩

/-- The node `i` sends, and is left as it was.  An end that awaits its IDENT sends nothing, which is
    where a broadcast comes in. -/
theorem Rel.send {X : Nodes C} {s : Pair C} {g : Stage} (h : Rel X s g) (i : Side)
    {r : Mesh C × List (Action C)} (hself : Keeps X i r.1 (g.standing i))
    (hnothing : g.standing i = some .awaiting → framesOn (X.conn i) r.2 = [])
    (hclose : g.lively = true → Frame.close ∉ framesOn (X.conn i) r.2)
    (halone : Alone X (put X s i r)) : Rel X (put X s i r) g := by
  have hput : s = { s with inbox := Function.update s.inbox i (s.inbox i) } := by
    rw [Function.update_eq_self]
  rw [hput] at halone ⊢
  refine h.move i hself (h.ends i.other) (h.inbox i) ?_ (fun hl => ⟨hl, fun f hf => hf,
    hclose hl⟩) halone
  by_cases hf : g.front i.other = .nothing
  · rw [hnothing (Stage.front_nothing hf), List.append_nil]
    simpa using h.inbox i.other
  · simpa using (h.inbox i.other).append hf _

/-! ## What else happens at a node

  Other connections open, get their IDENTs, broadcast and close; adverts come and cookies are
  issued.  None of it is about this connection, whatever it is. -/

/-- The event is about the connection `conn`.  All others are about another one, or about none. -/
def About (conn : C) : Mesh.Event C → Prop
  | .received c _ _ | .newConnectionTimeout c | .closed c => c = conn
  | _ => False

/-- A step that leaves a connection alone: its object, whether it is open, and what is sent on it.
    Most of what a node does in the meantime is of this kind. -/
structure Leaves (conn : C) (m m' : Mesh C) (out : List (Action C)) : Prop where
  object : m'.router.conn conn = m.router.conn conn
  isOpen : conn ∈ m'.router.connections ↔ conn ∈ m.router.connections
  known : conn ∈ m.router.known → conn ∈ m'.router.known
  silent : framesOn conn out = []

/-- A step that does not touch the router does, if it sends nothing there: an advert, or a dial. -/
theorem leaves_of_router {conn : C} {m m' : Mesh C} {out : List (Action C)}
    (hr : m'.router = m.router) (hout : framesOn conn out = []) : Leaves conn m m' out := by
  refine ⟨?_, ?_, ?_, hout⟩ <;> rw [hr]
  exact fun hin => hin

/-- **Every event about something else leaves the connection alone.**  A connection that is opened
    is a new one, so it is not this. -/
theorem leaves_of_not_about {h : Host C} {conn : C} {m m' : Mesh C} {e : Mesh.Event C}
    {out : List (Action C)} (hfar : ¬ About conn e) (hknown : conn ∈ m.router.known)
    (hok : Mesh.step h m e = .ok (m', out)) : Leaves conn m m' out := by
  cases Mesh.step_does hok with
  | idle | issues | dials | fails => exact leaves_of_router rfl rfl
  | opened c o _ _ ho hrouter hcookies hdial hout =>
    -- what is opened was not known, and this connection is
    have hc : conn ≠ c := fun hc => (Mesh.opens_some ho).1 (hc ▸ hknown)
    refine ⟨?_, ?_, ?_, ?_⟩
    · rw [hrouter, Router.add_conn_ne _ _ hc]
    · simp [hrouter, hc]
    · intro hin
      rw [hrouter]
      exact Router.mem_add_known.mpr (Or.inr hin)
    · rw [List.eq_nil_iff_forall_not_mem]
      intro f hf
      rcases mem_framesOn.mp hf with ⟨msg, -, hact⟩ | ⟨-, hact⟩ <;> obtain ⟨_, he⟩ := hout _ hact
      · exact hc (Action.asyncWrite.inj he).1
      · cases he
  | accepts c msgp uuid dir cbs name he hopen hcbs hp =>
    subst he
    -- an IDENT accepted elsewhere
    have hc : c ≠ conn := hfar
    refine ⟨Router.modify_conn_ne _ _ hc.symm, Iff.rfl, fun hin => hin, ?_⟩
    cases dir <;> simp [Mesh.identReply, framesOn, hc]
  | closes c _ he hout =>
    have hc : c ≠ conn := by rcases he with rfl | rfl | ⟨msgp, uuid, rfl⟩ <;> exact hfar
    refine ⟨rfl, by simp [hc.symm], fun hin => hin, ?_⟩
    rcases hout with rfl | rfl <;> simp [framesOn, hc]
  | releases c => exact ⟨rfl, Iff.rfl, fun hin => hin, rfl⟩

/-- What leaves the connection alone leaves the node where it is. -/
theorem Keeps.leaves {X : Nodes C} {i : Side} {m m' : Mesh C} {st : Option EndState}
    {out : List (Action C)} (h : Keeps X i m st) (hl : Leaves (X.conn i) m m' out)
    (hcookie : m.peerCookies X.cookie ≠ none → m'.peerCookies X.cookie ≠ none) :
    Keeps X i m' st :=
  ⟨h.stands.congr hl.object hl.isOpen, by rw [hl.object]; exact h.shaken, hl.known h.known,
    fun hi => hcookie (h.cookie hi)⟩

/-- Anything else that happens leaves the stage as it is, as long as it does not connect the two
    once more. -/
theorem rel_elsewhere {X : Nodes C} {s : Pair C} {g : Stage} (h : Rel X s g) {i : Side}
    {e : Mesh.Event C} (hfar : ¬ About (X.conn i) e) {r : Mesh C × List (Action C)}
    (hok : Mesh.step (X.host i) (s.mesh i) e = .ok r) (halone : Alone X (put X s i r)) :
    Rel X (put X s i r) g := by
  have hl := leaves_of_not_about hfar (h.ends i).known hok
  refine h.send i ((h.ends i).leaves hl fun hc => Mesh.peerCookies_kept hok hc) (fun _ => hl.silent)
    (fun _ => ?_) halone
  rw [hl.silent]
  exact List.not_mem_nil

/-- A broadcast does so too: it is sent on the connection if that is ready, and then anything may
    be. -/
theorem rel_broadcast {X : Nodes C} {s : Pair C} {g : Stage} (h : Rel X s g) (i : Side)
    (cast : Cast C)
    (halone : Alone X (put X s i (s.mesh i, casts (X.host i) (s.mesh i) [cast]))) :
    Rel X (put X s i (s.mesh i, casts (X.host i) (s.mesh i) [cast])) g := by
  refine h.send i (h.ends i) (fun hst => ?_) (fun _ => close_casts _ _ _ _) halone
  have hstands := (h.ends i).stands
  rw [hst] at hstands
  exact framesOn_casts hstands.2.2.1 _

/-! ## Deliveries and watchdogs

  The IDENT that an end awaits passes; so the only ways out are the watchdogs. -/

/-- The two nodes read each other's IDENTs, and the cookie is one.  An empty cookie would be
    refused, and would not be sent either. -/
structure Honest (X : Nodes C) : Prop where
  cookie : X.cookie ≠ ""
  codec : ∀ i, (X.host i.other).js.read (identText X i) = some (identValue X i)

omit [DecidableEq C] in
/-- **The IDENT that arrives passes.**  Its cookie is the one `b` has issued, and no other
    connection has the name. -/
theorem Rel.passes {X : Nodes C} (hX : Honest X) {s : Pair C} {g : Stage} (h : Rel X s g) {i : Side}
    (hst : g.standing i = some .awaiting) (guid : String) :
    Mesh.Passes (X.host i) (s.mesh i) (identMessage (identText X i.other) guid) (incoming i)
      (X.host i.other).jid := by
  have hstands := (h.ends i).stands
  rw [hst] at hstands
  have hread := hX.codec i.other
  rw [Side.other_other] at hread
  refine ⟨?_, ?_, ?_⟩
  · cases i with
    | a => exact (Cross.ident_fields guid hread).1
    | b => exact (Cross.ident_fields guid hread).1
  · rw [Bool.eq_false_iff]
    intro hhas
    obtain ⟨c, hopen, hname⟩ := Libf2f.hasConnection_iff.mp hhas
    -- the name is free: not taken here, and `Alone` leaves it to nobody else
    by_cases hc : c = X.conn i
    · rw [hc, hstands.2.2.2] at hname
      cases hname
    · exact h.alone i c hopen hc hname
  · intro hin
    cases i with
    | a => cases hin
    | b =>
      exact ⟨X.cookie, (Cross.ident_fields guid hread).2, hX.cookie, (h.ends .b).cookie rfl⟩

/-- An IDENT that passes, at the end that awaits it: what is done are the tasks, with whatever falls
    between them. -/
theorem hear_passes {X : Nodes C} {i : Side} {m : Mesh C} {msgp : Message} {name : String}
    (h : Keeps X i m (some .awaiting)) (hp : Mesh.Passes (X.host i) m msgp (incoming i) name)
    (uuid : String) (during : List (List (Cast C))) (answers : List Message) :
    hear X i m uuid during answers (.msg msgp) =
      runTasks (X.host i) (X.conn i) m (identTasks (incoming i) name uuid) during := by
  obtain ⟨hopen, hcbs, -, -⟩ := h.stands
  simp only [hear, if_pos hopen, hcbs, identAccepted_iff.mpr hp]

/-- It makes the end ready, and keeps the rest, the cookie in the table among it. -/
theorem Keeps.identified {X : Nodes C} {i : Side} {m : Mesh C}
    (h : Keeps X i m (some .awaiting)) :
    Keeps X i { m with
      router := m.router.modify (X.conn i) (Mesh.identified (incoming i) (X.host i.other).jid) }
      (some .ready) := by
  obtain ⟨hopen, hcbs, -, -⟩ := h.stands
  refine ⟨⟨hopen, ?_, ?_⟩, ?_, h.known, h.cookie⟩ <;> rw [Router.modify_conn_self]
  · rfl
  · rfl
  · exact Mesh.handshaken_identified h.shaken hcbs

/-- A message at an end that is past `expect_ident`, or closed: whatever it is, the mesh stays as it
    is. -/
theorem hear_past {X : Nodes C} {i : Side} {m : Mesh C} {st : Option EndState}
    (h : Keeps X i m st) (hst : st ≠ some .awaiting) (uuid : String)
    (during : List (List (Cast C))) (answers : List Message) (msgp : Message) :
    (hear X i m uuid during answers (.msg msgp)).1 = m ∧
      Frame.close ∉ framesOn (X.conn i) (hear X i m uuid during answers (.msg msgp)).2 := by
  rw [hear]
  by_cases hopen : X.conn i ∈ m.router.connections
  · have hcbs : (m.router.conn (X.conn i)).messageReceivedCbs = [] := by
      have hstands := h.stands
      -- past `expect_ident`, ready or not, there is no callback left
      rcases st with _ | _ | _ | _
      · exact hstands
      · exact absurd rfl hst
      · exact h.shaken.ready hstands.2.1
      · exact absurd hopen hstands.1
    rw [if_pos hopen, hcbs]
    refine ⟨rfl, fun hin => ?_⟩
    rcases mem_framesOn.mp hin with ⟨m', hf, -⟩ | ⟨-, hact⟩
    · cases hf
    · obtain ⟨answer, -, hact⟩ := List.mem_map.mp hact
      cases hact
  · rw [if_neg hopen]
    exact ⟨rfl, List.not_mem_nil⟩

/-- The IDENT arrives: the end is ready, and the acceptor's own IDENT is what it sends first.  The
    broadcasts before `setReady` do not reach the connection, and those after it come behind the
    IDENT. -/
theorem rel_ident {X : Nodes C} (hX : Honest X) {s : Pair C} {g : Stage} (h : Rel X s g)
    {i : Side} (hfront : g.front i = .ident) (uuid : String) (during : List (List (Cast C)))
    (answers : List Message) {f : Frame} {rest : List Frame} (hin : s.inbox i = f :: rest)
    (halone : Alone X (put X { s with inbox := Function.update s.inbox i rest } i
      (hear X i (s.mesh i) uuid during answers f))) :
    Rel X (put X { s with inbox := Function.update s.inbox i rest } i
      (hear X i (s.mesh i) uuid during answers f)) (g.heard i) := by
  have hstarts := h.inbox i
  rw [hfront] at hstarts
  obtain ⟨guid, rest', hident⟩ := hstarts
  obtain ⟨rfl, rfl⟩ := List.cons.inj (hin.symm.trans hident)
  obtain ⟨hst, hwhatever, hpast⟩ := Stage.heard_ident hfront
  have hself := h.ends i
  rw [hst] at hself
  have hother := h.ends i.other
  rw [← Stage.standing_heard_other g i] at hother
  have hp := h.passes hX hst guid
  obtain ⟨l, hl, hout⟩ := framesOn_identTasks (X.host i) hself.stands.2.2.1 (incoming i)
    (X.host i.other).jid uuid during
  rw [hear_passes hself hp] at halone ⊢
  refine h.move i ?_ hother (by rw [hwhatever]; trivial) ?_
    (fun hlive => ⟨?_, fun f' hf' => ?_, ?_⟩) halone
  · -- the tasks leave the router as accepting the IDENT would
    rw [runTasks_fst]
    simp only [foldl_identTasks]
    rcases hpast with hready | hpast
    · rw [hready]
      exact hself.identified
    · rw [hpast]
      exact hself.identified.past
  · -- the acceptor sends its IDENT before anything else, the dialler nothing more
    rcases Stage.front_heard_other hfront with ⟨rfl, hempty, hident⟩ | hwhatever
    · have hqueue := h.inbox Side.b.other
      rw [hempty] at hqueue
      rw [hident, hout, show s.inbox Side.b.other = [] from hqueue]
      exact ⟨uuid, l, by simp [Mesh.identReply, incoming, framesOn, identText, identValue]⟩
    · rw [hwhatever]
      trivial
  · rwa [Stage.lively_heard] at hlive
  · rw [hin]
    exact List.mem_cons_of_mem _ hf'
  · rw [hout, List.mem_append, not_or]
    refine ⟨?_, hl⟩
    cases i <;> simp [Mesh.identReply, incoming, framesOn]

/-- The other end's close arrives where the IDENT was awaited.  This end has not been ready, so it
    is closed and sends nothing. -/
theorem rel_close {X : Nodes C} {s : Pair C} {g : Stage} (h : Rel X s g) {i : Side}
    (hfront : g.front i = .close) (uuid : String) (during : List (List (Cast C)))
    (answers : List Message) {f : Frame} {rest : List Frame} (hin : s.inbox i = f :: rest)
    (halone : Alone X (put X { s with inbox := Function.update s.inbox i rest } i
      (hear X i (s.mesh i) uuid during answers f))) :
    Rel X (put X { s with inbox := Function.update s.inbox i rest } i
      (hear X i (s.mesh i) uuid during answers f)) (g.heard i) := by
  have hstarts := h.inbox i
  rw [hfront] at hstarts
  obtain ⟨rest', hclose⟩ := hstarts
  obtain ⟨rfl, rfl⟩ := List.cons.inj (hin.symm.trans hclose)
  obtain ⟨hst, hshut, hwhatever, hwhatever', hdead⟩ := Stage.heard_close hfront
  have hself := h.ends i
  rw [hst] at hself
  have hother := h.ends i.other
  rw [← Stage.standing_heard_other g i] at hother
  refine h.move i ?_ hother (by rw [hwhatever]; trivial) (by rw [hwhatever']; trivial)
    (fun hlive => ?_) halone
  · exact hself.fin (by simp) (by simp [hshut])
  · rw [hdead] at hlive
    cases hlive

/-- Anything arrives at an end that does not await its IDENT.  It has no part in the handshake any
    more; all that has to be seen is that it does not close. -/
theorem rel_rest {X : Nodes C} {s : Pair C} {g : Stage} (h : Rel X s g) {i : Side}
    (hfront : g.front i = .whatever) (uuid : String) (during : List (List (Cast C)))
    (answers : List Message) {f : Frame} {rest : List Frame} (hin : s.inbox i = f :: rest)
    (halone : Alone X (put X { s with inbox := Function.update s.inbox i rest } i
      (hear X i (s.mesh i) uuid during answers f))) :
    Rel X (put X { s with inbox := Function.update s.inbox i rest } i
      (hear X i (s.mesh i) uuid during answers f)) g := by
  obtain ⟨-, hfull, hst⟩ := Stage.heard_whatever hfront
  have hsent := (h.inbox i.other).append hfull
    (framesOn (X.conn i) (hear X i (s.mesh i) uuid during answers f).2)
  rw [Side.other_other] at hsent
  cases f with
  | msg msgp =>
    obtain ⟨hmesh, hclose⟩ := hear_past (h.ends i) hst uuid during answers msgp
    refine h.move i ?_ (h.ends i.other) (by rw [hfront]; trivial) hsent
      (fun hlive => ⟨hlive, fun f' hf' => ?_, hclose⟩) halone
    · rw [hmesh]
      exact h.ends i
    · rw [hin]
      exact List.mem_cons_of_mem _ hf'
  | close =>
    -- a close comes to an end that is not ready: no queue of a lively stage has one
    have hready : g.standing i ≠ some .ready := by
      intro hready
      exact h.quiet (Stage.lively_of_ready hready) i (by rw [hin]; exact List.mem_cons_self ..)
    obtain ⟨hsame, hdead⟩ := Stage.standing_rest hst hready
    refine h.move i ((h.ends i).fin hready hsame) (h.ends i.other) (by rw [hfront]; trivial) hsent
      (fun hlive => ?_) halone
    rw [hdead] at hlive
    cases hlive

/-- **A delivery moves the stage as it should**: one case for each thing a queue may start with.  In
    the case of nothing there is no delivery. -/
theorem rel_deliver {X : Nodes C} (hX : Honest X) {s : Pair C} {g : Stage} (h : Rel X s g)
    (i : Side) (uuid : String) (during : List (List (Cast C))) (answers : List Message)
    {f : Frame} {rest : List Frame} (hin : s.inbox i = f :: rest)
    (halone : Alone X (put X { s with inbox := Function.update s.inbox i rest } i
      (hear X i (s.mesh i) uuid during answers f))) :
    Rel X (put X { s with inbox := Function.update s.inbox i rest } i
      (hear X i (s.mesh i) uuid during answers f)) (g.heard i) := by
  cases hfront : g.front i with
  | nothing =>
    have hstarts := h.inbox i
    rw [hfront, hin] at hstarts
    cases hstarts
  | ident => exact rel_ident hX h hfront uuid during answers hin halone
  | close => exact rel_close h hfront uuid during answers hin halone
  | whatever =>
    rw [(Stage.heard_whatever hfront).1]
    exact rel_rest h hfront uuid during answers hin halone

/-- The watchdog fires at an end that awaits its IDENT: it closes, and a close goes out behind what
    is on the way. -/
theorem rel_timeout {X : Nodes C} {s : Pair C} {g : Stage} (h : Rel X s g) {i : Side}
    (hst : g.standing i = some .awaiting)
    (halone : Alone X (put X s i ((s.mesh i).refuse (X.conn i)))) :
    Rel X (put X s i ((s.mesh i).refuse (X.conn i))) (g.fired i) := by
  have hself := h.ends i
  rw [hst] at hself
  have hput : s = { s with inbox := Function.update s.inbox i (s.inbox i) } := by
    rw [Function.update_eq_self]
  obtain ⟨hshut, hwhatever, hdead, hother, hfront⟩ := Stage.fired_awaiting hst
  rw [hput] at halone ⊢
  refine h.move i (hself.fin (by simp) (by simp [hshut])) ?_ (by rw [hwhatever]; trivial) ?_
    (fun hlive => ?_) halone
  · -- the other end stays, unless it was ready: its peer is gone now
    rcases hother with hother | ⟨hready, hpast⟩
    · rw [hother]
      exact h.ends i.other
    · have hkeeps := h.ends i.other
      rw [hready] at hkeeps
      rw [hpast]
      exact hkeeps.past
  · have hqueue := h.inbox i.other
    rw [Side.other_other] at hqueue
    -- the close goes behind what is on its way, and is first where nothing is
    rcases hfront with hf | ⟨hf, hbefore⟩ | ⟨hf, hbefore⟩
    · rw [hf]
      trivial
    · rw [hbefore] at hqueue
      rw [hf]
      exact hqueue.append (by simp) _
    · rw [hbefore] at hqueue
      rw [hf, show s.inbox i.other = [] from hqueue]
      exact ⟨[], by simp [Mesh.refuse, framesOn]⟩
  · rw [hdead] at hlive
    cases hlive

/-- **A watchdog moves the stage as it should**: it closes an end that awaits its IDENT, and leaves
    any other alone. -/
theorem rel_watchdog {X : Nodes C} {s : Pair C} {g : Stage} (h : Rel X s g) (i : Side)
    (halone : Alone X (put X s i ((s.mesh i).newConnectionTimeout (X.conn i)))) :
    Rel X (put X s i ((s.mesh i).newConnectionTimeout (X.conn i))) (g.fired i) := by
  have hself := h.ends i
  by_cases hflag : ((s.mesh i).router.conn (X.conn i)).ready = true
  · have hidle : (s.mesh i).newConnectionTimeout (X.conn i) = (s.mesh i, []) := by
      rw [Mesh.newConnectionTimeout, if_pos hflag]
    have hst : g.standing i ≠ some .awaiting := by
      intro hst
      rw [hst] at hself
      rw [hself.stands.2.2.1] at hflag
      cases hflag
    rw [hidle] at halone ⊢
    rw [(Stage.fired_of_ne hst).1]
    exact h.send i hself (fun hs => absurd hs hst) (fun _ => List.not_mem_nil) halone
  · have hfin : (s.mesh i).newConnectionTimeout (X.conn i) = (s.mesh i).refuse (X.conn i) := by
      rw [Mesh.newConnectionTimeout, if_neg hflag]
      rfl
    rw [hfin] at halone ⊢
    by_cases hst : g.standing i = some .awaiting
    · exact rel_timeout h hst halone
    · -- closed a second time
      have hready : g.standing i ≠ some .ready := by
        intro hready
        rw [hready] at hself
        exact hflag hself.stands.2.1
      obtain ⟨hsame, hdead⟩ := Stage.standing_rest hst hready
      rw [(Stage.fired_of_ne hst).1]
      refine h.send i (hself.fin hready hsame) (fun hs => absurd hs hst) (fun hlive => ?_) halone
      rw [hdead] at hlive
      cases hlive

/-- The events that are not about this connection, with a state that connects the two nodes in
    no other way. -/
def Apart (X : Nodes C) (st : Runs.Step (Pair C) (Event C) Frame) : Prop :=
  (∀ i e, st.event = .elsewhere i e → ¬ About (X.conn i) e) ∧ Alone X st.post

/-- **The simulation**: every event moves the stage as it should.  The events that are about other
    connections are all of one case, by `Leaves`. -/
theorem rel_step {X : Nodes C} (hX : Honest X) {s s' : Pair C} {g : Stage} {e : Event C}
    {out : List Frame} (h : Rel X s g) (hok : step X s e = .ok (s', out))
    (hapart : Apart X ⟨s, e, s', out⟩) : Rel X s' (g.next e) := by
  obtain ⟨hfar, halone⟩ := hapart
  simp only at hfar halone
  cases e with
  | deliver i uuid during answers =>
    rw [step] at hok
    cases hin : s.inbox i with
    | nil =>
      rw [hin] at hok
      obtain ⟨rfl, -⟩ := Prod.mk.inj (Except.ok.inj hok)
      -- an empty queue does not start with a frame the stage awaits
      have hsame : g.heard i = g := by
        have hstarts := h.inbox i
        rw [hin] at hstarts
        cases hfront : g.front i <;> rw [hfront] at hstarts
        case ident =>
          obtain ⟨guid, rest, hcons⟩ := hstarts
          cases hcons
        case close =>
          obtain ⟨rest, hcons⟩ := hstarts
          cases hcons
        case nothing =>
          revert hfront
          cases g <;> cases i <;> decide
        case whatever => exact (Stage.heard_whatever hfront).1
      rw [Stage.next, hsame]
      exact h
    | cons f rest =>
      rw [hin] at hok
      obtain ⟨rfl, -⟩ := Prod.mk.inj (Except.ok.inj hok)
      exact rel_deliver hX h i uuid during answers hin halone
  | broadcast i cast =>
    obtain ⟨rfl, -⟩ := Prod.mk.inj (Except.ok.inj hok)
    exact rel_broadcast h i cast halone
  | watchdog i =>
    obtain ⟨rfl, -⟩ := Prod.mk.inj (Except.ok.inj hok)
    exact rel_watchdog h i halone
  | elsewhere i e' =>
    rw [step] at hok
    cases hstep : Mesh.step (X.host i) (s.mesh i) e' with
    | error f =>
      rw [hstep] at hok
      cases hok
    | ok r =>
      rw [hstep] at hok
      obtain ⟨rfl, -⟩ := Prod.mk.inj (Except.ok.inj hok)
      exact rel_elsewhere h (hfar i e' rfl) hstep halone

/-! ## The start

  `b` has issued a cookie to `a` and sent it in its advert, and `a` has read it: that is how each
  connection of the plugin that is not typed in comes about. -/

/-- `a` has a dial from the advert of `b`, whose cookie `b` issued to it; no connection yet.
    Whatever the two have done before is behind them. -/
structure Acquainted (X : Nodes C) (m : Side → Mesh C) (k : Nat) : Prop where
  dial : ∃ d, (m .a).dialling[k]? = some d ∧
    d.props = [("cookie", X.cookie), ("jid", (X.host .b).jid)]
  issued : (m .b).peerCookies X.cookie = some (X.host .a).jid
  new : ∀ i, X.conn i ∉ (m i).router.known
  alone : ∀ i, ∀ c ∈ (m i).router.connections,
    ((m i).router.conn c).name ≠ some (X.host i.other).jid

/-- The connection has just been made: `a` has answered its dial, `b` has accepted.  Both callbacks
    of libf2f have been called, and the first IDENT is on its way. -/
def Opened (X : Nodes C) (s : Pair C) : Prop :=
  ∃ m k uuid outA outB, Acquainted X m k ∧
    Mesh.step (X.host .a) (m .a) (.newOutgoingConnection (X.conn .a) k uuid) =
      .ok (s.mesh .a, outA) ∧
    Mesh.step (X.host .b) (m .b) (.newIncomingConnection (X.conn .b)) = .ok (s.mesh .b, outB) ∧
    s.inbox .b = framesOn (X.conn .a) outA ∧ s.inbox .a = framesOn (X.conn .b) outB

omit [DecidableEq C] in
/-- A node that advertises itself has issued the cookie: what it tells and what it remembers are one
    step. -/
theorem issues_advert {h : Host C} {m m' : Mesh C} {jid cookie : String} {out : List (Action C)}
    (hok : m.jabberNewPeer h jid cookie = (m', out)) (htold : out ≠ []) :
    m'.router = m.router ∧ m'.peerCookies cookie = some jid := by
  unfold Mesh.jabberNewPeer at hok
  by_cases hus : jid = h.jid
  · rw [if_pos hus] at hok
    exact absurd (Prod.mk.inj hok).2.symm htold
  · rw [if_neg hus] at hok
    by_cases hwall : h.publicIp = ""
    · rw [if_pos hwall] at hok
      exact absurd (Prod.mk.inj hok).2.symm htold
    · rw [if_neg hwall] at hok
      by_cases hhas : h.lib.hasConnection m.router jid = true
      · rw [if_pos hhas] at hok
        exact absurd (Prod.mk.inj hok).2.symm htold
      · rw [if_neg hhas] at hok
        obtain ⟨rfl, -⟩ := Prod.mk.inj hok
        exact ⟨rfl, Function.update_self ..⟩

omit [DecidableEq C] in
/-- **An advert makes the two acquainted**: `b` issues the cookie and tells `a`, and `a` dials. -/
theorem acquainted_of_advert {X : Nodes C} {m m' : Side → Mesh C} {text : String}
    {out : List (Action C)}
    (hissue : (m .b).jabberNewPeer (X.host .b) (X.host .a).jid X.cookie =
      (m' .b, [.sendTo (X.host .a).jid text]))
    (hread : (X.host .a).js.read text = some (Mesh.advertObject (X.host .b) X.cookie))
    (hdial : (m .a).jabberMsgReceived (X.host .a) text (X.host .b).jid = .ok (m' .a, out))
    (hnew : ∀ i, X.conn i ∉ (m i).router.known)
    (halone : ∀ i, ∀ c ∈ (m i).router.connections,
      ((m i).router.conn c).name ≠ some (X.host i.other).jid) :
    Acquainted X m' (m .a).dialling.length := by
  obtain ⟨hb, hissued⟩ := issues_advert hissue (by simp)
  rw [Mesh.dials_advert hread] at hdial
  obtain ⟨n, ha, -⟩ := Mesh.connectToPeer_ok hdial
  -- neither handler touches a connection
  have hrouter : ∀ i, (m' i).router = (m i).router := by
    intro i
    cases i with
    | a => rw [ha]
    | b => exact hb
  refine ⟨⟨⟨n, (((X.host .b).port : Int) % 65536).toNat, _⟩, ?_, rfl⟩, hissued, fun i => ?_,
    fun i => ?_⟩
  · rw [ha]
    exact List.getElem?_concat_length ..
  · rw [hrouter]
    exact hnew i
  · rw [hrouter]
    exact halone i

/-- The handshake starts with the first stage, whatever else the two nodes have done before.  The
    stage says that the dialler's IDENT is in front, which is what `new_outgoing_connection` sees
    to. -/
theorem rel_opened {X : Nodes C} (hX : Honest X) {s : Pair C} (h : Opened X s) :
    Rel X s .dialled := by
  obtain ⟨m, k, uuid, outA, outB, ⟨⟨d, hd, hprops⟩, hissued, hnew, halone⟩, ha, hb, hinB, hinA⟩ := h
  have hget : d.get "cookie" = X.cookie := by simp [Dial.get, hprops]
  simp only [Mesh.step, hd, if_neg (hnew .a)] at ha
  simp only [Mesh.step, if_neg (hnew .b)] at hb
  obtain ⟨hma, rfl⟩ := Prod.mk.inj (Except.ok.inj ha)
  obtain ⟨hmb, rfl⟩ := Prod.mk.inj (Except.ok.inj hb)
  simp only [Router.add_modify] at hma hmb
  refine ⟨fun i => ?_, fun i => ?_, fun _ i => ?_, fun i c hc hne => ?_⟩
  · cases i with
    | a =>
      -- the dialler: its connection has the properties of the dial
      refine ⟨?_, ?_, ?_, fun hi => by cases hi⟩ <;> rw [← hma]
      · refine ⟨?_, ?_, ?_, ?_⟩ <;> simp [incoming, Connection.pushMessageReceivedCb]
      · rw [Router.add_conn_self]
        exact Mesh.handshaken_fresh (some d)
      · exact Router.mem_add_known.mpr (Or.inl rfl)
    | b =>
      -- the acceptor
      refine ⟨?_, ?_, ?_, fun _ => ?_⟩ <;> rw [← hmb]
      · refine ⟨?_, ?_, ?_, ?_⟩ <;> simp [incoming, Connection.pushMessageReceivedCb]
      · rw [Router.add_conn_self]
        exact Mesh.handshaken_fresh none
      · exact Router.mem_add_known.mpr (Or.inl rfl)
      · rw [hissued]
        simp
  · cases i with
    | a => exact hinA
    | b =>
      refine ⟨uuid, [], hinB.trans ?_⟩
      simp [Mesh.sendIdent, Mesh.identObject, Router.add_modify, Connection.get,
        Connection.pushMessageReceivedCb, hget, hX.cookie, framesOn, identText, identValue,
        Side.other]
  · cases i with
    | a =>
      rw [hinA]
      exact List.not_mem_nil
    | b =>
      rw [hinB]
      simp [Mesh.sendIdent, framesOn]
  · cases i with
    | a =>
      rw [← hma] at hc ⊢
      rw [Router.add_conn_ne _ _ hne]
      exact halone .a c ((Router.mem_add.mp hc).resolve_left hne)
    | b =>
      rw [← hmb] at hc ⊢
      rw [Router.add_conn_ne _ _ hne]
      exact halone .b c ((Router.mem_add.mp hc).resolve_left hne)

/-! ## Whole runs

  A stage remembers which watchdogs have fired too early, so it goes with the history; that is how
  the agreement, which speaks of the history, is read off it. -/

/-- The history of the two nodes, event by event. -/
abbrev History (C : Type) := List (Runs.Step (Pair C) (Event C) Frame)

/-- What arrives at an end that has `expect_ident` on top is an IDENT, and passes under the name
    of the other node: nothing is turned away, and no mesh message comes too early. -/
def Welcome (X : Nodes C) (st : Runs.Step (Pair C) (Event C) Frame) : Prop :=
  ∀ i uuid during answers msgp rest, st.event = .deliver i uuid during answers →
    st.pre.inbox i = .msg msgp :: rest → X.conn i ∈ (st.pre.mesh i).router.connections →
    ((st.pre.mesh i).router.conn (X.conn i)).messageReceivedCbs ≠ [] →
    msgp.type = .ident ∧
      Mesh.Passes (X.host i) (st.pre.mesh i) msgp (incoming i) (X.host i.other).jid

/-- The step delivers an IDENT to `i`, as the next frame in its queue. -/
def Delivers (i : Side) (st : Runs.Step (Pair C) (Event C) Frame) : Prop :=
  ∃ uuid during answers msgp rest, st.event = .deliver i uuid during answers ∧
    st.pre.inbox i = .msg msgp :: rest ∧ msgp.type = .ident

/-- The watchdog of `i` has not fired yet.  Two seconds is what the source gives it; here it is any
    time. -/
def Unfired (i : Side) (hist : History C) : Prop := ∀ st ∈ hist, st.event ≠ .watchdog i

/-- An IDENT has been delivered to `i` before its watchdog fired.  This is all that is asked for the
    two to come up. -/
def InTime (i : Side) (hist : History C) : Prop :=
  ∃ h₁ st h₂, hist = h₁ ++ st :: h₂ ∧ Unfired i h₁ ∧ Delivers i st

/-- The end is open and ready, named after the other node, and its messages go on to
    `message_received`. -/
structure Settled (X : Nodes C) (i : Side) (m : Mesh C) : Prop where
  isOpen : X.conn i ∈ m.router.connections
  ready : (m.router.conn (X.conn i)).ready = true
  named : (m.router.conn (X.conn i)).name = some (X.host i.other).jid
  past : (m.router.conn (X.conn i)).messageReceivedCbs = []

/-- What the two nodes agree on, after the history `hist`.  Nobody is ever refused, the dialler is
    never ahead, and if both were in time both are settled. -/
structure Agreement (X : Nodes C) (hist : History C) (s : Pair C) : Prop where
  welcome : ∀ st ∈ hist, Welcome X st
  /-- the dialler is ready only if the acceptor is -/
  order : ((s.mesh .a).router.conn (X.conn .a)).ready = true →
    ((s.mesh .b).router.conn (X.conn .b)).ready = true
  settled : (∀ i, InTime i hist) → ∀ i, Settled X i (s.mesh i)

omit [DecidableEq C] in
/-- One step later the watchdog has not fired if it had not, and does not now. -/
theorem unfired_snoc {i : Side} {hist : History C} {st : Runs.Step (Pair C) (Event C) Frame} :
    Unfired i (hist ++ [st]) ↔ Unfired i hist ∧ st.event ≠ .watchdog i := by
  constructor
  · exact fun h => ⟨fun st' hst' => h st' (List.mem_append_left _ hst'), h st (by simp)⟩
  · rintro ⟨h, hlast⟩ st' hst'
    rcases List.mem_append.mp hst' with hst' | hst'
    · exact h st' hst'
    · rwa [List.mem_singleton.mp hst']

omit [DecidableEq C] in
/-- One step later: it was in time already, or it is now, with an IDENT delivered and no watchdog
    before. -/
theorem inTime_snoc {i : Side} {hist : History C} {st : Runs.Step (Pair C) (Event C) Frame}
    (h : InTime i (hist ++ [st])) : InTime i hist ∨ (Unfired i hist ∧ Delivers i st) := by
  obtain ⟨h₁, st', h₂, heq, hun, hdel⟩ := h
  rcases List.eq_nil_or_concat h₂ with rfl | ⟨h₂', last, rfl⟩
  · obtain ⟨rfl, hst⟩ := List.append_inj' heq rfl
    obtain rfl := (List.cons.inj hst).1
    exact Or.inr ⟨hun, hdel⟩
  · rw [List.concat_eq_append, ← List.cons_append, ← List.append_assoc] at heq
    obtain ⟨rfl, -⟩ := List.append_inj' heq rfl
    exact Or.inl ⟨h₁, st', h₂', rfl, hun, hdel⟩

/-- The stage goes with the history: who has timed out, and who was in time.  A stage by itself does
    not remember how it was reached. -/
structure Told (hist : History C) (g : Stage) : Prop where
  firedB : g = .timedOut ∨ g = .dead → ¬ Unfired .b hist
  firedA : g = .abandoned ∨ g = .left → ¬ Unfired .a hist
  heardB : InTime .b hist → g = .replied ∨ g = .up ∨ g = .left
  heardA : InTime .a hist → g = .up ∨ g = .timedOut ∨ g = .dead

namespace Stage

omit [DecidableEq C] in
/-- Who has timed out, one event later: the same, or whoever's watchdog this is.  By looking at all
    stages. -/
theorem next_fired (g : Stage) (e : Event C) :
    ((g.next e = timedOut ∨ g.next e = dead) → (g = timedOut ∨ g = dead) ∨ e = .watchdog .b) ∧
    ((g.next e = abandoned ∨ g.next e = left) →
      (g = abandoned ∨ g = left) ∨ e = .watchdog .a) := by
  cases e with
  | deliver i uuid during answers => cases g <;> cases i <;> simp [next, heard]
  | watchdog i => cases g <;> cases i <;> simp [next, fired]
  | broadcast i cast => exact ⟨Or.inl, Or.inl⟩
  | elsewhere i e => exact ⟨Or.inl, Or.inl⟩

omit [DecidableEq C] in
/-- Who was in time stays so.  No event leads back from a stage in which an end is past its
    IDENT. -/
theorem next_heard (g : Stage) (e : Event C) :
    (g = replied ∨ g = up ∨ g = left →
      g.next e = replied ∨ g.next e = up ∨ g.next e = left) ∧
    (g = up ∨ g = timedOut ∨ g = dead →
      g.next e = up ∨ g.next e = timedOut ∨ g.next e = dead) := by
  cases e with
  | deliver i uuid during answers => cases g <;> cases i <;> simp [next, heard]
  | watchdog i => cases g <;> cases i <;> simp [next, fired]
  | broadcast i cast => exact ⟨fun h => h, fun h => h⟩
  | elsewhere i e => exact ⟨fun h => h, fun h => h⟩

end Stage

omit [DecidableEq C] in
/-- The stage still goes with the history, one event later: `next_fired` for those who time out,
    `next_heard` and the front of the queue for those who are in time. -/
theorem told_step {X : Nodes C} {s s' : Pair C} {g : Stage} {hist : History C} {e : Event C}
    {out : List Frame} (h : Rel X s g) (htold : Told hist g) :
    Told (hist ++ [⟨s, e, s', out⟩]) (g.next e) := by
  refine ⟨fun hg hun => ?_, fun hg hun => ?_, fun hin => ?_, fun hin => ?_⟩
  · obtain ⟨hbefore, hne⟩ := unfired_snoc.mp hun
    rcases (Stage.next_fired g e).1 hg with hg | he
    · exact htold.firedB hg hbefore
    · exact hne he
  · obtain ⟨hbefore, hne⟩ := unfired_snoc.mp hun
    rcases (Stage.next_fired g e).2 hg with hg | he
    · exact htold.firedA hg hbefore
    · exact hne he
  · rcases inTime_snoc hin with hin | ⟨hun, uuid, during, answers, msgp, rest, he, -, -⟩
    · exact (Stage.next_heard g e).1 (htold.heardB hin)
    · -- the acceptor's watchdog is still to fire, so the IDENT is taken now or was before
      simp only at he
      subst he
      have hnot := mt htold.firedB (not_not_intro hun)
      cases g <;> simp [Stage.next, Stage.heard] at hnot ⊢
  · rcases inTime_snoc hin with hin | ⟨hun, uuid, during, answers, msgp, rest, he, hinbox, -⟩
    · exact (Stage.next_heard g e).2 (htold.heardA hin)
    · simp only at he hinbox
      subst he
      have hnot := mt htold.firedA (not_not_intro hun)
      have hfront := h.inbox .a
      cases g <;> simp [Stage.next, Stage.heard] at hnot ⊢
      -- a message for the dialler there cannot be before the acceptor has answered
      rw [hinbox] at hfront
      cases hfront

omit [DecidableEq C] in
/-- In every stage what arrives is welcome: nothing is turned away, and no other message comes
    before the IDENT. -/
theorem Rel.welcome {X : Nodes C} (hX : Honest X) {s s' : Pair C} {g : Stage} {e : Event C}
    {out : List Frame} (h : Rel X s g) : Welcome X ⟨s, e, s', out⟩ := by
  intro i uuid during answers msgp rest _ hinbox hopen hcbs
  simp only at hinbox hopen hcbs
  have hkeeps := h.ends i
  -- a callback is left on an open connection only while the end awaits its IDENT
  have hst : g.standing i = some .awaiting := by
    rcases hs : g.standing i with _ | _ | _ | _
    · rw [hs] at hkeeps
      exact absurd hkeeps.stands hcbs
    · rfl
    · rw [hs] at hkeeps
      exact absurd (hkeeps.shaken.ready hkeeps.stands.2.1) hcbs
    · rw [hs] at hkeeps
      exact absurd hopen hkeeps.stands.1
  have hstarts := h.inbox i
  rw [hinbox] at hstarts
  cases hfront : g.front i <;> rw [hfront] at hstarts
  case nothing => cases hstarts
  -- what comes first is the IDENT of the other end, and it passes
  case ident =>
    obtain ⟨guid, rest', hcons⟩ := hstarts
    obtain ⟨hmsg, -⟩ := List.cons.inj hcons
    obtain rfl := Frame.msg.inj hmsg
    exact ⟨rfl, h.passes hX hst guid⟩
  case close =>
    obtain ⟨rest', hcons⟩ := hstarts
    cases hcons
  case whatever => exact absurd hst (Stage.heard_whatever hfront).2.2

omit [DecidableEq C] in
/-- The dialler is ready in one stage only, in which the acceptor is too.  So the order of the two
    holds by looking at the stages. -/
theorem Rel.up_of_ready {X : Nodes C} {s : Pair C} {g : Stage} (h : Rel X s g)
    (hready : ((s.mesh .a).router.conn (X.conn .a)).ready = true) : g = .up := by
  have hstands := (h.ends .a).stands
  cases g
  case up => rfl
  case dialled => exact absurd hready (by rw [hstands.2.2.1]; decide)
  case replied => exact absurd hready (by rw [hstands.2.2.1]; decide)
  case timedOut => exact absurd hready (by rw [hstands.2.2.1]; decide)
  case abandoned => exact absurd hready (by rw [hstands.2]; decide)
  case left => exact absurd hready (by rw [hstands.2]; decide)
  case dead => exact absurd hready (by rw [hstands.2]; decide)

omit [DecidableEq C] in
/-- When the connection is up both ends are settled: open, ready, and with the other's name. -/
theorem Rel.settled {X : Nodes C} {s : Pair C} (h : Rel X s .up) (i : Side) :
    Settled X i (s.mesh i) := by
  have hkeeps := h.ends i
  obtain ⟨hopen, hready, hname⟩ := hkeeps.stands
  exact ⟨hopen, hready, hname, hkeeps.shaken.ready hready⟩

/-- After a run the two nodes are in a stage that goes with its history.  The simulation and the
    bookkeeping are one induction, as the second needs the first. -/
theorem rel_run {X : Nodes C} (hX : Honest X) {hist : History C} {s : Pair C}
    (hr : Runs.Run (step X) (Opened X) hist s) (hapart : ∀ st ∈ hist, Apart X st) :
    ∃ g, Rel X s g ∧ Told hist g ∧ ∀ st ∈ hist, Welcome X st := by
  refine Runs.Run.invariant (I := fun hist s => (∀ st ∈ hist, Apart X st) →
    ∃ g, Rel X s g ∧ Told hist g ∧ ∀ st ∈ hist, Welcome X st) ?_ ?_ hr hapart
  · rintro s h0 -
    have hnone : ∀ i, ¬ InTime i ([] : History C) := by
      rintro i ⟨h₁, st, h₂, heq, -⟩
      simp at heq
    refine ⟨.dialled, rel_opened hX h0, ⟨?_, ?_, fun hin => absurd hin (hnone _),
      fun hin => absurd hin (hnone _)⟩, fun st hst => by cases hst⟩
    · rintro (hg | hg) <;> cases hg
    · rintro (hg | hg) <;> cases hg
  · intro hist s e s' out _ ih hok hapart
    obtain ⟨g, hrel, htold, hwelcome⟩ := ih fun st hst => hapart st (List.mem_append_left _ hst)
    refine ⟨g.next e, rel_step hX hrel hok (hapart _ (by simp)), told_step hrel htold, ?_⟩
    intro st hst
    rcases List.mem_append.mp hst with hst | hst
    · exact hwelcome st hst
    · rw [List.mem_singleton.mp hst]
      exact hrel.welcome hX

/-- **The two nodes agree, in every run.**  All three parts are read off the stage that the run has
    led to. -/
theorem handshake_agreement (X : Nodes C) (hX : Honest X) (hist : History C) (s : Pair C)
    (hr : Runs.Run (step X) (Opened X) hist s) (hapart : ∀ st ∈ hist, Apart X st) :
    Agreement X hist s := by
  obtain ⟨g, hrel, htold, hwelcome⟩ := rel_run hX hr hapart
  refine ⟨hwelcome, fun hready => ?_, fun hin => ?_⟩
  · have hup := hrel.up_of_ready hready
    subst hup
    exact (hrel.settled .b).ready
  · have hb := htold.heardB (hin .b)
    have ha := htold.heardA (hin .a)
    have hup : g = .up := by
      rcases hb with rfl | rfl | rfl
      · simp at ha
      · rfl
      · simp at ha
    subst hup
    exact hrel.settled

/-- A codec for Bob's advert and the two IDENTs. -/
def greetingJson : JsonSpirit := .ofTexts [
  ("\x7b\"playdar-greynet\":\"0.2\",\"peer_ip\":\"2.2.2.2\",\"peer_port\":1,\"cookie\":\"k\"\x7d",
    .obj [("playdar-greynet", .str "0.2"), ("peer_ip", .str "2.2.2.2"), ("peer_port", .int 1),
      ("cookie", .str "k")]),
  ("\x7b\"name\":\"alice\",\"cookie\":\"k\"\x7d",
    .obj [("name", .str "alice"), ("cookie", .str "k")]),
  ("\x7b\"name\":\"bob\"\x7d", .obj [("name", .str "bob")])]

/-- Alice dials Bob; both call the connection 0.  She has no public address and he has one, so it is
    he who advertises. -/
def aliceCallsBob : Nodes Nat where
  host
    | .a => ⟨greetingJson, .table, .plain, fun _ => some 0, "alice", "", 1⟩
    | .b => ⟨greetingJson, .table, .plain, fun _ => some 0, "bob", "2.2.2.2", 1⟩
  conn _ := 0
  cookie := "k"

/-- Bob's advert. -/
def bobAdvert : String :=
  greetingJson.writeFormatted (Mesh.advertObject (aliceCallsBob.host .b) "k")

/-- Bob has heard of Alice, and she has his advert. -/
def greeted : Side → Mesh Nat
  | .a => Runs.after (Mesh.step (aliceCallsBob.host .a)) .empty [.jabberMsgReceived bobAdvert "bob"]
  | .b => Runs.after (Mesh.step (aliceCallsBob.host .b)) .empty [.jabberNewPeer "alice" "k"]

/-- The connection is made, and her IDENT is on its way. -/
def calling : Pair Nat where
  mesh
    | .a => Runs.after (Mesh.step (aliceCallsBob.host .a)) (greeted .a)
        [.newOutgoingConnection 0 0 "1"]
    | .b => Runs.after (Mesh.step (aliceCallsBob.host .b)) (greeted .b) [.newIncomingConnection 0]
  inbox
    | .a => []
    | .b => [.msg (identMessage (identText aliceCallsBob .a) "1")]

/-- Bob broadcasts too early, and again from within `expect_ident`, when he is just ready.  The
    first reaches nobody, and the second comes behind his IDENT. -/
def greeting : List (Event Nat) :=
  [.broadcast .b ⟨pingMessage "2", none⟩,
    .deliver .b "3" [[], [], [], [⟨pingMessage "4", none⟩]] [],
    .elsewhere .a (.newIncomingConnection 5),
    .deliver .a "6" [] [],
    .deliver .a "7" [] [pongMessage "8"],
    .watchdog .b,
    .deliver .b "9" [] [],
    .watchdog .a]

/-- It is made from an advert, as it should be. -/
theorem opened_calling : Opened aliceCallsBob calling := by
  refine ⟨greeted, 0, "1", _, _, ?_, rfl, rfl, rfl, rfl⟩
  exact acquainted_of_advert (m := fun _ => .empty) rfl rfl rfl
    (fun _ => List.not_mem_nil) fun _ c hc => absurd hc List.not_mem_nil

/-- The two read each other's IDENTs. -/
theorem honest_aliceCallsBob : Honest aliceCallsBob :=
  ⟨by decide, fun i => by cases i <;> rfl⟩

/-- Both are settled after it, the early broadcast and all.  The watchdogs fire at the end of it,
    and find two ready connections. -/
theorem settled_greeting :
    Settled aliceCallsBob .a ((Runs.after (step aliceCallsBob) calling greeting).mesh .a) ∧
    Settled aliceCallsBob .b ((Runs.after (step aliceCallsBob) calling greeting).mesh .b) := by
  have height : Runs.trace (step aliceCallsBob) calling greeting =
      [⟨_, .broadcast .b ⟨pingMessage "2", none⟩, _, _⟩,
        ⟨_, .deliver .b "3" [[], [], [], [⟨pingMessage "4", none⟩]] [], _, _⟩,
        ⟨_, .elsewhere .a (.newIncomingConnection 5), _, _⟩,
        ⟨_, .deliver .a "6" [] [], _, _⟩,
        ⟨_, .deliver .a "7" [] [pongMessage "8"], _, _⟩,
        ⟨_, .watchdog .b, _, _⟩,
        ⟨_, .deliver .b "9" [] [], _, _⟩,
        ⟨_, .watchdog .a, _, _⟩] := rfl
  suffices hall : ∀ i, Settled aliceCallsBob i
      ((Runs.after (step aliceCallsBob) calling greeting).mesh i) from ⟨hall .a, hall .b⟩
  refine (handshake_agreement aliceCallsBob honest_aliceCallsBob _ _
    (Runs.run_trace greeting opened_calling) ?_).settled ?_
  · have hevents : ∀ i e, Event.elsewhere i e ∈ greeting → e = .newIncomingConnection 5 := by
      intro i e he
      have hone : i = .a ∧ e = .newIncomingConnection 5 := by simpa [greeting] using he
      exact hone.2
    intro st hst
    refine ⟨fun i e he => ?_, ?_⟩
    · rw [hevents i e (Runs.mem_of_event hst he)]
      exact id
    · -- no other connection has a name
      rw [height] at hst
      simp only [List.mem_cons, List.not_mem_nil, or_false] at hst
      intro i
      rcases hst with rfl | rfl | rfl | rfl | rfl | rfl | rfl | rfl <;> cases i <;> decide
  · rw [height]
    intro i
    cases i with
    | a =>
      refine ⟨[_, _, _], _, _, rfl, fun st hst => ?_, _, _, _, _, _, rfl, rfl, rfl⟩
      simp only [List.mem_cons, List.not_mem_nil, or_false] at hst
      rcases hst with rfl | rfl | rfl <;> simp
    | b =>
      refine ⟨[_], _, _, rfl, fun st hst => ?_, _, _, _, _, _, rfl, rfl, rfl⟩
      rw [List.mem_singleton.mp hst]
      simp

end Handshake

end Greynet
