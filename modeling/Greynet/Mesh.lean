/-
  Forming the mesh: XMPP adverts, dialling, and the IDENT handshake.

  Source: `greynet.cpp`, from `connect_to_peer` to `send_ident`.

  Over XMPP a node tells a friend its ip, port and a fresh COOKIE (`jabber_new_peer`), and
  remembers whom the cookie was for in `m_peer_cookies`.  The friend dials
  (`jabber_msg_received`, `connect_to_peer`), opens the connection with an IDENT carrying its name
  and that cookie, and gets an IDENT back.  Both ends keep `expect_ident` on top of the
  connection's callbacks until then.

  1. `Host` — the libraries and the settings of one running plugin; `Mesh` — its state.
  2. One function for each method of the source.
  3. `Mesh.step` — every event that reaches these methods.  A message on a connection whose
     callback has been popped is `message_received`'s, which does nothing here
     (`Greynet.Node` has the rest of it).
  4. `Does` — what a step can do, said once; `Effect` — what that means for the connections;
     `expectIdent_cases` — when an IDENT passes.
  5. `Handshaken` — every connection object, in every state: one callback until it is ready.
-/
import Greynet.Lib.Runs
import Greynet.Router

namespace Greynet

variable {C : Type}

/-- What one running plugin is given: its libraries and its settings.  None of these changes once
    the bot has logged in, so they are arguments of every function and no part of the state. -/
structure Host (C : Type) where
  js : JsonSpirit
  lib : Libf2f C
  playdar : Playdar
  /-- `address_v4::from_string`: `none` where it throws -/
  addressFromString : String → Option Nat
  /-- `m_jbot->jid()` -/
  jid : String
  /-- `m_publicip` -/
  publicIp : String
  /-- `m_port` -/
  port : Nat

/-- A connection asked of `connect_to_remote` and not there yet, with the properties it will have.
    It may come up, or fail, or stay pending for ever. -/
structure Dial where
  ip : Nat
  port : Nat
  props : List (String × String)
  deriving DecidableEq, Repr

/-- The properties a new connection starts with; one that is not set is the empty string, which is
    what `Connection::get` answers. -/
def Dial.get (d : Dial) (key : String) : String :=
  match d.props.find? fun p => p.1 = key with
  | some p => p.2
  | none => ""

/-- `m_router`, `m_peer_cookies` and the pending dials.  The map from cookies to JIDs is the
    plugin's only memory of whom it has told how to connect. -/
structure Mesh (C : Type) where
  router : Router C
  peerCookies : String → Option String
  dialling : List Dial

/-! ## The fields of an IDENT

  Read as `expect_ident` reads them, for the statements; the handler itself has its own body
  below. -/

/-- The object in an IDENT's payload, as a map.  Of a key that occurs twice the last value counts,
    since `obj_to_map` assigns in the order of the object. -/
def identMap (js : JsonSpirit) (msgp : Message) : Option (String → Option Value) :=
  match js.read msgp.payload with
  | some (.obj o) => some (objToMap o)
  | _ => none

/-- The string under `"name"` of an IDENT, if it is one and has one. -/
def identName (js : JsonSpirit) (msgp : Message) : Option String :=
  if msgp.type = .ident then (identMap js msgp).bind fun m => strField m "name" else none

/-- The string under `"cookie"` of an IDENT.  The dialler puts it there, and an acceptor's reply has
    none. -/
def identCookie (js : JsonSpirit) (msgp : Message) : Option String :=
  if msgp.type = .ident then (identMap js msgp).bind fun m => strField m "cookie" else none

namespace Mesh

variable [DecidableEq C]

/-- A node that has just been started: no connection, no cookie, no dial.  Nobody can be let in
    yet. -/
def empty : Mesh C := ⟨.empty, fun _ => none, []⟩

/-! ## Adverts and dialling -/

/-- `connect_to_peer` with properties; `from_string` may throw, and then nothing is dialled and the
    exception goes to whoever called. -/
def connectToPeer (h : Host C) (m : Mesh C) (remoteIp : String) (remotePort : Nat)
    (props : List (String × String)) : Except Fault (Mesh C × List (Action C)) :=
  match h.addressFromString remoteIp with
  | none => .error .exception
  | some ip =>
    .ok ({ m with dialling := m.dialling ++ [⟨ip, remotePort, props⟩] },
      [.connectToRemote ip remotePort props])

/-- `jabber_msg_received`.  The port is an `int` cut down to an `unsigned short` at the call of
    `connect_to_peer`. -/
def jabberMsgReceived (h : Host C) (m : Mesh C) (msg jid : String) :
    Except Fault (Mesh C × List (Action C)) :=
  match h.js.read msg with
  | some (.obj o) =>
    match objToMap o "playdar-greynet", objToMap o "peer_ip", objToMap o "peer_port",
      objToMap o "cookie" with
    | some (.str _), some (.str peerip), some (.int peerport), some (.str cookie) =>
      m.connectToPeer h peerip (peerport % 65536).toNat [("cookie", cookie), ("jid", jid)]
    | _, _, _, _ => .ok (m, [])
  | _ => .ok (m, [])

/-- The advert `jabber_new_peer` sends: a version, where to dial, and the cookie to show there. -/
def advertObject (h : Host C) (cookie : String) : Value :=
  .obj [("playdar-greynet", .str "0.2"), ("peer_ip", .str h.publicIp),
    ("peer_port", .int h.port), ("cookie", .str cookie)]

/-- `jabber_new_peer`; `cookie` is what `gen_uuid` answers.  The three reasons not to advertise are
    in the order of the source: it is us, we cannot be dialled, we are connected already. -/
def jabberNewPeer (h : Host C) (m : Mesh C) (jid cookie : String) : Mesh C × List (Action C) :=
  if jid = h.jid then (m, [])
  else if h.publicIp = "" then (m, [])
  else if h.lib.hasConnection m.router jid then (m, [])
  else
    ({ m with peerCookies := Function.update m.peerCookies cookie (some jid) },
     [.sendTo jid (h.js.writeFormatted (advertObject h cookie))])

/-! ## The handshake

  `new_incoming_connection` and `new_outgoing_connection` push `expect_ident` on the connection's
  callbacks, bound to which of the two it was; `expect_ident` pops it. -/

/-- The object `send_ident` writes: our JID, and the cookie the connection holds if there is one. -/
def identObject (h : Host C) (x : Connection) : Value :=
  .obj (("name", .str h.jid) ::
    if x.get "cookie" ≠ "" then [("cookie", .str (x.get "cookie"))] else [])

/-- `send_ident`: our name, and the cookie if the connection has one.  The dialler's connection has
    the cookie of the advert; the acceptor clears the property before it answers. -/
def sendIdent (h : Host C) (m : Mesh C) (conn : C) (uuid : String) : List (Action C) :=
  [.asyncWrite conn (identMessage (h.js.write (identObject h (m.router.conn conn))) uuid)]

/-- `new_incoming_connection`, on a connection libf2f has just made.  Nothing is sent: the one who
    has dialled speaks first. -/
def newIncomingConnection (m : Mesh C) (conn : C) : Mesh C × List (Action C) :=
  ({ m with
    router := (m.router.add conn {}).modify conn fun x => x.pushMessageReceivedCb true }, [])

/-- `new_outgoing_connection`, on a connection libf2f has just made for the dial `d`.  Our IDENT is
    sent at once, before anything can come in. -/
def newOutgoingConnection (h : Host C) (m : Mesh C) (conn : C) (d : Dial) (uuid : String) :
    Mesh C × List (Action C) :=
  let m₁ : Mesh C := { m with
    router := (m.router.add conn { props := d.get }).modify conn fun x =>
      x.pushMessageReceivedCb false }
  (m₁, m₁.sendIdent h conn uuid)

/-- `new_connection_timeout`: a connection that is not ready is closed, whatever the error code of
    the timer, which the source does not look at. -/
def newConnectionTimeout (m : Mesh C) (conn : C) : Mesh C × List (Action C) :=
  if (m.router.conn conn).ready then (m, [])
  else ({ m with router := m.router.fin conn }, [.fin conn])

/-- `conn->fin(); return;`, which is what every check of `expect_ident` ends in when it fails. -/
def refuse (m : Mesh C) (conn : C) : Mesh C × List (Action C) :=
  ({ m with router := m.router.fin conn }, [.fin conn])

/-- The end of `expect_ident`: the callback goes, the connection is ready and has its name, in that
    order (`greynet.cpp` 387-389). -/
def setReady (m : Mesh C) (conn : C) (name : String) : Mesh C :=
  { m with
    router := m.router.modify conn fun x => (x.popMessageReceivedCb.setReady true).setName name }

/-- `expect_ident`, check by check and in their order.  The name the IDENT gives is compared with
    the names of the connections there are, and with nothing else. -/
def expectIdent (h : Host C) (m : Mesh C) (msgp : Message) (conn : C) (incoming : Bool)
    (uuid : String) : Mesh C × List (Action C) :=
  if msgp.type ≠ .ident then m.refuse conn
  else
    match h.js.read msgp.payload with
    | some (.obj o) =>
      match strField (objToMap o) "name" with
      | none => m.refuse conn
      | some name =>
        if h.lib.hasConnection m.router name then m.refuse conn
        else if incoming then
          match strField (objToMap o) "cookie" with
          | none => m.refuse conn
          | some cookie =>
            if cookie = "" ∨ m.peerCookies cookie = none then m.refuse conn
            else
              -- "nuke the cookie": the connection's property goes, the table keeps its entry
              let m₁ : Mesh C :=
                { m with router := m.router.modify conn fun x => x.set "cookie" "" }
              (m₁.setReady conn name, m₁.sendIdent h conn uuid)
        else (m.setReady conn name, [])
    | _ => m.refuse conn

/-! ## Every event

  What libf2f, gloox and the timers call, in any order. -/

/-- What reaches the mesh: the calls of the XMPP bot and of libf2f, the watchdogs, and connections
    that go. -/
inductive Event (C : Type) where
  | jabberMsgReceived (msg jid : String)
  | jabberNewPeer (jid cookie : String)
  /-- `connect_to_peer` without properties, or the web interface's form -/
  | connectToPeer (ip : String) (port : Nat)
  | dialFailed (i : Nat)
  | newIncomingConnection (conn : C)
  | newOutgoingConnection (conn : C) (i : Nat) (uuid : String)
  /-- libf2f delivers a message -/
  | received (conn : C) (msgp : Message) (uuid : String)
  | newConnectionTimeout (conn : C)
  /-- the other end, or a handler of `message_received`, closes the connection -/
  | closed (conn : C)
  /-- the last `shared_ptr` to a closed connection goes -/
  | released (conn : C)

/-- The next state and the actions; an event that cannot happen yet changes nothing.  A connection
    comes up only once, and an outgoing one only for a dial that is pending. -/
def step (h : Host C) (m : Mesh C) : Event C → Except Fault (Mesh C × List (Action C))
  | .jabberMsgReceived msg jid => m.jabberMsgReceived h msg jid
  | .jabberNewPeer jid cookie => .ok (m.jabberNewPeer h jid cookie)
  | .connectToPeer ip port => m.connectToPeer h ip port []
  | .dialFailed i => .ok ({ m with dialling := m.dialling.eraseIdx i }, [])
  | .newIncomingConnection conn =>
    if conn ∈ m.router.known then .ok (m, []) else .ok (m.newIncomingConnection conn)
  | .newOutgoingConnection conn i uuid =>
    match m.dialling[i]? with
    | none => .ok (m, [])
    | some d =>
      if conn ∈ m.router.known then .ok (m, [])
      else
        .ok (newOutgoingConnection h { m with dialling := m.dialling.eraseIdx i } conn d uuid)
  | .received conn msgp uuid =>
    if conn ∈ m.router.connections then
      match (m.router.conn conn).messageReceivedCbs with
      | incoming :: _ => .ok (m.expectIdent h msgp conn incoming uuid)
      | [] => .ok (m, [])
    else .ok (m, [])
  | .newConnectionTimeout conn => .ok (m.newConnectionTimeout conn)
  | .closed conn => .ok ({ m with router := m.router.fin conn }, [])
  | .released conn =>
    if conn ∈ m.router.connections ∨ conn ∉ m.router.known then .ok (m, [])
    else .ok ({ m with router := m.router.release conn }, [])

/-! ## When an IDENT passes

  The checks of `expect_ident` said at once, with what each of them reads. -/

/-- The checks of `expect_ident`, passed under `name`.  That the cookie is in the table is asked of
    an incoming connection only, and whose cookie it is is not asked at all. -/
structure Passes (h : Host C) (m : Mesh C) (msgp : Message) (incoming : Bool) (name : String) :
    Prop where
  named : identName h.js msgp = some name
  free : h.lib.hasConnection m.router name = false
  cookie : incoming = true →
    ∃ k, identCookie h.js msgp = some k ∧ k ≠ "" ∧ m.peerCookies k ≠ none

/-- The connection after its IDENT has passed.  On an incoming one the property `"cookie"` is
    cleared; the table is another matter. -/
def identified (incoming : Bool) (name : String) (x : Connection) : Connection :=
  ((if incoming then x.set "cookie" "" else x).popMessageReceivedCb.setReady true).setName name

/-- An incoming connection is answered with our IDENT, which carries no cookie; an outgoing one has
    had ours already. -/
def identReply (h : Host C) (conn : C) (incoming : Bool) (uuid : String) : List (Action C) :=
  if incoming then
    [.asyncWrite conn (identMessage (h.js.write (.obj [("name", .str h.jid)])) uuid)]
  else []

/-- **`expect_ident` accepts exactly what passes, and otherwise closes the connection.**  The proof
    goes through the checks in their order, and every one that fails ends in the same `refuse`. -/
theorem expectIdent_cases (h : Host C) (m : Mesh C) (msgp : Message) (conn : C) (incoming : Bool)
    (uuid : String) :
    (∃ name, Passes h m msgp incoming name ∧
      m.expectIdent h msgp conn incoming uuid =
        ({ m with router := m.router.modify conn (identified incoming name) },
         identReply h conn incoming uuid)) ∨
    ((∀ name, ¬ Passes h m msgp incoming name) ∧
      m.expectIdent h msgp conn incoming uuid = m.refuse conn) := by
  unfold expectIdent
  by_cases htype : msgp.type = .ident
  · rw [if_neg (not_not_intro htype)]
    split
    · rename_i o hread
      have hmap : identMap h.js msgp = some (objToMap o) := by
        unfold identMap
        rw [hread]
      have hname : identName h.js msgp = strField (objToMap o) "name" := by
        rw [identName, if_pos htype, hmap]
        rfl
      have hcookie : identCookie h.js msgp = strField (objToMap o) "cookie" := by
        rw [identCookie, if_pos htype, hmap]
        rfl
      split
      · rename_i hnone
        refine Or.inr ⟨fun name hp => ?_, rfl⟩
        have := hp.named
        rw [hname, hnone] at this
        cases this
      · rename_i name hsome
        -- the order is the source's: the name, then whether it is taken, then the cookie
        by_cases hfree : h.lib.hasConnection m.router name = true
        · rw [if_pos hfree]
          refine Or.inr ⟨fun name' hp => ?_, rfl⟩
          have hn := hp.named
          rw [hname, hsome] at hn
          obtain rfl := Option.some.inj hn
          rw [hp.free] at hfree
          cases hfree
        · rw [if_neg hfree]
          have hfree' : h.lib.hasConnection m.router name = false := by simpa using hfree
          cases incoming with
          -- the dialler has no cookie to check
          | false =>
            exact Or.inl ⟨name, ⟨hname.trans hsome, hfree', fun hi => by cases hi⟩, rfl⟩
          | true =>
            rw [if_pos rfl]
            split
            · rename_i hnone
              refine Or.inr ⟨fun name' hp => ?_, rfl⟩
              obtain ⟨k, hk, -⟩ := hp.cookie rfl
              rw [hcookie, hnone] at hk
              cases hk
            · rename_i cookie hck
              by_cases hbad : cookie = "" ∨ m.peerCookies cookie = none
              · rw [if_pos hbad]
                refine Or.inr ⟨fun name' hp => ?_, rfl⟩
                obtain ⟨k, hk, hne, hin⟩ := hp.cookie rfl
                rw [hcookie, hck] at hk
                obtain rfl := Option.some.inj hk
                rcases hbad with hbad | hbad
                · exact hne hbad
                · exact hin hbad
              · rw [if_neg hbad]
                rw [not_or] at hbad
                refine Or.inl ⟨name, ⟨hname.trans hsome, hfree', fun _ =>
                  ⟨cookie, hcookie.trans hck, hbad⟩⟩, ?_⟩
                simp only [setReady, sendIdent, identReply, if_true, Router.modify_conn_self,
                  identObject, Connection.get, Connection.set, Function.update_self, ne_eq,
                  not_true_eq_false, if_false]
                simp only [Router.modify, Function.update_self, Function.update_idem, identified,
                  if_true, Connection.set]
    · -- the payload is no JSON object, so there is no name to read in it
      rename_i hread
      refine Or.inr ⟨fun name hp => ?_, rfl⟩
      have hn := hp.named
      have hmap : identMap h.js msgp = none := by
        unfold identMap
        split
        · rename_i o ho
          exact absurd ho (hread o)
        · rfl
      rw [identName, if_pos htype, hmap] at hn
      cases hn
  · rw [if_pos htype]
    refine Or.inr ⟨fun name hp => ?_, rfl⟩
    have hn := hp.named
    rw [identName, if_neg htype] at hn
    cases hn

/-! ## What a step can do -/

/-- The connection an event opens; with the dial it answers if it is an outgoing one.  This is the
    one place where it is said which events open a connection, and when they do. -/
def opens (m : Mesh C) : Event C → Option (C × Option Dial)
  | .newIncomingConnection conn => if conn ∈ m.router.known then none else some (conn, none)
  | .newOutgoingConnection conn i _ =>
    match m.dialling[i]? with
    | none => none
    | some d => if conn ∈ m.router.known then none else some (conn, some d)
  | _ => none

/-- A connection just opened: `expect_ident` is on top, bound to whether it is incoming, and the
    properties are those of the dial. -/
def fresh : Option Dial → Connection
  | none => { messageReceivedCbs := [true] }
  | some d => { props := d.get, messageReceivedCbs := [false] }

/-- What a step does, to the state and to the outside: one way for each branch it can take.  The
    guards of the branch are in the constructor, since some of the proofs need them. -/
inductive Does (h : Host C) (m : Mesh C) (e : Event C) : Mesh C → List (Action C) → Prop
  /-- nothing comes of the event -/
  | idle (ho : m.opens e = none) : Does h m e m []
  | issues (jid cookie body : String) (he : e = .jabberNewPeer jid cookie) :
    Does h m e { m with peerCookies := Function.update m.peerCookies cookie (some jid) }
      [.sendTo jid body]
  | dials (d : Dial) (ho : m.opens e = none)
      (hwhy : d.props = [] ∨ ∃ msg jid cookie, e = .jabberMsgReceived msg jid ∧
        d.props = [("cookie", cookie), ("jid", jid)]) :
    Does h m e { m with dialling := m.dialling ++ [d] } [.connectToRemote d.ip d.port d.props]
  | fails (i : Nat) (he : e = .dialFailed i) :
    Does h m e { m with dialling := m.dialling.eraseIdx i } []
  /-- a connection is opened; what goes out goes out on it -/
  | opened (conn : C) (o : Option Dial) (m' : Mesh C) (out : List (Action C))
      (ho : m.opens e = some (conn, o)) (hrouter : m'.router = m.router.add conn (fresh o))
      (hcookies : m'.peerCookies = m.peerCookies) (hdial : ∀ d ∈ m'.dialling, d ∈ m.dialling)
      (hout : ∀ act ∈ out, ∃ msg, act = .asyncWrite conn msg) : Does h m e m' out
  /-- an IDENT passes -/
  | accepts (conn : C) (msgp : Message) (uuid : String) (incoming : Bool) (cbs : List Bool)
      (name : String) (he : e = .received conn msgp uuid) (hopen : conn ∈ m.router.connections)
      (hcbs : (m.router.conn conn).messageReceivedCbs = incoming :: cbs)
      (hp : Passes h m msgp incoming name) :
    Does h m e { m with router := m.router.modify conn (identified incoming name) }
      (identReply h conn incoming uuid)
  | closes (conn : C) (out : List (Action C))
      (he : e = .closed conn ∨ e = .newConnectionTimeout conn ∨
        ∃ msgp uuid, e = .received conn msgp uuid)
      (hout : out = [] ∨ out = [.fin conn]) :
    Does h m e { m with router := m.router.fin conn } out
  | releases (conn : C) (he : e = .released conn) (hclosed : conn ∉ m.router.connections)
      (hknown : conn ∈ m.router.known) :
    Does h m e { m with router := m.router.release conn } []

/-- The effect of a step on the connection objects, the cookie table and the pending dials.  It is
    coarser than `Does`: what is sent is left out where no invariant speaks of it. -/
inductive Effect (h : Host C) (m : Mesh C) (e : Event C) (m' : Mesh C) (out : List (Action C)) :
    Prop
  /-- a cookie is issued and advertised -/
  | issues (jid cookie body : String) (he : e = .jabberNewPeer jid cookie)
      (hout : out = [.sendTo jid body])
      (hm : m' = { m with peerCookies := Function.update m.peerCookies cookie (some jid) })
  | opened (conn : C) (o : Option Dial) (ho : m.opens e = some (conn, o))
      (hrouter : m'.router = m.router.add conn (fresh o))
      (hcookies : m'.peerCookies = m.peerCookies)
      (hdial : ∀ d ∈ m'.dialling, d ∈ m.dialling)
  /-- an IDENT passes -/
  | accepts (conn : C) (msgp : Message) (uuid : String) (incoming : Bool) (cbs : List Bool)
      (name : String) (he : e = .received conn msgp uuid) (hopen : conn ∈ m.router.connections)
      (hcbs : (m.router.conn conn).messageReceivedCbs = incoming :: cbs)
      (hp : Passes h m msgp incoming name)
      (hm : m' = { m with router := m.router.modify conn (identified incoming name) })
  /-- anything else: connections may close, and dials come and go -/
  | keeps (ho : m.opens e = none) (hconn : m'.router.conn = m.router.conn)
      (hknown : m'.router.known = m.router.known) (hcookies : m'.peerCookies = m.peerCookies)
      (hdial : ∀ d ∈ m'.dialling, d ∈ m.dialling ∨ d.props = [] ∨
        ∃ msg jid cookie, e = .jabberMsgReceived msg jid ∧
          d.props = [("cookie", cookie), ("jid", jid)] ∧
          Action.connectToRemote d.ip d.port d.props ∈ out)

/-- A connection opened is a new one, and a dial answered was pending.  New means that the router
    has never had it before, open or closed. -/
theorem opens_some {m : Mesh C} {e : Event C} {conn : C} {o : Option Dial}
    (ho : m.opens e = some (conn, o)) :
    conn ∉ m.router.known ∧ ∀ d, o = some d → d ∈ m.dialling := by
  cases e with
  | newIncomingConnection c =>
    rw [opens] at ho
    split at ho
    · cases ho
    · rename_i hnew
      obtain ⟨rfl, rfl⟩ := Prod.mk.inj (Option.some.inj ho)
      exact ⟨hnew, fun d hd => by cases hd⟩
  | newOutgoingConnection c i uuid =>
    simp only [opens] at ho
    split at ho
    · cases ho
    · rename_i d hd
      split at ho
      · cases ho
      · rename_i hnew
        obtain ⟨rfl, rfl⟩ := Prod.mk.inj (Option.some.inj ho)
        refine ⟨hnew, fun d' hd' => ?_⟩
        obtain rfl := Option.some.inj hd'
        exact List.mem_of_getElem? hd
  | _ => cases ho

omit [DecidableEq C] in
/-- Dialling adds at most the dial asked for, and asks the router for a connection. -/
theorem connectToPeer_ok {h : Host C} {m m' : Mesh C} {ip : String} {port : Nat}
    {props : List (String × String)} {out : List (Action C)}
    (hok : m.connectToPeer h ip port props = .ok (m', out)) :
    ∃ n, m' = { m with dialling := m.dialling ++ [⟨n, port, props⟩] } ∧
      out = [.connectToRemote n port props] := by
  unfold connectToPeer at hok
  cases hip : h.addressFromString ip with
  | none =>
    rw [hip] at hok
    cases hok
  | some n =>
    rw [hip] at hok
    obtain ⟨rfl, rfl⟩ := Prod.mk.inj (Except.ok.inj hok)
    exact ⟨n, rfl, rfl⟩

/-- **Every step does one of these things.**  A case for each event, and `expectIdent_cases` in the
    one of a message. -/
theorem step_does {h : Host C} {m m' : Mesh C} {e : Event C} {out : List (Action C)}
    (hok : step h m e = .ok (m', out)) : Does h m e m' out := by
  cases e with
  | jabberMsgReceived msg jid =>
    simp only [step, jabberMsgReceived] at hok
    split at hok
    · split at hok
      · rename_i cookie _ _ _ _
        obtain ⟨n, rfl, rfl⟩ := connectToPeer_ok hok
        exact .dials ⟨n, _, _⟩ rfl (Or.inr ⟨msg, jid, cookie, rfl, rfl⟩)
      · obtain ⟨rfl, rfl⟩ := Prod.mk.inj (Except.ok.inj hok)
        exact .idle rfl
    · obtain ⟨rfl, rfl⟩ := Prod.mk.inj (Except.ok.inj hok)
      exact .idle rfl
  | jabberNewPeer jid cookie =>
    simp only [step, jabberNewPeer] at hok
    split at hok
    · obtain ⟨rfl, rfl⟩ := Prod.mk.inj (Except.ok.inj hok)
      exact .idle rfl
    · split at hok
      · obtain ⟨rfl, rfl⟩ := Prod.mk.inj (Except.ok.inj hok)
        exact .idle rfl
      · split at hok
        · obtain ⟨rfl, rfl⟩ := Prod.mk.inj (Except.ok.inj hok)
          exact .idle rfl
        · obtain ⟨rfl, rfl⟩ := Prod.mk.inj (Except.ok.inj hok)
          exact .issues jid cookie _ rfl
  | connectToPeer ip port =>
    obtain ⟨n, rfl, rfl⟩ := connectToPeer_ok hok
    exact .dials ⟨n, port, []⟩ rfl (Or.inl rfl)
  | dialFailed i =>
    obtain ⟨rfl, rfl⟩ := Prod.mk.inj (Except.ok.inj hok)
    exact .fails i rfl
  | newIncomingConnection conn =>
    simp only [step] at hok
    split at hok
    · -- the connection is open: nothing is new
      rename_i hknown
      obtain ⟨rfl, rfl⟩ := Prod.mk.inj (Except.ok.inj hok)
      exact .idle (by rw [opens, if_pos hknown])
    · rename_i hnew
      obtain ⟨rfl, rfl⟩ := Prod.mk.inj (Except.ok.inj hok)
      refine .opened conn none _ _ (by rw [opens, if_neg hnew]) ?_ rfl (fun _ hd => hd)
        fun act hact => by cases hact
      exact Router.add_modify m.router conn {} fun x => x.pushMessageReceivedCb true
  | newOutgoingConnection conn i uuid =>
    simp only [step] at hok
    split at hok
    · rename_i hd
      obtain ⟨rfl, rfl⟩ := Prod.mk.inj (Except.ok.inj hok)
      exact .idle (by simp only [opens, hd])
    · rename_i d hd
      split at hok
      · -- it cannot be opened twice, so the dial stays pending
        rename_i hknown
        obtain ⟨rfl, rfl⟩ := Prod.mk.inj (Except.ok.inj hok)
        exact .idle (by simp only [opens, hd, if_pos hknown])
      · rename_i hnew
        obtain ⟨rfl, rfl⟩ := Prod.mk.inj (Except.ok.inj hok)
        refine .opened conn (some d) _ _ (by simp only [opens, hd, if_neg hnew]) ?_ rfl
          (fun _ hd => List.mem_of_mem_eraseIdx hd) fun act hact => ⟨_, List.mem_singleton.mp hact⟩
        exact Router.add_modify m.router conn { props := d.get } fun x =>
          x.pushMessageReceivedCb false
  | received conn msgp uuid =>
    simp only [step] at hok
    split at hok
    · rename_i hopen
      split at hok
      · rename_i incoming cbs hcbs
        -- the IDENT passes, or the connection is closed; there is no third way
        rcases expectIdent_cases h m msgp conn incoming uuid with ⟨name, hp, heq⟩ | ⟨-, heq⟩
        · rw [heq] at hok
          obtain ⟨rfl, rfl⟩ := Prod.mk.inj (Except.ok.inj hok)
          exact .accepts conn msgp uuid incoming cbs name rfl hopen hcbs hp
        · rw [heq] at hok
          obtain ⟨rfl, rfl⟩ := Prod.mk.inj (Except.ok.inj hok)
          exact .closes conn _ (Or.inr (Or.inr ⟨msgp, uuid, rfl⟩)) (Or.inr rfl)
      · -- the IDENT callback is popped: what comes now is for the handlers above
        obtain ⟨rfl, rfl⟩ := Prod.mk.inj (Except.ok.inj hok)
        exact .idle rfl
    · obtain ⟨rfl, rfl⟩ := Prod.mk.inj (Except.ok.inj hok)
      exact .idle rfl
  | newConnectionTimeout conn =>
    simp only [step, newConnectionTimeout] at hok
    split at hok
    · obtain ⟨rfl, rfl⟩ := Prod.mk.inj (Except.ok.inj hok)
      exact .idle rfl
    · obtain ⟨rfl, rfl⟩ := Prod.mk.inj (Except.ok.inj hok)
      exact .closes conn _ (Or.inr (Or.inl rfl)) (Or.inr rfl)
  | closed conn =>
    obtain ⟨rfl, rfl⟩ := Prod.mk.inj (Except.ok.inj hok)
    exact .closes conn _ (Or.inl rfl) (Or.inl rfl)
  | released conn =>
    simp only [step] at hok
    split at hok
    · obtain ⟨rfl, rfl⟩ := Prod.mk.inj (Except.ok.inj hok)
      exact .idle rfl
    · rename_i hgone
      rw [not_or, not_not] at hgone
      obtain ⟨rfl, rfl⟩ := Prod.mk.inj (Except.ok.inj hok)
      exact .releases conn rfl hgone.1 hgone.2

/-- **Every step has one of four effects.**  A cookie is issued, a connection is opened, an IDENT
    passes, or the objects stay as they are and some dial or some openness may change. -/
theorem step_effect {h : Host C} {m m' : Mesh C} {e : Event C} {out : List (Action C)}
    (hok : step h m e = .ok (m', out)) : Effect h m e m' out := by
  cases step_does hok with
  | idle ho => exact .keeps ho rfl rfl rfl fun _ hd => Or.inl hd
  | issues jid cookie body he => exact .issues jid cookie body he rfl rfl
  | dials d ho hwhy =>
    refine .keeps ho rfl rfl rfl fun d' hd' => ?_
    rcases List.mem_append.mp hd' with hd' | hd'
    · exact Or.inl hd'
    · obtain rfl := List.mem_singleton.mp hd'
      rcases hwhy with hwhy | ⟨msg, jid, cookie, he, hprops⟩
      · exact Or.inr (Or.inl hwhy)
      · exact Or.inr (Or.inr ⟨msg, jid, cookie, he, hprops, List.mem_singleton.mpr rfl⟩)
  | fails i he =>
    subst he
    exact .keeps rfl rfl rfl rfl fun _ hd => Or.inl (List.mem_of_mem_eraseIdx hd)
  | opened conn o _ _ ho hrouter hcookies hdial => exact .opened conn o ho hrouter hcookies hdial
  | accepts conn msgp uuid incoming cbs name he hopen hcbs hp =>
    exact .accepts conn msgp uuid incoming cbs name he hopen hcbs hp rfl
  | closes conn _ he =>
    refine .keeps ?_ rfl rfl rfl fun _ hd => Or.inl hd
    rcases he with rfl | rfl | ⟨msgp, uuid, rfl⟩ <;> rfl
  | releases conn he =>
    subst he
    exact .keeps rfl rfl rfl rfl fun _ hd => Or.inl hd

omit [DecidableEq C] in
/-- The name an IDENT passes under is the one it carries, so there cannot be two. -/
theorem Passes.unique {h : Host C} {m : Mesh C} {msgp : Message} {incoming : Bool}
    {name name' : String} (hp : Passes h m msgp incoming name)
    (hp' : Passes h m msgp incoming name') : name = name' :=
  Option.some.inj (hp.named.symm.trans hp'.named)

/-- An IDENT delivered on a connection that awaits one: accepted if it passes, ... -/
theorem step_passes {h : Host C} {m : Mesh C} {msgp : Message} {conn : C} {incoming : Bool}
    {cbs : List Bool} {name : String} (uuid : String) (hopen : conn ∈ m.router.connections)
    (hcbs : (m.router.conn conn).messageReceivedCbs = incoming :: cbs)
    (hp : Passes h m msgp incoming name) :
    step h m (.received conn msgp uuid) =
      .ok ({ m with router := m.router.modify conn (identified incoming name) },
        identReply h conn incoming uuid) := by
  rw [step, if_pos hopen, hcbs]
  rcases expectIdent_cases h m msgp conn incoming uuid with ⟨name', hp', heq⟩ | ⟨hno, -⟩
  · obtain rfl := hp.unique hp'
    exact congrArg Except.ok heq
  · exact absurd hp (hno name)

/-- ... and if not, the connection is closed, and its object and the table stay as they were. -/
theorem step_refuses {h : Host C} {m : Mesh C} {msgp : Message} {conn : C} {incoming : Bool}
    {cbs : List Bool} (uuid : String) (hopen : conn ∈ m.router.connections)
    (hcbs : (m.router.conn conn).messageReceivedCbs = incoming :: cbs)
    (hno : ∀ name, ¬ Passes h m msgp incoming name) :
    step h m (.received conn msgp uuid) = .ok (m.refuse conn) := by
  rw [step, if_pos hopen, hcbs]
  rcases expectIdent_cases h m msgp conn incoming uuid with ⟨name', hp', -⟩ | ⟨-, heq⟩
  · exact absurd hp' (hno name')
  · exact congrArg Except.ok heq

/-! ## Ready connections

  The callback, the flag and the name of a connection change together, in one step of
  `expect_ident`, and none of them changes back. -/

/-- A connection has at most one callback, and none once it is ready; and it has a name only then.
    So a message goes to `expect_ident` or to the handlers, and never to both. -/
structure Handshaken (x : Connection) : Prop where
  atMostOne : x.messageReceivedCbs.length ≤ 1
  ready : x.ready = true → x.messageReceivedCbs = []
  named : x.name ≠ none → x.ready = true

/-- A new one has the callback and neither of the others. -/
theorem handshaken_fresh (o : Option Dial) : Handshaken (fresh o) := by
  cases o <;> exact ⟨Nat.le_refl _, fun hr => (by cases hr), fun hn => absurd rfl hn⟩

/-- Once its IDENT has passed it has the others: the one callback there was is popped. -/
theorem handshaken_identified {x : Connection} {incoming : Bool} {cbs : List Bool} {name : String}
    (hx : Handshaken x) (hcbs : x.messageReceivedCbs = incoming :: cbs) :
    Handshaken (identified incoming name x) := by
  have hone := hx.atMostOne
  rw [hcbs, List.length_cons] at hone
  have hnil : cbs = [] := List.eq_nil_of_length_eq_zero (by omega)
  have htail : (identified incoming name x).messageReceivedCbs = [] := by
    show (if incoming then x.set "cookie" "" else x).messageReceivedCbs.tail = []
    cases incoming <;> exact (congrArg List.tail hcbs).trans hnil
  exact ⟨by rw [htail]; exact Nat.zero_le _, fun _ => htail, fun _ => rfl⟩

/-- **The invariant of every connection object**, kept by each step. -/
theorem handshaken_step {h : Host C} {m m' : Mesh C} {e : Event C} {out : List (Action C)}
    (hm : ∀ c, Handshaken (m.router.conn c)) (hok : step h m e = .ok (m', out)) :
    ∀ c, Handshaken (m'.router.conn c) := by
  intro c
  cases step_effect hok with
  | issues jid cookie body he hout hm' =>
    rw [hm']
    exact hm c
  | opened conn o ho hrouter =>
    rw [hrouter]
    by_cases hc : c = conn
    · -- the new object, with the callback its opening pushed
      rw [hc, Router.add_conn_self]
      exact handshaken_fresh o
    · rw [Router.add_conn_ne _ _ hc]
      exact hm c
  | accepts conn msgp uuid incoming cbs name he hopen hcbs hp hm' =>
    rw [hm']
    by_cases hc : c = conn
    · rw [hc]
      show Handshaken ((m.router.modify conn (identified incoming name)).conn conn)
      rw [Router.modify_conn_self]
      exact handshaken_identified (hm conn) hcbs
    · show Handshaken ((m.router.modify conn (identified incoming name)).conn c)
      rw [Router.modify_conn_ne _ _ hc]
      exact hm c
  | keeps ho hconn =>
    rw [hconn]
    exact hm c

/-- So it holds in every state that a run reaches, of connections that have long been closed as
    well. -/
theorem handshaken_of_reachable {h : Host C} {m : Mesh C}
    (hr : Runs.Reachable (step h) (fun m₀ => m₀ = empty) m) (c : C) :
    Handshaken (m.router.conn c) :=
  hr.invariant (I := fun m => ∀ c, Handshaken (m.router.conn c))
    (fun _ h0 c => by rw [h0]; exact ⟨Nat.zero_le _, fun _ => rfl, fun hn => absurd rfl hn⟩)
    (fun _ _ _ _ hm hs => handshaken_step hm hs) c

end Mesh

end Greynet
