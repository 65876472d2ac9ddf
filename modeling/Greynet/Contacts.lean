/-
  The plugin with its bot, and whom it reveals its address to.

  Source: `greynet.cpp` (`jabber_start`), `jbot.cpp`.

  `jabber_start` sets two callbacks: for a new peer `jabber_new_peer`, which may send it the node's
  ip and port, and for a chat message `jabber_msg_received`, which may open a TCP connection to
  where the message says.  The README promises that only immediate friends get to know the address.

  1. `Node.step_discloses` — of all that the node does, only its mesh tells anybody where it is.
  2. `Plugin` — the bot and the node.  An event of gloox's runs its handler in the bot, and the
     calls this makes run in the node; in between anything may happen to the node.
  3. `Run.node` — so the node is always in a state it reaches by itself, and all that is proved of
     `Node` holds here.
  4. `discreet_iff` — an advert is sent to contacts only, but a message is acted upon whoever sends
     it: the promise is kept exactly in the runs where every advert received is from a contact.
-/
import Greynet.Adverts
import Greynet.Peers
import Greynet.QuerySteps

namespace Greynet

variable {C : Type} [LinearOrder C]

/-! ## What tells where we are

  Two actions: a chat message that the plugin sends, which is always its advert, and a TCP
  connection that it opens, for the other end sees where that comes from. -/

/-- Our ip and port go to somebody, or a connection of ours does.  What is written on a connection
    that is already there tells nobody anything new. -/
def Action.discloses : Action C → Bool
  | .sendTo _ _ | .connectToRemote _ _ _ => true
  | _ => false

omit [LinearOrder C] in
/-- An IDENT tells nobody new where we are: it may be answered, on the connection it came in on, and
    who is at the other end of that knows already. -/
theorem Mesh.received_discloses [DecidableEq C] {h : Host C} {m m' : Mesh C} {conn : C}
    {msgp : Message} {uuid : String} {out : List (Action C)}
    (hok : m.step h (.received conn msgp uuid) = .ok (m', out)) :
    ∀ a ∈ out, a.discloses = false := by
  have hnil : Except.ok (ε := Fault) (m, []) = .ok (m', out) → ∀ a ∈ out, a.discloses = false := by
    intro he a ha
    obtain ⟨-, rfl⟩ := Prod.mk.inj (Except.ok.inj he)
    cases ha
  simp only [step] at hok
  split at hok
  · split at hok
    · rename_i incoming _ _
      intro a ha
      rcases expectIdent_cases h m msgp conn incoming uuid with ⟨name, -, heq⟩ | ⟨-, heq⟩
      · rw [heq] at hok
        obtain ⟨-, rfl⟩ := Prod.mk.inj (Except.ok.inj hok)
        cases incoming with
        | true =>
          rw [List.mem_singleton.mp ha]
          rfl
        | false => cases ha
      · rw [heq] at hok
        obtain ⟨-, rfl⟩ := Prod.mk.inj (Except.ok.inj hok)
        rw [List.mem_singleton.mp ha]
        rfl
    · exact hnil hok
  · exact hnil hok

omit [LinearOrder C] in
/-- Neither does anything about a query, which goes to connections that are there, ... -/
theorem discloses_queries {a : Action C} (ha : Queries.Own a) : a.discloses = false := by
  cases a with
  | sendTo | connectToRemote => exact ha.elim
  | _ => rfl

omit [LinearOrder C] in
/-- ... or about a stream. -/
theorem discloses_transfers {a : Action C} (ha : Transfers.Own a) : a.discloses = false := by
  cases a with
  | sendTo | connectToRemote => exact ha.elim
  | _ => rfl

namespace Node

/-- So no message does, of whatever type: the mesh, the queries and the transfers are all there
    is. -/
theorem messageReceived_discloses {host : Host C} {n n' : Node C} {conn : C} {msgp : Message}
    {answer : SsAnswer} {uuid : String} {out : List (Action C)} (ht : n.transfers.Sound)
    (hok : n.messageReceived host conn msgp answer uuid = .ok (n', out)) :
    ∀ a ∈ out, a.discloses = false := by
  -- by the type: a handler of the queries or of the transfers, or a PONG
  have htransfers : ∀ te {t}, n.transfers.step te = .ok (t, out) → ∀ a ∈ out,
      a.discloses = false := fun _ _ hs a ha => discloses_transfers (Transfers.own_step ht hs a ha)
  unfold messageReceived at hok
  split at hok
  · rename_i hadm
    cases hty : msgp.type with
    | query | queryresult | querystop =>
      rw [hty] at hok
      obtain ⟨q, hs, -⟩ := onQueries_ok hok
      have hrec : n.queries.step host (.received n.mesh.router conn msgp) = .ok (q, out) := by
        simp only [Queries.step, Queries.received, if_pos hadm, hty]
        exact hs
      exact fun a ha => discloses_queries (Queries.own_of_effect (Queries.step_effect hrec) a ha)
    | sidrequest =>
      rw [hty] at hok
      have hnoted : ({ n with queries := n.queries.note msgp } : Node C).transfers.Sound := ht
      exact fun a ha => discloses_transfers (handleSidrequest_own hnoted hok a ha)
    | siddata =>
      rw [hty] at hok
      obtain ⟨t, hs, -⟩ := onTransfers_ok hok
      exact htransfers (.siddata conn msgp) hs
    | sidheaders =>
      rw [hty] at hok
      obtain ⟨t, hs, -⟩ := onTransfers_ok hok
      exact htransfers (.sidheaders conn msgp) hs
    | sidfail =>
      rw [hty] at hok
      obtain ⟨t, hs, -⟩ := onTransfers_ok hok
      exact htransfers (.sidfail conn msgp) hs
    | ping =>
      rw [hty] at hok
      obtain ⟨-, rfl⟩ := Prod.mk.inj (Except.ok.inj hok)
      intro a ha
      rw [List.mem_singleton.mp ha]
      rfl
    | pong | ident | unknown _ =>
      rw [hty] at hok
      obtain ⟨-, rfl⟩ := Prod.mk.inj (Except.ok.inj hok)
      intro a ha
      cases ha
  · obtain ⟨-, rfl⟩ := Prod.mk.inj (Except.ok.inj hok)
    intro a ha
    cases ha

/-- **Only the mesh tells where we are**, at an event of its own: a new peer, an advert, or a dial
    that somebody typed in. -/
theorem step_discloses {host : Host C} {n n' : Node C} {e : Event C} {out : List (Action C)}
    (ht : n.transfers.Sound) (hok : step host n e = .ok (n', out)) {a : Action C} (hin : a ∈ out)
    (ha : a.discloses = true) : ∃ me m, e = .mesh me ∧ n.mesh.step host me = .ok (m, out) := by
  -- any event but the mesh's would have to disclose something by a machine that does not
  have hquiet : a.discloses = false →
      ∃ me m, e = .mesh me ∧ n.mesh.step host me = .ok (m, out) := by
    intro hno
    rw [hno] at ha
    cases ha
  have hqueries : ∀ qe, n.onQueries (n.queries.step host qe) = .ok (n', out) →
      a.discloses = false := by
    intro qe hon
    obtain ⟨q, hs, -⟩ := onQueries_ok hon
    exact discloses_queries (Queries.own_of_effect (Queries.step_effect hs) a hin)
  have htransfers : ∀ te, n.onTransfers (n.transfers.step te) = .ok (n', out) →
      a.discloses = false := by
    intro te hon
    obtain ⟨t, hs, -⟩ := onTransfers_ok hon
    exact discloses_transfers (Transfers.own_step ht hs a hin)
  cases e with
  | mesh me =>
    rcases step_meshEvent host n me with hon | hon
    · rw [hon] at hok
      obtain ⟨-, rfl⟩ := Prod.mk.inj (Except.ok.inj hok)
      cases hin
    · rw [hon] at hok
      obtain ⟨m, hs, -⟩ := onMesh_ok hok
      exact ⟨me, m, rfl, hs⟩
  | received conn msgp answer uuid =>
    simp only [step] at hok
    split at hok
    · split at hok
      · obtain ⟨m, hs, -⟩ := onMesh_ok hok
        exact hquiet (Mesh.received_discloses hs a hin)
      · exact hquiet (messageReceived_discloses ht hok a hin)
    · obtain ⟨-, rfl⟩ := Prod.mk.inj (Except.ok.inj hok)
      cases hin
  | connectionTerminated conn =>
    simp only [step] at hok
    split at hok
    · obtain ⟨-, rfl⟩ := Prod.mk.inj (Except.ok.inj hok)
      cases hin
    · exact hquiet (htransfers (.connectionTerminated conn) hok)
  | startReply ss aa uuid => exact hquiet (htransfers (.startReply ss aa _ uuid) hok)
  | timerExpires ss => exact hquiet (htransfers (.timerExpires ss) hok)
  | timeoutCb ss => exact hquiet (htransfers (.timeoutCb ss) hok)
  | adaptorCall aa call => exact hquiet (htransfers (.adaptorCall aa call) hok)
  | fwdSearch i err => exact hquiet (hqueries (.fwdSearch _ i err) hok)
  | startResolving qid uuid => exact hquiet (hqueries (.startResolving _ qid uuid) hok)
  | callback i uuid => exact hquiet (hqueries (.callback _ i uuid) hok)
  | localQuery rq => exact hquiet (hqueries (.localQuery rq) hok)
  | reportResults qid item => exact hquiet (hqueries (.reportResults qid item) hok)
  | solve qid => exact hquiet (hqueries (.solve qid) hok)
  | drop qid => exact hquiet (hqueries (.drop qid) hok)

end Node

/-! ## The plugin with its bot -/

/-- The bot and the node, as `jabber_start` puts them together.  They share nothing but the
    callbacks. -/
structure Plugin (C : Type) [LinearOrder C] where
  bot : Jbot
  node : Node C

namespace Plugin

/-- At the start, before anything has happened to either. -/
def empty : Plugin C := ⟨{}, .empty⟩

/-- What reaches the plugin: something of gloox's, which the bot handles, or anything else, which is
    the node's. -/
inductive Event (C : Type) where
  /-- gloox calls a handler of the bot's; `uuid` is what `gen_uuid` answers -/
  | xmpp (e : Jbot.Event) (uuid : String)
  | node (e : Node.Event C)

/-- What a step puts out: the calls of the bot, and what the node does at them, each call before its
    actions. -/
inductive Output (C : Type) where
  | call (c : Jbot.Call)
  | act (a : Action C)

/-- The callbacks `jabber_start` sets; the other calls are gloox's, and the node does not see
    them. -/
def call (h : Host C) (uuid : String) (n : Node C) :
    Jbot.Call → Except Fault (Node C × List (Action C))
  | .newPeer jid => Node.step h n (.mesh (.jabberNewPeer jid uuid))
  | .msgReceived msg jid => Node.step h n (.mesh (.jabberMsgReceived msg jid))
  | _ => .ok (n, [])

/-- The calls of a handler, one after the other, each in the state the one before has left.  A fault
    in one ends the handler. -/
def carry (h : Host C) (uuid : String) :
    Node C → List Jbot.Call → Except Fault (Node C × List (Output C))
  | n, [] => .ok (n, [])
  | n, c :: cs =>
    match call h uuid n c with
    | .error f => .error f
    | .ok (n', out) =>
      match carry h uuid n' cs with
      | .error f => .error f
      | .ok (n'', rest) => .ok (n'', .call c :: out.map .act ++ rest)

/-- The next state and the outputs.  The node hears of a peer or of a message through the bot
    only. -/
def step (h : Host C) (p : Plugin C) : Event C → Except Fault (Plugin C × List (Output C))
  | .xmpp e uuid =>
    match Jbot.step h.jid p.bot e with
    | .error f => .error f
    | .ok (bot, calls) =>
      match carry h uuid p.node calls with
      | .error f => .error f
      | .ok (node, out) => .ok (⟨bot, node⟩, out)
  | .node (.mesh (.jabberNewPeer _ _)) | .node (.mesh (.jabberMsgReceived _ _)) => .ok (p, [])
  | .node e =>
    match Node.step h p.node e with
    | .error f => .error f
    | .ok (node, out) => .ok ({ p with node := node }, out.map .act)

/-- The history of a run of the plugin: each step with its event and what it put out. -/
abbrev History (C : Type) [LinearOrder C] := List (Runs.Step (Plugin C) (Event C) (Output C))

/-- The runs of one plugin from its start, with whatever gloox and the network do, in any order. -/
abbrev Run (h : Host C) (hist : History C) (p : Plugin C) : Prop :=
  Runs.Run (step h) (fun p₀ => p₀ = empty) hist p

/-! ## The parts of a step -/

/-- In some state of the node, the call returns with these actions.  Which state does not matter:
    what a call tells anybody depends on its arguments. -/
def Calls (h : Host C) (uuid : String) (c : Jbot.Call) (out : List (Action C)) : Prop :=
  ∃ n n', call h uuid n c = .ok (n', out)

/-- A call is a step of the node, or nothing: only two of the calls reach the plugin at all. -/
theorem call_run {h : Host C} {uuid : String} {n n' : Node C} {c : Jbot.Call}
    {out : List (Action C)} (hok : call h uuid n c = .ok (n', out)) :
    ∃ hist, Runs.Run (Node.step h) (· = n) hist n' := by
  cases c with
  | newPeer jid =>
    have hstep : Node.step h n (.mesh (.jabberNewPeer jid uuid)) = .ok (n', out) := hok
    exact ⟨_, .one hstep⟩
  | msgReceived msg jid =>
    have hstep : Node.step h n (.mesh (.jabberMsgReceived msg jid)) = .ok (n', out) := hok
    exact ⟨_, .one hstep⟩
  | getDiscoInfo | subscribe | stop =>
    obtain ⟨rfl, -⟩ := Prod.mk.inj (Except.ok.inj hok)
    exact ⟨[], .start rfl⟩

/-- **What a handler's calls come to**: a run of the node; each of the calls, and what it does,
    and nothing else. -/
theorem carry_spec {h : Host C} {uuid : String} : ∀ {cs : List Jbot.Call} {n n' : Node C}
    {out : List (Output C)}, carry h uuid n cs = .ok (n', out) →
      (∃ hist, Runs.Run (Node.step h) (· = n) hist n') ∧
      (∀ c, .call c ∈ out → c ∈ cs) ∧
      (∀ a, .act a ∈ out → ∃ c ∈ cs, ∃ acts, Calls h uuid c acts ∧ a ∈ acts) ∧
      ∀ c ∈ cs, ∃ acts, Calls h uuid c acts ∧ ∀ a ∈ acts, .act a ∈ out := by
  intro cs
  -- by induction on the calls; the first has its step, the rest start where that ends
  induction cs with
  | nil =>
    intro n n' out hok
    obtain ⟨rfl, rfl⟩ := Prod.mk.inj (Except.ok.inj hok)
    exact ⟨⟨[], .start rfl⟩, by simp⟩
  | cons c cs ih =>
    intro n n' out hok
    rw [carry] at hok
    split at hok
    · cases hok
    · rename_i n₁ acts hcall
      split at hok
      · cases hok
      · rename_i n₂ rest hrest
        obtain ⟨rfl, rfl⟩ := Prod.mk.inj (Except.ok.inj hok)
        obtain ⟨⟨hist₂, hr₂⟩, hcalls, hacts, hall⟩ := ih hrest
        obtain ⟨hist₁, hr₁⟩ := call_run hcall
        have hfirst : Calls h uuid c acts := ⟨n, n₁, hcall⟩
        -- what is put out: this call, what the node does at it, and what comes of the rest
        refine ⟨⟨_, hr₁.append hr₂⟩, fun c' hc' => ?_, fun a ha => ?_, fun c' hc' => ?_⟩
        · rcases List.mem_append.mp hc' with hc' | hc'
          · rcases List.mem_cons.mp hc' with hc' | hc'
            · obtain rfl := Output.call.inj hc'
              exact List.mem_cons_self ..
            · obtain ⟨b, -, hb⟩ := List.mem_map.mp hc'
              cases hb
          · exact List.mem_cons_of_mem _ (hcalls c' hc')
        · rcases List.mem_append.mp ha with ha | ha
          · rcases List.mem_cons.mp ha with ha | ha
            · cases ha
            · obtain ⟨b, hb, hab⟩ := List.mem_map.mp ha
              obtain rfl := Output.act.inj hab
              exact ⟨c, List.mem_cons_self .., acts, hfirst, hb⟩
          · obtain ⟨c', hc', rest'⟩ := hacts a ha
            exact ⟨c', List.mem_cons_of_mem _ hc', rest'⟩
        · rcases List.mem_cons.mp hc' with rfl | hc'
          · exact ⟨acts, hfirst, fun a ha => List.mem_append_left _
              (List.mem_cons_of_mem _ (List.mem_map_of_mem ha))⟩
          · obtain ⟨acts', hcalls', hin⟩ := hall c' hc'
            exact ⟨acts', hcalls', fun a ha => List.mem_append_right _ (hin a ha)⟩

/-- What a step of the plugin is: nothing, a handler of the bot with the calls it makes, or an event
    of the node. -/
inductive Effect (h : Host C) (p : Plugin C) : Event C → Plugin C → List (Output C) → Prop
  | idle (e : Event C) (he : ∀ je uuid, e ≠ .xmpp je uuid) : Effect h p e p []
  | xmpp (e : Jbot.Event) (uuid : String) (bot : Jbot) (calls : List Jbot.Call) (node : Node C)
      (out : List (Output C)) (hbot : Jbot.step h.jid p.bot e = .ok (bot, calls))
      (hcarry : carry h uuid p.node calls = .ok (node, out)) :
    Effect h p (.xmpp e uuid) ⟨bot, node⟩ out
  | node (e : Node.Event C) (node : Node C) (acts : List (Action C))
      (hmsg : ∀ msg jid, e ≠ .mesh (.jabberMsgReceived msg jid))
      (hpeer : ∀ jid uuid, e ≠ .mesh (.jabberNewPeer jid uuid))
      (hs : Node.step h p.node e = .ok (node, acts)) :
    Effect h p (.node e) { p with node := node } (acts.map .act)

/-- Each step is one of these.  Of a step of the bot's it is enough to know what each of its calls
    does. -/
theorem step_effect {h : Host C} {p p' : Plugin C} {e : Event C} {out : List (Output C)}
    (hok : step h p e = .ok (p', out)) : Effect h p e p' out := by
  unfold step at hok
  split at hok
  · split at hok
    · cases hok
    · rename_i bot calls hbot
      split at hok
      · cases hok
      · rename_i node acts hcarry
        obtain ⟨rfl, rfl⟩ := Prod.mk.inj (Except.ok.inj hok)
        exact .xmpp _ _ bot calls node _ hbot hcarry
  · obtain ⟨rfl, rfl⟩ := Prod.mk.inj (Except.ok.inj hok)
    exact .idle _ (by simp)
  · obtain ⟨rfl, rfl⟩ := Prod.mk.inj (Except.ok.inj hok)
    exact .idle _ (by simp)
  · rename_i e hpeer hmsg
    split at hok
    · cases hok
    · rename_i node acts hs
      obtain ⟨rfl, rfl⟩ := Prod.mk.inj (Except.ok.inj hok)
      exact .node e node acts hmsg hpeer hs

/-- **The node of a plugin is in a state that a node reaches by itself**: each call of the bot's is
    one of its events. -/
theorem Run.node {h : Host C} {hist : History C} {p : Plugin C} (hr : Run h hist p) :
    Runs.Reachable (Node.step h) (fun n₀ => n₀ = .empty) p.node := by
  refine hr.reachable.project (f := Plugin.node) (fun _ h0 => by rw [h0]; rfl) ?_
  intro p e p' out hok
  cases step_effect hok with
  | idle => exact ⟨[], .start rfl⟩
  | xmpp e uuid bot calls node out hbot hcarry => exact (carry_spec hcarry).1
  | node e node acts hmsg hpeer hs => exact ⟨_, .one hs⟩

/-- So its transfers are sound, which `step_discloses` asks for; nothing else about them is needed
    here. -/
theorem Run.sound {h : Host C} {hist : History C} {p : Plugin C} (hr : Run h hist p) :
    p.node.transfers.Sound := by
  obtain ⟨nodeHist, hnode⟩ := hr.node
  exact (Node.Run.transfers hnode).sound

/-! ## Whom a call tells -/

/-- An action that tells `jid` where we are: an advert to it, or a connection at its request.  By
    the first it learns the address, by the second it sees it. -/
def Tells (jid : String) : Action C → Prop
  | .sendTo peer _ => peer = jid
  | .connectToRemote _ _ props => ("jid", jid) ∈ props
  | _ => False

omit [LinearOrder C] in
/-- Whatever tells somebody discloses, so what discloses nothing tells nobody. -/
theorem discloses_of_tells {jid : String} {a : Action C} (ha : Tells jid a) :
    a.discloses = true := by
  cases a with
  | sendTo | connectToRemote => rfl
  | _ => exact ha.elim

/-- A new peer is told, if anybody, and it is the one the call is about. -/
theorem newPeer_tells {h : Host C} {uuid jid jid' : String} {acts : List (Action C)}
    (hc : Calls h uuid (.newPeer jid) acts) {a : Action C} (hin : a ∈ acts) (ha : Tells jid' a) :
    jid = jid' := by
  obtain ⟨n, n', hok⟩ := hc
  have hstep : n.onMesh (.ok (n.mesh.jabberNewPeer h jid uuid)) = .ok (n', acts) := hok
  obtain ⟨m, hm, -⟩ := Node.onMesh_ok hstep
  have hacts : (n.mesh.jabberNewPeer h jid uuid).2 = acts := (Prod.mk.inj (Except.ok.inj hm)).2
  rcases Mesh.jabberNewPeer_out h n.mesh jid uuid with hout | hout
  · rw [← hacts, hout] at hin
    cases hin
  · rw [← hacts, hout] at hin
    rw [List.mem_singleton.mp hin] at ha
    exact ha

/-- **The sender of a message is told exactly if the message is an advert.**  Nobody looks whether
    the sender is a contact. -/
theorem msgReceived_tells {h : Host C} {uuid body jid jid' : String} {acts : List (Action C)}
    (hc : Calls h uuid (.msgReceived body jid) acts) :
    (∃ a ∈ acts, Tells jid' a) ↔ Mesh.readAdvert h.js body ≠ none ∧ jid = jid' := by
  obtain ⟨n, n', hok⟩ := hc
  have hstep : n.onMesh (n.mesh.jabberMsgReceived h body jid) = .ok (n', acts) := hok
  obtain ⟨m, hm, -⟩ := Node.onMesh_ok hstep
  cases hread : Mesh.readAdvert h.js body with
  | none =>
    rw [Mesh.jabberMsgReceived_none hread] at hm
    obtain ⟨-, rfl⟩ := Prod.mk.inj (Except.ok.inj hm)
    simp
  | some advert =>
    obtain ⟨ip, port, cookie⟩ := advert
    rw [Mesh.jabberMsgReceived_some hread] at hm
    obtain ⟨k, -, rfl⟩ := Mesh.connectToPeer_ok hm
    simp [Tells, eq_comm]

/-! ## Over a run -/

/-- The full JID of a presence, which `handleRosterPresence` is called with.  It is called for those
    in the roster, which is what a contact is. -/
def Event.contact : Event C → Option String
  | .xmpp e _ => e.presence.map fun p => (Jid.mk p.1.jid p.2.1).full
  | .node _ => none

/-- `handleRosterPresence` has been called for `jid` at some step so far, whatever presence it
    was. -/
def Contact (hist : History C) (jid : String) : Prop := ∃ st ∈ hist, st.event.contact = some jid

/-- A step tells `jid` where we are, by something that the node does in it, whatever event it
    was. -/
def Reveals (st : Runs.Step (Plugin C) (Event C) (Output C)) (jid : String) : Prop :=
  ∃ a, .act a ∈ st.out ∧ Tells jid a

/-- Only contacts are told where we are, at every step of the run.  Who is a contact is asked at
    that moment, this step included. -/
def Discreet (hist : History C) : Prop :=
  Runs.Each (fun before st => ∀ jid, Reveals st jid → Contact (before ++ [st]) jid) hist

/-- A disco reply answers a query: gloox has been asked for it before.  That is gloox's, which sees
    to it by the id of the stanza. -/
def Answered (hist : History C) : Prop :=
  Runs.Each (fun before st => ∀ sender features uuid, st.event = .xmpp (.discoInfo sender features)
    uuid → ∃ st' ∈ before, ∃ jid : Jid, .call (.getDiscoInfo jid) ∈ st'.out ∧
      jid.full = sender.full) hist

/-- A message that is an advert and gets to the plugin; `quit` from ourselves does not.  It is a
    condition on the sender and the text. -/
def Advertises (h : Host C) (e : Event C) (jid : String) : Prop :=
  ∃ sender body uuid, e = .xmpp (.message sender body) uuid ∧
    ¬ (sender.bare = (Jid.ofString h.jid).bare ∧ body = "quit") ∧
    Mesh.readAdvert h.js body ≠ none ∧ sender.full = jid

/-- Adverts come from contacts only, that is from somebody a presence of whom has come in before.
    It is asked of what comes in and of nothing the node does. -/
def Solicited (h : Host C) (hist : History C) : Prop :=
  Runs.Each (fun before st => ∀ jid, Advertises h st.event jid → Contact before jid) hist

omit [LinearOrder C] in
/-- A presence makes its full JID a contact, whatever it says about it. -/
theorem contact_presence {e : Jbot.Event} {item : RosterItem} {resource : String}
    {presence : PresenceType} (he : e.presence = some (item, resource, presence)) (uuid : String) :
    (Event.xmpp (C := C) e uuid).contact = some (Jid.mk item.jid resource).full := by
  rw [Event.contact, he]
  rfl

/-- Whom a step asks gloox about is the contact of its event.  So who answers has been one
    before. -/
theorem asked_contact {h : Host C} {p p' : Plugin C} {e : Event C} {out : List (Output C)}
    (hok : step h p e = .ok (p', out)) {jid : Jid} (hin : .call (.getDiscoInfo jid) ∈ out) :
    e.contact = some jid.full := by
  cases step_effect hok with
  | idle => cases hin
  | xmpp e uuid bot calls node out hbot hcarry =>
    obtain ⟨-, hcalls, -⟩ := carry_spec hcarry
    cases Jbot.step_why hbot (hcalls _ hin) with
    | asked item resource presence he => exact contact_presence he uuid
  | node e node acts =>
    obtain ⟨a, -, ha⟩ := List.mem_map.mp hin
    cases ha

/-- **Whom a step tells where we are**: the contact of a presence, who sent a disco reply, or who
    sent an advert. -/
theorem step_reveals {h : Host C} {p p' : Plugin C} {e : Event C} {out : List (Output C)}
    (hs : p.node.transfers.Sound) (hok : step h p e = .ok (p', out)) {jid : String}
    (hrev : Reveals ⟨p, e, p', out⟩ jid) :
    e.contact = some jid ∨
    (∃ sender features uuid, e = .xmpp (.discoInfo sender features) uuid ∧ sender.full = jid) ∨
    Advertises h e jid := by
  obtain ⟨a, hin, ha⟩ := hrev
  cases step_effect hok with
  | idle => cases hin
  | xmpp e uuid bot calls node out hbot hcarry =>
    obtain ⟨-, -, hacts, -⟩ := carry_spec hcarry
    obtain ⟨c, hc, acts, hcalls, hin⟩ := hacts a hin
    cases Jbot.step_why hbot hc with
    | present item resource presence he =>
      obtain rfl := newPeer_tells hcalls hin ha
      exact Or.inl (contact_presence he uuid)
    | answered sender features he =>
      obtain rfl := newPeer_tells hcalls hin ha
      exact Or.inr (Or.inl ⟨sender, features, uuid, by rw [he], rfl⟩)
    | heard sender body he hq =>
      obtain ⟨hread, hjid⟩ := (msgReceived_tells hcalls).mp ⟨a, hin, ha⟩
      exact Or.inr (Or.inr ⟨sender, body, uuid, by rw [he], hq, hread, hjid⟩)
    | asked | subscribed | quit =>
      -- what is asked of gloox does not concern the node
      obtain ⟨n, n', hcall⟩ := hcalls
      obtain ⟨-, rfl⟩ := Prod.mk.inj (Except.ok.inj hcall)
      cases hin
  | node e node acts hmsg hpeer hnode =>
    obtain ⟨b, hb, hab⟩ := List.mem_map.mp hin
    obtain rfl := Output.act.inj hab
    -- the node by itself only dials where it is told to at its web interface
    obtain ⟨me, m, rfl, hmesh⟩ := Node.step_discloses hs hnode hb (discloses_of_tells ha)
    cases Mesh.step_does hmesh with
    | idle | fails | releases => cases hb
    | issues jid' cookie body he => exact absurd (congrArg Node.Event.mesh he) (hpeer _ _)
    | dials d ho hwhy =>
      rw [List.mem_singleton.mp hb] at ha
      rcases hwhy with hnil | ⟨msg, jid', cookie, he, -⟩
      · have hprop : ("jid", jid) ∈ d.props := ha
        rw [hnil] at hprop
        cases hprop
      · exact absurd (congrArg Node.Event.mesh he) (hmsg _ _)
    | opened conn o _ _ ho hrouter hcookies hdial hout =>
      obtain ⟨msg, rfl⟩ := hout _ hb
      exact ha.elim
    | accepts conn msgp uuid incoming cbs name =>
      cases incoming with
      | false => cases hb
      | true =>
        rw [List.mem_singleton.mp hb] at ha
        exact ha.elim
    | closes conn _ he hout =>
      rcases hout with rfl | rfl
      · cases hb
      · rw [List.mem_singleton.mp hb] at ha
        exact ha.elim

/-- An advert is acted upon, whoever sends it: if the step returns, it has dialled. -/
theorem reveals_of_advertises {h : Host C} {p p' : Plugin C} {e : Event C} {out : List (Output C)}
    (hok : step h p e = .ok (p', out)) {jid : String} (hadv : Advertises h e jid) :
    Reveals ⟨p, e, p', out⟩ jid := by
  obtain ⟨sender, body, uuid, rfl, hq, hread, hjid⟩ := hadv
  cases step_effect hok with
  | idle _ he => exact absurd rfl (he _ _)
  | xmpp _ _ bot calls node out hbot hcarry =>
    obtain ⟨-, -, -, hall⟩ := carry_spec hcarry
    have hcalls : .msgReceived body sender.full ∈ calls := by
      simp only [Jbot.step, Jbot.handleMessage, if_neg hq] at hbot
      obtain ⟨-, rfl⟩ := Prod.mk.inj (Except.ok.inj hbot)
      exact List.mem_singleton.mpr rfl
    obtain ⟨acts, hcall, hout⟩ := hall _ hcalls
    obtain ⟨a, hin, ha⟩ := (msgReceived_tells hcall).mpr ⟨hread, hjid⟩
    exact ⟨a, hout a hin, ha⟩

/-- **The plugin is discreet exactly if the adverts it gets are from contacts.**  To whom it sends
    its own is always a contact; but it dials whoever sends one. -/
theorem discreet_iff {h : Host C} {hist : History C} {p : Plugin C} (hr : Run h hist p)
    (hans : Answered hist) : Discreet hist ↔ Solicited h hist := by
  constructor
  · intro hdis before st after hh jid hadv
    subst hh
    obtain ⟨-, hok, -⟩ := Runs.Run.cut hr
    obtain ⟨st', hst', hc⟩ := hdis before st after rfl jid (reveals_of_advertises hok hadv)
    rcases List.mem_append.mp hst' with hst' | hst'
    · exact ⟨st', hst', hc⟩
    · -- a message is no presence
      obtain rfl := List.mem_singleton.mp hst'
      obtain ⟨sender, body, uuid, he, -⟩ := hadv
      rw [he] at hc
      cases hc
  · intro hsol before st after hh jid hrev
    have hcut : Run h before st.pre ∧ step h st.pre st.event = .ok (st.post, st.out) := by
      subst hh
      obtain ⟨hpre, hok, -⟩ := Runs.Run.cut hr
      exact ⟨hpre, hok⟩
    obtain ⟨hpre, hok⟩ := hcut
    rcases step_reveals hpre.sound hok hrev with hc | ⟨sender, features, uuid, he, hjid⟩ | hadv
    · exact ⟨st, List.mem_concat_self, hc⟩
    · -- the reply is to a query, and the query was for a presence
      obtain ⟨st', hst', jid', hasked, hfull⟩ := hans before st after hh sender features uuid he
      obtain ⟨h₁, h₂, rfl⟩ := List.append_of_mem hst'
      obtain ⟨-, hok', -⟩ := Runs.Run.cut hpre
      refine ⟨st', List.mem_append_left _ hst', ?_⟩
      rw [asked_contact hok' hasked, hfull, hjid]
    · obtain ⟨st', hst', hc⟩ := hsol before st after hh jid hadv
      exact ⟨st', List.mem_append_left _ hst', hc⟩

/-! ## Two senders

  One whose presence has come, and one whom nobody knows; they send the same text. -/

/-- Alice comes online and says where she is. -/
def aliceAdvertises : List (Event Nat) :=
  [.xmpp (.rosterPresence Jbot.alice "playdar" .available) "k",
   .xmpp (.message ⟨"alice@x", "playdar"⟩ "own") "u"]

/-- Nobody has ever heard of mallory. -/
def malloryAdvertises : List (Event Nat) := [.xmpp (.message ⟨"mallory@y", "z"⟩ "own") "u"]

/-- Where nobody replies to a disco query, every reply answers one. -/
theorem answered_of_none {es : List (Event Nat)}
    (hno : ∀ sender features uuid, .xmpp (.discoInfo sender features) uuid ∉ es) :
    Answered (Runs.trace (step Mesh.sampleReader) empty es) := by
  intro before st after hh sender features uuid he
  have hst : st ∈ Runs.trace (step Mesh.sampleReader) empty es := by
    rw [hh]
    exact List.mem_append_right _ (List.mem_cons_self ..)
  exact absurd (Runs.mem_of_event hst he) (hno sender features uuid)

/-- She is a contact when her advert comes, so the promise is kept: she asked to be dialled, and is
    somebody we know. -/
theorem discreet_with_alice :
    Discreet (Runs.trace (step Mesh.sampleReader) empty aliceAdvertises) := by
  refine (discreet_iff (Runs.run_trace aliceAdvertises rfl) (answered_of_none (by
    simp [aliceAdvertises]))).mpr ?_
  have htrace : ∃ st st', Runs.trace (step Mesh.sampleReader) empty aliceAdvertises =
      ([] ++ [st]) ++ [st'] ∧ st.event.contact = some "alice@x/playdar" ∧
      st'.event = .xmpp (.message ⟨"alice@x", "playdar"⟩ "own") "u" := ⟨_, _, rfl, rfl, rfl⟩
  obtain ⟨st, st', heq, hst, hst'⟩ := htrace
  rw [heq]
  refine Runs.each_snoc.mpr ⟨Runs.each_snoc.mpr ⟨fun h₁ _ h₂ hh => ?_, ?_⟩, ?_⟩
  · cases h₁ <;> cases hh
  · rintro jid ⟨sender, body, uuid, he, -⟩
    rw [he] at hst
    cases hst
  · rintro jid ⟨sender, body, uuid, he, -, -, hjid⟩
    rw [hst'] at he
    obtain ⟨hmsg, -⟩ := Event.xmpp.inj he
    obtain ⟨rfl, -⟩ := Jbot.Event.message.inj hmsg
    exact ⟨st, by simp, hst.trans (congrArg some hjid)⟩

/-- He is none, and is dialled all the same: his message is read before anybody asks who he is. -/
theorem mallory_is_dialled :
    Run Mesh.sampleReader (Runs.trace (step Mesh.sampleReader) empty malloryAdvertises)
        (Runs.after (step Mesh.sampleReader) empty malloryAdvertises) ∧
      Answered (Runs.trace (step Mesh.sampleReader) empty malloryAdvertises) ∧
      ¬ Discreet (Runs.trace (step Mesh.sampleReader) empty malloryAdvertises) := by
  refine ⟨Runs.run_trace malloryAdvertises rfl, answered_of_none (by simp [malloryAdvertises]),
    fun hdis => ?_⟩
  have htrace : ∃ st, Runs.trace (step Mesh.sampleReader) empty malloryAdvertises = [st] ∧
      st.out = [.call (.msgReceived "own" "mallory@y/z"),
        .act (.connectToRemote 0x01020304 60211 [("cookie", "k"), ("jid", "mallory@y/z")])] ∧
      st.event.contact = none := ⟨_, rfl, rfl, rfl⟩
  obtain ⟨st, heq, hout, hnone⟩ := htrace
  rw [heq] at hdis
  have hrev : Reveals st "mallory@y/z" := by
    have htold : Tells "mallory@y/z" (Action.connectToRemote (C := Nat) 0x01020304 60211
        [("cookie", "k"), ("jid", "mallory@y/z")]) :=
      List.mem_cons_of_mem _ (List.mem_singleton_self _)
    refine ⟨_, ?_, htold⟩
    rw [hout]
    exact List.mem_cons_of_mem _ (List.mem_singleton_self _)
  obtain ⟨st', hst', hc⟩ := hdis [] st [] rfl _ hrev
  rw [List.mem_singleton.mp hst', hnone] at hc
  cases hc

end Plugin

end Greynet
