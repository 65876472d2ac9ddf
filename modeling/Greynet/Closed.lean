/-
  Nodes among themselves.

  Nobody else connects to them, an advert that arrives is one that was sent, cookies are fresh, and
  a dial reaches the node whose address it has.  `expect_ident` compares the name in an IDENT with
  nothing, and only looks whether there is such a cookie; here that turns out to be enough.  What
  makes it so is not checked anywhere: a cookie is sent to one JID, that node dials with it, and
  nobody else has seen it.

  1. `Deals` — what one event of a node does to its cookies and dials, and whom it sends an advert.
  2. `Fair`, `Closed` — the runs meant.
  3. `Trusting` — the invariant: a connection made from an advert carries the cookie that the node
     at its other end has issued to this one.
  4. `cookies_are_enough`, `refused_for_twins` — what follows.
  5. `Run.stopFree` — a QUERYSTOP is only ever passed on, so there is none.
-/
import Greynet.Contacts
import Greynet.Members

namespace Greynet

variable {C : Type} [LinearOrder C]

/-! ## Cookies and dials of a node

  Of all that a node does, `jabber_new_peer` issues cookies, and `jabber_msg_received` dials with
  one.  A dial that somebody types in has no cookie. -/

/-- What an event does to the cookies and the dials, and whom it sends an advert: it issues a cookie
    and sends it, dials as an advert says, or keeps to what there is, a dial without properties
    apart. -/
inductive Mesh.Deals (h : Host C) (m : Mesh C) (e : Mesh.Event C) (m' : Mesh C)
    (out : List (Action C)) : Prop
  | issues (jid cookie : String) (he : e = .jabberNewPeer jid cookie)
      (hcookies : m'.peerCookies = Function.update m.peerCookies cookie (some jid))
      (hdials : m'.dialling = m.dialling)
      (hout : out = [.sendTo jid (h.js.writeFormatted (advertObject h cookie))])
  | dials (body jid ip cookie : String) (port : Int) (n : Nat)
      (he : e = .jabberMsgReceived body jid)
      (hread : readAdvert h.js body = some (ip, port, cookie))
      (hip : h.addressFromString ip = some n) (hcookies : m'.peerCookies = m.peerCookies)
      (hdials : m'.dialling =
        m.dialling ++ [⟨n, (port % 65536).toNat, [("cookie", cookie), ("jid", jid)]⟩])
      (hout : ∀ peer text, .sendTo peer text ∉ out)
  | keeps (hcookies : m'.peerCookies = m.peerCookies)
      (hdials : ∀ d ∈ m'.dialling, d ∈ m.dialling ∨ d.props = [])
      (hout : ∀ peer text, .sendTo peer text ∉ out)

/-- Each event of the mesh is one of these.  What a new peer is sent comes from `jabberNewPeer_out`,
    and what is dialled from `readAdvert`. -/
theorem Mesh.step_deals {h : Host C} {m m' : Mesh C} {e : Mesh.Event C} {out : List (Action C)}
    (hok : step h m e = .ok (m', out)) : Deals h m e m' out := by
  -- an advert that is read is looked into; what all other events do is known already
  by_cases hadvert : ∃ body jid, e = .jabberMsgReceived body jid
  · obtain ⟨body, jid, rfl⟩ := hadvert
    have hrec : m.jabberMsgReceived h body jid = .ok (m', out) := hok
    cases hread : readAdvert h.js body with
    | none =>
      rw [jabberMsgReceived_none hread] at hrec
      obtain ⟨rfl, rfl⟩ := Prod.mk.inj (Except.ok.inj hrec)
      exact .keeps rfl (fun d hd => Or.inl hd) fun peer text hin => by cases hin
    | some advert =>
      obtain ⟨ip, port, cookie⟩ := advert
      rw [jabberMsgReceived_some hread, connectToPeer] at hrec
      cases hip : h.addressFromString ip with
      | none =>
        rw [hip] at hrec
        cases hrec
      | some n =>
        rw [hip] at hrec
        obtain ⟨rfl, rfl⟩ := Prod.mk.inj (Except.ok.inj hrec)
        exact .dials body jid ip cookie port n rfl hread hip rfl rfl fun peer text hin => by
          cases List.mem_singleton.mp hin
  · cases step_does hok with
    | idle => exact .keeps rfl (fun d hd => Or.inl hd) fun peer text hin => by cases hin
    | issues jid cookie body he =>
      subst he
      -- the text advertised is the one with this cookie in it
      have hnew : (m.jabberNewPeer h jid cookie).2 = [.sendTo jid body] :=
        congrArg Prod.snd (Except.ok.inj hok)
      rcases jabberNewPeer_out h m jid cookie with hout | hout
      · rw [hout] at hnew
        cases hnew
      · exact .issues jid cookie rfl rfl rfl (hnew.symm.trans hout)
    | dials d ho hwhy =>
      refine .keeps rfl (fun d' hd' => ?_) fun peer text hin => by cases List.mem_singleton.mp hin
      rcases List.mem_append.mp hd' with hd' | hd'
      · exact Or.inl hd'
      · obtain rfl := List.mem_singleton.mp hd'
        rcases hwhy with hnil | ⟨body, jid, cookie, he, -⟩
        · exact Or.inr hnil
        · exact absurd ⟨body, jid, he⟩ hadvert
    | fails i he =>
      exact .keeps rfl (fun d hd => Or.inl (List.mem_of_mem_eraseIdx hd)) fun peer text hin => by
        cases hin
    | opened conn o _ _ ho hrouter hcookies hdial hout =>
      refine .keeps hcookies (fun d hd => Or.inl (hdial d hd)) fun peer text hin => ?_
      obtain ⟨msg, hmsg⟩ := hout _ hin
      cases hmsg
    | accepts conn msgp uuid incoming =>
      refine .keeps rfl (fun d hd => Or.inl hd) fun peer text hin => ?_
      cases incoming with
      | true => cases List.mem_singleton.mp hin
      | false => cases hin
    | closes conn _ he hout =>
      refine .keeps rfl (fun d hd => Or.inl hd) fun peer text hin => ?_
      rcases hout with rfl | rfl
      · cases hin
      · cases List.mem_singleton.mp hin
    | releases conn =>
      exact .keeps rfl (fun d hd => Or.inl hd) fun peer text hin => by cases hin

/-- An IDENT neither issues cookies nor dials: `expect_ident` reads the cookies and changes the
    connection. -/
theorem Mesh.received_aloof {h : Host C} {m m' : Mesh C} {conn : C} {msgp : Message}
    {uuid : String} {out : List (Action C)}
    (hok : m.step h (.received conn msgp uuid) = .ok (m', out)) :
    m'.peerCookies = m.peerCookies ∧ m'.dialling = m.dialling := by
  simp only [step] at hok
  split at hok
  · split at hok
    · rename_i incoming _ _
      rcases expectIdent_cases h m msgp conn incoming uuid with ⟨name, -, heq⟩ | ⟨-, heq⟩
      · rw [heq] at hok
        obtain ⟨rfl, -⟩ := Prod.mk.inj (Except.ok.inj hok)
        exact ⟨rfl, rfl⟩
      · rw [heq] at hok
        obtain ⟨rfl, -⟩ := Prod.mk.inj (Except.ok.inj hok)
        exact ⟨rfl, rfl⟩
    · obtain ⟨rfl, -⟩ := Prod.mk.inj (Except.ok.inj hok)
      exact ⟨rfl, rfl⟩
  · obtain ⟨rfl, -⟩ := Prod.mk.inj (Except.ok.inj hok)
    exact ⟨rfl, rfl⟩

namespace Node

/-- Nor does `message_received`, which does not touch the mesh but to close connections. -/
theorem messageReceived_aloof {host : Host C} {n n' : Node C} {conn : C} {msgp : Message}
    {answer : SsAnswer} {uuid : String} {out : List (Action C)}
    (hok : n.messageReceived host conn msgp answer uuid = .ok (n', out)) :
    n'.mesh.peerCookies = n.mesh.peerCookies ∧ n'.mesh.dialling = n.mesh.dialling := by
  -- neither of the two has a hand in cookies or dials, whatever its handler does
  have hqueries : ∀ {x : Except Fault (Queries C × List (Action C))} {q : Queries C},
      ({ n with queries := q } : Node C).onQueries x = .ok (n', out) →
        n'.mesh.peerCookies = n.mesh.peerCookies ∧ n'.mesh.dialling = n.mesh.dialling := by
    intro x q hx
    obtain ⟨q', -, rfl⟩ := onQueries_ok hx
    exact ⟨rfl, rfl⟩
  have htransfers : ∀ {x : Except Fault (Transfers C × List (Action C))} {q : Queries C},
      ({ n with queries := q } : Node C).onTransfers x = .ok (n', out) →
        n'.mesh.peerCookies = n.mesh.peerCookies ∧ n'.mesh.dialling = n.mesh.dialling := by
    intro x q hx
    obtain ⟨t, -, rfl⟩ := onTransfers_ok hx
    exact ⟨rfl, rfl⟩
  unfold messageReceived at hok
  split at hok
  · split at hok
    · obtain ⟨rfl, -⟩ := Prod.mk.inj (Except.ok.inj hok)
      exact ⟨rfl, rfl⟩
    · obtain ⟨rfl, -⟩ := Prod.mk.inj (Except.ok.inj hok)
      exact ⟨rfl, rfl⟩
    · exact hqueries hok
    · exact hqueries hok
    · exact hqueries hok
    · obtain ⟨hmesh, -, -⟩ := handleSidrequest_ok hok
      rw [hmesh]
      exact ⟨rfl, rfl⟩
    · exact htransfers hok
    · exact htransfers hok
    · exact htransfers hok
    · obtain ⟨rfl, -⟩ := Prod.mk.inj (Except.ok.inj hok)
      exact ⟨rfl, rfl⟩
    · obtain ⟨rfl, -⟩ := Prod.mk.inj (Except.ok.inj hok)
      exact ⟨rfl, rfl⟩
  · obtain ⟨rfl, -⟩ := Prod.mk.inj (Except.ok.inj hok)
    exact ⟨rfl, rfl⟩

/-- **An event deals with cookies, dials and adverts as the mesh does, or not at all.**  One case
    for each event of the node; all but the mesh's are somebody else's. -/
theorem step_deals {host : Host C} {n n' : Node C} {e : Event C} {out : List (Action C)}
    (ht : n.transfers.Sound) (hok : step host n e = .ok (n', out)) :
    (∃ me, e = .mesh me ∧ Mesh.Deals host n.mesh me n'.mesh out) ∨
    (n'.mesh.peerCookies = n.mesh.peerCookies ∧ n'.mesh.dialling = n.mesh.dialling ∧
      ∀ peer text, .sendTo peer text ∉ out) := by
  -- what is no event of the mesh advertises nothing, as `step_discloses` has it
  have haloof : (∀ me, e ≠ .mesh me) →
      n'.mesh.peerCookies = n.mesh.peerCookies ∧ n'.mesh.dialling = n.mesh.dialling →
      n'.mesh.peerCookies = n.mesh.peerCookies ∧ n'.mesh.dialling = n.mesh.dialling ∧
        ∀ peer text, .sendTo peer text ∉ out := by
    intro hne hsame
    refine ⟨hsame.1, hsame.2, fun peer text hin => ?_⟩
    obtain ⟨me, m, he, -⟩ := step_discloses ht hok hin rfl
    exact hne me he
  have hqueries : ∀ qe, (∀ me, e ≠ .mesh me) →
      n.onQueries (n.queries.step host qe) = .ok (n', out) →
      n'.mesh.peerCookies = n.mesh.peerCookies ∧ n'.mesh.dialling = n.mesh.dialling ∧
        ∀ peer text, .sendTo peer text ∉ out := by
    intro qe hne hon
    obtain ⟨q, -, rfl⟩ := onQueries_ok hon
    exact haloof hne ⟨rfl, rfl⟩
  have htransfers : ∀ te, (∀ me, e ≠ .mesh me) →
      n.onTransfers (n.transfers.step te) = .ok (n', out) →
      n'.mesh.peerCookies = n.mesh.peerCookies ∧ n'.mesh.dialling = n.mesh.dialling ∧
        ∀ peer text, .sendTo peer text ∉ out := by
    intro te hne hon
    obtain ⟨t, -, rfl⟩ := onTransfers_ok hon
    exact haloof hne ⟨rfl, rfl⟩
  cases e with
  | mesh me =>
    refine Or.inl ⟨me, rfl, ?_⟩
    rcases step_meshEvent host n me with hon | hon
    · rw [hon] at hok
      obtain ⟨rfl, rfl⟩ := Prod.mk.inj (Except.ok.inj hok)
      exact .keeps rfl (fun d hd => Or.inl hd) fun peer text hin => by cases hin
    · rw [hon] at hok
      obtain ⟨m, hs, rfl⟩ := onMesh_ok hok
      exact Mesh.step_deals hs
  | received conn msgp answer uuid =>
    have hne : ∀ me, Event.received conn msgp answer uuid ≠ .mesh me := fun me he => by cases he
    refine Or.inr (haloof hne ?_)
    simp only [step] at hok
    split at hok
    · split at hok
      · obtain ⟨m, hs, rfl⟩ := onMesh_ok hok
        exact Mesh.received_aloof hs
      · exact messageReceived_aloof hok
    · obtain ⟨rfl, -⟩ := Prod.mk.inj (Except.ok.inj hok)
      exact ⟨rfl, rfl⟩
  | connectionTerminated conn =>
    have hne : ∀ me, Event.connectionTerminated conn ≠ .mesh me := fun me he => by cases he
    refine Or.inr ?_
    simp only [step] at hok
    split at hok
    · obtain ⟨rfl, -⟩ := Prod.mk.inj (Except.ok.inj hok)
      exact haloof hne ⟨rfl, rfl⟩
    · exact htransfers (.connectionTerminated conn) hne hok
  | startReply ss aa uuid =>
    exact Or.inr (htransfers (.startReply ss aa _ uuid) (fun me he => by cases he) hok)
  | timerExpires ss => exact Or.inr (htransfers (.timerExpires ss) (fun me he => by cases he) hok)
  | timeoutCb ss => exact Or.inr (htransfers (.timeoutCb ss) (fun me he => by cases he) hok)
  | adaptorCall aa call =>
    exact Or.inr (htransfers (.adaptorCall aa call) (fun me he => by cases he) hok)
  | fwdSearch i err => exact Or.inr (hqueries (.fwdSearch _ i err) (fun me he => by cases he) hok)
  | startResolving qid uuid =>
    exact Or.inr (hqueries (.startResolving _ qid uuid) (fun me he => by cases he) hok)
  | callback i uuid => exact Or.inr (hqueries (.callback _ i uuid) (fun me he => by cases he) hok)
  | localQuery rq => exact Or.inr (hqueries (.localQuery rq) (fun me he => by cases he) hok)
  | reportResults qid item =>
    exact Or.inr (hqueries (.reportResults qid item) (fun me he => by cases he) hok)
  | solve qid => exact Or.inr (hqueries (.solve qid) (fun me he => by cases he) hok)
  | drop qid => exact Or.inr (hqueries (.drop qid) (fun me he => by cases he) hok)

end Node

/-! ## The runs meant -/

variable {N : Type}

/-- The dial `d` of the node `i` is to where `j` is: to the address `i` reads in `j`'s ip, and to
    the port `j` listens at, as far as 16 bits go. -/
def Society.Reaches (S : Society N C) (i : N) (d : Dial) (j : N) : Prop :=
  (S.host i).addressFromString (S.host j).publicIp = some d.ip ∧
    d.port = (((S.host j).port : Int) % 65536).toNat

/-- Each node reads the adverts of each, and no two are at one address and port. -/
structure Society.Addressed (S : Society N C) : Prop where
  adverts : ∀ i j k,
    (S.host i).js.read ((S.host j).js.writeFormatted (Mesh.advertObject (S.host j) k)) =
      some (Mesh.advertObject (S.host j) k)
  apart : ∀ i d j j', S.Reaches i d j → S.Reaches i d j' → j = j'

namespace World

variable [DecidableEq N]

/-- An event that can happen among the nodes themselves.  Nothing is asked of the order of events,
    of closes and timeouts, of dials typed in, or of all that has to do with queries and songs. -/
def Fair (S : Society N C) (before : History N C) (w : World N C) : Event N C → Prop
  | .stranger _ _ _ => False
  -- an advert has been sent, by who it says it is from
  | .node i (.mesh (.jabberMsgReceived body jid)) => ∃ j, (S.host j).jid = jid ∧
      ∃ st ∈ before, (j, Action.sendTo (S.host i).jid body) ∈ st.out
  -- `gen_uuid` answers no cookie twice
  | .node i (.mesh (.jabberNewPeer _ k)) =>
      k ≠ "" ∧ ∀ st ∈ before, ∀ jid, st.event ≠ .node i (.mesh (.jabberNewPeer jid k))
  -- a dial reaches the node that is there
  | .node i (.mesh (.newOutgoingConnection c k _)) => ∀ d, (w.node i).mesh.dialling[k]? = some d →
      ∃ c' j, w.mate c = some c' ∧ w.holder c' = some j ∧ S.Reaches i d j
  | _ => True

/-- All that happens is of this kind, each event in the state it happens in. -/
def Closed (S : Society N C) (hist : History N C) : Prop :=
  Runs.Each (fun before st => Fair S before st.pre st.event) hist

/-! ## The invariant -/

/-- The node `j` has issued the cookie among these properties to `i`, and they name `j`: the dial
    was made from an advert of `j`'s, which gloox said was from `j`. -/
structure Invites (S : Society N C) (w : World N C) (j i : N) (props : String → String) : Prop where
  some : props "cookie" ≠ ""
  jid : props "jid" = (S.host j).jid
  issued : (w.node j).mesh.peerCookies (props "cookie") = .some (S.host i).jid

/-- **Where cookies come from**, and how they get into the IDENTs.  A cookie that is known was
    issued by an event, and sent to the JID it is for; a dial, then the connection it is answered
    with, then the IDENT on its way and the gate at the other end each have it from the one
    before. -/
structure Trusting (S : Society N C) (before : History N C) (w : World N C) : Prop where
  mated : ∀ c, w.holder c ≠ none → w.mate c ≠ none
  used : ∀ j k, (w.node j).mesh.peerCookies k ≠ none →
    ∃ st ∈ before, ∃ jid, st.event = .node j (.mesh (.jabberNewPeer jid k))
  sent : ∀ st ∈ before, ∀ j jid body, (j, Action.sendTo jid body) ∈ st.out →
    ∃ k, k ≠ "" ∧ body = (S.host j).js.writeFormatted (Mesh.advertObject (S.host j) k) ∧
      (w.node j).mesh.peerCookies k = some jid
  dials : ∀ i, ∀ d ∈ (w.node i).mesh.dialling, d.props = [] ∨
    ∃ j, S.Reaches i d j ∧ Invites S w j i d.get
  props : ∀ i c j d, w.Joins i c j d → w.dials c = true → c ∈ (w.node i).mesh.router.known →
    ((w.node i).mesh.router.conn c).get "cookie" = "" ∨
      Invites S w j i ((w.node i).mesh.router.conn c).props
  idents : ∀ i c j d, w.Joins i c j d → w.dials c = true → ∀ m ∈ w.wire d, m.type = .ident →
    ∃ x uuid, x.props = ((w.node i).mesh.router.conn c).props ∧
      m = identMessage ((S.host i).js.write (Mesh.identObject (S.host i) x)) uuid
  admitted : ∀ i c j d, w.Joins i c j d → w.dials c = true → w.Ready j d →
    ((w.node i).mesh.router.conn c).get "cookie" ≠ ""

variable {S : Society N C} {before : History N C} {w w' : World N C} {i : N} {e : Node.Event C}
  {n : Node C} {out : List (Action C)} {wire₀ : C → List Message}

omit [DecidableEq N] in
/-- Whoever has written to the other end has made the connection: one cannot be ready, or closed
    after an IDENT, before it is made. -/
theorem Sane.spoken (h : Sane S w) {k : N} {c : C} (hspoke : w.Spoke k c) :
    c ∈ (w.node k).mesh.router.known := by
  rcases hspoke with hready | ⟨hk, -⟩
  · by_contra hno
    exact h.unmade hno hready
  · exact hk

/-- What is on the way once the acting node has taken its message was on the way before. -/
theorem Acted.left (ha : Acted S w w' i e n out wire₀) {c : C} (hmate : w.mate c ≠ none)
    {m : Message} (hm : m ∈ wire₀ c) : m ∈ w.wire c := by
  by_cases hrec : ∃ m' answer uuid, e = .received c m' answer uuid
  · obtain ⟨m', answer, uuid, he⟩ := hrec
    rw [(ha.taken c m' answer uuid he hmate).2.2]
    exact List.mem_cons_of_mem _ hm
  · rw [ha.others c fun m' answer uuid he => hrec ⟨m', answer, uuid, he⟩] at hm
    exact hm

/-- What is posted was written by the node that acts, on the other end of the connection. -/
theorem Acted.posted (ha : Acted S w w' i e n out wire₀) (h : Sane S w) {c d : C} {m : Message}
    (hmate : w.mate d = some c) (hm : m ∈ w.post n out d) :
    w.holder c = some i ∧ m ∈ sentOn c out := by
  simp only [post, hmate, Option.elim_some, List.contains_iff_mem] at hm
  split at hm
  · rename_i hopen
    obtain ⟨hist, hr⟩ := h.runs i
    have hr' : Node.Run (S.host i) (hist ++ [⟨w.node i, e, n, out⟩]) n := .snoc hr ha.step
    exact ⟨ha.known h (hr'.gated.known c hopen), hm⟩
  · cases hm

/-- The properties of a connection a node has dialled stay: `expect_ident` sets one where the
    connection came in, and nowhere else. -/
theorem Acted.props_kept (ha : Acted S w w' i e n out wire₀) (h : Sane S w) {k : N} {c : C}
    (hk : c ∈ (w.node k).mesh.router.known) (hdials : w.dials c = true) :
    ((w'.node k).mesh.router.conn c).props = ((w.node k).mesh.router.conn c).props := by
  by_cases hi : k = i
  · subst hi
    rw [ha.node_self]
    cases ha.on h c with
    | opened o me uuid he ho => exact absurd hk (Mesh.opens_some ho).1
    | accepted msgp answer uuid name incoming he hexp hp hconn =>
      have hin : incoming = false := by rw [h.expecting hexp, hdials]; rfl
      rw [hconn, hin]
      rfl
    | kept hconn => rw [hconn]
  · rw [ha.node_ne hi]

omit [LinearOrder C] [DecidableEq N] in
/-- An IDENT carries the cookie among the properties of its writer's connection, if there is one,
    and the receiver reads it; an empty one counts as none. -/
theorem cookie_carried (S : Society N C) (k l : N) (x : Connection) (uuid : String) :
    identCookie (S.host l).js
        (identMessage ((S.host k).js.write (Mesh.identObject (S.host k) x)) uuid) =
      if x.get "cookie" = "" then none else some (x.get "cookie") := by
  rw [(Cross.ident_fields uuid (S.reads l k x)).2]
  by_cases hk : x.get "cookie" = ""
  · simp [hk, objToMap, strField]
  · simp [hk, objToMap, strField]

/-- What a node does about its cookies and its dials: `Node.step_deals`, in a world. -/
theorem Acted.deals (ha : Acted S w w' i e n out wire₀) (h : Sane S w) :
    (∃ me, e = .mesh me ∧ Mesh.Deals (S.host i) (w.node i).mesh me n.mesh out) ∨
    (n.mesh.peerCookies = (w.node i).mesh.peerCookies ∧
      n.mesh.dialling = (w.node i).mesh.dialling ∧ ∀ peer text, .sendTo peer text ∉ out) := by
  obtain ⟨hist, hr⟩ := h.runs i
  exact Node.step_deals hr.transfers.sound ha.step

/-- A cookie stays what it was issued for, if no cookie is issued twice.  Nothing takes one out of
    the map, not even its use. -/
theorem Acted.cookies (ha : Acted S w w' i e n out wire₀) (h : Sane S w)
    (hfresh : ∀ jid k, e = .mesh (.jabberNewPeer jid k) → (w.node i).mesh.peerCookies k = none)
    {j : N} {k jid : String} (hk : (w.node j).mesh.peerCookies k = some jid) :
    (w'.node j).mesh.peerCookies k = some jid := by
  by_cases hj : j = i
  · subst hj
    rw [ha.node_self]
    rcases ha.deals h with ⟨me, he, hdeals⟩ | ⟨hsame, -, -⟩
    · cases hdeals with
      | issues jid' cookie hme hcookies =>
        have hne : k ≠ cookie := by
          rintro rfl
          rw [hfresh jid' k (he.trans (congrArg _ hme))] at hk
          cases hk
        rw [hcookies, Function.update_of_ne hne]
        exact hk
      | dials _ _ _ _ _ _ _ _ _ hcookies => rw [hcookies]; exact hk
      | keeps hcookies => rw [hcookies]; exact hk
    · rw [hsame]
      exact hk
  · rw [ha.node_ne hj]
    exact hk

/-- An outgoing connection answers a dial that was pending, and takes over its properties. -/
theorem opens_outgoing {m : Mesh C} {me : Mesh.Event C} {c : C} {d : Dial}
    (ho : m.opens me = some (c, some d)) :
    ∃ k uuid, me = .newOutgoingConnection c k uuid ∧ m.dialling[k]? = some d := by
  cases me with
  | newOutgoingConnection c' k uuid =>
    simp only [Mesh.opens] at ho
    split at ho
    · cases ho
    · rename_i d' hd
      split at ho
      · cases ho
      · obtain ⟨rfl, hx⟩ := Prod.mk.inj (Option.some.inj ho)
        obtain rfl := Option.some.inj hx
        exact ⟨k, uuid, rfl, hd⟩
  | newIncomingConnection c' =>
    rw [Mesh.opens] at ho
    split at ho <;> cases ho
  | _ => cases ho

/-- The dials of a node that acts.  A new one has no properties, or those of an advert; and an
    advert that arrives was sent by the node it names, with a cookie that was issued for the one it
    came to. -/
theorem Acted.trusting_dials (ha : Acted S w w' i e n out wire₀) (h : Sane S w)
    (ht : Trusting S before w) (hA : S.Addressed)
    (hsent : ∀ body jid, e = .mesh (.jabberMsgReceived body jid) → ∃ j, (S.host j).jid = jid ∧
      ∃ st ∈ before, (j, Action.sendTo (S.host i).jid body) ∈ st.out)
    (hmono : ∀ {j l props}, Invites S w j l props → Invites S w' j l props) (k : N) (d : Dial)
    (hd : d ∈ (w'.node k).mesh.dialling) :
    d.props = [] ∨ ∃ j, S.Reaches k d j ∧ Invites S w' j k d.get := by
  have hold : d ∈ (w.node k).mesh.dialling →
      d.props = [] ∨ ∃ j, S.Reaches k d j ∧ Invites S w' j k d.get := by
    intro hd
    rcases ht.dials k d hd with hnil | ⟨j, hreaches, hinv⟩
    · exact Or.inl hnil
    · exact Or.inr ⟨j, hreaches, hmono hinv⟩
  by_cases hk : k = i
  · subst hk
    rw [ha.node_self] at hd
    rcases ha.deals h with ⟨me, he, hdeals⟩ | ⟨-, hsame, -⟩
    · cases hdeals with
      | issues jid cookie hme hcookies hdials =>
        rw [hdials] at hd
        exact hold hd
      | dials body jid ip cookie port num hme hread hip hcookies hdials =>
        rw [hdials] at hd
        rcases List.mem_append.mp hd with hd | hd
        · exact hold hd
        · -- the advert was sent, so it is the one of the node it comes from
          obtain rfl := List.mem_singleton.mp hd
          obtain ⟨j, rfl, st, hst, hin⟩ := hsent body jid (he.trans (congrArg _ hme))
          obtain ⟨cookie', hne, rfl, hissued⟩ := ht.sent st hst j _ body hin
          rw [Mesh.readAdvert_advertObject (hA.adverts k j cookie')] at hread
          obtain ⟨rfl, rfl, rfl⟩ := Option.some.inj hread
          exact Or.inr ⟨j, ⟨hip, rfl⟩, hmono ⟨hne, rfl, hissued⟩⟩
      | keeps hcookies hdials =>
        rcases hdials d hd with hd | hnil
        · exact hold hd
        · exact Or.inl hnil
    · rw [hsame] at hd
      exact hold hd
  · rw [ha.node_ne hk] at hd
    exact hold hd

/-- The IDENTs on the way from a dialling end.  One that is posted is the greeting of the
    connection, so it has the properties of the dial. -/
theorem Acted.trusting_idents (ha : Acted S w w' i e n out wire₀) (h : Sane S w)
    (ht : Trusting S before w) {k l : N} {c d : C} (hj : w.Joins k c l d)
    (hdials : w.dials c = true) {m : Message} (hm : m ∈ wire₀ d ++ w.post n out d)
    (htype : m.type = .ident) :
    ∃ x uuid, x.props = ((w'.node k).mesh.router.conn c).props ∧
      m = identMessage ((S.host k).js.write (Mesh.identObject (S.host k) x)) uuid := by
  have hback := (h.swap hj).mate
  have hmate : w.mate d ≠ none := by
    rw [hback]
    exact Option.some_ne_none c
  -- the IDENT was on its way before, or is written in this step
  rcases List.mem_append.mp hm with hm | hm
  · have hwire := ha.left hmate hm
    have hspoke : w.Spoke k c := by
      by_contra hno
      rw [((h.flows l d k c (h.swap hj)).silent hno).1] at hwire
      cases hwire
    rw [ha.props_kept h (h.spoken hspoke) hdials]
    exact ht.idents k c l d hj hdials m hwire htype
  · obtain ⟨hheld, hsent⟩ := ha.posted h hback hm
    obtain rfl : k = i := Option.some.inj (hj.here.symm.trans hheld)
    rw [ha.node_self]
    cases ha.on h c with
    | opened o me uuid he ho hconn hknown hopen hsame =>
      rw [hsame] at hsent
      obtain ⟨-, hside⟩ := ha.opened me c o he ho
      -- only the dialling end greets, and its connection has the properties of the dial
      cases o with
      | none =>
        rw [hdials] at hside
        cases hside
      | some x =>
        rw [show Mesh.greeting (S.host k) c (some x) uuid = [_] from rfl,
          Node.sentOn_singleton] at hsent
        obtain rfl := List.mem_singleton.mp hsent
        exact ⟨Mesh.fresh (some x), uuid, by rw [hconn], rfl⟩
    | accepted msgp answer uuid name incoming he hexp hp hconn hknown hopen hsame =>
      have hin : incoming = false := by rw [h.expecting hexp, hdials]; rfl
      rw [hsame, hin] at hsent
      cases hsent
    | kept hconn hknown hopen hshut hsame => exact absurd htype (hsame m hsent).1

/-- The cookie of a dialling end whose IDENT has been accepted.  The accepting end has read it in
    that IDENT; an empty one it would have refused. -/
theorem Acted.trusting_admitted (ha : Acted S w w' i e n out wire₀) (h : Sane S w)
    (ht : Trusting S before w) {k l : N} {c d : C} (hj : w.Joins k c l d)
    (hdials : w.dials c = true) (hready : w'.Ready l d) :
    ((w'.node k).mesh.router.conn c).get "cookie" ≠ "" := by
  have hside : w.dials d = false := by
    rw [(h.mates c d hj.mate).2, hdials]
    rfl
  have hflows := h.flows l d k c (h.swap hj)
  -- the other end has spoken, if its IDENT has been heard or is
  have hkept : w.Spoke k c → ((w'.node k).mesh.router.conn c).get "cookie" =
      ((w.node k).mesh.router.conn c).get "cookie" := fun hspoke =>
    congrFun (ha.props_kept h (h.spoken hspoke) hdials) "cookie"
  by_cases hold : w.Ready l d
  · have hspoke : w.Spoke k c := by
      by_contra hno
      exact (hflows.silent hno).2 hold
    rw [hkept hspoke]
    exact ht.admitted k c l d hj hdials hold
  · have hi : l = i := by
      by_contra hne
      rw [Ready, ha.node_ne hne] at hready
      exact hold hready
    subst hi
    rw [Ready, ha.node_self] at hready
    cases ha.on h d with
    | opened o me uuid he ho hconn =>
      rw [hconn] at hready
      cases o <;> cases hready
    | accepted msgp answer uuid name incoming he hexp hp =>
      have hmate : w.mate d ≠ none := by
        rw [(h.swap hj).mate]
        exact Option.some_ne_none c
      have hin : msgp ∈ w.wire d := by
        rw [(ha.taken d msgp answer uuid he hmate).2.2]
        exact List.mem_cons_self ..
      have hspoke : w.Spoke k c := by
        by_contra hno
        rw [(hflows.silent hno).1] at hin
        cases hin
      have hours : Introduces (S.host k) msgp :=
        hflows.head hold (fun hsh => hsh.2 hexp.isOpen)
          (ha.taken d msgp answer uuid he hmate).2.2
      obtain ⟨x, guid, hprops, rfl⟩ := ht.idents k c l d hj hdials msgp hin hours.type
      obtain ⟨cookie, hcookie, hne, -⟩ :=
        hp.cookie (by rw [h.expecting hexp, hside]; rfl)
      rw [hkept hspoke, Connection.get, ← hprops]
      intro hempty
      have hnone : x.get "cookie" = "" := hempty
      rw [cookie_carried, if_pos hnone] at hcookie
      cases hcookie
    | kept hconn =>
      rw [hconn] at hready
      exact absurd hready hold

/-- The properties of a connection, once it is made, are those of the dial it answers; and the dial
    reaches the node whose address it has, which is the one that has sent the advert. -/
theorem Acted.trusting_props (ha : Acted S w w' i e n out wire₀) (h : Sane S w)
    (ht : Trusting S before w) (hA : S.Addressed)
    (hreach : ∀ c k uuid, e = .mesh (.newOutgoingConnection c k uuid) →
      ∀ d, (w.node i).mesh.dialling[k]? = some d →
        ∃ c' j, w.mate c = some c' ∧ w.holder c' = some j ∧ S.Reaches i d j)
    (hmono : ∀ {j l props}, Invites S w j l props → Invites S w' j l props) {k l : N} {c d : C}
    (hj : w.Joins k c l d) (hdials : w.dials c = true)
    (hc : c ∈ (w'.node k).mesh.router.known) :
    ((w'.node k).mesh.router.conn c).get "cookie" = "" ∨
      Invites S w' l k ((w'.node k).mesh.router.conn c).props := by
  by_cases hold : c ∈ (w.node k).mesh.router.known
  · rw [Connection.get, ha.props_kept h hold hdials]
    exact (ht.props k c l d hj hdials hold).imp id hmono
  · by_cases hk : k = i
    · subst hk
      rw [ha.node_self] at hc ⊢
      cases ha.on h c with
      | opened o me uuid he ho hconn =>
        obtain ⟨-, hside⟩ := ha.opened me c o he ho
        cases o with
        | none =>
          rw [hdials] at hside
          cases hside
        | some x =>
          rw [hconn]
          obtain ⟨num, guid, rfl, hx⟩ := opens_outgoing ho
          rcases ht.dials k x (List.mem_of_getElem? hx) with hnil | ⟨j, hreaches, hinv⟩
          · -- dialled by hand
            refine Or.inl ?_
            show x.get "cookie" = ""
            rw [Dial.get, hnil]
            rfl
          · obtain ⟨c', j', hmate, hheld, hreaches'⟩ := hreach c num guid he x hx
            obtain rfl := hA.apart k x j j' hreaches hreaches'
            obtain rfl := Option.some.inj (hmate.symm.trans hj.mate)
            obtain rfl := Option.some.inj (hheld.symm.trans hj.there)
            exact Or.inr (hmono hinv)
      | accepted msgp answer uuid name incoming he hexp =>
        exact absurd (h.made hexp.isOpen) hold
      | kept hconn hknown => exact absurd (hknown.mp hc) hold
    · rw [ha.node_ne hk] at hc
      exact absurd hc hold

/-- **A node acts, and the invariant is kept**: one field after the other, the dials before the
    connections, and these before the IDENTs. -/
theorem trusting_acted {ev : Event N C} (ha : Acted S w w' i e n out wire₀) (h : Sane S w)
    (ht : Trusting S before w) (hA : S.Addressed) (hfair : Fair S before w ev)
    (hev : ∀ me, e = .mesh me → ev = .node i (.mesh me)) :
    Trusting S (before ++ [⟨w, ev, w', out.map fun a => (i, a)⟩]) w' := by
  -- what the environment is assumed to do, for the one event of this step
  have hsent : ∀ body jid, e = .mesh (.jabberMsgReceived body jid) →
      ∃ j, (S.host j).jid = jid ∧
        ∃ st ∈ before, (j, Action.sendTo (S.host i).jid body) ∈ st.out := by
    intro body jid he
    rw [hev _ he] at hfair
    exact hfair
  have hissue : ∀ jid k, e = .mesh (.jabberNewPeer jid k) →
      k ≠ "" ∧ ∀ st ∈ before, ∀ jid', st.event ≠ .node i (.mesh (.jabberNewPeer jid' k)) := by
    intro jid k he
    rw [hev _ he] at hfair
    exact hfair
  have hreach : ∀ c k uuid, e = .mesh (.newOutgoingConnection c k uuid) →
      ∀ d, (w.node i).mesh.dialling[k]? = some d →
        ∃ c' j, w.mate c = some c' ∧ w.holder c' = some j ∧ S.Reaches i d j := by
    intro c k uuid he
    rw [hev _ he] at hfair
    exact hfair
  have hfresh : ∀ jid k, e = .mesh (.jabberNewPeer jid k) →
      (w.node i).mesh.peerCookies k = none := by
    intro jid k he
    by_contra hused
    obtain ⟨st, hst, jid', hst'⟩ := ht.used i k hused
    exact (hissue jid k he).2 st hst jid' hst'
  -- invitations stand: a cookie that was issued is never issued to somebody else
  have hmono : ∀ {j l props}, Invites S w j l props → Invites S w' j l props := fun hinv =>
    ⟨hinv.some, hinv.jid, ha.cookies h hfresh hinv.issued⟩
  have hold : ∀ {k c l d}, w'.Joins k c l d → w.Joins k c l d := ha.joins.mp
  have hrest : w'.holder = w.holder ∧ w'.mate = w.mate ∧
      w'.wire = fun d => wire₀ d ++ w.post n out d := by
    rw [ha.next]
    exact ⟨rfl, rfl, rfl⟩
  obtain ⟨hholder, hmate, hwire⟩ := hrest
  -- used cookies and sent adverts are shown here; the other fields have lemmas of their own
  refine ⟨?_, fun j k hk => ?_, fun st hst j jid body hin => ?_,
    fun k d hd => ha.trusting_dials h ht hA hsent hmono k d hd,
    fun k c l d hj hdials hc => ?_, fun k c l d hj hdials m hm htype => ?_,
    fun k c l d hj hdials hready => ?_⟩
  · rw [hholder, hmate]
    exact ht.mated
  · have hbefore : (w.node j).mesh.peerCookies k ≠ none →
        ∃ st ∈ before ++ [⟨w, ev, w', out.map fun a => (i, a)⟩], ∃ jid,
          st.event = .node j (.mesh (.jabberNewPeer jid k)) := by
      intro hused
      obtain ⟨st, hst, jid, hev⟩ := ht.used j k hused
      exact ⟨st, List.mem_append_left _ hst, jid, hev⟩
    by_cases hj : j = i
    · subst hj
      rw [ha.node_self] at hk
      rcases ha.deals h with ⟨me, he, hdeals⟩ | ⟨hsame, -, -⟩
      · cases hdeals with
        | issues jid cookie hme hcookies =>
          by_cases hkc : k = cookie
          · subst hkc
            exact ⟨_, List.mem_append_right _ (List.mem_singleton.mpr rfl), jid,
              hev _ (he.trans (congrArg _ hme))⟩
          · rw [hcookies, Function.update_of_ne hkc] at hk
            exact hbefore hk
        | dials _ _ _ _ _ _ _ _ _ hcookies => exact hbefore (hcookies ▸ hk)
        | keeps hcookies => exact hbefore (hcookies ▸ hk)
      · exact hbefore (hsame ▸ hk)
    · rw [ha.node_ne hj] at hk
      exact hbefore hk
  · rcases List.mem_append.mp hst with hst | hst
    · obtain ⟨k, hne, hbody, hissued⟩ := ht.sent st hst j jid body hin
      exact ⟨k, hne, hbody, ha.cookies h hfresh hissued⟩
    · obtain rfl := List.mem_singleton.mp hst
      obtain ⟨a, hin, hpair⟩ := List.mem_map.mp hin
      obtain ⟨rfl, rfl⟩ := Prod.mk.inj hpair
      rcases ha.deals h with ⟨me, he, hdeals⟩ | ⟨-, -, hno⟩
      · cases hdeals with
        | issues jid' cookie hme hcookies hdials hout =>
          rw [hout] at hin
          obtain ⟨rfl, rfl⟩ := Action.sendTo.inj (List.mem_singleton.mp hin)
          refine ⟨cookie, (hissue _ cookie (he.trans (congrArg _ hme))).1, rfl, ?_⟩
          rw [ha.node_self, hcookies, Function.update_self]
        | dials _ _ _ _ _ _ _ _ _ _ _ hno => exact absurd hin (hno jid body)
        | keeps _ _ hno => exact absurd hin (hno jid body)
      · exact absurd hin (hno jid body)
  · rw [ha.dials] at hdials
    exact ha.trusting_props h ht hA hreach hmono (hold hj) hdials hc
  · rw [ha.dials] at hdials
    rw [hwire] at hm
    exact ha.trusting_idents h ht (hold hj) hdials hm htype
  · rw [ha.dials] at hdials
    exact ha.trusting_admitted h ht (hold hj) hdials hready

omit [DecidableEq N] in
/-- Making connections between nodes keeps the invariant: no node does anything, and on a new
    connection nothing is on the way. -/
theorem Trusting.extend {st : Runs.Step (World N C) (Event N C) (N × Action C)}
    (ht : Trusting S before w) (h : Sane S w) (hx : Extends w w') (hout : st.out = [])
    (hmated : ∀ c, w'.holder c ≠ none → w'.mate c ≠ none) :
    Trusting S (before ++ [st]) w' := by
  have hinv : ∀ {j l props}, Invites S w j l props → Invites S w' j l props := by
    intro j l props hinv
    exact ⟨hinv.some, hinv.jid, by rw [hx.node]; exact hinv.issued⟩
  -- an end that nobody held before has another such end
  have hold : ∀ {k c l d}, w'.Joins k c l d → w.holder d ≠ none → w.Joins k c l d := by
    intro k c l d hj hd
    exact h.joins_old hx hj fun hno => hd (hx.fresh c d hno hj.mate)
  have hsides : ∀ {k c l d}, w.Joins k c l d → w'.dials c = w.dials c := by
    intro k c l d hj
    exact (hx.keeps c (by rw [hj.here]; exact Option.some_ne_none k)).2.2
  refine ⟨hmated, fun j k hk => ?_, fun st' hst j jid body hin => ?_, fun k d hd => ?_,
    fun k c l d hj hdials hc => ?_, fun k c l d hj hdials m hm htype => ?_,
    fun k c l d hj hdials hready => ?_⟩
  · rw [hx.node] at hk
    obtain ⟨st', hst, hev⟩ := ht.used j k hk
    exact ⟨st', List.mem_append_left _ hst, hev⟩
  · rw [hx.node]
    rcases List.mem_append.mp hst with hst | hst
    · exact ht.sent st' hst j jid body hin
    · rw [List.mem_singleton.mp hst, hout] at hin
      cases hin
  · rw [hx.node] at hd
    exact (ht.dials k d hd).imp id (Exists.imp fun j hj => ⟨hj.1, hinv hj.2⟩)
  · rw [hx.node] at hc ⊢
    have hj' := h.joins_old hx hj (h.held_known hc)
    rw [hsides hj'] at hdials
    exact (ht.props k c l d hj' hdials hc).imp id hinv
  · rw [hx.node]
    rw [hx.wire] at hm
    have hd : w.holder d ≠ none := by
      intro hno
      rw [h.quiet d (h.held d hno)] at hm
      cases hm
    have hj' := hold hj hd
    rw [hsides hj'] at hdials
    exact ht.idents k c l d hj' hdials m hm htype
  · rw [Ready, hx.node] at hready
    rw [hx.node]
    have hj' := hold hj (h.held_ready hready)
    rw [hsides hj'] at hdials
    exact ht.admitted k c l d hj' hdials hready

omit [DecidableEq N] in
/-- A connection between two nodes has two ends, and the others keep theirs. -/
theorem mated_cable (hmated : ∀ c, w.holder c ≠ none → w.mate c ≠ none) (i j : N) {c d : C}
    (hne : c ≠ d) (x : C)
    (hx : Function.update (Function.update w.holder c (some i)) d (some j) x ≠ none) :
    Function.update (Function.update w.mate c (some d)) d (some c) x ≠ none := by
  by_cases hxd : x = d
  · simp [hxd]
  · by_cases hxc : x = c
    · simp [hxc, Function.update_of_ne hne]
    · simp only [Function.update_of_ne hxd, Function.update_of_ne hxc] at hx ⊢
      exact hmated x hx

/-- One step of the world, whichever it is.  That a stranger connects is ruled out by `Fair`. -/
theorem trusting_step {ev : Event N C} {out : List (N × Action C)} (h : Sane S w)
    (ht : Trusting S before w) (hA : S.Addressed) (hfair : Fair S before w ev)
    (hok : step S w ev = .ok (w', out)) : Trusting S (before ++ [⟨w, ev, w', out⟩]) w' := by
  cases step_does hok with
  | idle =>
    refine ht.extend h ⟨rfl, rfl, fun c _ => ⟨rfl, rfl, rfl⟩, h.mates, h.held, fun c d hc hd => ?_⟩
      rfl ht.mated
    rw [h.held c hc] at hd
    cases hd
  | cabled i j c d hne hc hd =>
    exact ht.extend h (h.extends_cable i j hne hc hd) rfl (mated_cable ht.mated i j hne)
  | strange => exact hfair.elim
  | acts i e n out hperm hs =>
    refine trusting_acted (acted_acts hperm hs) h ht hA hfair fun me he => ?_
    rw [he]
  | delivers i c answer uuid m rest n out hholder hopen hwire hs =>
    exact trusting_acted (acted_delivers hholder hopen hwire hs) h ht hA hfair
      fun me he => by cases he

/-- **The invariant holds among the nodes themselves**, at the end of every closed run. -/
theorem Run.trusting {hist : History N C} (hr : Run S hist w) (hA : S.Addressed)
    (hclosed : Closed S hist) : Trusting S hist w := by
  refine Runs.Run.invariant (I := fun hist w => Closed S hist → Trusting S hist w) ?_ ?_ hr hclosed
  · rintro w rfl -
    refine ⟨fun c hc => absurd rfl hc, fun j k hk => absurd rfl hk, fun st hst => (by cases hst),
      fun i d hd => (by cases hd), fun i c j d hj => ?_, fun i c j d hj => ?_,
      fun i c j d hj => ?_⟩ <;> cases hj.mate
  · intro hist w e w' out hr ih hok hclosed
    obtain ⟨hbefore, hfair⟩ := Runs.each_snoc.mp hclosed
    have hsane : Sane S w := Run.sane hr
    exact trusting_step hsane (ih hbefore) hA hfair hok

/-! ## Cookies are enough

  A connection that is up carries the cookie its acceptor has issued to the dialler, so the name the
  dialler was let in under is its own.  The acceptor refuses such an IDENT for one reason only, that
  the two are connected already. -/

/-- Alice and Bob are at addresses of their own, and each reads what the other advertises. -/
theorem friends_addressed : friends.Addressed := by
  refine ⟨fun i j => friendJson_reads_advert j, fun i d j j' hj hj' => ?_⟩
  have hsame := hj.1.trans hj'.1.symm
  cases i <;> cases j <;> cases j' <;> first | rfl | exact absurd hsame (by decide)

/-- Bob's advert was sent; and Alice's dial gets to him. -/
theorem fair_befriending (n : Nat) (e : Event Side Nat) (he : befriending[n]? = some e) :
    Fair friends (Runs.trace (step friends) empty (befriending.take n))
      (Runs.after (step friends) empty (befriending.take n)) e := by
  have hsent : ((Runs.trace (step friends) empty (befriending.take 1)).any fun st =>
      decide ((Side.b, Action.sendTo "alice"
        (friendJson.writeFormatted (Mesh.advertObject (friendHost .b) "ka"))) ∈ st.out)) =
      true := by decide +kernel
  have hdial : ((Runs.after (step friends) empty (befriending.take 4)).node .a).mesh.dialling[0]? =
      some ⟨0x02020202, 60211, [("cookie", "ka"), ("jid", "bob")]⟩ ∧
      (Runs.after (step friends) empty (befriending.take 4)).mate 0 = some 1 ∧
      (Runs.after (step friends) empty (befriending.take 4)).holder 1 = some .b := by
    decide +kernel
  match n, he with
  | 0, he =>
    obtain rfl := Option.some.inj he
    exact ⟨by decide, fun st hst => by cases hst⟩
  | 1, he =>
    obtain rfl := Option.some.inj he
    obtain ⟨st, hst, hin⟩ := List.any_eq_true.mp hsent
    exact ⟨.b, rfl, st, hst, of_decide_eq_true hin⟩
  | 4, he =>
    obtain rfl := Option.some.inj he
    intro d hd
    obtain rfl := Option.some.inj (hdial.1.symm.trans hd)
    exact ⟨1, .b, hdial.2.1, hdial.2.2, by decide, by decide⟩
  | 2, he | 3, he | 5, he | 6, he =>
    obtain rfl := Option.some.inj he
    trivial
  | n + 7, he => cases he

/-- So it is a run among the two of them, ... -/
theorem closed_befriending : Closed friends (Runs.trace (step friends) empty befriending) :=
  Runs.each_trace (P := Fair friends) befriending fair_befriending

/-- ... and so is the one in which Alice's IDENT is still on the way. -/
theorem closed_dialling : Closed friends (Runs.trace (step friends) empty dialling) := by
  refine Runs.each_trace (P := Fair friends) dialling fun n e he => ?_
  have hn : n < dialling.length := (List.getElem?_eq_some_iff.mp he).1
  have hfair := fair_befriending n e ((List.getElem?_append_left hn).trans he)
  rwa [befriending, List.take_append_of_le_length (Nat.le_of_lt hn)] at hfair

/-- **Among themselves the nodes are who they are taken for**: a connection that an accepting node
    has let in bears the JID that the cookie shown on it was issued to; and the dialler has it under
    the JID that the advert came from. -/
theorem cookies_are_enough (S : Society N C) (hA : S.Addressed) (hist : History N C)
    (w : World N C) (hr : Run S hist w) (hclosed : Closed S hist) (i j : N) (c d : C)
    (hj : w.Joins i c j d) (hdials : w.dials c = true) (hready : w.Ready j d) :
    ((w.node j).mesh.router.conn d).name = some (S.host i).jid ∧
    (w.node j).mesh.peerCookies (((w.node i).mesh.router.conn c).get "cookie") =
      some (S.host i).jid ∧
    (w.Ready i c → ((w.node i).mesh.router.conn c).name =
      some (((w.node i).mesh.router.conn c).get "jid")) := by
  have h := hr.sane
  have ht := hr.trusting hA hclosed
  have hspoke : w.Spoke i c := by
    by_contra hno
    exact ((h.flows j d i c (h.swap hj)).silent hno).2 hready
  rcases ht.props i c j d hj hdials (h.spoken hspoke) with hnone | hinv
  · exact absurd hnone (ht.admitted i c j d hj hdials hready)
  · refine ⟨h.named j d i c (h.swap hj) hready, hinv.issued, fun hc => ?_⟩
    rw [h.named i c j d hj hc]
    exact congrArg some hinv.jid.symm

/-- The cookie that Alice has shown was hers. -/
theorem cookies_befriended :
    ((befriended.node .b).mesh.router.conn 1).name = some "alice" ∧
    (befriended.node .b).mesh.peerCookies
      (((befriended.node .a).mesh.router.conn 0).get "cookie") = some "alice" ∧
    (befriended.Ready .a 0 → ((befriended.node .a).mesh.router.conn 0).name =
      some (((befriended.node .a).mesh.router.conn 0).get "jid")) :=
  have hfacts := befriended_facts
  cookies_are_enough friends friends_addressed _ _ befriended_run closed_befriending .a .b 0 1
    hfacts.1 hfacts.2.1 hfacts.2.2.2.1.2

/-- **Among themselves a connection made from an advert is refused for one reason only**: the two
    nodes have another one, which is up at the end that refuses. -/
theorem refused_for_twins (S : Society N C) (hA : S.Addressed) (hist : History N C)
    (w : World N C) (hr : Run S hist w) (hclosed : Closed S hist) (i j : N) (c d : C)
    (hj : w.Joins i c j d) (m : Message) (rest : List Message)
    (hopen : c ∈ (w.node i).mesh.router.connections) (hwire : w.wire c = m :: rest)
    (hnot : ¬ w.Ready i c)
    (hadvert : w.dials c = false → ((w.node j).mesh.router.conn d).get "cookie" ≠ "")
    (answer : SsAnswer) (uuid : String) :
    ∃ n out, Node.step (S.host i) (w.node i) (.received c m answer uuid) = .ok (n, out) ∧
      (Node.LetIn n c (S.host j).jid ∨
        (Node.ShutOut (w.node i) c n ∧ ∃ c' d', c' ≠ c ∧ w.Joins i c' j d' ∧ w.Up i c')) := by
  have h := hr.sane
  have ht := hr.trusting hA hclosed
  have hours : Introduces (S.host j) m := h.introduced hj hopen hwire hnot
  obtain ⟨n, out, hs, ⟨hlet, -⟩ | ⟨hshut, -, hno⟩⟩ := h.hears hj hopen hwire hnot answer uuid
  · exact ⟨n, out, hs, Or.inl hlet⟩
  refine ⟨n, out, hs, Or.inr ⟨hshut, ?_⟩⟩
  -- the cookie is one that has been issued, so it is the name
  have hcookie : (!w.dials c) = true → ∃ k, identCookie (S.host i).js m = some k ∧ k ≠ "" ∧
      (w.node i).mesh.peerCookies k ≠ none := by
    intro hin
    have hc : w.dials c = false := by simpa using hin
    have hback := h.swap hj
    have hd : w.dials d = true := by
      rw [(h.mates c d hj.mate).2, hc]
      rfl
    have hin : m ∈ w.wire c := hwire ▸ List.mem_cons_self ..
    have hspoke : w.Spoke j d := by
      by_contra hno
      rw [((h.flows i c j d hj).silent hno).1] at hwire
      cases hwire
    obtain ⟨x, guid, hprops, rfl⟩ := ht.idents j d i c hback hd m hin hours.type
    have hx : x.get "cookie" = ((w.node j).mesh.router.conn d).get "cookie" :=
      congrFun hprops "cookie"
    rcases ht.props j d i c hback hd (h.spoken hspoke) with hnone | hinv
    · exact absurd hnone (hadvert hc)
    · refine ⟨x.get "cookie", ?_, hx ▸ hadvert hc, ?_⟩
      · rw [cookie_carried, if_neg (hx ▸ hadvert hc)]
      · rw [hx]
        exact fun hnone => Option.some_ne_none _ (hinv.issued.symm.trans hnone)
  have htaken : (S.host i).lib.hasConnection (w.node i).mesh.router (S.host j).jid = true := by
    by_contra hfree
    exact hno ⟨hours.named, Bool.eq_false_iff.mpr hfree, hcookie⟩
  -- and that is only ever the name of a connection with the same node
  obtain ⟨c', hc'⟩ := Option.isSome_iff_exists.mp htaken
  obtain ⟨hopen', hname⟩ := (S.host i).lib.found hc'
  obtain ⟨hist', hr'⟩ := h.runs i
  have hup : w.Up i c' := ⟨hopen', (Mesh.handshaken_of_reachable hr'.mesh c').named
    (by rw [hname]; exact Option.some_ne_none _)⟩
  have hheld : w.holder c' = some i := h.known i c' (h.made hopen')
  obtain ⟨d', hd'⟩ := Option.ne_none_iff_exists'.mp
    (ht.mated c' (by rw [hheld]; exact Option.some_ne_none i))
  obtain ⟨j', hj'⟩ := Option.ne_none_iff_exists'.mp (show w.holder d' ≠ none from fun hno => by
    have hback := (h.mates c' d' hd').1
    rw [h.held d' hno] at hback
    cases hback)
  have hjoin : w.Joins i c' j' d' := ⟨hd', hheld, hj'⟩
  have hsame := Option.some.inj ((h.named i c' j' d' hjoin hup.2).symm.trans hname)
  obtain rfl := S.jid_inj j' j hsame
  exact ⟨c', d', fun he => hnot (he ▸ hup.2), hjoin, hup⟩

/-- Alice's IDENT is let in: she and Bob have no other connection. -/
theorem refused_dialled : ∃ n out,
    Node.step (friendHost .b) (dialled.node .b) (.received 1
      (identMessage "\x7b\"name\":\"alice\",\"cookie\":\"ka\"\x7d" "g") .nothing "h") =
      .ok (n, out) ∧
    (Node.LetIn n 1 "alice" ∨ (Node.ShutOut (dialled.node .b) 1 n ∧
      ∃ c' d', c' ≠ 1 ∧ dialled.Joins .b c' .a d' ∧ dialled.Up .b c')) :=
  refused_for_twins friends friends_addressed _ _ dialled_run closed_dialling .b .a 1 0
    dialled_facts.1 _ [] dialled_facts.2.1 dialled_facts.2.2.2
    (fun hready => absurd (hready.symm.trans dialled_facts.2.2.1) (by decide))
    (fun _ => by decide +kernel) .nothing "h"

/-! ## Nobody writes a QUERYSTOP

  The plugin never makes one: there is a handler that passes stops on, and nothing that would send
  the first.  Where no stranger is connected, none goes round. -/

/-- A QUERYSTOP is written only where one has come in, by the handler that passes it on. -/
theorem stop_received {host : Host C} {hist : Node.History C} {n n' : Node C} {e : Node.Event C}
    {out : List (Action C)} (hr : Node.Run host hist n)
    (hok : Node.step host n e = .ok (n', out)) {c : C} {m : Message}
    (hin : .asyncWrite c m ∈ out) (hm : m.type = .querystop) :
    ∃ conn answer uuid, e = .received conn m answer uuid ∧
      conn ∈ n.mesh.router.connections := by
  -- a stop is no IDENT, so the two steps of the handshake write none
  have hident : ∀ {payload guid}, m ≠ identMessage payload guid := by
    rintro payload guid rfl
    cases hm
  rcases Node.step_speaks hr.transfers.sound hok with ⟨conn, o, me, uuid, -, -, -, -, hout⟩ |
    ⟨conn, msgp, answer, uuid, name, incoming, -, -, -, -, -, hout⟩ | ⟨-, hreasons⟩
  · rw [hout] at hin
    cases o with
    | none => cases hin
    | some d => exact absurd (Action.asyncWrite.inj (List.mem_singleton.mp hin)).2 hident
  · rw [hout] at hin
    cases incoming with
    | false => cases hin
    | true => exact absurd (Action.asyncWrite.inj (List.mem_singleton.mp hin)).2 hident
  · -- of all reasons to write, passing a stop on is the only one that gives a QUERYSTOP
    cases hreasons.writes c m hin with
    | stop conn answer uuid he hgate => exact ⟨conn, answer, uuid, he, hgate.isOpen⟩
    | forward i err t he hti heq =>
      rw [heq, hr.vetted.timer t (List.mem_of_getElem? hti)] at hm
      cases hm
    | stream ht =>
      rw [hm] at ht
      simp at ht
    | pong _ _ _ _ _ _ heq | resolve _ _ _ _ _ heq | result _ _ _ _ _ _ _ _ heq
    | request _ _ _ _ _ _ heq | pass _ _ _ _ _ _ _ _ _ _ _ _ heq =>
      rw [heq] at hm
      cases hm

/-- No QUERYSTOP is ever written, by any node on any connection. -/
def StopFree (hist : History N C) : Prop :=
  ∀ st ∈ hist, ∀ i c m, (i, Action.asyncWrite c m) ∈ st.out → m.type ≠ .querystop

/-- No QUERYSTOP is on the way, and there is nobody else who could send one. -/
structure Unstopped (w : World N C) : Prop where
  mated : ∀ c, w.holder c ≠ none → w.mate c ≠ none
  wire : ∀ c, ∀ m ∈ w.wire c, m.type ≠ .querystop

/-- A node that acts writes none, and none is on the way then: what it could pass on would have to
    come in first. -/
theorem Acted.unstopped (ha : Acted S w w' i e n out wire₀) (h : Sane S w) (hu : Unstopped w) :
    (∀ c m, .asyncWrite c m ∈ out → m.type ≠ .querystop) ∧ Unstopped w' := by
  -- a stop that is written has been taken off a wire, and there is none on any
  have hwrites : ∀ c m, .asyncWrite c m ∈ out → m.type ≠ .querystop := by
    intro c m hin hm
    obtain ⟨hist, hr⟩ := h.runs i
    obtain ⟨conn, answer, uuid, he, hopen⟩ := stop_received hr ha.step hin hm
    have hmate : w.mate conn ≠ none := hu.mated conn (h.held_known (h.made hopen))
    refine hu.wire conn m ?_ hm
    rw [(ha.taken conn m answer uuid he hmate).2.2]
    exact List.mem_cons_self ..
  refine ⟨hwrites, ?_, fun c m hm => ?_⟩
  · rw [ha.next]
    exact hu.mated
  · rw [ha.next] at hm
    by_cases hmate : w.mate c = none
    · -- nothing is put on the wire of a connection without a mate
      have hnone : w.post n out c = [] := by
        rw [post, hmate, Option.elim_none]
      simp only [ha.quiet c (h.quiet c hmate), hnone, List.append_nil] at hm
      cases hm
    · rcases List.mem_append.mp hm with hm | hm
      · exact hu.wire c m (ha.left hmate hm)
      · obtain ⟨d, hd⟩ := Option.ne_none_iff_exists'.mp hmate
        exact hwrites d m (Node.mem_sentOn.mp (ha.posted h hd hm).2)

/-- One step of the world, if no stranger connects in it. -/
theorem unstopped_step {ev : Event N C} {out : List (N × Action C)} (h : Sane S w)
    (hu : Unstopped w) (halone : ∀ i c dials, ev ≠ .stranger i c dials)
    (hok : step S w ev = .ok (w', out)) :
    (∀ i c m, (i, Action.asyncWrite c m) ∈ out → m.type ≠ .querystop) ∧ Unstopped w' := by
  -- what the world reports is what the node that acts has written
  have hmap : ∀ {k : N} {acts : List (Action C)},
      (∀ c m, .asyncWrite c m ∈ acts → m.type ≠ .querystop) →
      ∀ i c m, (i, Action.asyncWrite c m) ∈ acts.map (fun a => (k, a)) →
        m.type ≠ .querystop := by
    intro k acts hacts i c m hin
    obtain ⟨a, ha, hpair⟩ := List.mem_map.mp hin
    obtain ⟨rfl, rfl⟩ := Prod.mk.inj hpair
    exact hacts c m ha
  cases step_does hok with
  | idle => exact ⟨fun i c m hin => (by cases hin), hu⟩
  | cabled i j c d hne hc hd =>
    exact ⟨fun i c m hin => (by cases hin), mated_cable hu.mated i j hne, hu.wire⟩
  | strange i c dials => exact absurd rfl (halone i c dials)
  | acts i e n acts hperm hs =>
    have ha := (acted_acts hperm hs).unstopped h hu
    exact ⟨hmap ha.1, ha.2⟩
  | delivers i c answer uuid m rest n acts hholder hopen hwire hs =>
    have ha := (acted_delivers hholder hopen hwire hs).unstopped h hu
    exact ⟨hmap ha.1, ha.2⟩

/-- No stranger is connected to anybody; all else may happen. -/
def Alone (hist : History N C) : Prop := ∀ st ∈ hist, ∀ i c dials, st.event ≠ .stranger i c dials

/-- A QUERYSTOP is only ever passed on: `handle_querystop` broadcasts the one it has received, and
    nothing else in the plugin writes one.  So where no stranger starts one there is none. -/
theorem Run.stopFree (hr : Run S hist w) (halone : Alone hist) : StopFree hist := by
  refine (Runs.Run.invariant (I := fun hist w => Alone hist → Unstopped w ∧ StopFree hist)
    ?_ ?_ hr halone).2
  · rintro w rfl -
    exact ⟨⟨fun c hc => absurd rfl hc, fun c m hm => (by cases hm)⟩, fun st hst => (by cases hst)⟩
  · intro hist w e w' out hr ih hok halone
    have hsane : Sane S w := Run.sane hr
    obtain ⟨hu, hbefore⟩ := ih fun st hst => halone st (List.mem_append_left _ hst)
    obtain ⟨hout, hu'⟩ := unstopped_step hsane hu
      (halone _ (List.mem_append_right _ (List.mem_singleton.mpr rfl))) hok
    refine ⟨hu', fun st hst => ?_⟩
    rcases List.mem_append.mp hst with hst | hst
    · exact hbefore st hst
    · obtain rfl := List.mem_singleton.mp hst
      exact hout

end World

end Greynet
