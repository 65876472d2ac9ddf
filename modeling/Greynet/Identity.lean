/-
  Who a connection is: names, cookies and adverts over whole runs of the mesh.

  The name a connection gets comes from the JSON of an IDENT, which the other end writes.  What
  the node KNOWS about the other end was fixed earlier, over XMPP: the JID a cookie was issued to
  (`m_peer_cookies`), or the JID an advert came from (the connection's `"jid"` property).

  1. `Traced` — the invariant that ties a state to its history: how each connection came to be,
     which IDENT made it ready, where each cookie and each pending dial came from.
  2. `authentic_iff` — `expect_ident` never compares the name with either of them, so the names
     are the authenticated ones exactly in the runs where no accepted IDENT lies (`Truthful`).
  3. `singleUse_iff` — "nuke the cookie so it can't be reused" clears a property of the
     connection and leaves the entry of the TABLE, so a cookie is single-use exactly in the runs
     where something else stops every replay (`Harmless`).

  Both conditions are on what comes in: on the texts of the IDENTs and on the state that finds them.
  Neither is on what the node answers, so each says in advance which runs go well.
-/
import Greynet.Mesh

namespace Greynet

namespace Mesh

variable {C : Type} [DecidableEq C]

/-- The history of a run of the mesh: each step with the states before and after it.  What was
    opened, issued and read is looked up in it. -/
abbrev History (C : Type) := List (Runs.Step (Mesh C) (Event C) (Action C))

/-- The runs of one node from its start, whatever reaches it.  There is no friend and no stranger
    here; an event is an event. -/
abbrev Run (host : Host C) (hist : History C) (m : Mesh C) : Prop :=
  Runs.Run (step host) (fun m₀ => m₀ = empty) hist m

/-! ## What a history says

  Who a connection was opened for and whom a cookie was issued to are in no state; the history has
  them.  So the invariant speaks of a state and of the history that has led to it. -/

/-- `conn` was opened; with the dial it answers if it is an outgoing connection.  It stays opened
    when it has been closed. -/
def Opened (hist : History C) (conn : C) (o : Option Dial) : Prop :=
  ∃ st ∈ hist, st.pre.opens st.event = some (conn, o)

/-- `new_incoming_connection` was called for `conn`, so somebody else has dialled. -/
def Incoming (hist : History C) (conn : C) : Prop := Opened hist conn none

omit [DecidableEq C] in
/-- The dial `d` was asked for by an advert that came from `jid`, and has its cookie and the JID
    among its properties. -/
def Advertised (hist : History C) (d : Dial) (jid : String) : Prop :=
  ∃ st ∈ hist, ∃ msg cookie, st.event = .jabberMsgReceived msg jid ∧
    d.props = [("cookie", cookie), ("jid", jid)] ∧
    Action.connectToRemote d.ip d.port d.props ∈ st.out

/-- `jabber_new_peer` has issued `cookie` to `jid` and sent it there.  A call that sends nothing
    issues nothing either. -/
def Issued (hist : History C) (cookie jid : String) : Prop :=
  ∃ st ∈ hist, st.event = .jabberNewPeer jid cookie ∧ ∃ body, Action.sendTo jid body ∈ st.out

/-- The step in which `expect_ident` accepts the IDENT `msgp` on `conn`: the connection was not
    ready before it, and is after. -/
structure Accepting (st : Runs.Step (Mesh C) (Event C) (Action C)) (conn : C) (msgp : Message) :
    Prop where
  event : ∃ uuid, st.event = .received conn msgp uuid
  before : (st.pre.router.conn conn).ready = false
  after : (st.post.router.conn conn).ready = true

/-- A connection was opened if it had been already, or is in the last step; the histories of the
    proofs grow at the end. -/
theorem opened_snoc {hist : History C} {st : Runs.Step (Mesh C) (Event C) (Action C)} {conn : C}
    {o : Option Dial} :
    Opened (hist ++ [st]) conn o ↔ Opened hist conn o ∨ st.pre.opens st.event = some (conn, o) := by
  simp [Opened, or_and_right, exists_or]

/-- A step that opens none leaves it at that. -/
theorem opened_snoc_of_none (hist : History C)
    {st : Runs.Step (Mesh C) (Event C) (Action C)} (ho : st.pre.opens st.event = none)
    (conn : C) (o : Option Dial) :
    Opened (hist ++ [st]) conn o ↔ Opened hist conn o := by
  rw [opened_snoc, ho]
  simp

omit [DecidableEq C] in
/-- A cookie stays issued, ... -/
theorem Issued.mono {hist : History C} {st : Runs.Step (Mesh C) (Event C) (Action C)}
    {cookie jid : String} (h : Issued hist cookie jid) : Issued (hist ++ [st]) cookie jid := by
  obtain ⟨st', hin, h⟩ := h
  exact ⟨st', List.mem_append_left _ hin, h⟩

omit [DecidableEq C] in
/-- ... an advert stays read, ... -/
theorem Advertised.mono {hist : History C} {st : Runs.Step (Mesh C) (Event C) (Action C)}
    {d : Dial} {jid : String} (h : Advertised hist d jid) : Advertised (hist ++ [st]) d jid := by
  obtain ⟨st', hin, h⟩ := h
  exact ⟨st', List.mem_append_left _ hin, h⟩

omit [DecidableEq C] in
/-- ... and a dial keeps where it came from. -/
theorem Advertised.dialled_mono {hist : History C} {st : Runs.Step (Mesh C) (Event C) (Action C)}
    {d : Dial} (h : d.props = [] ∨ ∃ jid, Advertised hist d jid) :
    d.props = [] ∨ ∃ jid, Advertised (hist ++ [st]) d jid :=
  h.imp id (Exists.imp fun _ hj => hj.mono)

/-! ## The invariant -/

/-- How the object of one connection came about: the callback on its stack, its flag and its name.
    Each is traced to the event that set it. -/
structure TracedConn (hist : History C) (conn : C) (x : Connection) : Prop where
  /-- a callback on the stack is the one pushed when the connection was opened -/
  awaiting : x.messageReceivedCbs = [] ∨
    ∃ o, Opened hist conn o ∧ x.messageReceivedCbs = [o.isNone] ∧ x.ready = false
  /-- a ready connection was opened and has no callback left -/
  ready : x.ready = true → x.messageReceivedCbs = [] ∧ ∃ o, Opened hist conn o
  /-- a connection once accepted stays ready -/
  stays : ∀ st ∈ hist, ∀ msgp, Accepting st conn msgp → x.ready = true
  /-- `"jid"` is what the dial said -/
  jid : ∀ d, Opened hist conn (some d) → x.get "jid" = d.get "jid"

/-- Every connection, cookie and dial of the state, traced back to an event.  With this a statement
    about a state can be turned into one about what has happened. -/
structure Traced (hist : History C) (m : Mesh C) : Prop where
  conns : ∀ conn, TracedConn hist conn (m.router.conn conn)
  known : ∀ conn o, Opened hist conn o → conn ∈ m.router.known
  once : ∀ conn o o', Opened hist conn o → Opened hist conn o' → o = o'
  cookies : ∀ cookie jid, m.peerCookies cookie = some jid → Issued hist cookie jid
  dials : ∀ d ∈ m.dialling, d.props = [] ∨ ∃ jid, Advertised hist d jid
  answered : ∀ conn d, Opened hist conn (some d) → d.props = [] ∨ ∃ jid, Advertised hist d jid

/-- A step that does not touch a connection's object keeps it traced.  This is the case of every
    connection but one in every step. -/
theorem TracedConn.keep {hist : History C} {conn : C} {x : Connection}
    {st : Runs.Step (Mesh C) (Event C) (Action C)} (h : TracedConn hist conn x)
    (hpost : st.post.router.conn conn = x) (hpre : st.pre.router.conn conn = x)
    (ho : ∀ o, st.pre.opens st.event ≠ some (conn, o)) : TracedConn (hist ++ [st]) conn x := by
  have hopened : ∀ o, Opened (hist ++ [st]) conn o ↔ Opened hist conn o := by
    intro o
    rw [opened_snoc]
    exact or_iff_left (ho o)
  refine ⟨?_, ?_, ?_, ?_⟩
  · simpa only [hopened] using h.awaiting
  · simpa only [hopened] using h.ready
  · intro st' hin msgp hacc
    rcases List.mem_append.mp hin with hin | hin
    · exact h.stays st' hin msgp hacc
    · obtain rfl := List.mem_singleton.mp hin
      rw [← hpost]
      exact hacc.after
  · simpa only [hopened] using h.jid

/-- The object of a connection that has just been opened: it awaits its IDENT and has no name, and
    no IDENT has been accepted on it before. -/
theorem TracedConn.opened {hist : History C} {conn : C} {x : Connection} {o : Option Dial}
    {st : Runs.Step (Mesh C) (Event C) (Action C)} (h : TracedConn hist conn x)
    (ho : st.pre.opens st.event = some (conn, o)) (hnever : ∀ o', ¬ Opened hist conn o')
    (hpost : st.post.router.conn conn = fresh o) : TracedConn (hist ++ [st]) conn (fresh o) := by
  have hnotReady : (fresh o).ready = false := by cases o <;> rfl
  refine ⟨Or.inr ⟨o, opened_snoc.mpr (Or.inr ho), by cases o <;> rfl, hnotReady⟩, ?_, ?_, ?_⟩
  · intro hr
    rw [hnotReady] at hr
    cases hr
  · intro st' hin msgp hacc
    rcases List.mem_append.mp hin with hin | hin
    · -- a connection accepted before was opened before
      obtain ⟨-, o', ho'⟩ := h.ready (h.stays st' hin msgp hacc)
      exact absurd ho' (hnever o')
    · obtain rfl := List.mem_singleton.mp hin
      rw [← hpost]
      exact hacc.after
  · intro d hd
    rcases opened_snoc.mp hd with hd | hd
    · exact absurd hd (hnever _)
    · rw [ho] at hd
      obtain rfl := (Prod.mk.inj (Option.some.inj hd)).2
      rfl

/-- The object of a connection whose IDENT has passed: this is the step behind its flag and its
    name. -/
theorem TracedConn.identified {hist : History C} {conn : C} {x : Connection} {incoming : Bool}
    {cbs : List Bool} {st : Runs.Step (Mesh C) (Event C) (Action C)} (h : TracedConn hist conn x)
    (hcbs : x.messageReceivedCbs = incoming :: cbs) (ho : st.pre.opens st.event = none)
    (name : String) : TracedConn (hist ++ [st]) conn (identified incoming name x) := by
  have hopened := opened_snoc_of_none hist ho conn
  -- it was awaiting its IDENT, so its stack had the one callback
  rcases h.awaiting with hnil | ⟨o, ho', hone, -⟩
  · rw [hcbs] at hnil
    cases hnil
  · have hgone : (Mesh.identified incoming name x).messageReceivedCbs = [] := by
      cases incoming <;>
        simp [Mesh.identified, Connection.popMessageReceivedCb, Connection.setReady,
          Connection.setName, Connection.set, hone]
    refine ⟨Or.inl hgone, fun _ => ⟨hgone, o, (hopened _).mpr ho'⟩, fun _ _ _ _ => rfl, ?_⟩
    intro d hd
    rw [← h.jid d ((hopened _).mp hd)]
    cases incoming with
    | false => rfl
    | true =>
      show (Function.update x.props "cookie" "") "jid" = _
      rw [Function.update_of_ne (by decide)]
      rfl

/-- What is left to show for a step that opens no connection: the objects, the cookies and the
    dials.  The fields on openings carry over. -/
theorem Traced.unopened {hist : History C} {m m' : Mesh C}
    {st : Runs.Step (Mesh C) (Event C) (Action C)} (ht : Traced hist m)
    (ho : st.pre.opens st.event = none)
    (hconns : ∀ conn, TracedConn (hist ++ [st]) conn (m'.router.conn conn))
    (hknown : m'.router.known = m.router.known)
    (hcookies : ∀ k j, m'.peerCookies k = some j → Issued (hist ++ [st]) k j)
    (hdials : ∀ d ∈ m'.dialling, d.props = [] ∨ ∃ jid, Advertised (hist ++ [st]) d jid) :
    Traced (hist ++ [st]) m' := by
  have hopened := opened_snoc_of_none hist ho
  refine ⟨hconns, ?_, ?_, hcookies, hdials, ?_⟩
  · intro c o h
    rw [hknown]
    exact ht.known c o ((hopened _ _).mp h)
  · simpa only [hopened] using ht.once
  · intro c d hd
    exact Advertised.dialled_mono (ht.answered c d ((hopened _ _).mp hd))

/-- A step that opens a connection.  That it was never opened before is what the router sees to. -/
theorem traced_opened {hist : History C} {m m' : Mesh C} {e : Event C} {out : List (Action C)}
    {conn : C} {o : Option Dial} (ht : Traced hist m) (ho : m.opens e = some (conn, o))
    (hrouter : m'.router = m.router.add conn (fresh o)) (hcookies : m'.peerCookies = m.peerCookies)
    (hdial : ∀ d ∈ m'.dialling, d ∈ m.dialling) : Traced (hist ++ [⟨m, e, m', out⟩]) m' := by
  obtain ⟨hnew, hpending⟩ := opens_some ho
  -- the router makes a handle once, so this connection has no earlier opening
  have hnever : ∀ o', ¬ Opened hist conn o' := fun o' h => hnew (ht.known conn o' h)
  have hopened : ∀ c o', Opened (hist ++ [⟨m, e, m', out⟩]) c o' ↔
      Opened hist c o' ∨ (c = conn ∧ o' = o) := by
    intro c o'
    rw [opened_snoc, ho]
    simp [eq_comm]
  refine ⟨fun c => ?_, ?_, ?_, ?_, ?_, ?_⟩
  · -- the connection itself, or another one, which is as it was
    by_cases hc : c = conn
    · subst hc
      have hx : m'.router.conn c = fresh o := by rw [hrouter, Router.add_conn_self]
      rw [hx]
      exact (ht.conns c).opened ho hnever hx
    · have hx : m'.router.conn c = m.router.conn c := by rw [hrouter, Router.add_conn_ne _ _ hc]
      rw [hx]
      refine (ht.conns c).keep hx rfl fun o' h => ?_
      rw [ho] at h
      exact hc (Prod.mk.inj (Option.some.inj h)).1.symm
  · intro c o' h
    rw [hrouter, Router.mem_add_known]
    rcases (hopened _ _).mp h with h | ⟨rfl, -⟩
    · exact Or.inr (ht.known c o' h)
    · exact Or.inl rfl
  · intro c o₁ o₂ h₁ h₂
    rcases (hopened _ _).mp h₁ with h₁ | ⟨rfl, rfl⟩
    · rcases (hopened _ _).mp h₂ with h₂ | ⟨rfl, rfl⟩
      · exact ht.once c o₁ o₂ h₁ h₂
      · exact absurd h₁ (hnever _)
    · rcases (hopened _ _).mp h₂ with h₂ | ⟨-, rfl⟩
      · exact absurd h₂ (hnever _)
      · rfl
  · intro k j hk
    rw [hcookies] at hk
    exact (ht.cookies k j hk).mono
  · intro d hd
    exact Advertised.dialled_mono (ht.dials d (hdial d hd))
  · intro c d hd
    rcases (hopened _ _).mp hd with hd | ⟨-, hd⟩
    · exact Advertised.dialled_mono (ht.answered c d hd)
    · exact Advertised.dialled_mono (ht.dials d (hpending d hd.symm))

/-- **The invariant, step by step**: one case for each effect.  The hard one is the IDENT that
    passes, where the name of the connection comes from the message. -/
theorem traced_step {host : Host C} {hist : History C} {m m' : Mesh C} {e : Event C}
    {out : List (Action C)} (ht : Traced hist m) (hok : step host m e = .ok (m', out)) :
    Traced (hist ++ [⟨m, e, m', out⟩]) m' := by
  cases step_effect hok with
  | issues jid cookie body he hout hm =>
    subst he hout hm
    refine ht.unopened rfl (fun conn => (ht.conns conn).keep rfl rfl (by simp [opens])) rfl ?_
      fun d hd => Advertised.dialled_mono (ht.dials d hd)
    intro k j hk
    simp only at hk
    -- the cookie just issued, or an older entry of the table
    by_cases hkc : k = cookie
    · subst hkc
      rw [Function.update_self] at hk
      obtain rfl := Option.some.inj hk
      exact ⟨_, List.mem_append_right _ (List.mem_singleton.mpr rfl), rfl, body, by simp⟩
    · rw [Function.update_of_ne hkc] at hk
      exact (ht.cookies k j hk).mono
  | opened conn o ho hrouter hcookies hdial => exact traced_opened ht ho hrouter hcookies hdial
  | accepts conn msgp uuid incoming cbs name he hopen hcbs hp hm =>
    subst he hm
    refine ht.unopened rfl (fun c => ?_) rfl (fun k j hk => (ht.cookies k j hk).mono)
      fun d hd => Advertised.dialled_mono (ht.dials d hd)
    by_cases hc : c = conn
    · subst hc
      rw [Router.modify_conn_self]
      -- the one connection that gets its name, from the IDENT of this event
      exact (ht.conns c).identified hcbs rfl name
    · have hx := Router.modify_conn_ne m.router (identified incoming name) hc
      rw [hx]
      exact (ht.conns c).keep hx rfl (by simp [opens])
  | keeps ho hconn hknown hcookies hdial =>
    refine ht.unopened ho (fun c => ?_) hknown (fun k j hk => ?_) fun d hd => ?_
    · rw [hconn]
      exact (ht.conns c).keep (by rw [hconn]) rfl (by simp [ho])
    · rw [hcookies] at hk
      exact (ht.cookies k j hk).mono
    · rcases hdial d hd with hd | hnil | ⟨msg, jid, cookie, rfl, hprops, hsent⟩
      · exact Advertised.dialled_mono (ht.dials d hd)
      · exact Or.inl hnil
      · exact Or.inr ⟨jid, _, List.mem_append_right _ (List.mem_singleton.mpr rfl), msg, cookie,
          rfl, hprops, hsent⟩

/-- At the start there is nothing to trace: no connection has a callback, a name or a flag. -/
theorem traced_empty : Traced ([] : History C) empty := by
  have hno : ∀ conn o, ¬ Opened ([] : History C) conn o := by
    rintro conn o ⟨st, hin, -⟩
    cases hin
  refine ⟨fun conn => ⟨Or.inl rfl, fun h => (by cases h), fun st h => (by cases h), ?_⟩, ?_, ?_,
    fun k j h => (by cases h), fun d h => (by cases h), ?_⟩
  · exact fun d h => absurd h (hno _ _)
  · exact fun c o h => absurd h (hno _ _)
  · exact fun c o _ h => absurd h (hno _ _)
  · exact fun c d h => absurd h (hno _ _)

/-- **Every state a run reaches is traced**, to the events of that run. -/
theorem Run.traced {host : Host C} {hist : History C} {m : Mesh C} (hr : Run host hist m) :
    Traced hist m :=
  Runs.Run.invariant (I := Traced) (fun _ h0 => h0 ▸ traced_empty)
    (fun _ _ _ _ _ _ ht hok => traced_step ht hok) hr

/-! ## Names

  An IDENT that lies about the name is accepted like any other.  So whether the names are authentic
  is in the hands of those who write them. -/

/-- Every ready connection has the name its other end was authenticated under: by the cookie it
    showed, or by the advert it was dialled from. -/
structure Authentic (host : Host C) (hist : History C) (m : Mesh C) : Prop where
  /-- an incoming one: the IDENT accepted on it carried a cookie issued to that name -/
  incoming : ∀ conn n, (m.router.conn conn).ready = true → (m.router.conn conn).name = some n →
    Incoming hist conn →
    ∃ h₁ st h₂ msgp cookie, hist = h₁ ++ st :: h₂ ∧ Accepting st conn msgp ∧
      identCookie host.js msgp = some cookie ∧ st.pre.peerCookies cookie = some n ∧
      Issued h₁ cookie n
  /-- an outgoing one made from an advert: the JID the advert came from -/
  outgoing : ∀ conn n d, (m.router.conn conn).ready = true → (m.router.conn conn).name = some n →
    Opened hist conn (some d) → d.props ≠ [] →
    ∃ jid, Advertised hist d jid ∧ (m.router.conn conn).get "jid" = jid ∧ n = jid

/-- An IDENT that passes names the JID its cookie was issued to, or, on a connection dialled
    from an advert, the JID the advert came from. -/
def Truthful (host : Host C) (hist : History C)
    (st : Runs.Step (Mesh C) (Event C) (Action C)) : Prop :=
  ∀ conn msgp uuid incoming cbs name, st.event = .received conn msgp uuid →
    conn ∈ st.pre.router.connections →
    (st.pre.router.conn conn).messageReceivedCbs = incoming :: cbs →
    Passes host st.pre msgp incoming name →
    (incoming = true → ∀ cookie, identCookie host.js msgp = some cookie →
      st.pre.peerCookies cookie = some name) ∧
    (incoming = false → ∀ d, Opened hist conn (some d) → d.props ≠ [] →
      name = (st.pre.router.conn conn).get "jid")

omit [DecidableEq C] in
/-- The `"jid"` of a dial made from an advert is the JID that the advert came from. -/
theorem Advertised.get_jid {hist : History C} {d : Dial} {jid : String}
    (h : Advertised hist d jid) : d.get "jid" = jid := by
  obtain ⟨st, -, msg, cookie, -, hprops, -⟩ := h
  rw [Dial.get, hprops]
  rfl

/-- A connection that awaits its IDENT was opened, in the direction its callback is bound to; the
    flag `incoming` is therefore what has happened and not only what was passed along. -/
theorem Traced.awaiting {hist : History C} {m : Mesh C} (ht : Traced hist m) {conn : C}
    {incoming : Bool} {cbs : List Bool}
    (hcbs : (m.router.conn conn).messageReceivedCbs = incoming :: cbs) :
    ∃ o, Opened hist conn o ∧ incoming = o.isNone ∧ (m.router.conn conn).ready = false := by
  rcases (ht.conns conn).awaiting with hnil | ⟨o, ho, hone, hready⟩
  · rw [hcbs] at hnil
    cases hnil
  · rw [hcbs] at hone
    exact ⟨o, ho, (List.cons.inj hone).1, hready⟩

/-- A connection whose object a step leaves as it was stays authentic: what it is compared with is
    in the history, and that only grows. -/
theorem Authentic.keep {host : Host C} {hist : History C} {m m' : Mesh C}
    {st : Runs.Step (Mesh C) (Event C) (Action C)} (ha : Authentic host hist m)
    (hsame : ∀ conn, (m'.router.conn conn).ready = true →
      m'.router.conn conn = m.router.conn conn ∧ ∀ o, st.pre.opens st.event ≠ some (conn, o)) :
    Authentic host (hist ++ [st]) m' := by
  constructor
  · intro conn n hready hname hin
    obtain ⟨hx, ho⟩ := hsame conn hready
    rw [hx] at hready hname
    obtain ⟨h₁, st', h₂, msgp, cookie, rfl, h⟩ := ha.incoming conn n hready hname
      ((opened_snoc.mp hin).resolve_right (ho _))
    exact ⟨h₁, st', h₂ ++ [st], msgp, cookie, by simp, h⟩
  · intro conn n d hready hname hout hprops
    obtain ⟨hx, ho⟩ := hsame conn hready
    rw [hx] at hready hname ⊢
    obtain ⟨jid, hadv, h⟩ := ha.outgoing conn n d hready hname
      ((opened_snoc.mp hout).resolve_right (ho _)) hprops
    exact ⟨jid, hadv.mono, h⟩

/-- One step: a truthful one keeps the names authentic.  Only an IDENT that passes sets a name, and
    truth is asked of exactly that. -/
theorem authentic_step {host : Host C} {hist : History C} {m m' : Mesh C} {e : Event C}
    {out : List (Action C)} (ht : Traced hist m) (ha : Authentic host hist m)
    (hok : step host m e = .ok (m', out)) (htrue : Truthful host hist ⟨m, e, m', out⟩) :
    Authentic host (hist ++ [⟨m, e, m', out⟩]) m' := by
  cases step_effect hok with
  | issues jid cookie body he hout hm =>
    subst he hm
    exact ha.keep fun conn _ => ⟨rfl, by simp [opens]⟩
  | keeps ho hconn _ _ _ => exact ha.keep fun conn _ => ⟨by rw [hconn], by simp [ho]⟩
  | opened conn o ho hrouter _ _ =>
    refine ha.keep fun c hready => ?_
    by_cases hc : c = conn
    · subst hc
      rw [hrouter, Router.add_conn_self] at hready
      cases o <;> cases hready
    · refine ⟨by rw [hrouter, Router.add_conn_ne _ _ hc], fun o' h => ?_⟩
      rw [show Mesh.opens _ _ = some (conn, o) from ho] at h
      exact hc (Prod.mk.inj (Option.some.inj h)).1.symm
  | accepts conn msgp uuid incoming cbs name he hopen hcbs hp hm =>
    obtain ⟨hin, hout⟩ := htrue conn msgp uuid incoming cbs name he hopen hcbs hp
    obtain ⟨o, ho, hdir, hready⟩ := ht.awaiting hcbs
    have hopened : ∀ c o, Opened (hist ++ [⟨m, e, m', out⟩]) c o ↔ Opened hist c o :=
      opened_snoc_of_none _ (by rw [he]; rfl)
    have hself : m'.router.conn conn = identified incoming name (m.router.conn conn) := by
      rw [hm, Router.modify_conn_self]
    have hother : ∀ c, c ≠ conn → m'.router.conn c = m.router.conn c := by
      intro c hc
      rw [hm, Router.modify_conn_ne _ _ hc]
    have hacc : Accepting (⟨m, e, m', out⟩ : Runs.Step _ _ _) conn msgp :=
      ⟨⟨uuid, he⟩, hready, by rw [hself]; rfl⟩
    constructor
    · intro c n hr hn hinc
      by_cases hc : c = conn
      · subst hc
        rw [hself] at hn
        obtain rfl : name = n := Option.some.inj hn
        -- opened as an incoming one, so the callback was the one for incoming connections
        obtain rfl := ht.once c _ _ ho ((hopened _ _).mp hinc)
        obtain ⟨cookie, hcookie, -, -⟩ := hp.cookie hdir
        have htable := hin hdir cookie hcookie
        exact ⟨hist, _, [], msgp, cookie, rfl, hacc, hcookie, htable, ht.cookies _ _ htable⟩
      · rw [hother c hc] at hr hn
        obtain ⟨h₁, st', h₂, msgp', cookie, rfl, h⟩ :=
          ha.incoming c n hr hn ((hopened _ _).mp hinc)
        exact ⟨h₁, st', h₂ ++ [⟨m, e, m', out⟩], msgp', cookie, by simp, h⟩
    · intro c n d hr hn hoc hprops
      have hoc' := (hopened _ _).mp hoc
      by_cases hc : c = conn
      · subst hc
        rw [hself] at hn ⊢
        obtain rfl : name = n := Option.some.inj hn
        obtain rfl := ht.once c _ _ ho hoc'
        obtain rfl : incoming = false := hdir
        obtain ⟨jid, hadv⟩ := (ht.answered c d hoc').resolve_left hprops
        have hjid : (m.router.conn c).get "jid" = jid := by
          rw [(ht.conns c).jid d hoc', hadv.get_jid]
        exact ⟨jid, hadv.mono, hjid, (hout rfl d hoc' hprops).trans hjid⟩
      · rw [hother c hc] at hr hn ⊢
        obtain ⟨jid, hadv, h⟩ := ha.outgoing c n d hr hn hoc' hprops
        exact ⟨jid, hadv.mono, h⟩

/-- Names are authentic after a run of truthful steps, whatever those steps are. -/
theorem Run.authentic {host : Host C} {hist : History C} {m : Mesh C} (hr : Run host hist m)
    (htrue : Runs.Each (Truthful host) hist) : Authentic host hist m := by
  refine Runs.Run.invariant
    (I := fun hist m => Runs.Each (Truthful host) hist → Authentic host hist m)
    ?_ ?_ hr htrue
  · rintro m rfl -
    exact ⟨fun conn n h => (by cases h), fun conn n d h => (by cases h)⟩
  · intro hist m e m' out hr ih hok htrue
    obtain ⟨hpre, hlast⟩ := Runs.each_snoc.mp htrue
    exact authentic_step (Run.traced hr) (ih hpre) hok hlast

/-- If the names are authentic after a step, the step was truthful.  A lie would show in the name at
    once. -/
theorem truthful_of_authentic {host : Host C} {hist : History C} {m m' : Mesh C} {e : Event C}
    {out : List (Action C)} (ht : Traced hist m) (hok : step host m e = .ok (m', out))
    (ha : Authentic host (hist ++ [⟨m, e, m', out⟩]) m') :
    Truthful host hist ⟨m, e, m', out⟩ := by
  intro conn msgp uuid incoming cbs name he hopen hcbs hp
  simp only at he hopen hcbs hp
  subst he
  have hstep := step_passes uuid hopen hcbs hp
  rw [hok] at hstep
  obtain ⟨rfl, rfl⟩ := Prod.mk.inj (Except.ok.inj hstep)
  obtain ⟨o, ho, hdir, hready⟩ := ht.awaiting hcbs
  have hself : (m.router.modify conn (identified incoming name)).conn conn =
      identified incoming name (m.router.conn conn) := Router.modify_conn_self ..
  constructor
  · rintro rfl cookie hcookie
    obtain rfl : o = none := Option.isNone_iff_eq_none.mp hdir.symm
    obtain ⟨h₁, st, h₂, msgp', cookie', hh, hacc, hcookie', htable, -⟩ :=
      ha.incoming conn name (by rw [hself]; rfl) (by rw [hself]; rfl) (opened_snoc.mpr (Or.inl ho))
    rcases List.eq_nil_or_concat h₂ with rfl | ⟨h₂', last, rfl⟩
    · obtain ⟨-, hst⟩ := List.append_inj' hh rfl
      obtain rfl := (List.cons.inj hst).1
      obtain ⟨uuid', he⟩ := hacc.event
      obtain ⟨-, rfl, -⟩ := Event.received.inj he
      rw [hcookie] at hcookie'
      obtain rfl := Option.some.inj hcookie'
      exact htable
    · -- an earlier step cannot have accepted a connection that still awaits its IDENT
      rw [List.concat_eq_append, ← List.cons_append, ← List.append_assoc] at hh
      obtain ⟨rfl, -⟩ := List.append_inj' hh rfl
      have hr := (ht.conns conn).stays st (by simp) msgp' hacc
      rw [hready] at hr
      cases hr
  · rintro rfl d hd hprops
    obtain ⟨jid, -, hjid, hname⟩ := ha.outgoing conn name d (by rw [hself]; rfl)
      (by rw [hself]; rfl) (opened_snoc.mpr (Or.inl hd)) hprops
    rw [hname, ← hjid, hself]
    rfl

/-- **Names are authentic in every state of a run exactly when no IDENT it accepts lies.**  One
    direction is the invariant; for the other, a lie is seen in the state right after it. -/
theorem authentic_iff (host : Host C) (hist : History C) (m : Mesh C) (hr : Run host hist m) :
    Runs.Each (fun h₁ st => Authentic host (h₁ ++ [st]) st.post) hist ↔
      Runs.Each (Truthful host) hist := by
  constructor
  · rintro ha h₁ st h₂ rfl
    obtain ⟨hr₁, hok, -⟩ := hr.cut
    exact truthful_of_authentic (Run.traced hr₁) hok (ha h₁ st h₂ rfl)
  · rintro htrue h₁ st h₂ rfl
    refine Run.authentic hr.upTo ?_
    rw [← List.singleton_append, ← List.append_assoc] at htrue
    exact htrue.of_append

/-- Two IDENTs that carry the same cookie: one under the name it was issued to, ... -/
def aliceIdent : String := "\x7b\"name\":\"alice\",\"cookie\":\"k\"\x7d"

/-- ... and one under another. -/
def bobIdent : String := "\x7b\"name\":\"bob\",\"cookie\":\"k\"\x7d"

/-- A codec for them. -/
def sampleJson : JsonSpirit := .ofTexts [
  (aliceIdent, .obj [("name", .str "alice"), ("cookie", .str "k")]),
  (bobIdent, .obj [("name", .str "bob"), ("cookie", .str "k")])]

/-- A node with that codec, at some address, so that it can be dialled and issues cookies. -/
def sampleHost : Host Nat where
  js := sampleJson
  lib := .table
  playdar := .plain
  addressFromString _ := some 0
  jid := "me"
  publicIp := "1.2.3.4"
  port := 60211

/-- A cookie is issued to alice, and one incoming connection presents it as `text`.  Who is at the
    other end of it the node cannot see. -/
def presenting (text : String) : List (Event Nat) :=
  [.jabberNewPeer "alice" "k", .newIncomingConnection 0, .received 0 ⟨.ident, "g", text⟩ "u"]

/-- Alice herself becomes known as alice ... -/
theorem alice_is_authentic :
    Runs.Each (fun h₁ st => Authentic sampleHost (h₁ ++ [st]) st.post)
      (Runs.trace (step sampleHost) empty (presenting aliceIdent)) := by
  refine (authentic_iff sampleHost _ _ (Runs.run_trace _ rfl)).mpr ?_
  rintro h₁ st h₂ hh conn msgp uuid incoming cbs name he - hcbs hp
  have hst : st ∈ Runs.trace (step sampleHost) empty (presenting aliceIdent) := by
    rw [hh]
    simp
  have hthree : Runs.trace (step sampleHost) empty (presenting aliceIdent) =
      [⟨_, .jabberNewPeer "alice" "k", _, _⟩, ⟨_, .newIncomingConnection 0, _, _⟩,
        ⟨_, .received 0 ⟨.ident, "g", aliceIdent⟩ "u", _, _⟩] := rfl
  rw [hthree] at hst
  simp only [List.mem_cons, List.not_mem_nil, or_false] at hst
  rcases hst with rfl | rfl | rfl
  · cases he
  · cases he
  · obtain ⟨rfl, rfl, rfl⟩ := Event.received.inj he
    obtain rfl : name = "alice" := Option.some.inj (hp.named.symm.trans (by decide))
    refine ⟨fun _ cookie hcookie => ?_, fun hi => ?_⟩
    · obtain rfl : cookie = "k" := Option.some.inj (hcookie.symm.trans (by decide))
      rfl
    · exact absurd ((List.cons.inj hcbs).1.trans hi) (by decide)

/-- ... but with the cookie issued to her anyone becomes known as anybody.  The connection is ready
    and is called bob, and the cookie in its IDENT was issued to alice. -/
theorem bob_is_not_authentic :
    ∃ m, Run sampleHost (Runs.trace (step sampleHost) empty (presenting bobIdent)) m ∧
      (m.router.conn 0).ready = true ∧ (m.router.conn 0).name = some "bob" ∧
      ¬ Authentic sampleHost (Runs.trace (step sampleHost) empty (presenting bobIdent)) m := by
  refine ⟨_, Runs.run_trace _ rfl, rfl, rfl, fun ha => ?_⟩
  have hin : Incoming (Runs.trace (step sampleHost) empty (presenting bobIdent)) 0 :=
    ⟨_, List.mem_cons_of_mem _ (List.mem_cons_self ..), rfl⟩
  obtain ⟨h₁, st, h₂, -, cookie, hh, -, -, -, st', hst', he, -⟩ :=
    ha.incoming 0 "bob" rfl rfl hin
  have hpast : st' ∈ Runs.trace (step sampleHost) empty (presenting bobIdent) := by
    rw [hh]
    exact List.mem_append_left _ hst'
  exact absurd (Runs.mem_of_event hpast he) (by simp [presenting])

/-! ## Cookies

  A cookie is accepted in one step of `expect_ident`, and the entry that it looks up stays.  What
  can stop a replay is another check of the same handler: that there is a name, and that no open
  connection has it. -/

/-- The cookie a step accepts: of an IDENT that makes an incoming connection ready.  It is read off
    the states before and after the step, and not off the checks. -/
def acceptedCookie (js : JsonSpirit) (st : Runs.Step (Mesh C) (Event C) (Action C)) :
    Option String :=
  match st.event with
  | .received conn msgp _ =>
    if (st.pre.router.conn conn).messageReceivedCbs.head? = some true ∧
        (st.pre.router.conn conn).ready = false ∧ (st.post.router.conn conn).ready = true then
      identCookie js msgp
    else none
  | _ => none

/-- The cookies accepted in a history, in order, each as often as it was accepted. -/
def acceptedCookies (js : JsonSpirit) (hist : History C) : List String :=
  hist.filterMap (acceptedCookie js)

/-- The step delivers, on an open incoming connection, an IDENT with a cookie already accepted.  It
    does not matter under which name, nor whether the first connection is still there. -/
structure Replays (host : Host C) (hist : History C)
    (st : Runs.Step (Mesh C) (Event C) (Action C)) (conn : C) (msgp : Message) : Prop where
  event : ∃ uuid, st.event = .received conn msgp uuid
  isOpen : conn ∈ st.pre.router.connections
  incoming : Incoming hist conn
  seen : ∃ cookie, identCookie host.js msgp = some cookie ∧
    cookie ∈ acceptedCookies host.js hist

/-- A replay is refused: the connection is closed and its object unchanged, so it has neither a name
    nor a flag from it. -/
def RejectsReplay (host : Host C) (hist : History C)
    (st : Runs.Step (Mesh C) (Event C) (Action C)) : Prop :=
  ∀ conn msgp, Replays host hist st conn msgp →
    Action.fin conn ∈ st.out ∧ conn ∉ st.post.router.connections ∧
    st.post.router.conn = st.pre.router.conn

/-- No cookie is accepted twice, and every replay is refused.  The two are not the same: the second
    speaks of each attempt, also of one on a connection that is ready. -/
def SingleUse (host : Host C) (hist : History C) : Prop :=
  (acceptedCookies host.js hist).Nodup ∧ Runs.Each (RejectsReplay host) hist

/-- A replay arrives where another check stops it: on a connection that still awaits its IDENT,
    without a name or under the name of an open connection. -/
def Harmless (host : Host C) (hist : History C)
    (st : Runs.Step (Mesh C) (Event C) (Action C)) : Prop :=
  ∀ conn msgp, Replays host hist st conn msgp →
    (st.pre.router.conn conn).messageReceivedCbs ≠ [] ∧
    ∀ name, identName host.js msgp = some name →
      host.lib.hasConnection st.pre.router name = true

omit [DecidableEq C] in
/-- One step later there may be one cookie more, at the end. -/
theorem acceptedCookies_snoc (js : JsonSpirit) (hist : History C)
    (st : Runs.Step (Mesh C) (Event C) (Action C)) :
    acceptedCookies js (hist ++ [st]) =
      acceptedCookies js hist ++ (acceptedCookie js st).toList := by
  rw [acceptedCookies, List.filterMap_append]
  congr 1

/-- What it takes for a step to accept a cookie: an open incoming connection that awaits its IDENT,
    and one that passes. -/
theorem acceptedCookie_some {host : Host C} {hist : History C} {m m' : Mesh C} {e : Event C}
    {out : List (Action C)} (ht : Traced hist m) (hok : step host m e = .ok (m', out))
    {cookie : String} (h : acceptedCookie host.js ⟨m, e, m', out⟩ = some cookie) :
    ∃ conn msgp uuid cbs name, e = .received conn msgp uuid ∧
      conn ∈ m.router.connections ∧ Incoming hist conn ∧
      (m.router.conn conn).messageReceivedCbs = true :: cbs ∧
      identCookie host.js msgp = some cookie ∧ Passes host m msgp true name := by
  unfold acceptedCookie at h
  cases e with
  | received conn msgp uuid =>
    simp only at h
    split at h
    · rename_i hcond
      obtain ⟨hhead, hbefore, hafter⟩ := hcond
      cases hcbs : (m.router.conn conn).messageReceivedCbs with
      | nil =>
        rw [hcbs] at hhead
        cases hhead
      | cons b cbs =>
        rw [hcbs] at hhead
        obtain rfl := Option.some.inj hhead
        obtain ⟨o, ho, hdir, -⟩ := ht.awaiting hcbs
        obtain rfl : o = none := Option.isNone_iff_eq_none.mp hdir.symm
        by_cases hopen : conn ∈ m.router.connections
        · by_cases hp : ∃ name, Passes host m msgp true name
          · obtain ⟨name, hp⟩ := hp
            exact ⟨conn, msgp, uuid, cbs, name, rfl, hopen, ho, hcbs, h, hp⟩
          · -- refused, so not ready afterwards
            have hstep := step_refuses uuid hopen hcbs fun name h => hp ⟨name, h⟩
            rw [hok] at hstep
            obtain ⟨rfl, -⟩ := Prod.mk.inj (Except.ok.inj hstep)
            simp only [Router.fin_conn] at hafter
            rw [hbefore] at hafter
            cases hafter
        · rw [step, if_neg hopen] at hok
          obtain ⟨rfl, -⟩ := Prod.mk.inj (Except.ok.inj hok)
          rw [hbefore] at hafter
          cases hafter
    · cases h
  | _ => cases h

/-- The table keeps every cookie: none of its entries is ever erased.  The only function that writes
    to it adds. -/
theorem peerCookies_kept {host : Host C} {m m' : Mesh C} {e : Event C} {out : List (Action C)}
    (hok : step host m e = .ok (m', out)) {cookie : String} (h : m.peerCookies cookie ≠ none) :
    m'.peerCookies cookie ≠ none := by
  cases step_effect hok with
  | issues jid k body he hout hm =>
    rw [hm]
    by_cases hk : cookie = k
    · subst hk
      simp
    · simpa [hk] using h
  | opened conn o ho hrouter hcookies hdial => rwa [hcookies]
  | accepts conn msgp uuid incoming cbs name he hopen hcbs hp hm => rwa [hm]
  | keeps ho hconn hknown hcookies hdial => rwa [hcookies]

/-- **An accepted cookie is still good.**  It was in the table when it was accepted, and nothing is
    taken out. -/
theorem Run.accepted_inTable {host : Host C} {hist : History C} {m : Mesh C}
    (hr : Run host hist m) :
    ∀ cookie ∈ acceptedCookies host.js hist, cookie ≠ "" ∧ m.peerCookies cookie ≠ none := by
  refine Runs.Run.invariant (I := fun hist m => ∀ cookie ∈ acceptedCookies host.js hist,
    cookie ≠ "" ∧ m.peerCookies cookie ≠ none) ?_ ?_ hr
  · intro m _ cookie h
    cases h
  · intro hist m e m' out hr ih hok cookie hin
    rw [acceptedCookies_snoc, List.mem_append] at hin
    rcases hin with hin | hin
    · exact ⟨(ih cookie hin).1, peerCookies_kept hok (ih cookie hin).2⟩
    · rw [Option.mem_toList] at hin
      obtain ⟨conn, msgp, uuid, cbs, name, -, -, -, -, hcookie, hp⟩ :=
        acceptedCookie_some (Run.traced hr) hok hin
      obtain ⟨k, hk, hne, htable⟩ := hp.cookie rfl
      rw [hcookie] at hk
      obtain rfl := Option.some.inj hk
      exact ⟨hne, peerCookies_kept hok htable⟩

/-- One step: a replay is refused exactly when it is harmless, that is, when another check of
    `expect_ident` refuses it. -/
theorem rejectsReplay_iff {host : Host C} {hist : History C} {m m' : Mesh C} {e : Event C}
    {out : List (Action C)} (hr : Run host hist m) (hok : step host m e = .ok (m', out)) :
    RejectsReplay host hist ⟨m, e, m', out⟩ ↔ Harmless host hist ⟨m, e, m', out⟩ := by
  refine forall_congr' fun conn => forall_congr' fun msgp => forall_congr' fun hrep => ?_
  obtain ⟨uuid, he⟩ := hrep.event
  obtain ⟨cookie, hcookie, hseen⟩ := hrep.seen
  obtain ⟨hne, htable⟩ := Run.accepted_inTable hr cookie hseen
  have hopen := hrep.isOpen
  simp only at he hopen
  subst he
  constructor
  · rintro ⟨hfin, -, -⟩
    cases hcbs : (m.router.conn conn).messageReceivedCbs with
    | nil =>
      -- the callback is gone: the IDENT falls through to `message_received`
      rw [step, if_pos hopen, hcbs] at hok
      obtain ⟨-, rfl⟩ := Prod.mk.inj (Except.ok.inj hok)
      cases hfin
    | cons incoming cbs =>
      refine ⟨by simp, fun name hname => ?_⟩
      by_contra hfree
      have hp : Passes host m msgp incoming name :=
        ⟨hname, by simpa using hfree, fun _ => ⟨cookie, hcookie, hne, htable⟩⟩
      have hstep := step_passes uuid hopen hcbs hp
      rw [hok] at hstep
      obtain ⟨-, rfl⟩ := Prod.mk.inj (Except.ok.inj hstep)
      cases incoming <;> simp [identReply] at hfin
  · rintro ⟨hawait, hname⟩
    cases hcbs : (m.router.conn conn).messageReceivedCbs with
    | nil => exact absurd hcbs hawait
    | cons incoming cbs =>
      have hno : ∀ name, ¬ Passes host m msgp incoming name := by
        intro name hp
        have hfree := hp.free
        rw [hname name hp.named] at hfree
        cases hfree
      have hstep := step_refuses uuid hopen hcbs hno
      rw [hok] at hstep
      obtain ⟨rfl, rfl⟩ := Prod.mk.inj (Except.ok.inj hstep)
      exact ⟨by simp, by simp [Router.fin], rfl⟩

/-- Where every replay is refused, no cookie is accepted twice: to be accepted a second time it
    would have to be a replay. -/
theorem Run.accepted_nodup {host : Host C} {hist : History C} {m : Mesh C} (hr : Run host hist m)
    (hrej : Runs.Each (RejectsReplay host) hist) : (acceptedCookies host.js hist).Nodup := by
  refine Runs.Run.invariant (I := fun hist _ => Runs.Each (RejectsReplay host) hist →
    (acceptedCookies host.js hist).Nodup) ?_ ?_ hr hrej
  · rintro m - -
    exact List.nodup_nil
  · intro hist m e m' out hr ih hok hrej
    obtain ⟨hpre, hlast⟩ := Runs.each_snoc.mp hrej
    rw [acceptedCookies_snoc]
    cases hacc : acceptedCookie host.js ⟨m, e, m', out⟩ with
    | none => simpa using ih hpre
    | some cookie =>
      obtain ⟨conn, msgp, uuid, cbs, name, he, hopen, hin, hcbs, hcookie, hp⟩ :=
        acceptedCookie_some (Run.traced hr) hok hacc
      rw [List.nodup_append]
      refine ⟨ih hpre, by simp, ?_⟩
      rintro k hk k' hk' rfl
      obtain rfl : k = cookie := by simpa using hk'
      -- it would have been a replay, and it was not refused
      obtain ⟨hfin, -, -⟩ := hlast conn msgp ⟨⟨uuid, he⟩, hopen, hin, _, hcookie, hk⟩
      subst he
      have hstep := step_passes uuid hopen hcbs hp
      rw [hok] at hstep
      obtain ⟨-, rfl⟩ := Prod.mk.inj (Except.ok.inj hstep)
      simp [identReply] at hfin

/-- **Cookies are single-use exactly in the runs where another check stops every replay.**  The
    check of the cookie itself never does, as the entry is still in the table. -/
theorem singleUse_iff (host : Host C) (hist : History C) (m : Mesh C) (hr : Run host hist m) :
    SingleUse host hist ↔ Runs.Each (Harmless host) hist := by
  have heach : Runs.Each (RejectsReplay host) hist ↔ Runs.Each (Harmless host) hist := by
    constructor
    · rintro hrej h₁ st h₂ rfl
      obtain ⟨hr₁, hok, -⟩ := hr.cut
      exact (rejectsReplay_iff hr₁ hok).mp (hrej h₁ st h₂ rfl)
    · rintro hharm h₁ st h₂ rfl
      obtain ⟨hr₁, hok, -⟩ := hr.cut
      exact (rejectsReplay_iff hr₁ hok).mpr (hharm h₁ st h₂ rfl)
  rw [← heach]
  exact ⟨fun h => h.2, fun h => ⟨Run.accepted_nodup hr h, h⟩⟩

/-- A cookie presented once is single-use ... -/
theorem presented_once_singleUse :
    SingleUse sampleHost (Runs.trace (step sampleHost) empty (presenting aliceIdent)) := by
  refine (singleUse_iff sampleHost _ _ (Runs.run_trace _ rfl)).mpr ?_
  rintro h₁ st h₂ hh conn msgp ⟨⟨uuid, he⟩, -, -, cookie, -, hseen⟩
  have hthree : Runs.trace (step sampleHost) empty (presenting aliceIdent) =
      [⟨_, .jabberNewPeer "alice" "k", _, _⟩, ⟨_, .newIncomingConnection 0, _, _⟩] ++
        [⟨_, .received 0 ⟨.ident, "g", aliceIdent⟩ "u", _, _⟩] := rfl
  rw [hthree] at hh
  -- nothing is accepted before the last of the three steps
  have hnone : ∀ st' ∈ h₁, acceptedCookie sampleHost.js st' = none := by
    intro st' hst'
    rcases List.eq_nil_or_concat h₂ with rfl | ⟨h₂', last, rfl⟩
    · obtain ⟨rfl, -⟩ := List.append_inj' hh rfl
      simp only [List.mem_cons, List.not_mem_nil, or_false] at hst'
      rcases hst' with rfl | rfl <;> rfl
    · rw [List.concat_eq_append, ← List.cons_append, ← List.append_assoc] at hh
      have hsub : st' ∈ h₁ ++ st :: h₂' := List.mem_append_left _ hst'
      rw [← (List.append_inj' hh rfl).1] at hsub
      simp only [List.mem_cons, List.not_mem_nil, or_false] at hsub
      rcases hsub with rfl | rfl <;> rfl
  obtain ⟨st', hst', hacc⟩ := List.mem_filterMap.mp hseen
  rw [hnone st' hst'] at hacc
  cases hacc

/-- The first connection goes, and a second one presents the same cookie under another name. -/
def replaying : List (Event Nat) :=
  presenting aliceIdent ++
    [.closed 0, .newIncomingConnection 1, .received 1 ⟨.ident, "g'", bobIdent⟩ "u'"]

/-- ... but a second connection is accepted with it, after the first has gone, and under another
    name. -/
theorem replay_is_accepted :
    ¬ SingleUse sampleHost (Runs.trace (step sampleHost) empty replaying) := by
  rintro ⟨hnd, -⟩
  have htwice : acceptedCookies sampleHost.js
      (Runs.trace (step sampleHost) empty replaying) = ["k", "k"] := by decide
  rw [htwice] at hnd
  simp at hnd

end Mesh

end Greynet
