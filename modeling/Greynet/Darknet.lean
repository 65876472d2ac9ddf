/-
  Relayed results do not name the peers behind the relay.

  A relay puts the name of the peer a result came from in the url it stores (`handle_queryresult`)
  and strips the url from a copy before it passes the result on (`send_response`).  So a result that
  has come over many relays looks as if the last of them had it.

  1. `step_renamed` — two runs of a node that differ only in the names of its connections, and so
     in the urls of its items, write the same messages.
  2. `Hop.Relays` — a result comes in at a relay and goes out again; `Chain` — it is handed on from
     relay to relay.
  3. `chain_lossless` — along a chain of any length the payload is what the source's item gives.

  The two are different in kind.  The first compares runs and so speaks of all that is written; the
  second says of one result what becomes of it, fields and all.
-/
import Greynet.Relay

namespace Greynet

/-! ## Names

  That a message does not depend on a name is a statement about two runs.  In one of them the peer
  has another name, and everything that is made from names, which is the urls, is different; what is
  written is not. -/

variable {C : Type}

/-- Two routers that differ in the names of their connections only: the same ones are open, ready
    and expired. -/
structure Router.Renamed (r r' : Router C) : Prop where
  known : r'.known = r.known
  connections : r'.connections = r.connections
  expired : r'.expired = r.expired
  conn : ∀ c name, (r'.conn c).setName name = (r.conn c).setName name

namespace Queries

/-- Two states of the tables that differ in the urls of the items only.  The items are compared
    without their urls, one by one and in order. -/
def Renamed (q q' : Queries C) : Prop :=
  ∃ items : List ResolvedItem, q' = { q with items := items } ∧
    items.map (fun it => it.rmJsonValue "url") = q.items.map fun it => it.rmJsonValue "url"

/-- Two events that differ in names and urls only; what comes in from a peer is the same message. -/
inductive Event.Renamed : Event C → Event C → Prop
  | received {r r' : Router C} (hr : r.Renamed r') (conn : C) (msgp : Message) :
      Event.Renamed (.received r conn msgp) (.received r' conn msgp)
  | fwdSearch {r r' : Router C} (hr : r.Renamed r') (i : Nat) (e : Bool) :
      Event.Renamed (.fwdSearch r i e) (.fwdSearch r' i e)
  | startResolving {r r' : Router C} (hr : r.Renamed r') (qid : Qid) (uuid : String) :
      Event.Renamed (.startResolving r qid uuid) (.startResolving r' qid uuid)
  | callback {r r' : Router C} (hr : r.Renamed r') (i : Nat) (uuid : String) :
      Event.Renamed (.callback r i uuid) (.callback r' i uuid)
  | localQuery (rq : ResolverQuery) : Event.Renamed (.localQuery rq) (.localQuery rq)
  | reportResults (qid : Qid) {item item' : ResolvedItem}
      (hitem : item'.rmJsonValue "url" = item.rmJsonValue "url") :
      Event.Renamed (.reportResults qid item) (.reportResults qid item')
  | solve (qid : Qid) : Event.Renamed (.solve qid) (.solve qid)
  | drop (qid : Qid) : Event.Renamed (.drop qid) (.drop qid)

/-- The same messages are written to the same connections.  What is reported to playdar may differ,
    for that has the urls. -/
def SameWrites (out out' : List (Action C)) : Prop :=
  ∀ c msgp, .asyncWrite c msgp ∈ out ↔ .asyncWrite c msgp ∈ out'

/-- What is the same is written the same. -/
theorem SameWrites.refl (out : List (Action C)) : SameWrites out out := fun _ _ => Iff.rfl

/-- No url need differ. -/
theorem Renamed.refl (q : Queries C) : q.Renamed q := ⟨q.items, rfl, rfl⟩

/-- Noting a guid touches no item. -/
theorem Renamed.note {q q' : Queries C} (h : q.Renamed q') (msgp : Message) :
    (q.note msgp).Renamed (q'.note msgp) := by
  obtain ⟨items, rfl, hitems⟩ := h
  unfold Queries.note
  split
  · exact ⟨items, rfl, hitems⟩
  · exact ⟨items, rfl, hitems⟩

/-- A report of items that differ in the url only: each is stored in its own run, at the same
    place. -/
theorem Renamed.reportResults {q q' : Queries C} (h : q.Renamed q') (qid : Qid)
    {item item' : ResolvedItem} (hitem : item'.rmJsonValue "url" = item.rmJsonValue "url") :
    (q.reportResults qid item).Renamed (q'.reportResults qid item') := by
  obtain ⟨items, rfl, hitems⟩ := h
  have hlen : items.length = q.items.length := by simpa using congrArg List.length hitems
  cases hx : q.queries qid with
  | none =>
    rw [reportResults_none item hx, reportResults_none (q := { q with items := items }) item' hx]
    exact ⟨items, rfl, hitems⟩
  | some x =>
    rw [reportResults_some item hx, reportResults_some (q := { q with items := items }) item' hx]
    refine ⟨items ++ [item'], ?_, ?_⟩
    · simp only [hlen]
      rfl
    · rw [List.map_append, List.map_append, hitems, List.map_singleton, List.map_singleton, hitem]

variable [DecidableEq C]

/-- The origin of a query does not depend on its name: the table holds connections and no names. -/
theorem getQueryOrigin_renamed {r r' : Router C} (hr : r.Renamed r') (q : Queries C) (qid : Qid) :
    q.getQueryOrigin r' qid = q.getQueryOrigin r qid := by
  unfold getQueryOrigin Router.lock
  rw [hr.expired]

/-- A broadcast goes to the same connections, for it looks who is ready and not what they are
    called. -/
theorem broadcast_renamed {r r' : Router C} (hr : r.Renamed r') (h : Host C) (msgp : Message)
    (ex : Option C) :
    SameWrites (h.lib.broadcastExcept r msgp ex) (h.lib.broadcastExcept r' msgp ex) := by
  intro c m
  have hready : ∀ d, (r'.conn d).ready = (r.conn d).ready := by
    intro d
    have hsame := congrArg Connection.ready (hr.conn d "")
    exact hsame
  simp only [Libf2f.mem_broadcastExcept, hr.connections, hready]

/-- `send_response` for items that differ in the url only.  It removes the url from a copy before it
    writes, so here the difference ends. -/
theorem sendResponse_renamed {q q' : Queries C} (hq : q.Renamed q') {r r' : Router C}
    (hr : r.Renamed r') (h : Host C) (qid : Qid) (rip : Nat) (uuid : String) :
    (q.sendResponse h r qid rip uuid).1.Renamed (q'.sendResponse h r' qid rip uuid).1 ∧
    SameWrites (q.sendResponse h r qid rip uuid).2 (q'.sendResponse h r' qid rip uuid).2 := by
  obtain ⟨items, rfl, hitems⟩ := hq
  have horigin : getQueryOrigin { q with items := items } r' qid = q.getQueryOrigin r qid :=
    getQueryOrigin_renamed hr q qid
  -- at the place of the item both have it or neither, and then with the same fields but for the url
  have hget : (items[rip]?).map (fun it => it.rmJsonValue "url") =
      (q.items[rip]?).map fun it => it.rmJsonValue "url" := by
    rw [← List.getElem?_map, hitems, List.getElem?_map]
  cases ho : q.getQueryOrigin r qid with
  | none =>
    rw [sendResponse_none uuid ho, sendResponse_none uuid (horigin.trans ho)]
    exact ⟨⟨items, rfl, hitems⟩, .refl _⟩
  | some conn =>
    cases hit : q.items[rip]? with
    | none =>
      rw [hit, Option.map_none, Option.map_eq_none_iff] at hget
      unfold sendResponse
      simp only [horigin, ho, hit, hget]
      exact ⟨⟨items, rfl, hitems⟩, .refl _⟩
    | some it =>
      rw [hit, Option.map_some] at hget
      obtain ⟨it', hit', hsame⟩ := Option.map_eq_some_iff.mp hget
      rw [sendResponse_some uuid ho hit,
        sendResponse_some (q := { q with items := items }) uuid (horigin.trans ho) hit', hsame]
      refine ⟨⟨items ++ [it.rmJsonValue "url"], rfl, ?_⟩, .refl _⟩
      rw [List.map_append, List.map_append, hitems]

omit [DecidableEq C] in
/-- Both know the same queries, under the same ids, ... -/
theorem Renamed.queryExists {q q' : Queries C} (hq : q.Renamed q') (qid : Qid) :
    q'.queryExists qid = q.queryExists qid := by
  obtain ⟨items, rfl, -⟩ := hq
  rfl

omit [DecidableEq C] in
/-- ... from the same connections. -/
theorem Renamed.qidorigins {q q' : Queries C} (hq : q.Renamed q') :
    q'.qidorigins = q.qidorigins := by
  obtain ⟨items, rfl, -⟩ := hq
  rfl

/-! ### The handlers

  Each of them for two states and two routers that differ in names only.  They are taken apart in
  the same way twice, and every branch is decided by what does not differ. -/

omit [DecidableEq C] in
/-- A QUERY is accepted, ignored or malformed in both, as none of the tests looks at an item. -/
theorem handleQuery_renamed (h : Host C) {q q' : Queries C} (hq : q.Renamed q') (conn : C)
    (msgp : Message) :
    Runs.Alike Renamed SameWrites (q.handleQuery h conn msgp) (q'.handleQuery h conn msgp) := by
  rw [handleQuery_eq, handleQuery_eq]
  cases decodeQuery h.js h.playdar msgp with
  | none => exact .ok hq (.refl _)
  | some rq =>
    simp only [hq.queryExists, hq.qidorigins]
    by_cases hex : q.queryExists rq.id = true
    · rw [if_pos hex, if_pos hex]
      exact .ok hq (.refl _)
    · rw [if_neg hex, if_neg hex]
      by_cases ho : q.qidorigins rq.id ≠ none
      · rw [if_pos ho, if_pos ho]
        exact .error _
      · rw [if_neg ho, if_neg ho]
        refine .ok ?_ (.refl _)
        obtain ⟨items, rfl, hitems⟩ := hq
        exact ⟨items, rfl, hitems⟩

omit [DecidableEq C] in
/-- A result gets its url here, so this is where the two states begin to differ: in one item, and
    there in its url. -/
theorem handleQueryresult_renamed (h : Host C) {q q' : Queries C} (hq : q.Renamed q')
    (r r' : Router C) (conn : C) (msgp : Message) :
    Runs.Alike Renamed SameWrites (q.handleQueryresult h r conn msgp)
      (q'.handleQueryresult h r' conn msgp) := by
  cases hd : decodeResult h.js h.playdar msgp with
  | some x =>
    obtain ⟨qid, rip⟩ := x
    rw [handleQueryresult_some hd, handleQueryresult_some hd]
    refine .ok (hq.reportResults qid ?_) fun c m => by simp
    simp only [ResolvedItem.setUrl, ResolvedItem.rmJsonValue_set]
  | none =>
    -- whether an exception leaves the handler depends on the payload only
    rcases handleQueryresult_none (q := q) (r := r) hd with ⟨hodd, heq⟩ | ⟨hodd, heq⟩ <;>
      rcases handleQueryresult_none (q := q') (r := r') hd with ⟨hodd', heq'⟩ | ⟨hodd', heq'⟩
    · rw [heq, heq']
      exact .ok hq (.refl _)
    · exact absurd hodd' hodd
    · exact absurd hodd hodd'
    · rw [heq, heq']
      exact .error _

/-- A stop is passed on by both or by none, since both have the same origin for its query. -/
theorem handleQuerystop_renamed (h : Host C) {q q' : Queries C} (hq : q.Renamed q')
    {r r' : Router C} (hr : r.Renamed r') (conn : C) (msgp : Message) :
    Runs.Alike Renamed SameWrites (q.handleQuerystop h r conn msgp)
      (q'.handleQuerystop h r' conn msgp) := by
  have horigin : ∀ qid, q'.getQueryOrigin r' qid = q.getQueryOrigin r qid := by
    intro qid
    rw [getQueryOrigin_renamed hr]
    simp only [getQueryOrigin, hq.qidorigins]
  unfold handleQuerystop
  simp only [hq.queryExists, horigin]
  by_cases hex : q.queryExists msgp.guid = false
  · rw [if_pos hex, if_pos hex]
    exact .ok hq (.refl _)
  · rw [if_neg hex, if_neg hex]
    by_cases ho : q.getQueryOrigin r msgp.guid ≠ some conn
    · rw [if_pos ho, if_pos ho]
      exact .ok hq (.refl _)
    · rw [if_neg ho, if_neg ho]
      refine .ok ?_ (broadcast_renamed hr h msgp _)
      obtain ⟨items, rfl, hitems⟩ := hq
      exact ⟨items, rfl, hitems⟩

/-- A message comes in at two relays that differ in names only: the duplicate filter sees the same
    guids in both. -/
theorem received_renamed (h : Host C) {q q' : Queries C} (hq : q.Renamed q') {r r' : Router C}
    (hr : r.Renamed r') (conn : C) (msgp : Message) :
    Runs.Alike Renamed SameWrites (q.received h r conn msgp) (q'.received h r' conn msgp) := by
  have hadm : q'.admits msgp = q.admits msgp := by
    obtain ⟨items, rfl, -⟩ := hq
    rfl
  unfold received
  rw [hadm]
  split
  · split
    · exact handleQuery_renamed h (hq.note msgp) conn msgp
    · exact handleQueryresult_renamed h (hq.note msgp) r r' conn msgp
    · exact handleQuerystop_renamed h (hq.note msgp) hr conn msgp
    · exact .ok (hq.note msgp) (.refl _)
  · exact .ok hq (.refl _)

/-- **Names and urls do not matter to what a node writes.**  One case for each event; those that
    read no message and write none are alike at once. -/
theorem step_renamed (h : Host C) (q q' : Queries C) (e e' : Event C) (hq : q.Renamed q')
    (he : e.Renamed e') : Runs.Alike Renamed SameWrites (step h q e) (step h q' e') := by
  cases he with
  | received hr conn msgp => exact received_renamed h hq hr conn msgp
  | @fwdSearch r r' hr i err =>
    obtain ⟨items, rfl, hitems⟩ := hq
    simp only [step]
    cases q.timers[i]? with
    | none => exact .ok ⟨items, rfl, hitems⟩ (.refl _)
    | some t =>
      cases err with
      | true => exact .ok ⟨items, rfl, hitems⟩ (.refl _)
      | false =>
        simp only [fwdSearch, Bool.false_eq_true, if_false]
        -- the checks of `fwdsearch` read no name, so both nodes pass the same ones
        cases q.queries t.qid with
        | none => exact .error _
        | some x =>
          cases hsolved : x.solved with
          | true =>
            simp only [hsolved, if_true]
            exact .ok ⟨items, rfl, hitems⟩ (.refl _)
          | false =>
            cases hstopped : x.stopped with
            | true =>
              simp only [hsolved, hstopped, Bool.false_eq_true, if_false, if_true]
              exact .ok ⟨items, rfl, hitems⟩ (.refl _)
            | false =>
              simp only [hsolved, hstopped, Bool.false_eq_true, if_false]
              exact .ok ⟨items, rfl, hitems⟩ (broadcast_renamed hr h t.msgp _)
  | @startResolving r r' hr qid uuid =>
    obtain ⟨items, rfl, hitems⟩ := hq
    simp only [step]
    cases q.queries qid with
    | none => exact .ok ⟨items, rfl, hitems⟩ (.refl _)
    | some x =>
      cases hun : x.unresolved with
      | true =>
        simp only [hun, if_true]
        refine .ok ⟨items, rfl, hitems⟩ ?_
        unfold startResolving
        rw [getQueryOrigin_renamed hr]
        exact broadcast_renamed hr h _ _
      | false =>
        simp only [hun, Bool.false_eq_true, if_false]
        exact .ok ⟨items, rfl, hitems⟩ (.refl _)
  | @callback r r' hr i uuid =>
    obtain ⟨items, rfl, hitems⟩ := hq
    simp only [step]
    cases q.callbacks[i]? with
    | none => exact .ok ⟨items, rfl, hitems⟩ (.refl _)
    | some cb =>
      cases hrel : cb.relayed with
      | true =>
        simp only [hrel, if_true]
        obtain ⟨htables, hwrites⟩ := sendResponse_renamed
          (q := { q with callbacks := q.callbacks.eraseIdx i }) ⟨items, rfl, hitems⟩ hr h cb.qid
          cb.item uuid
        exact .ok htables hwrites
      | false =>
        simp only [hrel, Bool.false_eq_true, if_false]
        exact .ok ⟨items, rfl, hitems⟩ (.refl _)
  | localQuery rq =>
    obtain ⟨items, rfl, hitems⟩ := hq
    have hexists : queryExists { q with items := items } rq.id = q.queryExists rq.id := rfl
    simp only [step, hexists]
    by_cases hex : q.queryExists rq.id = true
    · rw [if_pos hex, if_pos hex]
      exact .ok ⟨items, rfl, hitems⟩ (.refl _)
    · rw [if_neg hex, if_neg hex]
      exact .ok ⟨items, rfl, hitems⟩ (.refl _)
  | reportResults qid hitem => exact .ok (hq.reportResults qid hitem) fun c m => by simp
  | solve qid =>
    obtain ⟨items, rfl, hitems⟩ := hq
    exact .ok ⟨items, rfl, hitems⟩ (.refl _)
  | drop qid =>
    obtain ⟨items, rfl, hitems⟩ := hq
    exact .ok ⟨items, rfl, hitems⟩ (.refl _)

/-! ## Items stay as they were reported

  A callback is made later than the report, and by then other results may have come in.  It has an
  index into the items, so it is enough that items are appended only. -/

/-- No step changes an item: `send_response` works on a copy, which is appended.  This is the line
    of the source that says `_a copy_`. -/
theorem items_step {h : Host C} {q q' : Queries C} {e : Event C} {out : List (Action C)}
    (heff : Effect h q e q' out) : ∃ new, q'.items = q.items ++ new := by
  -- a report appends the item, or nothing if there is no query
  have hreport : ∀ (q₀ : Queries C) (k : Qid) (item : ResolvedItem),
      ∃ new, (q₀.reportResults k item).items = q₀.items ++ new := by
    intro q₀ k item
    cases hk : q₀.queries k with
    | none => exact ⟨[], by rw [reportResults_none item hk, List.append_nil]⟩
    | some y => exact ⟨[item], by rw [reportResults_some item hk]⟩
  cases heff with
  | noted r conn msgp => exact ⟨[], by rw [note_items, List.append_nil]⟩
  | accepted r conn msgp => exact ⟨[], (note_items q msgp).trans (List.append_nil _).symm⟩
  | stopped r conn msgp => exact ⟨[], (note_items q msgp).trans (List.append_nil _).symm⟩
  | reported r conn msgp k rip url =>
    obtain ⟨new, hnew⟩ := hreport (q.note msgp) k (rip.setUrl url)
    exact ⟨new, by rw [hnew, note_items]⟩
  | answered r i uuid cb hcb =>
    cases ho : getQueryOrigin { q with callbacks := q.callbacks.eraseIdx i } r cb.qid with
    | none => exact ⟨[], by rw [sendResponse_none uuid ho, List.append_nil]⟩
    | some conn =>
      cases hit : q.items[cb.item]? with
      | none =>
        refine ⟨[], ?_⟩
        unfold sendResponse
        simp only [ho, hit, List.append_nil]
      | some it => exact ⟨[it.rmJsonValue "url"], by rw [sendResponse_some uuid ho hit]⟩
  | reportResults k item => exact hreport q k item
  | _ => exact ⟨[], (List.append_nil _).symm⟩

/-- **An item, its url included, stays in its place in every later state.**  So playdar, which
    shares it, keeps the url it was given. -/
theorem item_stays {h : Host C} {q q' : Queries C}
    {hist : List (Runs.Step (Queries C) (Event C) (Action C))}
    (hr : Runs.Run (step h) (· = q) hist q') {i : Nat} {it : ResolvedItem}
    (hit : q.items[i]? = some it) : q'.items[i]? = some it := by
  refine hr.reachable.invariant (I := fun q' => q'.items[i]? = some it) ?_ ?_
  · rintro q₀ rfl
    exact hit
  · intro q₁ e q₂ out hkept hok
    obtain ⟨new, hnew⟩ := items_step (step_effect hok)
    rw [hnew]
    exact getElem?_append hkept

/-! ## A result on its way through a node

  From where it comes in, or is found, to where a callback writes it.  In between anything may
  happen in the node. -/

omit [DecidableEq C] in
/-- A node that a result comes to and goes on from.  What happens in between is up to its
    surroundings, and may be anything. -/
structure Visit (C : Type) where
  host : Host C
  /-- the tables when it comes -/
  tables : Queries C
  /-- what happens until playdar makes the callback for it -/
  meanwhile : List (Event C)
  /-- the router then, the callback's place among those due, and what `gen_uuid` answers -/
  router : Router C
  place : Nat
  uuid : String

/-- The result that `e` brings is reported, and its callback writes `msgp`; then the tables are
    `q`. -/
def Visit.Sends (v : Visit C) (e : Event C) (msgp : Message) (q : Queries C) : Prop :=
  ∃ q₁ out₁ cb q₂ out up,
    v.tables.step v.host e = .ok (q₁, out₁) ∧ q₁.callbacks = v.tables.callbacks ++ [cb] ∧
    Runs.play (step v.host) q₁ v.meanwhile = .ok q₂ ∧ q₂.callbacks[v.place]? = some cb ∧
    q₂.step v.host (.callback v.router v.place v.uuid) = .ok (q, out) ∧ .asyncWrite up msgp ∈ out

omit [DecidableEq C] in
/-- A relay: a visit that begins with a message on a connection. -/
structure Hop (C : Type) extends Visit C where
  /-- where the result comes in, and the router then -/
  conn : C
  arrival : Router C

/-- The relay gets `msgp` and sends `msgp'`, after whatever happens meanwhile.  The message sent is
    the one that the callback for this result writes. -/
def Hop.Relays (hop : Hop C) (msgp msgp' : Message) (q : Queries C) : Prop :=
  hop.Sends (.received hop.arrival hop.conn msgp) msgp' q

omit [DecidableEq C] in
/-- Two relays that differ in the names of their connections, and so in the urls of their items,
    only. -/
structure Hop.Renamed (hop hop' : Hop C) : Prop where
  host : hop'.host = hop.host
  tables : hop.tables.Renamed hop'.tables
  meanwhile : List.Forall₂ Event.Renamed hop.meanwhile hop'.meanwhile
  router : hop.router.Renamed hop'.router
  place : hop'.place = hop.place
  uuid : hop'.uuid = hop.uuid
  conn : hop'.conn = hop.conn
  arrival : hop.arrival.Renamed hop'.arrival

omit [DecidableEq C] in
/-- What a relay has done: what it sent, and its tables then, with the url that it has put in. -/
structure Relayed (C : Type) where
  hop : Hop C
  sent : Message
  tables : Queries C

/-- `msgp` is handed on from relay to relay: what one of them sends is what the next gets.  Each
    relay is a node of its own, with its own tables. -/
inductive Chain : Message → List (Relayed C) → Prop
  | nil (msgp : Message) : Chain msgp []
  | cons {msgp : Message} {x : Relayed C} {xs : List (Relayed C)}
      (hx : x.hop.Relays msgp x.sent x.tables) (hxs : Chain x.sent xs) : Chain msgp (x :: xs)

omit [DecidableEq C] in
/-- A report that makes a callback due has stored its item, and the callback means that one.
    Without the query there would be neither. -/
theorem item_stored {q q₁ : Queries C} {k : Qid} {item : ResolvedItem} {cb : Callback}
    (hcb : (q.reportResults k item).callbacks = q.callbacks ++ [cb])
    (hq₁ : q₁ = q.reportResults k item) :
    cb.qid = k ∧ cb.item = q.items.length ∧ q₁.items[q.items.length]? = some item := by
  subst hq₁
  cases hk : q.queries k with
  | none =>
    rw [reportResults_none item hk] at hcb
    simp at hcb
  | some y =>
    rw [reportResults_some item hk] at hcb ⊢
    obtain rfl := List.singleton_inj.mp (List.append_cancel_left hcb)
    exact ⟨rfl, rfl, by simp⟩

/-- **A node passes on the item it has stored, without its url, and keeps it as it is.**  Between
    the report and the callback the item stays in its place. -/
theorem Visit.sends_item {v : Visit C} {q q₁ q₂ : Queries C} {cb : Callback} {item : ResolvedItem}
    {out : List (Action C)} {up : C} {msgp : Message}
    (hstored : q₁.items[cb.item]? = some item)
    (hplay : Runs.play (step v.host) q₁ v.meanwhile = .ok q₂)
    (hcb : q₂.callbacks[v.place]? = some cb)
    (hok : q₂.step v.host (.callback v.router v.place v.uuid) = .ok (q, out))
    (hin : .asyncWrite up msgp ∈ out) :
    msgp = queryResultMessage v.host.js cb.qid (item.rmJsonValue "url") v.uuid ∧
    q.items[cb.item]? = some item := by
  obtain ⟨hist, hr⟩ := Runs.play_run _ hplay
  -- the callback means a place, and at that place is still the item
  have hkept : q₂.items[cb.item]? = some item := item_stays hr hstored
  refine ⟨?_, item_stays (.one hok) hkept⟩
  cases step_effect hok with
  | idle => cases hin
  | called => cases hin
  | answered _ _ _ cb' hcb' =>
    rw [hcb] at hcb'
    obtain rfl := Option.some.inj hcb'
    cases ho : getQueryOrigin { q₂ with callbacks := q₂.callbacks.eraseIdx v.place } v.router
        cb.qid with
    | none =>
      rw [sendResponse_none v.uuid ho] at hin
      cases hin
    | some conn =>
      rw [sendResponse_some v.uuid ho hkept] at hin
      exact (Action.asyncWrite.inj (List.mem_singleton.mp hin)).2

/-- The source: its item goes out without the url it may have, which is a file on its own disk. -/
theorem Visit.source_sends {v : Visit C} {qid : Qid} {it : ResolvedItem} {msgp : Message}
    {q : Queries C} (hs : v.Sends (.reportResults qid it) msgp q) :
    msgp = queryResultMessage v.host.js qid (it.rmJsonValue "url") v.uuid ∧
    q.items[v.tables.items.length]? = some it := by
  obtain ⟨q₁, out₁, cb, q₂, out, up, hok₁, hcallbacks, hplay, hcb, hok, hin⟩ := hs
  have hq₁ : q₁ = v.tables.reportResults qid it := (congrArg Prod.fst (Except.ok.inj hok₁)).symm
  obtain ⟨rfl, hitem, hstored⟩ := item_stored (hq₁ ▸ hcallbacks) hq₁
  rw [← hitem] at hstored ⊢
  exact Visit.sends_item hstored hplay hcb hok hin

/-- **One hop**: a relay sends what it got, and keeps the url it has put in its own item. -/
theorem Hop.relays_same {hop : Hop C} {qid : Qid} {it : ResolvedItem} {uuid : String}
    {msgp : Message} {q : Queries C} (hurl : it.rmJsonValue "url" = it)
    (ht : it.Travels hop.host.js hop.host.playdar qid)
    (hs : hop.Relays (queryResultMessage hop.host.js qid it uuid) msgp q) :
    msgp = queryResultMessage hop.host.js qid it hop.uuid ∧
    q.items[hop.tables.items.length]? = some (it.setUrl
      (resultUrl (hop.arrival.conn hop.conn).nameStr (hop.host.playdar.itemId it))) := by
  obtain ⟨q₁, out₁, cb, q₂, out, up, hok₁, hcallbacks, hplay, hcb, hok, hin⟩ := hs
  -- the message has got past the filter, or nothing would have been reported
  simp only [step, received] at hok₁
  split at hok₁
  · have hq₁ : q₁ = (hop.tables.note (queryResultMessage hop.host.js qid it uuid)).reportResults
        qid (it.setUrl (resultUrl (hop.arrival.conn hop.conn).nameStr
          (hop.host.playdar.itemId it))) := by
      change (hop.tables.note _).handleQueryresult hop.host hop.arrival hop.conn _ = _ at hok₁
      rw [handleQueryresult_some (decodeResult_queryResultMessage ht uuid)] at hok₁
      exact (congrArg Prod.fst (Except.ok.inj hok₁)).symm
    obtain ⟨rfl, hitem, hstored⟩ := item_stored (by rw [← hq₁, hcallbacks, note_callbacks]) hq₁
    rw [note_items] at hitem hstored
    rw [← hitem] at hstored ⊢
    obtain ⟨hsent, hkept⟩ := Visit.sends_item hstored hplay hcb hok hin
    rw [ResolvedItem.setUrl, ResolvedItem.rmJsonValue_set, hurl] at hsent
    exact ⟨hsent, hkept⟩
  · obtain ⟨rfl, -⟩ := Prod.mk.inj (Except.ok.inj hok₁)
    simp at hcallbacks

/-- A relay whose connections have other names sends the same message; its own run is another one,
    with other urls. -/
theorem Hop.Renamed.relays {hop hop' : Hop C} (hren : hop.Renamed hop') {msgp msgp' : Message}
    {q : Queries C} (hs : hop.Relays msgp msgp' q) : ∃ q', hop'.Relays msgp msgp' q' := by
  obtain ⟨q₁, out₁, cb, q₂, out, up, hok₁, hcallbacks, hplay, hcb, hok, hin⟩ := hs
  -- the callbacks that are due are the same in both runs
  have hsame : ∀ {q q' : Queries C}, q.Renamed q' → q'.callbacks = q.callbacks := by
    rintro q q' ⟨items, rfl, -⟩
    rfl
  -- the message comes in at both
  have hfirst := step_renamed hop.host _ _ _ _ hren.tables (.received hren.arrival hop.conn msgp)
  rw [hok₁] at hfirst
  generalize hresult : step hop.host hop'.tables (.received hop'.arrival hop.conn msgp) = result
    at hfirst
  cases hfirst with
  | @ok _ q₁' _ out₁' hq₁ =>
    obtain ⟨q₂', hplay', hq₂⟩ := Runs.play_alike (step_renamed hop.host)
      hren.meanwhile hq₁ hplay
    -- and after what happens meanwhile, which is alike, the callback is made at both
    have hlast := step_renamed hop.host _ _ _ _ hq₂ (.callback hren.router hop.place hop.uuid)
    rw [hok] at hlast
    generalize hresult' : step hop.host q₂' (.callback hop'.router hop.place hop.uuid) = result'
      at hlast
    cases hlast with
    | @ok _ q' _ out' hq hwrites =>
      refine ⟨q', q₁', out₁', cb, q₂', out', up, ?_, ?_, ?_, ?_, ?_, (hwrites up msgp').mp hin⟩
      · rw [hren.host, hren.conn]
        exact hresult
      · rw [hsame hq₁, hsame hren.tables, hcallbacks]
      · rw [hren.host]
        exact hplay'
      · rw [hsame hq₂, hren.place, hcb]
      · rw [hren.host, hren.place, hren.uuid]
        exact hresult'

/-! ## Chains

  By induction along the chain.  The guids differ from hop to hop; the payload does not. -/

/-- What is known of every relay of a chain: it sends the payload it has got, and has stored the
    item with a url of its own. -/
theorem Chain.sent {js : JsonSpirit} {qid : Qid} {it : ResolvedItem}
    (hurl : it.rmJsonValue "url" = it) {first : Message} {chain : List (Relayed C)}
    (hchain : Chain first chain) :
    (∃ uuid, first = queryResultMessage js qid it uuid) →
    (∀ x ∈ chain, x.hop.host.js = js ∧ it.Travels js x.hop.host.playdar qid) →
    ∀ x ∈ chain, x.sent = queryResultMessage js qid it x.hop.uuid ∧
      x.tables.items[x.hop.tables.items.length]? = some (it.setUrl
        (resultUrl (x.hop.arrival.conn x.hop.conn).nameStr (x.hop.host.playdar.itemId it))) := by
  induction hchain with
  | nil => exact fun _ _ x hx => absurd hx List.not_mem_nil
  | @cons msgp y ys hrelays _ ih =>
    rintro ⟨uuid, rfl⟩ hhosts x hx
    obtain ⟨hjs, ht⟩ := hhosts y (List.mem_cons_self ..)
    subst hjs
    have hone := Hop.relays_same hurl ht hrelays
    rcases List.mem_cons.mp hx with rfl | hx
    · exact hone
    · exact ih ⟨_, hone.1⟩ (fun z hz => hhosts z (List.mem_cons_of_mem _ hz)) x hx

/-- A chain of relays whose connections have other names sends the same messages.  The second chain
    is made hop by hop from the first. -/
theorem Chain.renamed {first : Message} {chain : List (Relayed C)} (hchain : Chain first chain) :
    ∀ {hops' : List (Hop C)}, List.Forall₂ Hop.Renamed (chain.map Relayed.hop) hops' →
      ∃ chain' : List (Relayed C), Chain first chain' ∧ chain'.map Relayed.hop = hops' ∧
        chain'.map Relayed.sent = chain.map Relayed.sent := by
  induction hchain with
  | nil msgp =>
    intro hops' hren
    cases hren
    exact ⟨[], .nil msgp, rfl, rfl⟩
  | @cons msgp x xs hrelays _ ih =>
    intro hops' hren
    rw [List.map_cons] at hren
    cases hren with
    | @cons _ hop' _ rest hone hrest =>
      obtain ⟨q', hq'⟩ := hone.relays hrelays
      obtain ⟨chain', hchain', hhops, hsent⟩ := ih hrest
      exact ⟨⟨hop', x.sent, q'⟩ :: chain', .cons hq' hchain', by rw [List.map_cons, hhops],
        by rw [List.map_cons, List.map_cons, hsent]⟩

/-- What a result looks like along a chain of relays: what is sent, and what each of them stores. -/
structure Lossless (js : JsonSpirit) (qid : Qid) (it : ResolvedItem) (source : Visit C)
    (first : Message) (q : Queries C) (chain : List (Relayed C)) : Prop where
  /-- at every hop: the query id and the source's item without its url -/
  payload : ∀ msgp ∈ first :: chain.map Relayed.sent,
    msgp.type = .queryresult ∧
    msgp.payload = js.write (queryResultObject qid (it.rmJsonValue "url"))
  /-- the same chain with other names hands on the same messages ... -/
  renamed : ∀ hops', List.Forall₂ Hop.Renamed (chain.map Relayed.hop) hops' →
    ∃ chain' : List (Relayed C), Chain first chain' ∧ chain'.map Relayed.hop = hops' ∧
      chain'.map Relayed.sent = chain.map Relayed.sent
  /-- ... and nothing else a relay writes, ever, depends on the names either -/
  unnamed : ∀ x ∈ chain, ∀ (tables tables' : Queries C) (es es' : List (Event C)),
    tables.Renamed tables' → List.Forall₂ Event.Renamed es es' →
    List.Forall₂ (fun st st' => SameWrites st.out st'.out)
      (Runs.trace (step x.hop.host) tables es) (Runs.trace (step x.hop.host) tables' es')
  /-- the items stored on the way keep their urls -/
  source_kept : q.items[source.tables.items.length]? = some it
  kept : ∀ x ∈ chain, x.tables.items[x.hop.tables.items.length]? =
    some ((it.rmJsonValue "url").setUrl (resultUrl (x.hop.arrival.conn x.hop.conn).nameStr
      (x.hop.host.playdar.itemId (it.rmJsonValue "url"))))

/-- **Relayed results are lossless and do not name the peers behind the relay**: for every item,
    every query and every chain of relays. -/
theorem chain_lossless {js : JsonSpirit} {qid : Qid} {it : ResolvedItem} {source : Visit C}
    {first : Message} {q : Queries C} {chain : List (Relayed C)}
    (hsource : source.Sends (.reportResults qid it) first q) (hchain : Chain first chain)
    (hjs : source.host.js = js)
    (hhosts : ∀ x ∈ chain, x.hop.host.js = js ∧
      (it.rmJsonValue "url").Travels js x.hop.host.playdar qid) :
    Lossless js qid it source first q chain := by
  obtain ⟨hfirst, hkept⟩ := Visit.source_sends hsource
  rw [hjs] at hfirst
  have hrelayed := hchain.sent (ResolvedItem.rmJsonValue_rmJsonValue it "url") ⟨_, hfirst⟩ hhosts
  refine ⟨fun msgp hin => ?_, fun hops' hren => hchain.renamed hren,
    fun x _ _ _ _ _ ht hes => Runs.trace_alike (step_renamed x.hop.host) hes ht,
    hkept, fun x hx => (hrelayed x hx).2⟩
  rcases List.mem_cons.mp hin with rfl | hin
  · rw [hfirst]
    exact ⟨rfl, rfl⟩
  · obtain ⟨x, hx, rfl⟩ := List.mem_map.mp hin
    rw [(hrelayed x hx).1]
    exact ⟨rfl, rfl⟩

/-! ## Two relays

  A song of dave's goes to alice over two relays, who store different urls for it. -/

/-- A host that reads the sample texts. -/
def relayHost : Host (Fin 2) where
  js := .ofTexts sampleTexts
  lib := .table
  playdar := samplePlaydar
  addressFromString _ := some 0
  jid := "me"
  publicIp := "1.2.3.4"
  port := 60211

/-- The query has come in on connection 0, so results for it go there, and nothing else is in the
    tables. -/
def asked : Queries (Fin 2) where
  qidorigins k := if k = "q" then some 0 else none
  seenGuids := []
  queries k := if k = "q" then some { rq := someQuery, relayed := true } else none
  items := []
  callbacks := []
  timers := []

/-- Connections to the peer that asked, and to one further down, whose name is the one that must not
    be passed on. -/
def towards (name : String) : Router (Fin 2) where
  known := [0, 1]
  connections := [0, 1]
  expired := []
  conn c := { name := some (if c = 0 then "alice" else name), ready := true }

/-- The song is found at the source, and sent at once. -/
def songSource : Visit (Fin 2) := ⟨relayHost, asked, [], towards "dave", 0, "u1"⟩

/-- A relay whose result comes from `name`; the query is solved before it is passed on. -/
def songHop (name uuid : String) : Hop (Fin 2) :=
  ⟨⟨relayHost, asked, [.solve "q"], towards name, 0, uuid⟩, 1, towards name⟩

/-- The song as it travels, with a guid of each sender's own. -/
def songMessage (uuid : String) : Message :=
  queryResultMessage relayHost.js "q" (song.rmJsonValue "url") uuid

/-- The song goes over two relays, and is the same on both legs, as `chain_lossless` has it. -/
theorem song_lossless : ∃ q q₁ q₂, Lossless relayHost.js "q" song songSource (songMessage "u1") q
    [⟨songHop "carol" "u2", songMessage "u2", q₁⟩, ⟨songHop "bob" "u3", songMessage "u3", q₂⟩] := by
  have hhop : ∀ name uuid uuid', ∃ q,
      (songHop name uuid').Relays (songMessage uuid) (songMessage uuid') q := fun name uuid uuid' =>
    ⟨_, _, _, _, _, _, 0, rfl, rfl, rfl, rfl, rfl, List.mem_singleton_self _⟩
  obtain ⟨q₁, hq₁⟩ := hhop "carol" "u1" "u2"
  obtain ⟨q₂, hq₂⟩ := hhop "bob" "u2" "u3"
  refine ⟨_, q₁, q₂, chain_lossless
    ⟨_, _, _, _, _, 0, rfl, rfl, rfl, rfl, rfl, List.mem_singleton_self _⟩
    (.cons hq₁ (.cons hq₂ (.nil _))) rfl ?_⟩
  intro x hx
  have hhost : x.hop.host = relayHost := by
    simp only [List.mem_cons, List.not_mem_nil, or_false] at hx
    rcases hx with rfl | rfl <;> rfl
  rw [hhost]
  exact ⟨rfl, by decide, rfl⟩

end Queries

end Greynet
