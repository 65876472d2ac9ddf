/-
  Queries: receiving them, passing them on, and relaying their results.

  Source: `greynet.h` (`set_query_origin`, `get_query_origin`) and `greynet.cpp`
  (`start_resolving`, `handle_query`, `handle_querystop`, `fwd_search`, `send_response`,
  `handle_queryresult`, and the duplicate filter of `message_received`).

  A query that comes in from a peer is dispatched to playdar with `send_response` as its callback,
  and its connection is remembered in `m_qidorigins`.  It goes out again twice: in a QUERY of our
  own when playdar calls `start_resolving`, and as it came when the 100 ms timer fires.  The two
  copies have different guids, so the duplicate filter of a peer lets both through, and only
  `query_exists` keeps it from taking the query on twice.

  1. `Query`, `Queries` — what playdar keeps of a query, and the plugin's tables.  Results are
     SHARED objects, so they live in a heap (`items`) and are named by their place in it.
  2. One function for each method; each takes the router as it is at that moment.
  3. `Queries.step` — every event that reaches them.  What playdar does on its own (dropping a
     query, calling a callback later) are events too.
  4. `Effect` — what a step can do, said once; from it, what stays: a query until it is dropped,
     a stop and an origin for good (`query_stays`, `origin_step`).

  What can go wrong is in the type of the handlers: the assertion of `set_query_origin`, the null
  query that `fwd_search` looks at, and the exceptions of json_spirit.  `Effect` is about the steps
  that return; the modules on the defects are about those that do not.
-/
import Greynet.Lib.Runs
import Greynet.Mesh

namespace Greynet

/-- A query as playdar keeps it, behind `m_pap->rq(qid)`.  Which callback it was dispatched with is
    a flag: `send_response` is the only callback of this plugin. -/
structure Query where
  rq : ResolverQuery
  /-- its callback is `send_response`; else it is one of playdar's own -/
  relayed : Bool
  solved : Bool := false
  stopped : Bool := false
  /-- `start_resolving` has yet to be called for it -/
  unresolved : Bool := true
  /-- its results, places in the heap of items -/
  results : List Nat := []

/-- What can become of a query that playdar keeps: it stays the query it is, and its flags change
    one way only.  Nothing starts a stopped query again, and nothing takes a solution back. -/
structure Query.Later (x x' : Query) : Prop where
  rq : x'.rq = x.rq
  relayed : x'.relayed = x.relayed
  stopped : x.stopped = true → x'.stopped = true
  solved : x.solved = true → x'.solved = true
  unresolved : x'.unresolved = true → x.unresolved = true

/-- It may also stay as it is. -/
theorem Query.Later.refl (x : Query) : x.Later x := ⟨rfl, rfl, id, id, id⟩

/-- A pending `fwd_search`, with what is bound to it: the connection the query came on, the message
    as it came, and the id that `dispatch` returned (`greynet.cpp` 581-583). -/
structure Timer (C : Type) where
  conn : C
  msgp : Message
  qid : Qid
  deriving DecidableEq, Repr

/-- A call of a query's callback that playdar has yet to make, in a thread of its own.  The item is
    a place in the heap: the callback gets the SHARED object and not a copy of it. -/
structure Callback where
  qid : Qid
  item : Nat
  relayed : Bool
  deriving DecidableEq, Repr

/-- `m_qidorigins`, `m_seen_guids`, playdar's queries and result items, and what is pending: the
    calls of callbacks that are due, and the timers of `fwd_search`. -/
structure Queries (C : Type) where
  qidorigins : Qid → Option C
  seenGuids : List String
  queries : Qid → Option Query
  items : List ResolvedItem
  callbacks : List Callback
  timers : List (Timer C)

variable {C : Type}

/-- The messages that the duplicate filter lets through: all of one stream have the same guid, which
    is the sid. -/
def MsgType.isStream : MsgType → Bool
  | .siddata | .sidfail | .sidheaders => true
  | _ => false

namespace Queries

/-- Nothing asked and nothing seen. -/
def empty : Queries C := ⟨fun _ => none, [], fun _ => none, [], [], []⟩

/-! ## Origins and the duplicate filter

  The two tables that the plugin keeps itself.  Neither is ever cleared: an origin stays recorded
  when its connection has closed, and a guid when the message was of no use. -/

/-- `set_query_origin`, which asserts that there is none yet.  `query_exists` is tested before, but
    it is about playdar's queries and not about this table, where a query that playdar has dropped
    is still entered. -/
def setQueryOrigin (q : Queries C) (qid : Qid) (conn : C) : Except Fault (Queries C) :=
  match q.qidorigins qid with
  | some _ => .error .assertion
  | none => .ok { q with qidorigins := Function.update q.qidorigins qid (some conn) }

/-- Whether `message_received` goes on with a message.  The three messages of a stream are let
    through whatever their guid is. -/
def admits (q : Queries C) (msgp : Message) : Bool :=
  msgp.type.isStream || decide (msgp.guid ∉ q.seenGuids)

/-- The guid goes into `m_seen_guids`, before the message is looked at: a message that is then found
    to be of no use has spent its guid all the same. -/
def note (q : Queries C) (msgp : Message) : Queries C :=
  if msgp.type.isStream then q else { q with seenGuids := msgp.guid :: q.seenGuids }

/-! ## What playdar does

  Playdar is the program around the plugin.  What the plugin relies on is modelled as its calls are
  documented by their use here: a query is there once it is dispatched, and results are reported to
  the callback it was dispatched with. -/

/-- `m_pap->query_exists`: playdar has the query now.  One that it has dropped does not exist any
    more, although its origin is still recorded. -/
def queryExists (q : Queries C) (qid : Qid) : Bool := (q.queries qid).isSome

/-- `m_pap->dispatch`: the query is registered before it returns.  Its resolving comes later, in an
    event of its own (`startResolving`), since playdar resolves in another thread. -/
def dispatch (q : Queries C) (rq : ResolverQuery) (relayed : Bool) : Queries C :=
  { q with queries := Function.update q.queries rq.id (some { rq, relayed }) }

/-- Change a query, if it exists.  What playdar does to a query goes through this: a stop, a
    solution, a result, the start of its resolving. -/
def modifyQuery (q : Queries C) (qid : Qid) (f : Query → Query) : Queries C :=
  { q with queries := Function.update q.queries qid ((q.queries qid).map f) }

/-- A new item object, and its place.  The heap only grows, so a place once given names the same
    object for good. -/
def newItem (q : Queries C) (it : ResolvedItem) : Queries C × Nat :=
  ({ q with items := q.items ++ [it] }, q.items.length)

/-- Change the item object at a place, for everybody who names it. -/
def modifyItem (q : Queries C) (i : Nat) (f : ResolvedItem → ResolvedItem) : Queries C :=
  { q with items := q.items.modify i f }

/-- `m_pap->report_results(qid, [item])`: the item is kept with the query, and the query's
    callback is due for it. -/
def reportResults (q : Queries C) (qid : Qid) (item : ResolvedItem) : Queries C :=
  match q.queries qid with
  | none => q
  | some x =>
    let new := q.newItem item
    { new.1.modifyQuery qid fun y => { y with results := y.results ++ [new.2] } with
      callbacks := q.callbacks ++ [⟨qid, new.2, x.relayed⟩] }

variable [DecidableEq C]

/-- `get_query_origin`: null when none is recorded or it has expired.  The map holds `weak_ptr`s, so
    a connection that is closed but still held somewhere is an origin all the same. -/
def getQueryOrigin (q : Queries C) (r : Router C) (qid : Qid) : Option C :=
  match q.qidorigins qid with
  | none => none
  | some conn => r.lock conn

/-! ## The handlers

  Each takes the router as it is at that moment: who is connected, who is ready, and what their
  names are. -/

/-- `start_resolving`: a QUERY of our own to everybody but the one who asked. -/
def startResolving (h : Host C) (q : Queries C) (r : Router C) (rq : ResolverQuery)
    (uuid : String) : List (Action C) :=
  h.lib.broadcastExcept r (queryMessage h.js rq uuid) (q.getQueryOrigin r rq.id)

omit [DecidableEq C] in
/-- `handle_query`.  The try block ends with `from_json`; the assertion of `set_query_origin` is
    outside. -/
def handleQuery (h : Host C) (q : Queries C) (conn : C) (msgp : Message) :
    Except Fault (Queries C × List (Action C)) :=
  match h.js.read msgp.payload with
  -- no JSON at all: `read` reports it, and nothing is thrown
  | none => .ok (q, [.fin conn])
  | some (.obj qo) =>
    match h.playdar.fromJson qo with
    | none => .ok (q, [.fin conn])
    | some rq =>
      -- known already, from the other copy or by another way: it is dropped without a word
      if q.queryExists rq.id then .ok (q, [])
      else
        match q.setQueryOrigin rq.id conn with
        | .error f => .error f
        | .ok q₁ =>
          .ok ({ q₁.dispatch rq true with timers := q₁.timers ++ [⟨conn, msgp, rq.id⟩] },
            [.dispatch rq.id])
  -- `get_obj` throws inside the try block
  | some _ => .ok (q, [.fin conn])

/-- `handle_querystop`: only the origin may stop a query.  The message goes on to all others at
    once, under the same guid, while the timer of `fwd_search` is left to find out for itself. -/
def handleQuerystop (h : Host C) (q : Queries C) (r : Router C) (conn : C) (msgp : Message) :
    Except Fault (Queries C × List (Action C)) :=
  -- the guid of a QUERYSTOP is the id of its query
  if q.queryExists msgp.guid = false then .ok (q, [])
  else if q.getQueryOrigin r msgp.guid ≠ some conn then .ok (q, [])
  else
    .ok (q.modifyQuery msgp.guid fun x => { x with stopped := true },
      h.lib.broadcastExcept r msgp (some conn))

/-- `fwd_search`; `e` is whether the timer reports an error.  `m_pap->rq(qid)` is used without a
    test (`greynet.cpp` 626), so a query that was dropped during the 100 ms is a null pointer
    here. -/
def fwdSearch (h : Host C) (q : Queries C) (r : Router C) (t : Timer C) (e : Bool) :
    Except Fault (List (Action C)) :=
  if e then .ok []
  else
    match q.queries t.qid with
    | none => .error .nullDeref
    | some x =>
      -- solved or stopped in the meantime: the 100 ms were for that
      if x.solved then .ok []
      else if x.stopped then .ok []
      else .ok (h.lib.broadcastExcept r t.msgp (some t.conn))

/-- `send_response`: the url is stripped from a COPY of the item.  The copy is an object of its own
    on the heap, which is how the model can tell it from a url taken off the shared one. -/
def sendResponse (h : Host C) (q : Queries C) (r : Router C) (qid : Qid) (rip : Nat)
    (uuid : String) : Queries C × List (Action C) :=
  match q.getQueryOrigin r qid, q.items[rip]? with
  | some originConn, some it =>
    -- two steps, as in the source: copy the item, then strip the copy
    let copied := q.newItem it
    let q₁ := copied.1.modifyItem copied.2 fun x => x.rmJsonValue "url"
    match q₁.items[copied.2]? with
    | some rip2 => (q₁, [.asyncWrite originConn (queryResultMessage h.js qid rip2 uuid)])
    | none => (q₁, [])
  | _, _ => (q, [])

/-- The url `handle_queryresult` gives a result: the name of the connection, `;`, and the id that
    the item carries.  `ss_greynet` takes it apart again. -/
def resultUrl (name : String) (id : Sid) : String := "greynet://" ++ name ++ ";" ++ id

omit [DecidableEq C] in
/-- `handle_queryresult`.  The `get_obj` and `get_str` are in no try block, unlike the constructor
    of the item, so a payload of another shape than the one expected is an exception here. -/
def handleQueryresult (h : Host C) (q : Queries C) (r : Router C) (conn : C) (msgp : Message) :
    Except Fault (Queries C × List (Action C)) :=
  match h.js.read msgp.payload with
  | none => .ok (q, [.fin conn])
  | some v =>
    match v.getObj with
    | .error f => .error f
    | .ok o =>
      match objToMap o "qid", objToMap o "result" with
      | some qidValue, some result =>
        match qidValue.getStr with
        | .error f => .error f
        | .ok qid =>
          match result.getObj with
          | .error f => .error f
          | .ok resobj =>
            match h.playdar.newItem resobj with
            | none => .ok (q, [.fin conn])
            | some rip =>
              let item := rip.setUrl (resultUrl (r.conn conn).nameStr (h.playdar.itemId rip))
              .ok (q.reportResults qid item, [.reportResults qid item])
      | _, _ => .ok (q, [.fin conn])

/-- What `message_received` does with a message as far as queries are concerned. -/
def received (h : Host C) (q : Queries C) (r : Router C) (conn : C) (msgp : Message) :
    Except Fault (Queries C × List (Action C)) :=
  if q.admits msgp then
    match msgp.type with
    | .query => (q.note msgp).handleQuery h conn msgp
    | .queryresult => (q.note msgp).handleQueryresult h r conn msgp
    | .querystop => (q.note msgp).handleQuerystop h r conn msgp
    | _ => .ok (q.note msgp, [])
  else .ok (q, [])

/-! ## Every event

  In any order, as libf2f, the timers and playdar call. -/

/-- What reaches the queries; `r` is the router at that moment.  The events of playdar come in any
    order and as often as it likes, so that whatever is proved does not rest on its timing. -/
inductive Event (C : Type) where
  | received (r : Router C) (conn : C) (msgp : Message)
  | fwdSearch (r : Router C) (i : Nat) (e : Bool)
  /-- playdar asks the plugin to resolve a query it has dispatched -/
  | startResolving (r : Router C) (qid : Qid) (uuid : String)
  /-- playdar makes a callback that is due -/
  | callback (r : Router C) (i : Nat) (uuid : String)
  /-- playdar starts a query of its own -/
  | localQuery (rq : ResolverQuery)
  /-- another resolver of this playdar finds a result -/
  | reportResults (qid : Qid) (item : ResolvedItem)
  | solve (qid : Qid)
  /-- playdar forgets a query -/
  | drop (qid : Qid)

/-- The next state and the actions; an event that cannot happen yet changes nothing.  A timer and a
    callback are named by their place among those pending, so any of them may be the next. -/
def step (h : Host C) (q : Queries C) : Event C → Except Fault (Queries C × List (Action C))
  | .received r conn msgp => q.received h r conn msgp
  | .fwdSearch r i e =>
    match q.timers[i]? with
    | none => .ok (q, [])
    | some t =>
      match q.fwdSearch h r t e with
      | .error f => .error f
      | .ok out => .ok ({ q with timers := q.timers.eraseIdx i }, out)
  | .startResolving r qid uuid =>
    match q.queries qid with
    | none => .ok (q, [])
    | some x =>
      if x.unresolved then
        .ok (q.modifyQuery qid fun y => { y with unresolved := false },
          q.startResolving h r x.rq uuid)
      else .ok (q, [])
  | .callback r i uuid =>
    match q.callbacks[i]? with
    | none => .ok (q, [])
    | some cb =>
      let q₁ : Queries C := { q with callbacks := q.callbacks.eraseIdx i }
      if cb.relayed then .ok (q₁.sendResponse h r cb.qid cb.item uuid) else .ok (q₁, [])
  | .localQuery rq =>
    if q.queryExists rq.id then .ok (q, [])
    else .ok (q.dispatch rq false, [.dispatch rq.id])
  | .reportResults qid item => .ok (q.reportResults qid item, [.reportResults qid item])
  | .solve qid => .ok (q.modifyQuery qid fun x => { x with solved := true }, [])
  | .drop qid => .ok ({ q with queries := Function.update q.queries qid none }, [])

/-! ## What a step can do

  Each handler again, as one of a few effects with everything that is known where it has that
  effect.  All later modules go by the effects, so a change to a handler is a change to one proof
  here. -/

omit [DecidableEq C] in
/-- The query a message carries: what `handle_query` makes of it inside its try block. -/
def decodeQuery (js : JsonSpirit) (pd : Playdar) (msgp : Message) : Option ResolverQuery :=
  match js.read msgp.payload with
  | some (.obj qo) => pd.fromJson qo
  | _ => none

omit [DecidableEq C] in
/-- The query id and the item a message carries, if it has the shape `handle_queryresult` needs. -/
def decodeResult (js : JsonSpirit) (pd : Playdar) (msgp : Message) : Option (Qid × ResolvedItem) :=
  match js.read msgp.payload with
  | some (.obj o) =>
    match objToMap o "qid", objToMap o "result" with
    | some (.str qid), some (.obj resobj) => (pd.newItem resobj).map fun rip => (qid, rip)
    | _, _ => none
  | _ => none

omit [DecidableEq C] in
/-- The state after a query from a peer has been taken on: its origin is recorded, playdar has it,
    and the timer of `fwd_search` is set. -/
def accept (q : Queries C) (conn : C) (msgp : Message) (rq : ResolverQuery) : Queries C :=
  { q with
    qidorigins := Function.update q.qidorigins rq.id (some conn)
    queries := Function.update q.queries rq.id (some { rq, relayed := true })
    timers := q.timers ++ [⟨conn, msgp, rq.id⟩] }

omit [DecidableEq C] in
/-- **`handle_query`**: taken on when it is a query nobody knows.  The three ways to fail, each with
    its own outcome, are in order: no query in the message, a query that exists, an origin left over
    from one that existed. -/
theorem handleQuery_eq (h : Host C) (q : Queries C) (conn : C) (msgp : Message) :
    q.handleQuery h conn msgp =
      match decodeQuery h.js h.playdar msgp with
      | none => .ok (q, [.fin conn])
      | some rq =>
        if q.queryExists rq.id then .ok (q, [])
        else if q.qidorigins rq.id ≠ none then .error .assertion
        else .ok (q.accept conn msgp rq, [.dispatch rq.id]) := by
  unfold handleQuery decodeQuery
  split
  · rename_i hread
    rw [hread]
  · rename_i qo hread
    rw [hread]
    simp only
    split
    · rfl
    · rename_i rq hrq
      by_cases hex : q.queryExists rq.id = true
      · rw [if_pos hex, if_pos hex]
      · rw [if_neg hex, if_neg hex]
        unfold setQueryOrigin
        cases ho : q.qidorigins rq.id with
        | none => rfl
        | some c => rfl
  · -- it is JSON, and no object
    rename_i v hobj hread
    cases v with
    | obj qo => exact absurd rfl (hobj qo)
    | _ => rw [hread]

omit [DecidableEq C] in
/-- **`handle_queryresult`** on a payload of the right shape: the item gets its url and is
    reported. -/
theorem handleQueryresult_some {h : Host C} {q : Queries C} {r : Router C} {conn : C}
    {msgp : Message} {qid : Qid} {rip : ResolvedItem}
    (hd : decodeResult h.js h.playdar msgp = some (qid, rip)) :
    q.handleQueryresult h r conn msgp =
      .ok (q.reportResults qid
          (rip.setUrl (resultUrl (r.conn conn).nameStr (h.playdar.itemId rip))),
        [.reportResults qid
          (rip.setUrl (resultUrl (r.conn conn).nameStr (h.playdar.itemId rip)))]) := by
  unfold decodeResult at hd
  split at hd
  · rename_i o hread
    split at hd
    · rename_i qid' resobj hq hr
      obtain ⟨rip', hnew, he⟩ := Option.map_eq_some_iff.mp hd
      obtain ⟨rfl, rfl⟩ := Prod.mk.inj he
      unfold handleQueryresult
      rw [hread]
      simp only [Value.getObj, hq, hr, Value.getStr, hnew]
    · cases hd
  · cases hd

omit [DecidableEq C] in
/-- A payload that is JSON, but where `handle_queryresult` calls `get_obj` or `get_str` on a value
    of another type. -/
inductive OddlyTyped (h : Host C) (msgp : Message) : Prop
  | notObject (v : Value) (hread : h.js.read msgp.payload = some v) (hv : ∀ o, v ≠ .obj o)
  | fields (o : Object) (qidValue result : Value) (hread : h.js.read msgp.payload = some (.obj o))
      (hq : objToMap o "qid" = some qidValue) (hr : objToMap o "result" = some result)
      (hv : (∀ s, qidValue ≠ .str s) ∨ ∀ r, result ≠ .obj r)

omit [DecidableEq C] in
/-- Such a payload has the types it should have.  So the exception and the report exclude each
    other, and what leaves the handler can be told from the payload alone. -/
theorem not_oddlyTyped {h : Host C} {msgp : Message} {x : Qid × ResolvedItem}
    (hd : decodeResult h.js h.playdar msgp = some x) : ¬ OddlyTyped h msgp := by
  intro hodd
  unfold decodeResult at hd
  cases hodd with
  | notObject v hread hv =>
    rw [hread] at hd
    cases v with
    | obj o => exact hv o rfl
    | _ => cases hd
  | fields o qidValue result hread hq hr hv =>
    rw [hread] at hd
    simp only [hq, hr] at hd
    split at hd
    · rename_i hqv hrv
      obtain rfl := Option.some.inj hqv
      obtain rfl := Option.some.inj hrv
      rcases hv with hv | hv
      · exact hv _ rfl
      · exact hv _ rfl
    · cases hd

omit [DecidableEq C] in
/-- **`handle_queryresult`** on any other payload: the connection is closed, or an exception leaves
    the handler.  The cases follow the order of the source: is it JSON, is it an object, are the two
    fields there, have they the right types, does the item accept the object. -/
theorem handleQueryresult_none {h : Host C} {q : Queries C} {r : Router C} {conn : C}
    {msgp : Message} (hd : decodeResult h.js h.playdar msgp = none) :
    (¬ OddlyTyped h msgp ∧ q.handleQueryresult h r conn msgp = .ok (q, [.fin conn])) ∨
    (OddlyTyped h msgp ∧ q.handleQueryresult h r conn msgp = .error .exception) := by
  unfold decodeResult at hd
  unfold handleQueryresult
  cases hread : h.js.read msgp.payload with
  | none =>
    refine Or.inl ⟨fun hodd => ?_, rfl⟩
    cases hodd with
    | notObject v hread' =>
      rw [hread] at hread'
      cases hread'
    | fields o _ _ hread' =>
      rw [hread] at hread'
      cases hread'
  | some v =>
    rw [hread] at hd
    cases v with
    | obj o =>
      -- an object: what counts is the two fields
      have hfields : OddlyTyped h msgp → ∃ a b, objToMap o "qid" = some a ∧
          objToMap o "result" = some b ∧ ((∀ s, a ≠ .str s) ∨ ∀ r, b ≠ .obj r) := by
        intro hodd
        cases hodd with
        | notObject v hread' hv =>
          rw [hread] at hread'
          exact absurd (Option.some.inj hread').symm (hv o)
        | fields o' a b hread' hq hr hv =>
          rw [hread] at hread'
          obtain rfl := Value.obj.inj (Option.some.inj hread')
          exact ⟨a, b, hq, hr, hv⟩
      simp only [Value.getObj] at hd ⊢
      cases hq : objToMap o "qid" with
      | none =>
        refine Or.inl ⟨fun hodd => ?_, rfl⟩
        obtain ⟨a, b, ha, -⟩ := hfields hodd
        rw [hq] at ha
        cases ha
      | some qv =>
        cases hr : objToMap o "result" with
        | none =>
          refine Or.inl ⟨fun hodd => ?_, rfl⟩
          obtain ⟨a, b, -, hb, -⟩ := hfields hodd
          rw [hr] at hb
          cases hb
        | some rv =>
          rw [hq, hr] at hd hfields
          simp only
          cases qv with
          | str qid =>
            simp only [Value.getStr]
            cases rv with
            | obj resobj =>
              simp only [Option.map_eq_none_iff] at hd
              refine Or.inl ⟨fun hodd => ?_, by simp [hd]⟩
              obtain ⟨a, b, ha, hb, hv⟩ := hfields hodd
              obtain rfl := Option.some.inj ha
              obtain rfl := Option.some.inj hb
              rcases hv with hv | hv
              · exact hv qid rfl
              · exact hv resobj rfl
            | _ => exact Or.inr ⟨.fields o _ _ hread hq hr (Or.inr fun r h => by cases h), rfl⟩
          | _ => exact Or.inr ⟨.fields o _ _ hread hq hr (Or.inl fun s h => by cases h), rfl⟩
    | _ => exact Or.inr ⟨.notObject _ hread fun o h => (by cases h), rfl⟩

omit [DecidableEq C] in
/-- The event cannot happen yet; for a message, its guid has been seen before.  These are the events
    that `step` answers with the state it was given. -/
def Blocked (q : Queries C) : Event C → Prop
  | .received _ _ msgp => q.admits msgp = false
  | .fwdSearch _ i _ => q.timers[i]? = none
  | .startResolving _ qid _ => ∀ x, q.queries qid = some x → x.unresolved = false
  | .callback _ i _ => q.callbacks[i]? = none
  | .localQuery rq => q.queries rq.id ≠ none
  | _ => False

/-- What one event does: a constructor for each way a handler can return, with everything that the
    handler has tested on the way there. -/
inductive Effect (h : Host C) (q : Queries C) : Event C → Queries C → List (Action C) → Prop
  | idle (e : Event C) (hb : q.Blocked e) : Effect h q e q []
  /-- a message that changes nothing but the set of guids; a payload at fault closes its
      connection -/
  | noted (r : Router C) (conn : C) (msgp : Message) (out : List (Action C))
      (hadm : q.admits msgp = true)
      (hquery : msgp.type = .query → ∀ rq, decodeQuery h.js h.playdar msgp = some rq →
        q.queries rq.id ≠ none ∧ out = [])
      (hresult : msgp.type = .queryresult → decodeResult h.js h.playdar msgp = none)
      (hout : out = [] ∨ out = [.fin conn]) :
      Effect h q (.received r conn msgp) (q.note msgp) out
  | accepted (r : Router C) (conn : C) (msgp : Message) (rq : ResolverQuery)
      (hadm : q.admits msgp = true) (ht : msgp.type = .query)
      (hrq : decodeQuery h.js h.playdar msgp = some rq)
      (hnew : q.queries rq.id = none) (horigin : q.qidorigins rq.id = none) :
      Effect h q (.received r conn msgp) ((q.note msgp).accept conn msgp rq) [.dispatch rq.id]
  | stopped (r : Router C) (conn : C) (msgp : Message)
      (hadm : q.admits msgp = true) (ht : msgp.type = .querystop)
      (hex : q.queries msgp.guid ≠ none) (horigin : q.getQueryOrigin r msgp.guid = some conn) :
      Effect h q (.received r conn msgp)
        ((q.note msgp).modifyQuery msgp.guid fun x => { x with stopped := true })
        (h.lib.broadcastExcept r msgp (some conn))
  | reported (r : Router C) (conn : C) (msgp : Message) (qid : Qid) (rip : ResolvedItem)
      (url : String) (hadm : q.admits msgp = true) (ht : msgp.type = .queryresult)
      (hd : decodeResult h.js h.playdar msgp = some (qid, rip)) :
      Effect h q (.received r conn msgp) ((q.note msgp).reportResults qid (rip.setUrl url))
        [.reportResults qid (rip.setUrl url)]
  /-- a timer runs out; it sends nothing when the query is stopped or solved -/
  | forwarded (r : Router C) (i : Nat) (e : Bool) (t : Timer C) (out : List (Action C))
      (ht : q.timers[i]? = some t) (hout : q.fwdSearch h r t e = .ok out) :
      Effect h q (.fwdSearch r i e) { q with timers := q.timers.eraseIdx i } out
  | resolved (r : Router C) (qid : Qid) (uuid : String) (x : Query)
      (hx : q.queries qid = some x) (hun : x.unresolved = true) :
      Effect h q (.startResolving r qid uuid)
        (q.modifyQuery qid fun y => { y with unresolved := false })
        (q.startResolving h r x.rq uuid)
  /-- a callback of `send_response` -/
  | answered (r : Router C) (i : Nat) (uuid : String) (cb : Callback)
      (hcb : q.callbacks[i]? = some cb) (hrel : cb.relayed = true) :
      Effect h q (.callback r i uuid)
        (sendResponse h { q with callbacks := q.callbacks.eraseIdx i } r cb.qid cb.item uuid).1
        (sendResponse h { q with callbacks := q.callbacks.eraseIdx i } r cb.qid cb.item uuid).2
  /-- a callback of playdar's own -/
  | called (r : Router C) (i : Nat) (uuid : String) (cb : Callback)
      (hcb : q.callbacks[i]? = some cb) (hrel : cb.relayed = false) :
      Effect h q (.callback r i uuid) { q with callbacks := q.callbacks.eraseIdx i } []
  | localQuery (rq : ResolverQuery) (hnew : q.queries rq.id = none) :
      Effect h q (.localQuery rq) (q.dispatch rq false) [.dispatch rq.id]
  | reportResults (qid : Qid) (item : ResolvedItem) :
      Effect h q (.reportResults qid item) (q.reportResults qid item) [.reportResults qid item]
  | solved (qid : Qid) :
      Effect h q (.solve qid) (q.modifyQuery qid fun x => { x with solved := true }) []
  | dropped (qid : Qid) :
      Effect h q (.drop qid) { q with queries := Function.update q.queries qid none } []

omit [DecidableEq C] in
/-- Noting a guid changes no query, ... -/
@[simp] theorem note_queries (q : Queries C) (msgp : Message) :
    (q.note msgp).queries = q.queries := by
  unfold note
  split <;> rfl

omit [DecidableEq C] in
/-- ... no origin, ... -/
@[simp] theorem note_qidorigins (q : Queries C) (msgp : Message) :
    (q.note msgp).qidorigins = q.qidorigins := by
  unfold note
  split <;> rfl

omit [DecidableEq C] in
/-- ... no timer, ... -/
@[simp] theorem note_timers (q : Queries C) (msgp : Message) :
    (q.note msgp).timers = q.timers := by
  unfold note
  split <;> rfl

omit [DecidableEq C] in
/-- ... no callback, ... -/
@[simp] theorem note_callbacks (q : Queries C) (msgp : Message) :
    (q.note msgp).callbacks = q.callbacks := by
  unfold note
  split <;> rfl

omit [DecidableEq C] in
/-- ... and no item. -/
@[simp] theorem note_items (q : Queries C) (msgp : Message) :
    (q.note msgp).items = q.items := by
  unfold note
  split <;> rfl

omit [DecidableEq C] in
/-- A query does not exist if playdar has none under that id. -/
theorem queryExists_eq_false {q : Queries C} {qid : Qid} :
    q.queryExists qid = false ↔ q.queries qid = none := by
  simp [queryExists]

/-- A QUERY is noted, or taken on as well.  The guid is noted before the handler is called, so the
    tests of the handler are made in `q.note msgp`, and the effect speaks of `q`. -/
theorem handleQuery_effect {h : Host C} {q q' : Queries C} {r : Router C} {conn : C}
    {msgp : Message} {out : List (Action C)} (hadm : q.admits msgp = true)
    (ht : msgp.type = .query) (hok : (q.note msgp).handleQuery h conn msgp = .ok (q', out)) :
    Effect h q (.received r conn msgp) q' out := by
  have hnot : msgp.type = .queryresult → decodeResult h.js h.playdar msgp = none := by
    intro hr
    rw [ht] at hr
    cases hr
  rw [handleQuery_eq] at hok
  split at hok
  · -- no query in it: the connection is closed
    rename_i hnone
    obtain ⟨rfl, rfl⟩ := Prod.mk.inj (Except.ok.inj hok)
    refine .noted r conn msgp _ hadm (fun _ rq hrq => ?_) hnot (Or.inr rfl)
    rw [hnone] at hrq
    cases hrq
  · rename_i rq hrq
    split at hok
    · rename_i hex
      obtain ⟨rfl, rfl⟩ := Prod.mk.inj (Except.ok.inj hok)
      refine .noted r conn msgp _ hadm (fun _ rq' hrq' => ⟨?_, rfl⟩) hnot (Or.inl rfl)
      rw [hrq] at hrq'
      obtain rfl := Option.some.inj hrq'
      simpa [queryExists, Option.isSome_iff_ne_none] using hex
    · rename_i hex
      split at hok
      · cases hok
      · rename_i ho
        obtain ⟨rfl, rfl⟩ := Prod.mk.inj (Except.ok.inj hok)
        rw [Bool.not_eq_true, queryExists_eq_false, note_queries] at hex
        rw [not_not, note_qidorigins] at ho
        exact .accepted r conn msgp rq hadm ht hrq hex ho

/-- A QUERYRESULT is noted, or reported as well.  A payload that throws is no effect: there the
    handler does not return. -/
theorem handleQueryresult_effect {h : Host C} {q q' : Queries C} {r : Router C} {conn : C}
    {msgp : Message} {out : List (Action C)} (hadm : q.admits msgp = true)
    (ht : msgp.type = .queryresult)
    (hok : (q.note msgp).handleQueryresult h r conn msgp = .ok (q', out)) :
    Effect h q (.received r conn msgp) q' out := by
  cases hd : decodeResult h.js h.playdar msgp with
  | none =>
    rcases handleQueryresult_none (q := q.note msgp) (r := r) hd with ⟨-, heq⟩ | ⟨-, heq⟩
    · rw [heq] at hok
      obtain ⟨rfl, rfl⟩ := Prod.mk.inj (Except.ok.inj hok)
      refine .noted r conn msgp _ hadm (fun hq => ?_) (fun _ => hd) (Or.inr rfl)
      rw [ht] at hq
      cases hq
    · rw [heq] at hok
      cases hok
  | some qr =>
    obtain ⟨qid, rip⟩ := qr
    rw [handleQueryresult_some hd] at hok
    obtain ⟨rfl, rfl⟩ := Prod.mk.inj (Except.ok.inj hok)
    exact .reported r conn msgp qid rip _ hadm ht hd

/-- A QUERYSTOP is noted, or stops its query and goes on.  Both refusals, of a query that does not
    exist and of a sender that is not its origin, are the same effect: nothing but the guid is left
    of them. -/
theorem handleQuerystop_effect {h : Host C} {q q' : Queries C} {r : Router C} {conn : C}
    {msgp : Message} {out : List (Action C)} (hadm : q.admits msgp = true)
    (ht : msgp.type = .querystop)
    (hok : (q.note msgp).handleQuerystop h r conn msgp = .ok (q', out)) :
    Effect h q (.received r conn msgp) q' out := by
  -- both refusals come to this
  have hnoted : ∀ out, out = [] ∨ out = [.fin conn] →
      Effect h q (.received r conn msgp) (q.note msgp) out := fun out hout =>
    .noted r conn msgp out hadm (fun hq => by rw [ht] at hq; cases hq)
      (fun hr => by rw [ht] at hr; cases hr) hout
  unfold handleQuerystop at hok
  split at hok
  · obtain ⟨rfl, rfl⟩ := Prod.mk.inj (Except.ok.inj hok)
    exact hnoted _ (Or.inl rfl)
  · rename_i hex
    split at hok
    · obtain ⟨rfl, rfl⟩ := Prod.mk.inj (Except.ok.inj hok)
      exact hnoted _ (Or.inl rfl)
    · rename_i ho
      obtain ⟨rfl, rfl⟩ := Prod.mk.inj (Except.ok.inj hok)
      rw [queryExists_eq_false, note_queries] at hex
      rw [not_not] at ho
      refine .stopped r conn msgp hadm ht hex ?_
      rw [← ho]
      simp only [getQueryOrigin, note_qidorigins]

/-- So every message has one of the effects, and those that are none of the queries' are noted. -/
theorem received_effect {h : Host C} {q q' : Queries C} {r : Router C} {conn : C}
    {msgp : Message} {out : List (Action C)} (hok : q.received h r conn msgp = .ok (q', out)) :
    Effect h q (.received r conn msgp) q' out := by
  unfold received at hok
  split at hok
  · rename_i hadm
    split at hok
    · exact handleQuery_effect hadm ‹_› hok
    · exact handleQueryresult_effect hadm ‹_› hok
    · exact handleQuerystop_effect hadm ‹_› hok
    · rename_i hquery hresult _
      obtain ⟨rfl, rfl⟩ := Prod.mk.inj (Except.ok.inj hok)
      exact .noted r conn msgp _ hadm (fun hq => absurd hq hquery)
        (fun hr => absurd hr hresult) (Or.inl rfl)
  · rename_i hadm
    obtain ⟨rfl, rfl⟩ := Prod.mk.inj (Except.ok.inj hok)
    exact .idle _ (by simpa using hadm : q.admits msgp = false)

/-- **Every step has one of these effects.**  A case for each event, and in it one for each branch
    of its handler.  What holds of all steps is proved from here on by cases on the effect, and
    never again by unfolding a handler. -/
theorem step_effect {h : Host C} {q q' : Queries C} {e : Event C} {out : List (Action C)}
    (hok : step h q e = .ok (q', out)) : Effect h q e q' out := by
  cases e with
  | received r conn msgp => exact received_effect hok
  | fwdSearch r i e =>
    simp only [step] at hok
    split at hok
    · rename_i hnone
      obtain ⟨rfl, rfl⟩ := Prod.mk.inj (Except.ok.inj hok)
      exact .idle _ hnone
    · rename_i t ht
      split at hok
      · cases hok
      · rename_i out' hout
        obtain ⟨rfl, rfl⟩ := Prod.mk.inj (Except.ok.inj hok)
        exact .forwarded r i e t _ ht hout
  | startResolving r qid uuid =>
    simp only [step] at hok
    split at hok
    · rename_i hnone
      obtain ⟨rfl, rfl⟩ := Prod.mk.inj (Except.ok.inj hok)
      -- without the query its resolving is idle
      refine .idle _ fun x hx => ?_
      rw [hnone] at hx
      cases hx
    · rename_i x hx
      split at hok
      · rename_i hun
        obtain ⟨rfl, rfl⟩ := Prod.mk.inj (Except.ok.inj hok)
        exact .resolved r qid uuid x hx hun
      · -- resolving a second time is idle as well
        rename_i hun
        obtain ⟨rfl, rfl⟩ := Prod.mk.inj (Except.ok.inj hok)
        refine .idle _ fun y hy => ?_
        rw [hx] at hy
        obtain rfl := Option.some.inj hy
        simpa using hun
  | callback r i uuid =>
    simp only [step] at hok
    split at hok
    · rename_i hnone
      obtain ⟨rfl, rfl⟩ := Prod.mk.inj (Except.ok.inj hok)
      exact .idle _ hnone
    · rename_i cb hcb
      split at hok
      · rename_i hrel
        have h1 := congrArg Prod.fst (Except.ok.inj hok)
        have h2 := congrArg Prod.snd (Except.ok.inj hok)
        simp only at h1 h2
        rw [← h1, ← h2]
        exact .answered r i uuid cb hcb hrel
      · rename_i hrel
        obtain ⟨rfl, rfl⟩ := Prod.mk.inj (Except.ok.inj hok)
        exact .called r i uuid cb hcb (by simpa using hrel)
  | localQuery rq =>
    simp only [step] at hok
    split at hok
    · rename_i hex
      obtain ⟨rfl, rfl⟩ := Prod.mk.inj (Except.ok.inj hok)
      refine .idle _ (fun hnone => ?_ : q.queries rq.id ≠ none)
      rw [queryExists_eq_false.mpr hnone] at hex
      cases hex
    · rename_i hex
      obtain ⟨rfl, rfl⟩ := Prod.mk.inj (Except.ok.inj hok)
      rw [Bool.not_eq_true, queryExists_eq_false] at hex
      exact .localQuery rq hex
  | reportResults qid item =>
    obtain ⟨rfl, rfl⟩ := Prod.mk.inj (Except.ok.inj hok)
    exact .reportResults qid item
  | solve qid =>
    obtain ⟨rfl, rfl⟩ := Prod.mk.inj (Except.ok.inj hok)
    exact .solved qid
  | drop qid =>
    obtain ⟨rfl, rfl⟩ := Prod.mk.inj (Except.ok.inj hok)
    exact .dropped qid

/-! ## What a step keeps

  Frame lemmas: what each handler leaves alone.  Then what stays over any step, a query, a stop, an
  origin, a guid. -/

omit [DecidableEq C] in
/-- Only the query under that id changes, and it changes only if there is one: no query comes into
    being this way. -/
theorem modifyQuery_queries (q : Queries C) (k qid : Qid) (f : Query → Query) :
    (q.modifyQuery k f).queries qid =
      if qid = k then (q.queries qid).map f else q.queries qid := by
  by_cases he : qid = k
  · subst he
    simp [modifyQuery]
  · simp [modifyQuery, he]

omit [DecidableEq C] in
/-- A result for a query that exists becomes an item, and its callback is due.  The item is the last
    of the heap, which is the place the query and the callback both get. -/
theorem reportResults_some {q : Queries C} {qid : Qid} {x : Query} (item : ResolvedItem)
    (hx : q.queries qid = some x) :
    q.reportResults qid item =
      { q with
        queries := (q.modifyQuery qid fun y =>
          { y with results := y.results ++ [q.items.length] }).queries
        items := q.items ++ [item]
        callbacks := q.callbacks ++ [⟨qid, q.items.length, x.relayed⟩] } := by
  unfold reportResults
  rw [hx]
  rfl

omit [DecidableEq C] in
/-- A result for one that does not is dropped: there is no callback to hand it to. -/
theorem reportResults_none {q : Queries C} {qid : Qid} (item : ResolvedItem)
    (hx : q.queries qid = none) : q.reportResults qid item = q := by
  unfold reportResults
  rw [hx]

omit [DecidableEq C] in
/-- **What `report_results` leaves alone.** -/
theorem reportResults_frame (q : Queries C) (qid : Qid) (item : ResolvedItem) :
    (q.reportResults qid item).qidorigins = q.qidorigins ∧
    (q.reportResults qid item).seenGuids = q.seenGuids ∧
    (q.reportResults qid item).timers = q.timers := by
  cases hx : q.queries qid with
  | none =>
    rw [reportResults_none item hx]
    exact ⟨rfl, rfl, rfl⟩
  | some x =>
    rw [reportResults_some item hx]
    exact ⟨rfl, rfl, rfl⟩

/-- A timer that returns sends its message to all but one connection, or nothing.  Which of the two
    is up to the query and the timer's error code; whom it leaves out is the connection bound to
    it. -/
theorem fwdSearch_ok {h : Host C} {q : Queries C} {r : Router C} {t : Timer C} {e : Bool}
    {out : List (Action C)} (hok : q.fwdSearch h r t e = .ok out) :
    out = [] ∨ out = h.lib.broadcastExcept r t.msgp (some t.conn) := by
  unfold fwdSearch at hok
  split at hok
  · exact Or.inl (Except.ok.inj hok).symm
  · split at hok
    · cases hok
    · split at hok
      · exact Or.inl (Except.ok.inj hok).symm
      · split at hok
        · exact Or.inl (Except.ok.inj hok).symm
        · exact Or.inr (Except.ok.inj hok).symm

/-- **`send_response`**: the copy it sends goes on the heap, and nothing else changes.  The object
    that was reported keeps its url, for playdar and for every other callback that shares it. -/
theorem sendResponse_some {h : Host C} {q : Queries C} {r : Router C} {qid : Qid} {rip : Nat}
    {conn : C} {it : ResolvedItem} (uuid : String) (ho : q.getQueryOrigin r qid = some conn)
    (hit : q.items[rip]? = some it) :
    q.sendResponse h r qid rip uuid =
      ({ q with items := q.items ++ [it.rmJsonValue "url"] },
       [.asyncWrite conn (queryResultMessage h.js qid (it.rmJsonValue "url") uuid)]) := by
  have hcopy : (q.items ++ [it]).modify q.items.length (fun x => x.rmJsonValue "url") =
      q.items ++ [it.rmJsonValue "url"] := by
    rw [List.modify_eq_set_getElem?]
    simp
  unfold sendResponse
  rw [ho, hit]
  simp only [newItem, modifyItem, hcopy]
  simp

/-- Without an origin nothing is sent, and nothing copied. -/
theorem sendResponse_none {h : Host C} {q : Queries C} {r : Router C} {qid : Qid} {rip : Nat}
    (uuid : String) (ho : q.getQueryOrigin r qid = none) :
    q.sendResponse h r qid rip uuid = (q, []) := by
  unfold sendResponse
  rw [ho]

/-- **What `send_response` leaves alone**, and what it can do: it adds to the heap, and it writes
    one message or none. -/
theorem sendResponse_frame (h : Host C) (q : Queries C) (r : Router C) (qid : Qid) (rip : Nat)
    (uuid : String) :
    (q.sendResponse h r qid rip uuid).1 =
      { q with items := (q.sendResponse h r qid rip uuid).1.items } ∧
    ((q.sendResponse h r qid rip uuid).2 = [] ∨
      ∃ conn msgp, (q.sendResponse h r qid rip uuid).2 = [.asyncWrite conn msgp]) := by
  cases ho : q.getQueryOrigin r qid with
  | none =>
    rw [sendResponse_none uuid ho]
    exact ⟨rfl, Or.inl rfl⟩
  | some conn =>
    cases hit : q.items[rip]? with
    | none =>
      have hnone : q.sendResponse h r qid rip uuid = (q, []) := by
        unfold sendResponse
        rw [ho, hit]
      rw [hnone]
      exact ⟨rfl, Or.inl rfl⟩
    | some it =>
      rw [sendResponse_some uuid ho hit]
      exact ⟨rfl, Or.inr ⟨_, _, rfl⟩⟩

omit [DecidableEq C] in
/-- A change that a query may see leaves each query as it was or later, whichever query it is made
    to. -/
theorem modifyQuery_later {q : Queries C} {k qid : Qid} {f : Query → Query} {x : Query}
    (hx : q.queries qid = some x) (hf : ∀ y : Query, y.Later (f y)) :
    ∃ x', (q.modifyQuery k f).queries qid = some x' ∧ x.Later x' := by
  rw [modifyQuery_queries, hx]
  -- the query that is changed, or another
  by_cases he : qid = k
  · rw [if_pos he]
    exact ⟨f x, rfl, hf x⟩
  · rw [if_neg he]
    exact ⟨x, rfl, .refl x⟩

omit [DecidableEq C] in
/-- A report does too: it adds to the results, and leaves the flags as they are. -/
theorem reportResults_later {q : Queries C} {k qid : Qid} {x : Query} (item : ResolvedItem)
    (hx : q.queries qid = some x) :
    ∃ x', (q.reportResults k item).queries qid = some x' ∧ x.Later x' := by
  cases hk : q.queries k with
  | none =>
    rw [reportResults_none item hk]
    exact ⟨x, hx, .refl x⟩
  | some y =>
    rw [reportResults_some item hk]
    exact modifyQuery_later hx fun y => ⟨rfl, rfl, id, id, id⟩

/-- A query stays until playdar drops it; a stop is for good.  The one effect that could take its
    place is the dispatch of another query under its id, and both ways of dispatching test for that
    first. -/
theorem query_stays {h : Host C} {q q' : Queries C} {e : Event C} {out : List (Action C)}
    (heff : Effect h q e q' out) {qid : Qid} {x : Query} (hx : q.queries qid = some x)
    (hne : e ≠ .drop qid) : ∃ x', q'.queries qid = some x' ∧ x.Later x' := by
  have hsame : ∃ x', q.queries qid = some x' ∧ x.Later x' := ⟨x, hx, .refl x⟩
  -- a query just dispatched is another one
  have hother : ∀ (k : Qid) (y : Query), q.queries k = none →
      ∃ x', Function.update q.queries k (some y) qid = some x' ∧ x.Later x' := by
    intro k y hk
    refine ⟨x, ?_, .refl x⟩
    rw [Function.update_of_ne, hx]
    rintro rfl
    rw [hx] at hk
    cases hk
  cases heff with
  | idle => exact hsame
  | noted r conn msgp =>
    rw [note_queries]
    exact hsame
  | accepted r conn msgp rq hadm ht hrq hnew =>
    simp only [accept, note_queries]
    exact hother _ _ hnew
  | stopped r conn msgp =>
    exact modifyQuery_later (by rwa [note_queries]) fun y => ⟨rfl, rfl, fun _ => rfl, id, id⟩
  | reported r conn msgp =>
    exact reportResults_later _ (by rwa [note_queries])
  | forwarded => exact hsame
  | resolved r k uuid =>
    exact modifyQuery_later hx fun y => ⟨rfl, rfl, id, id, fun hy => by cases hy⟩
  | answered =>
    rw [(sendResponse_frame ..).1]
    exact hsame
  | called => exact hsame
  | localQuery rq hnew => exact hother _ _ hnew
  | reportResults => exact reportResults_later _ hx
  | solved => exact modifyQuery_later hx fun y => ⟨rfl, rfl, id, fun _ => rfl, id⟩
  | dropped k =>
    have hk : qid ≠ k := fun he => hne (he ▸ rfl)
    exact ⟨x, (Function.update_of_ne hk _ _).trans hx, .refl x⟩

/-- **Where an origin comes from**: it is recorded when a query nobody knows is taken on, and then
    kept for good. -/
theorem origin_step {h : Host C} {q q' : Queries C} {e : Event C} {out : List (Action C)}
    (heff : Effect h q e q' out) :
    q'.qidorigins = q.qidorigins ∨
    ∃ r conn msgp rq, e = .received r conn msgp ∧ q.queries rq.id = none ∧
      q.qidorigins rq.id = none ∧ q'.qidorigins = Function.update q.qidorigins rq.id (some conn) ∧
      q'.queries rq.id = some { rq, relayed := true } := by
  -- one constructor records an origin; all others are frame lemmas
  cases heff with
  | accepted r conn msgp rq hadm ht hrq hnew horigin =>
    refine Or.inr ⟨r, conn, msgp, rq, rfl, hnew, horigin, ?_, ?_⟩
    · simp only [accept, note_qidorigins]
    · simp only [accept, Function.update_self]
  | noted => exact Or.inl (note_qidorigins ..)
  | stopped => exact Or.inl (note_qidorigins ..)
  | reported r conn msgp qid rip =>
    exact Or.inl ((reportResults_frame ..).1.trans (note_qidorigins ..))
  | answered => exact Or.inl (by rw [(sendResponse_frame ..).1])
  | reportResults => exact Or.inl (reportResults_frame ..).1
  | _ => exact Or.inl rfl

omit [DecidableEq C] in
/-- The guids seen are those seen before, and the message's own, unless the message is one of a
    stream. -/
theorem mem_note {q : Queries C} {msgp : Message} {g : String} :
    g ∈ (q.note msgp).seenGuids ↔
      g ∈ q.seenGuids ∨ (msgp.type.isStream = false ∧ msgp.guid = g) := by
  unfold note
  by_cases hs : msgp.type.isStream = true
  · rw [if_pos hs, hs]
    simp
  · rw [if_neg hs]
    simp only [Bool.not_eq_true] at hs
    simp [hs, or_comm, eq_comm]

omit [DecidableEq C] in
/-- What is kept out is a message of no stream whose guid has been seen.  It does not matter on
    which connection it was seen, nor in a message of which type. -/
theorem admits_eq_false {q : Queries C} {msgp : Message} :
    q.admits msgp = false ↔ msgp.type.isStream = false ∧ msgp.guid ∈ q.seenGuids := by
  simp [admits]

/-- **The duplicate filter**: a step adds the guid of the message it delivers.  This is an
    equivalence, so it also says that no guid is ever forgotten, and that none is added that no
    message had. -/
theorem mem_seenGuids_step {h : Host C} {q q' : Queries C} {e : Event C} {out : List (Action C)}
    (heff : Effect h q e q' out) {g : String} :
    g ∈ q'.seenGuids ↔ g ∈ q.seenGuids ∨
      ∃ r conn msgp, e = .received r conn msgp ∧ msgp.type.isStream = false ∧ msgp.guid = g := by
  -- a message that is delivered has its guid noted, unless it is a stream's
  have hreceived : ∀ (r : Router C) (conn : C) (msgp : Message),
      g ∈ (q.note msgp).seenGuids ↔ g ∈ q.seenGuids ∨ ∃ r' conn' msgp',
        Event.received r conn msgp = .received r' conn' msgp' ∧ msgp'.type.isStream = false ∧
          msgp'.guid = g := by
    intro r conn msgp
    rw [mem_note]
    simp
  -- an event that brings no message notes nothing
  have hno : (∀ r conn msgp, e ≠ .received r conn msgp) → (g ∈ q.seenGuids ↔ g ∈ q.seenGuids ∨
      ∃ r conn msgp, e = .received r conn msgp ∧ msgp.type.isStream = false ∧ msgp.guid = g) := by
    intro hne
    refine ⟨Or.inl, ?_⟩
    rintro (hg | ⟨r, conn, msgp, he, -⟩)
    · exact hg
    · exact absurd he (hne r conn msgp)
  cases heff with
  | idle e hb =>
    refine ⟨Or.inl, ?_⟩
    rintro (hg | ⟨r, conn, msgp, rfl, -, rfl⟩)
    · exact hg
    · exact (admits_eq_false.mp hb).2
  | noted r conn msgp => exact hreceived r conn msgp
  | accepted r conn msgp => exact hreceived r conn msgp
  | stopped r conn msgp => exact hreceived r conn msgp
  | reported r conn msgp =>
    rw [(reportResults_frame ..).2.1]
    exact hreceived r conn msgp
  | answered =>
    rw [(sendResponse_frame ..).1]
    exact hno (by simp)
  | reportResults =>
    rw [(reportResults_frame ..).2.1]
    exact hno (by simp)
  | _ => exact hno (by simp)

/-! ## A query and a result for it -/

/-- A query with an id and no more. -/
def someQuery : ResolverQuery := ⟨"q", [("qid", .str "q")]⟩

/-- A song with a url of its source's. -/
def song : ResolvedItem := ⟨[("track", .str "t"), ("url", .str "file:///t.mp3")], by decide⟩

/-- How they are written: the result goes without its url. -/
def sampleTexts : List (String × Value) := [
  ("\x7b\"qid\":\"q\"\x7d", .obj [("qid", .str "q")]),
  ("\x7b\"qid\":\"q\",\"result\":\x7b\"track\":\"t\"\x7d\x7d",
    .obj [("qid", .str "q"), ("result", .obj [("track", .str "t")])])]

/-- A playdar that takes any query with an id. -/
def samplePlaydar : Playdar where
  fromJson o :=
    match objToMap o "qid" with
    | some (.str qid) => some ⟨qid, o⟩
    | _ => none
  acceptsItem _ := true
  itemId _ := ""

end Queries

end Greynet
