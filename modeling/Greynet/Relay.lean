/-
  Honest traffic: the messages this plugin writes for a query, and what its tables hold when it
  has met no others.

  A node cannot tell whether a message is honest, and it is not asked to.  That a message survives
  the codecs is a property of the libraries and of the query; what is shown here is that nothing
  else is needed for the tables to stay in order.

  1. `Travels` — a query or a result survives the codecs it is sent through.
  2. `Honest` — a QUERY or QUERYRESULT as the plugin writes it.
  3. `Sane` — the invariant of the tables while only such messages come in; a step keeps it and
     writes only such messages.
  4. `budget` — how often a node may still send a query out.

  Of the two stories told of a query, that it is taken on once (`takes_step`) and that it goes out
  at most twice (`budget_step`), each is a step lemma here.  What they come to over a whole run,
  and over a network of nodes, is in the modules on flooding; those use the steps by name and do
  not look at the tables again.
-/
import Greynet.Lib.Tally
import Greynet.Queries

namespace Greynet

variable {C : Type} [DecidableEq C]

/-! ## Codecs

  What is assumed of json_spirit and of playdar's own classes, for one query and one result at a
  time.  Nothing is assumed of texts that were not written this way: a peer may send anything, and
  then the node is not among honest ones. -/

/-- The query is read back from its own QUERY message: json_spirit reads what it wrote, and
    `from_json` makes the same query of it. -/
structure ResolverQuery.Travels (js : JsonSpirit) (pd : Playdar) (rq : ResolverQuery) : Prop where
  read : js.read (js.write (.obj rq.json)) = some (.obj rq.json)
  fromJson : pd.fromJson rq.json = some rq

/-- The result is read back from its own QUERYRESULT message.  It is the item without its url that
    is written, so nothing is asked of the url. -/
structure ResolvedItem.Travels (js : JsonSpirit) (pd : Playdar) (qid : Qid) (it : ResolvedItem) :
    Prop where
  read : js.read (js.write (queryResultObject qid it)) = some (queryResultObject qid it)
  accepts : pd.acceptsItem it.fields = true

/-- A message the plugin writes for a query: the query itself, or a result without a url.  QUERYSTOP
    is not among them, as no method of the plugin ever starts one. -/
inductive Honest (js : JsonSpirit) (pd : Playdar) : Message → Prop
  | query (rq : ResolverQuery) (uuid : String) (ht : rq.Travels js pd) :
      Honest js pd (queryMessage js rq uuid)
  | result (qid : Qid) (it : ResolvedItem) (uuid : String) (hurl : it.rmJsonValue "url" = it)
      (ht : it.Travels js pd qid) : Honest js pd (queryResultMessage js qid it uuid)

namespace Queries

/-- A query that travels arrives as it was sent.  The guid has nothing to do with it, so this holds
    of the forwarded copy and of a node's own alike. -/
theorem decodeQuery_queryMessage {js : JsonSpirit} {pd : Playdar} {rq : ResolverQuery}
    (ht : rq.Travels js pd) (uuid : String) :
    decodeQuery js pd (queryMessage js rq uuid) = some rq := by
  simp only [decodeQuery, queryMessage, ht.read, ht.fromJson]

/-- A result that travels arrives as it was sent, and under the query it was sent for: both fields
    of the object are found again by `obj_to_map`. -/
theorem decodeResult_queryResultMessage {js : JsonSpirit} {pd : Playdar} {qid : Qid}
    {it : ResolvedItem} (ht : it.Travels js pd qid) (uuid : String) :
    decodeResult js pd (queryResultMessage js qid it uuid) = some (qid, it) := by
  have hmap : ∀ key, objToMap [("qid", .str qid), ("result", .obj it.fields)] key =
      if key = "result" then some (.obj it.fields)
      else if key = "qid" then some (.str qid) else none := by
    intro key
    simp only [objToMap, List.foldl_cons, List.foldl_nil, Function.update_apply]
  have hread : js.read (queryResultMessage js qid it uuid).payload =
      some (queryResultObject qid it) := ht.read
  unfold decodeResult
  rw [hread]
  simp only [queryResultObject, hmap]
  simp [Playdar.newItem, ht.accepts]

/-! ## What an honest node's tables hold

  The tables refer to each other by ids and places: origins and timers to queries, callbacks to
  queries and items.  The invariant says that nothing they refer to is missing. -/

/-- The invariant of the tables.  What is found through an id or a place is there, and it is what
    was put there: a query under its own id, a timer with a QUERY that was honest, a callback with
    an item that can be sent. -/
structure Sane (h : Host C) (q : Queries C) : Prop where
  queries : ∀ qid x, q.queries qid = some x → x.rq.id = qid ∧ x.rq.Travels h.js h.playdar ∧
    (x.relayed = true ↔ q.qidorigins qid ≠ none)
  origins : ∀ qid, q.qidorigins qid ≠ none → q.queries qid ≠ none
  timers : ∀ t ∈ q.timers, q.queries t.qid ≠ none ∧ ∃ rq uuid, rq.Travels h.js h.playdar ∧
    t.msgp = queryMessage h.js rq uuid ∧ t.qid = rq.id
  callbacks : ∀ cb ∈ q.callbacks, (∃ x, q.queries cb.qid = some x ∧ x.relayed = cb.relayed) ∧
    ∃ it, q.items[cb.item]? = some it ∧ (it.rmJsonValue "url").Travels h.js h.playdar cb.qid

/-- What surroundings that are honest, and a playdar that forgets nothing, ask of a node.  `drop` is
    excluded because a dropped query leaves its origin and its timer behind, and those would then
    refer to nothing. -/
def Welcome (h : Host C) : Event C → Prop
  | .received _ _ msgp => Honest h.js h.playdar msgp
  | .localQuery rq => rq.Travels h.js h.playdar
  | .reportResults qid item => (item.rmJsonValue "url").Travels h.js h.playdar qid
  | .drop _ => False
  | _ => True

omit [DecidableEq C] in
/-- A node that has just been started has nothing in its tables, so nothing in them can refer to
    what is not there. -/
theorem sane_empty (h : Host C) : Sane h (empty : Queries C) :=
  ⟨fun _ _ hx => (by cases hx), fun _ ho => absurd rfl ho, fun _ ht => (by cases ht),
    fun _ hcb => (by cases hcb)⟩

omit [DecidableEq C] in
/-- An item stays at its place when others are added. -/
theorem getElem?_append {items new : List ResolvedItem} {i : Nat} {it : ResolvedItem}
    (h : items[i]? = some it) : (items ++ new)[i]? = some it := by
  obtain ⟨hi, -⟩ := List.getElem?_eq_some_iff.mp h
  rw [List.getElem?_append_left hi, h]

omit [DecidableEq C] in
/-- Fewer timers and callbacks, more items, and other guids.  This is the frame of most handlers:
    they take something off a list that is pending, and leave the queries and their origins
    alone. -/
theorem Sane.less {h : Host C} {q q' : Queries C} (hs : Sane h q)
    (hq : q'.queries = q.queries) (ho : q'.qidorigins = q.qidorigins)
    (ht : ∀ t ∈ q'.timers, t ∈ q.timers) (hcb : ∀ cb ∈ q'.callbacks, cb ∈ q.callbacks)
    (hi : ∃ new, q'.items = q.items ++ new) : Sane h q' := by
  obtain ⟨new, hnew⟩ := hi
  refine ⟨?_, ?_, ?_, ?_⟩
  · rw [hq, ho]
    exact hs.queries
  · rw [hq, ho]
    exact hs.origins
  · intro t htm
    rw [hq]
    exact hs.timers t (ht t htm)
  · intro cb hcbm
    obtain ⟨hx, it, hit, htr⟩ := hs.callbacks cb (hcb cb hcbm)
    exact ⟨hq ▸ hx, it, by rw [hnew]; exact getElem?_append hit, htr⟩

omit [DecidableEq C] in
/-- A guid more, ... -/
theorem Sane.note {h : Host C} {q : Queries C} (hs : Sane h q) (msgp : Message) :
    Sane h (q.note msgp) := by
  unfold Queries.note
  split
  · exact hs
  · exact hs.less rfl rfl (fun _ ht => ht) (fun _ hcb => hcb) ⟨[], by simp⟩

omit [DecidableEq C] in
/-- ... a flag set, ... -/
theorem Sane.modifyQuery {h : Host C} {q : Queries C} (hs : Sane h q) (k : Qid)
    {f : Query → Query} (hf : ∀ y : Query, y.Later (f y)) : Sane h (q.modifyQuery k f) := by
  have hkeep : ∀ {qid x}, q.queries qid = some x →
      ∃ x', (q.modifyQuery k f).queries qid = some x' ∧ x.Later x' := fun hx =>
    modifyQuery_later hx hf
  -- each query of the new table is a later state of one in the old
  have hback : ∀ {qid x'}, (q.modifyQuery k f).queries qid = some x' →
      ∃ x, q.queries qid = some x ∧ x.Later x' := by
    intro qid x' hx'
    cases hx : q.queries qid with
    | none =>
      rw [modifyQuery_queries, hx] at hx'
      simp at hx'
    | some x =>
      obtain ⟨x'', hx'', hlater⟩ := hkeep hx
      rw [hx''] at hx'
      obtain rfl := Option.some.inj hx'
      exact ⟨x, rfl, hlater⟩
  have hne : ∀ {qid}, q.queries qid ≠ none → (q.modifyQuery k f).queries qid ≠ none := by
    intro qid hex
    obtain ⟨x, hx⟩ := Option.ne_none_iff_exists'.mp hex
    obtain ⟨x', hx', -⟩ := hkeep hx
    rw [hx']
    simp
  refine ⟨?_, fun qid ho => hne (hs.origins qid ho), ?_, ?_⟩
  · intro qid x' hx'
    obtain ⟨x, hx, hlater⟩ := hback hx'
    rw [hlater.rq, hlater.relayed]
    exact hs.queries qid x hx
  · intro t ht
    obtain ⟨hex, hmsg⟩ := hs.timers t ht
    exact ⟨hne hex, hmsg⟩
  · intro cb hcb
    obtain ⟨⟨x, hx, hrel⟩, hitem⟩ := hs.callbacks cb hcb
    obtain ⟨x', hx', hlater⟩ := hkeep hx
    exact ⟨⟨x', hx', hlater.relayed.trans hrel⟩, hitem⟩

omit [DecidableEq C] in
/-- ... and a result reported leave the tables in order. -/
theorem Sane.reportResults {h : Host C} {q : Queries C} (hs : Sane h q) {qid : Qid}
    {item : ResolvedItem} (ht : (item.rmJsonValue "url").Travels h.js h.playdar qid) :
    Sane h (q.reportResults qid item) := by
  cases hx : q.queries qid with
  | none =>
    rw [reportResults_none item hx]
    exact hs
  | some x =>
    rw [reportResults_some item hx]
    have hmod := hs.modifyQuery qid (f := fun y =>
      { y with results := y.results ++ [q.items.length] }) fun y => ⟨rfl, rfl, id, id, id⟩
    refine ⟨hmod.queries, hmod.origins, hmod.timers, ?_⟩
    intro cb hcb
    -- the callback was due before, or it is the one for this result
    rcases List.mem_append.mp hcb with hcb | hcb
    · obtain ⟨hx', it, hit, htr⟩ := hmod.callbacks cb hcb
      exact ⟨hx', it, getElem?_append hit, htr⟩
    · obtain rfl := List.mem_singleton.mp hcb
      refine ⟨?_, item, by simp, ht⟩
      simp only [modifyQuery_queries, if_true, hx, Option.map_some, Option.some.injEq]
      exact ⟨_, rfl, rfl⟩

omit [DecidableEq C] in
/-- A query is taken on, from a peer or of playdar's own.  Its id is new, so what the tables refer
    to under other ids is where it was; the two ways differ only in whether there is an origin. -/
theorem Sane.takeOn {h : Host C} {q : Queries C} (hs : Sane h q) {rq : ResolverQuery}
    (ht : rq.Travels h.js h.playdar) (hnew : q.queries rq.id = none) (origin : Option C) :
    Sane h { q with
      qidorigins := Function.update q.qidorigins rq.id origin
      queries := Function.update q.queries rq.id (some { rq, relayed := origin.isSome }) } := by
  -- what the tables refer to is a query they have, so it is not the new one
  have hother : ∀ {qid : Qid}, q.queries qid ≠ none → qid ≠ rq.id := by
    rintro qid hex rfl
    exact hex hnew
  have hkeep : ∀ {qid : Qid} (y : Query), q.queries qid ≠ none →
      Function.update q.queries rq.id (some y) qid = q.queries qid := fun y hex =>
    Function.update_of_ne (hother hex) _ _
  refine ⟨?_, ?_, ?_, ?_⟩
  · intro qid x hx
    by_cases he : qid = rq.id
    · subst he
      simp only [Function.update_self] at hx ⊢
      obtain rfl := Option.some.inj hx
      exact ⟨rfl, ht, by simp [Option.isSome_iff_ne_none]⟩
    · simp only [Function.update_of_ne he] at hx ⊢
      exact hs.queries qid x hx
  · intro qid ho
    by_cases he : qid = rq.id
    · subst he
      simp
    · simp only [Function.update_of_ne he] at ho ⊢
      exact hs.origins qid ho
  · intro t htm
    obtain ⟨hex, hmsg⟩ := hs.timers t htm
    exact ⟨by simp only [hkeep _ hex]; exact hex, hmsg⟩
  · intro cb hcb
    obtain ⟨⟨x, hx, hrel⟩, hitem⟩ := hs.callbacks cb hcb
    exact ⟨⟨x, by simp only [hkeep _ (by rw [hx]; simp : q.queries cb.qid ≠ none)]; exact hx,
      hrel⟩, hitem⟩

/-! ## One step of an honest node -/

/-- **An honest node stays sane.**  By cases on the effect.  All but three come down to `Sane.less`
    and its companions; the three are a query taken on from a peer, where the message must be one
    that was encoded, a result, where it must be one without a url, and a query of playdar's own,
    which must not have an origin from an earlier time. -/
theorem sane_step {h : Host C} {q q' : Queries C} {e : Event C} {out : List (Action C)}
    (hs : Sane h q) (he : Welcome h e) (heff : Effect h q e q' out) : Sane h q' := by
  cases heff with
  | idle => exact hs
  | noted r conn msgp => exact hs.note msgp
  | accepted r conn msgp rq hadm ht hrq hnew horigin =>
    -- an honest message that is a query is one that was encoded
    have hmsg : ∃ uuid, rq.Travels h.js h.playdar ∧ msgp = queryMessage h.js rq uuid := by
      cases he with
      | query rq' uuid htr =>
        rw [decodeQuery_queryMessage htr] at hrq
        obtain rfl := Option.some.inj hrq
        exact ⟨uuid, htr, rfl⟩
      | result => cases ht
    obtain ⟨uuid, htr, hmsg⟩ := hmsg
    have hon := (hs.note msgp).takeOn htr (by rw [note_queries]; exact hnew) (some conn)
    refine ⟨hon.queries, hon.origins, ?_, hon.callbacks⟩
    intro t htm
    rcases List.mem_append.mp htm with htm | htm
    · exact hon.timers t htm
    · obtain rfl := List.mem_singleton.mp htm
      exact ⟨by simp [accept], rq, uuid, htr, hmsg, rfl⟩
  | stopped r conn msgp =>
    exact (hs.note msgp).modifyQuery _ fun y => ⟨rfl, rfl, fun _ => rfl, id, id⟩
  | reported r conn msgp qid rip url hadm ht hd =>
    refine (hs.note msgp).reportResults ?_
    cases he with
    | query => cases ht
    | result qid' it uuid hurl htr =>
      rw [decodeResult_queryResultMessage htr] at hd
      obtain ⟨rfl, rfl⟩ := Prod.mk.inj (Option.some.inj hd)
      rw [ResolvedItem.setUrl, ResolvedItem.rmJsonValue_set, hurl]
      exact htr
  | forwarded r i e t out ht hout =>
    exact hs.less rfl rfl (fun _ htm => List.mem_of_mem_eraseIdx htm) (fun _ hcb => hcb)
      ⟨[], by simp⟩
  | resolved r qid uuid x hx hun =>
    exact hs.modifyQuery _ fun y => ⟨rfl, rfl, id, id, fun hy => (by cases hy)⟩
  | answered r i uuid cb hcb hrel =>
    have hless : Sane h { q with callbacks := q.callbacks.eraseIdx i } :=
      hs.less rfl rfl (fun _ ht => ht) (fun _ hcb => List.mem_of_mem_eraseIdx hcb) ⟨[], by simp⟩
    cases ho : getQueryOrigin { q with callbacks := q.callbacks.eraseIdx i } r cb.qid with
    | none =>
      rw [sendResponse_none uuid ho]
      exact hless
    | some conn =>
      obtain ⟨-, it, hit, -⟩ := hs.callbacks cb (List.mem_of_getElem? hcb)
      rw [sendResponse_some uuid ho hit]
      exact hless.less rfl rfl (fun _ ht => ht) (fun _ hcb => hcb) ⟨_, rfl⟩
  | called r i uuid cb =>
    exact hs.less rfl rfl (fun _ ht => ht) (fun _ hcb => List.mem_of_mem_eraseIdx hcb)
      ⟨[], by simp⟩
  | localQuery rq hnew =>
    -- a query that is new has no origin from an earlier time
    have hnone : q.qidorigins rq.id = none := by
      by_contra ho
      exact hs.origins rq.id ho hnew
    have hon := hs.takeOn he hnew none
    rw [← hnone, Function.update_eq_self] at hon
    exact hon.less (by rw [hnone]; rfl) rfl (fun _ ht => ht) (fun _ hcb => hcb)
      ⟨[], by simp [dispatch]⟩
  | reportResults qid item => exact hs.reportResults he
  | solved => exact hs.modifyQuery _ fun y => ⟨rfl, rfl, id, fun _ => rfl, id⟩
  | dropped => cases he

/-- **Nothing an honest node meets makes a handler throw or assert.**  The assertion needs an origin
    without a query, the null pointer a timer without one, and the exceptions a payload that nobody
    here writes: one clause of `Sane` or `Welcome` for each. -/
theorem Sane.step_ok {h : Host C} {q : Queries C} {e : Event C} (hs : Sane h q)
    (he : Welcome h e) : ∃ q' out, step h q e = .ok (q', out) := by
  cases e with
  -- an honest message is read, and its query has no origin without being known
  | received r conn msgp =>
    simp only [step, received]
    split
    · cases he with
      | query rq uuid ht =>
        show ∃ q' out, (q.note _).handleQuery h conn _ = .ok (q', out)
        rw [handleQuery_eq, decodeQuery_queryMessage ht]
        simp only
        split
        · exact ⟨_, _, rfl⟩
        · rename_i hnew
          rw [Bool.not_eq_true, queryExists_eq_false] at hnew
          rw [if_neg (fun ho => (hs.note _).origins rq.id ho hnew)]
          exact ⟨_, _, rfl⟩
      | result qid it uuid hurl ht =>
        show ∃ q' out, (q.note _).handleQueryresult h r conn _ = .ok (q', out)
        rw [handleQueryresult_some (decodeResult_queryResultMessage ht uuid)]
        exact ⟨_, _, rfl⟩
    · exact ⟨_, _, rfl⟩
  | fwdSearch r i err =>
    simp only [step]
    split
    · exact ⟨_, _, rfl⟩
    · rename_i t ht
      obtain ⟨x, hx⟩ := Option.ne_none_iff_exists'.mp (hs.timers t (List.mem_of_getElem? ht)).1
      have hout : ∃ out, q.fwdSearch h r t err = .ok out := by
        -- a pending timer finds its query, so there is no null pointer
        unfold fwdSearch
        rw [hx]
        simp only
        repeat' split
        all_goals exact ⟨_, rfl⟩
      obtain ⟨out, hout⟩ := hout
      rw [hout]
      exact ⟨_, _, rfl⟩
  | startResolving r qid uuid =>
    simp only [step]
    repeat' split
    all_goals exact ⟨_, _, rfl⟩
  | callback r i uuid =>
    simp only [step]
    repeat' split
    all_goals exact ⟨_, _, rfl⟩
  | localQuery rq =>
    simp only [step]
    split <;> exact ⟨_, _, rfl⟩
  | reportResults qid item => exact ⟨_, _, rfl⟩
  | solve qid => exact ⟨_, _, rfl⟩
  | drop qid => cases he

omit [DecidableEq C] in
/-- What a step finishes is what it calls `fin` on.  Whether the connection then closes is up to
    libf2f, and comes as an event of its own. -/
theorem mem_finished {out : List (Action C)} {c : C} : c ∈ finished out ↔ .fin c ∈ out := by
  simp only [finished, List.mem_filterMap]
  constructor
  · rintro ⟨a, ha, hc⟩
    split at hc
    · obtain rfl := Option.some.inj hc
      exact ha
    · cases hc
  · intro hc
    exact ⟨_, hc, rfl⟩

/-- **It writes honest messages and closes no connection.**  So a node that has honest neighbours is
    an honest neighbour itself, which is what carries `Sane` through a network. -/
theorem honest_out {h : Host C} {q q' : Queries C} {e : Event C} {out : List (Action C)}
    (hs : Sane h q) (he : Welcome h e) (heff : Effect h q e q' out) :
    (∀ c msgp, .asyncWrite c msgp ∈ out → Honest h.js h.playdar msgp) ∧ finished out = [] := by
  have hbroadcast : ∀ (r : Router C) (msgp : Message) (ex : Option C),
      Honest h.js h.playdar msgp → (∀ c m, .asyncWrite c m ∈ h.lib.broadcastExcept r msgp ex →
        Honest h.js h.playdar m) ∧ finished (h.lib.broadcastExcept r msgp ex) = [] := by
    intro r msgp ex hh
    constructor
    · intro c m hin
      obtain ⟨d, -, -, -, heq⟩ := Libf2f.mem_broadcastExcept.mp hin
      obtain ⟨-, rfl⟩ := Action.asyncWrite.inj heq
      exact hh
    · rw [List.eq_nil_iff_forall_not_mem]
      intro c hc
      obtain ⟨d, -, -, -, heq⟩ := Libf2f.mem_broadcastExcept.mp (mem_finished.mp hc)
      cases heq
  have hnil : (∀ c msgp, Action.asyncWrite c msgp ∈ ([] : List (Action C)) →
      Honest h.js h.playdar msgp) ∧ finished ([] : List (Action C)) = [] :=
    ⟨fun _ _ hin => (by cases hin), rfl⟩
  cases heff with
  | idle => exact hnil
  | noted r conn msgp out hadm hquery hresult hout =>
    cases he with
    | query rq uuid ht =>
      rw [(hquery rfl rq (decodeQuery_queryMessage ht uuid)).2]
      exact hnil
    | result qid it uuid hurl ht =>
      -- an honest result can be read, so it is not discarded
      have hbad := hresult rfl
      rw [decodeResult_queryResultMessage ht] at hbad
      cases hbad
  | accepted => exact ⟨fun _ _ hin => (by simp at hin), rfl⟩
  | stopped r conn msgp hadm ht =>
    cases he with
    | query => cases ht
    | result => cases ht
  | reported => exact ⟨fun _ _ hin => (by simp at hin), rfl⟩
  | forwarded r i e t out ht hout =>
    -- a timer keeps the message that came, which was honest
    obtain ⟨-, rq, uuid, htr, hmsg, -⟩ := hs.timers t (List.mem_of_getElem? ht)
    rcases fwdSearch_ok hout with rfl | rfl
    · exact hnil
    · exact hbroadcast _ _ _ (hmsg ▸ .query rq uuid htr)
  | resolved r qid uuid x hx hun =>
    exact hbroadcast _ _ _ (.query x.rq uuid (hs.queries qid x hx).2.1)
  | answered r i uuid cb hcb hrel =>
    cases ho : getQueryOrigin { q with callbacks := q.callbacks.eraseIdx i } r cb.qid with
    | none =>
      rw [sendResponse_none uuid ho]
      exact hnil
    | some conn =>
      obtain ⟨-, it, hit, htr⟩ := hs.callbacks cb (List.mem_of_getElem? hcb)
      rw [sendResponse_some uuid ho hit]
      refine ⟨fun c m hin => ?_, rfl⟩
      obtain ⟨-, rfl⟩ := Action.asyncWrite.inj (List.mem_singleton.mp hin)
      exact .result cb.qid _ uuid (ResolvedItem.rmJsonValue_rmJsonValue it "url") htr
  | called => exact hnil
  | localQuery => exact ⟨fun _ _ hin => (by simp at hin), rfl⟩
  | reportResults => exact ⟨fun _ _ hin => (by simp at hin), rfl⟩
  | solved => exact hnil
  | dropped => exact hnil

/-! ## Taking on a query

  The one step in which a query becomes known, with its origin if it has one.  It is the step that
  the paths of a flood are made of: the origins recorded in it are the parents of a tree. -/

omit [DecidableEq C] in
/-- How often `qid` is handed to playdar among some actions.  It is counted, and not only asked
    whether, since a query must be handed over exactly once. -/
def dispatches (qid : Qid) (out : List (Action C)) : Nat :=
  out.countP fun
    | .dispatch k => decide (k = qid)
    | _ => false

/-- What a step has to do with `qid`: the node takes it on, or it stays as known as it was. -/
inductive Takes (h : Host C) (q : Queries C) (e : Event C) (q' : Queries C)
    (out : List (Action C)) (qid : Qid) : Prop
  | no (hq : q'.queries qid = none ↔ q.queries qid = none)
      (ho : q'.qidorigins qid = q.qidorigins qid) (hd : dispatches qid out = 0)
  /-- from a peer -/
  | received (r : Router C) (conn : C) (msgp : Message) (rq : ResolverQuery)
      (he : e = .received r conn msgp) (ht : msgp.type = .query)
      (hrq : decodeQuery h.js h.playdar msgp = some rq) (hid : rq.id = qid)
      (hnew : q.queries qid = none) (hq : q'.queries qid ≠ none)
      (ho : q'.qidorigins qid = some conn) (hd : dispatches qid out = 1)
  /-- of its own -/
  | started (rq : ResolverQuery) (he : e = .localQuery rq) (hid : rq.id = qid)
      (hnew : q.queries qid = none) (hq : q'.queries qid ≠ none)
      (ho : q'.qidorigins qid = q.qidorigins qid) (hd : dispatches qid out = 1)

/-- **A query is taken on once, and then known for good.**  `hkeep` is about this one event: playdar
    must not drop this query in it, whatever it does to others. -/
theorem takes_step {h : Host C} {q q' : Queries C} {e : Event C} {out : List (Action C)}
    (heff : Effect h q e q' out) (qid : Qid) (hkeep : e ≠ .drop qid) :
    Takes h q e q' out qid := by
  -- modifying and reporting neither make a query nor drop one
  have hmodify : ∀ (q₀ : Queries C) (k : Qid) (f : Query → Query),
      (q₀.modifyQuery k f).queries qid = none ↔ q₀.queries qid = none := by
    intro q₀ k f
    rw [modifyQuery_queries]
    by_cases hk : qid = k <;> simp [hk]
  have hreport : ∀ (q₀ : Queries C) (k : Qid) (item : ResolvedItem),
      (q₀.reportResults k item).queries qid = none ↔ q₀.queries qid = none := by
    intro q₀ k item
    cases hk : q₀.queries k with
    | none => rw [reportResults_none item hk]
    | some y =>
      rw [reportResults_some item hk]
      exact hmodify q₀ k _
  -- what is broadcast dispatches nothing here
  have hquiet : ∀ (r : Router C) (msgp : Message) (ex : Option C),
      dispatches qid (h.lib.broadcastExcept r msgp ex) = 0 := by
    intro r msgp ex
    rw [dispatches, List.countP_eq_zero]
    intro a ha
    obtain ⟨d, -, -, -, rfl⟩ := Libf2f.mem_broadcastExcept.mp ha
    simp
  cases heff with
  | idle => exact .no Iff.rfl rfl rfl
  | noted r conn msgp out hadm hquery hresult hout =>
    refine .no (by rw [note_queries]) (by rw [note_qidorigins]) ?_
    rcases hout with rfl | rfl <;> rfl
  -- the query of this step, or another one
  | accepted r conn msgp rq hadm ht hrq hnew horigin =>
    by_cases hid : rq.id = qid
    · subst hid
      exact .received r conn msgp rq rfl ht hrq rfl hnew (by simp [accept]) (by simp [accept])
        (by simp [dispatches])
    · refine .no ?_ ?_ (by simp [dispatches, hid])
      · simp [accept, Function.update_of_ne (Ne.symm hid)]
      · simp [accept, Function.update_of_ne (Ne.symm hid)]
  | stopped r conn msgp =>
    exact .no ((hmodify _ _ _).trans (by rw [note_queries])) (note_qidorigins q msgp ▸ rfl)
      (hquiet ..)
  | reported r conn msgp k rip url =>
    refine .no ((hreport _ _ _).trans (by rw [note_queries])) ?_ rfl
    rw [(reportResults_frame ..).1, note_qidorigins]
  | forwarded r i err t out ht hout =>
    refine .no Iff.rfl rfl ?_
    rcases fwdSearch_ok hout with rfl | rfl
    · rfl
    · exact hquiet ..
  | resolved r k uuid x hx hun => exact .no (hmodify _ _ _) rfl (hquiet ..)
  | answered r i uuid cb hcb hrel =>
    obtain ⟨hframe, hout⟩ := sendResponse_frame h { q with callbacks := q.callbacks.eraseIdx i } r
      cb.qid cb.item uuid
    refine .no (by rw [hframe]) (by rw [hframe]) ?_
    rcases hout with hout | ⟨conn, msgp, hout⟩
    · rw [hout]
      rfl
    · rw [hout]
      rfl
  | called => exact .no Iff.rfl rfl rfl
  | localQuery rq hnew =>
    by_cases hid : rq.id = qid
    · subst hid
      exact .started rq rfl rfl hnew (by simp [dispatch]) rfl (by simp [dispatches])
    · refine .no ?_ rfl (by simp [dispatches, hid])
      simp [dispatch, Function.update_of_ne (Ne.symm hid)]
  | reportResults k item => exact .no (hreport _ _ _) (by rw [(reportResults_frame ..).1]) rfl
  | solved k => exact .no (hmodify _ _ _) rfl rfl
  | dropped k =>
    have hk : qid ≠ k := fun he => hkeep (he ▸ rfl)
    exact .no (by simp only [Function.update_of_ne hk]) rfl rfl

omit [DecidableEq C] in
/-- What is unknown afterwards was unknown before: no step makes a node forget a query, as the one
    that could is excluded by `takes_step`. -/
theorem Takes.unknown {h : Host C} {q q' : Queries C} {e : Event C} {out : List (Action C)}
    {qid : Qid} (ht : Takes h q e q' out qid) (hnone : q'.queries qid = none) :
    q.queries qid = none := by
  cases ht with
  | no hsame => exact hsame.mp hnone
  | received _ _ _ _ _ _ _ _ hnew => exact hnew
  | started _ _ _ hnew => exact hnew

omit [DecidableEq C] in
/-- A recorded origin is never overwritten: only a query that is not there is taken on. -/
theorem Takes.origin {h : Host C} {q q' : Queries C} {e : Event C} {out : List (Action C)}
    {qid : Qid} (ht : Takes h q e q' out qid) (hs : Sane h q) {conn : C}
    (ho : q.qidorigins qid = some conn) : q'.qidorigins qid = some conn := by
  cases ht with
  | no _ hsame => exact hsame.trans ho
  | received _ _ _ _ _ _ _ _ hnew => exact absurd hnew (hs.origins qid (by rw [ho]; simp))
  | started _ _ _ _ _ hsame => exact hsame.trans ho

/-! ## How often a query goes out

  Each timer and each `start_resolving` to come is one sending, and there is never more than one of
  each.  The budget counts them, so what a node may still write is known in every state.  It is a
  measure and not a record: nothing in the tables says how often a query has gone out. -/

/-- The message is a QUERY for `qid`, read as a node that receives it would read it. -/
def asks (js : JsonSpirit) (pd : Playdar) (qid : Qid) (msgp : Message) : Bool :=
  decide (msgp.type = .query ∧ (decodeQuery js pd msgp).map ResolverQuery.id = some qid)

/-- The QUERY messages for `qid` among some actions, each connection counted on its own. -/
def sentQueries (js : JsonSpirit) (pd : Playdar) (qid : Qid) (out : List (Action C)) : Nat :=
  out.countP fun
    | .asyncWrite _ msgp => asks js pd qid msgp
    | _ => false

omit [DecidableEq C] in
/-- The sendings of `qid` still to come: two for a query nobody knows yet (`start_resolving` and
    one timer), else what is pending. -/
def budget (q : Queries C) (qid : Qid) : Nat :=
  match q.queries qid with
  | none => 2
  | some x => (q.timers.countP fun t => t.qid = qid) + if x.unresolved then 1 else 0

omit [DecidableEq C] in
/-- Whether an event is one of these sendings, as a number: the timer of this query, or the first
    `start_resolving` of it. -/
def fires (q : Queries C) (e : Event C) (qid : Qid) : Nat :=
  match e with
  | .fwdSearch _ i _ =>
    match q.timers[i]? with
    | some t => if t.qid = qid then 1 else 0
    | none => 0
  | .startResolving _ k _ =>
    match q.queries k with
    | some x => if k = qid ∧ x.unresolved = true then 1 else 0
    | none => 0
  | _ => 0

omit [DecidableEq C] in
/-- The router an event comes with, if it is one that can look at the connections. -/
def Event.router : Event C → Option (Router C)
  | .received r _ _ | .fwdSearch r _ _ | .startResolving r _ _ | .callback r _ _ => some r
  | _ => none

omit [DecidableEq C] in
/-- Of a query that playdar has, what is left are its timers and its `start_resolving`.  The two
    sendings it had while unknown are then these. -/
theorem budget_some {q : Queries C} {qid : Qid} {x : Query} (hx : q.queries qid = some x) :
    q.budget qid = (q.timers.countP fun t => t.qid = qid) + if x.unresolved then 1 else 0 := by
  unfold budget
  rw [hx]

omit [DecidableEq C] in
/-- It depends on nothing else, neither on the other queries nor on what has been seen. -/
theorem budget_congr {q q' : Queries C} {qid : Qid} (hq : q'.queries qid = q.queries qid)
    (ht : (q'.timers.countP fun t => t.qid = qid) = q.timers.countP fun t => t.qid = qid) :
    q'.budget qid = q.budget qid := by
  unfold budget
  rw [hq, ht]

omit [DecidableEq C] in
/-- What becomes of a query playdar has does not raise its budget: `Query.Later` lets `unresolved`
    go from true to false only. -/
theorem budget_modifyQuery (q : Queries C) (k qid : Qid) {f : Query → Query}
    (hf : ∀ y : Query, y.Later (f y)) : (q.modifyQuery k f).budget qid ≤ q.budget qid := by
  cases hx : q.queries qid with
  | none =>
    have hx' : (q.modifyQuery k f).queries qid = none := by
      rw [modifyQuery_queries, hx]
      simp
    unfold budget
    rw [hx, hx']
  | some x =>
    obtain ⟨x', hx', hlater⟩ := modifyQuery_later (k := k) hx hf
    rw [budget_some hx, budget_some hx']
    have hun : (if x'.unresolved then 1 else 0) ≤ if x.unresolved then 1 else 0 := by
      cases hu : x'.unresolved with
      | false => exact Nat.zero_le _
      | true => rw [hlater.unresolved hu]
    exact Nat.add_le_add_left hun _

omit [DecidableEq C] in
/-- Nor does a result for it, ... -/
theorem budget_reportResults (q : Queries C) (k qid : Qid) (item : ResolvedItem) :
    (q.reportResults k item).budget qid ≤ q.budget qid := by
  cases hk : q.queries k with
  | none => rw [reportResults_none item hk]
  | some y =>
    rw [reportResults_some item hk]
    exact budget_modifyQuery q k qid fun y => ⟨rfl, rfl, id, id, id⟩

omit [DecidableEq C] in
/-- ... and a guid has nothing to do with it. -/
theorem budget_note (q : Queries C) (msgp : Message) (qid : Qid) :
    (q.note msgp).budget qid = q.budget qid := by
  unfold note
  split <;> rfl

omit [DecidableEq C] in
/-- A query taken on comes with at most one timer and `start_resolving` to come.  That there was no
    timer for it before is the clause of `Sane` on timers: a timer has a query, and this one was
    new. -/
theorem budget_takeOn {h : Host C} {q q' : Queries C} (hs : Sane h q) {rq : ResolverQuery}
    {relayed : Bool} (hnew : q.queries rq.id = none)
    (hq : q'.queries = Function.update q.queries rq.id (some { rq, relayed }))
    (ht : ∃ ts : List (Timer C), q'.timers = q.timers ++ ts ∧ ts.length ≤ 1 ∧
      ∀ t ∈ ts, t.qid = rq.id) (qid : Qid) : q'.budget qid ≤ q.budget qid := by
  obtain ⟨ts, hts, hone, hqid⟩ := ht
  by_cases he : qid = rq.id
  · subst he
    have hx' : q'.queries rq.id = some { rq, relayed } := by rw [hq, Function.update_self]
    -- a timer has a query, and this query is new
    have hnone : (q.timers.countP fun t => t.qid = rq.id) = 0 := by
      rw [List.countP_eq_zero]
      intro t htm hid
      exact (hs.timers t htm).1 (of_decide_eq_true hid ▸ hnew)
    have hle := List.countP_le_length (p := fun t : Timer C => decide (t.qid = rq.id)) (l := ts)
    rw [budget_some hx', hts, List.countP_append, hnone]
    unfold budget
    rw [hnew]
    show 0 + ts.countP _ + 1 ≤ 2
    omega
  · refine Nat.le_of_eq (budget_congr ?_ ?_)
    · rw [hq, Function.update_of_ne he]
    · rw [hts, List.countP_append, Nat.add_eq_left, List.countP_eq_zero]
      intro t htm hid
      exact he ((of_decide_eq_true hid).symm.trans (hqid t htm))

omit [DecidableEq C] in
/-- Only a query playdar has goes out.  An unknown one has a budget of two and spends none of it. -/
theorem Sane.of_fires {h : Host C} {q : Queries C} (hs : Sane h q) {e : Event C} {qid : Qid}
    (hf : q.fires e qid ≠ 0) : q.queries qid ≠ none := by
  cases e with
  | fwdSearch r i err =>
    simp only [fires] at hf
    split at hf
    · rename_i t ht
      by_cases hid : t.qid = qid
      · rw [← hid]
        exact (hs.timers t (List.mem_of_getElem? ht)).1
      · exact absurd (if_neg hid) hf
    · exact absurd rfl hf
  | startResolving r k uuid =>
    simp only [fires] at hf
    split at hf
    · rename_i x hx
      by_cases hid : k = qid
      · rw [← hid, hx]
        simp
      · exact absurd (if_neg fun h => hid h.1) hf
    · exact absurd rfl hf
  | _ => exact absurd rfl hf

/-- **Each sending uses up the budget, and nothing raises it.**  As an inequality it can be summed
    over a run: what is left at the end and all that was fired together are at most the two at the
    start. -/
theorem budget_step {h : Host C} {q q' : Queries C} {e : Event C} {out : List (Action C)}
    (hs : Sane h q) (heff : Effect h q e q' out) (hkeep : ∀ k, e ≠ .drop k) (qid : Qid) :
    q'.budget qid + q.fires e qid ≤ q.budget qid := by
  cases heff with
  | idle e hb =>
    -- an event that cannot happen fires nothing
    have hzero : q.fires e qid = 0 := by
      cases e with
      | fwdSearch r i err =>
        have hnone : q.timers[i]? = none := hb
        simp only [fires, hnone]
      | startResolving r k uuid =>
        cases hk : q.queries k with
        | none => simp only [fires, hk]
        | some x => simp [fires, hk, hb x hk]
      | _ => rfl
    rw [hzero, Nat.add_zero]
  | noted r conn msgp => exact Nat.le_of_eq (budget_note q msgp qid)
  | accepted r conn msgp rq hadm ht hrq hnew =>
    have h : ((q.note msgp).accept conn msgp rq).budget qid ≤ (q.note msgp).budget qid :=
      budget_takeOn (hs.note msgp) (by rw [note_queries]; exact hnew) rfl
        ⟨_, rfl, Nat.le_refl _, by simp⟩ qid
    rw [budget_note] at h
    exact h
  | stopped r conn msgp =>
    have h := budget_modifyQuery (q.note msgp) msgp.guid qid (f := fun x =>
      { x with stopped := true }) fun y => ⟨rfl, rfl, fun _ => rfl, id, id⟩
    rw [budget_note] at h
    exact h
  | reported r conn msgp k rip url =>
    have h := budget_reportResults (q.note msgp) k qid (rip.setUrl url)
    rw [budget_note] at h
    exact h
  | forwarded r i e t out ht hout =>
    -- a timer is pending only for a query that exists, so it is in the budget
    obtain ⟨hex, -⟩ := hs.timers t (List.mem_of_getElem? ht)
    have hcount := Tally.countP_eraseIdx ht fun t => decide (t.qid = qid)
    have hfires : q.fires (.fwdSearch r i e) qid = if t.qid = qid then 1 else 0 := by
      simp only [fires, ht]
    simp only [decide_eq_true_eq] at hcount
    rw [hfires]
    cases hx : q.queries qid with
    | none =>
      have hne : t.qid ≠ qid := by
        rintro rfl
        exact hex hx
      rw [if_neg hne]
      unfold budget
      rw [hx]
    | some x =>
      rw [budget_some hx, budget_some (q := { q with timers := q.timers.eraseIdx i }) hx]
      show (q.timers.eraseIdx i).countP _ + _ + _ ≤ _
      omega
  | resolved r k uuid x hx hun =>
    by_cases he : k = qid
    · -- resolving is paid for by the flag it clears
      subst he
      have hfires : q.fires (.startResolving r k uuid) k = 1 := by simp [fires, hx, hun]
      have hx' : (q.modifyQuery k fun y => { y with unresolved := false }).queries k =
          some { x with unresolved := false } := by
        rw [modifyQuery_queries, if_pos rfl, hx, Option.map_some]
      rw [hfires, budget_some hx, budget_some hx', hun]
      exact Nat.le_refl _
    · have hfires : q.fires (.startResolving r k uuid) qid = 0 := by simp [fires, hx, he]
      rw [hfires]
      exact budget_modifyQuery q k qid fun y => ⟨rfl, rfl, id, id, fun hy => (by cases hy)⟩
  | answered r i uuid cb hcb hrel =>
    rw [(sendResponse_frame ..).1]
    exact Nat.le_refl _
  | called => exact Nat.le_refl _
  | localQuery rq hnew =>
    have h : (q.dispatch rq false).budget qid ≤ q.budget qid :=
      budget_takeOn hs hnew rfl ⟨[], by simp [dispatch], by simp, by simp⟩ qid
    exact h
  | reportResults k item => exact budget_reportResults q k qid item
  | solved k => exact budget_modifyQuery q k qid fun y => ⟨rfl, rfl, id, fun _ => rfl, id⟩
  | dropped k => exact absurd rfl (hkeep k)

/-- The QUERY of our own is one for its query, and for no other.  This needs the codec, since `asks`
    reads the message. -/
theorem asks_queryMessage {js : JsonSpirit} {pd : Playdar} {rq : ResolverQuery}
    (ht : rq.Travels js pd) (qid : Qid) (uuid : String) :
    asks js pd qid (queryMessage js rq uuid) = decide (rq.id = qid) := by
  rw [asks, decodeQuery_queryMessage ht]
  simp [queryMessage]

/-- A broadcast of it is one message for each connection that is told. -/
theorem sentQueries_broadcast (h : Host C) (r : Router C) (msgp : Message) (ex : Option C)
    (qid : Qid) : sentQueries h.js h.playdar qid (h.lib.broadcastExcept r msgp ex) ≤
      if asks h.js h.playdar qid msgp then (h.lib.foreachConns r).length else 0 := by
  rw [sentQueries, Libf2f.broadcastExcept, List.countP_map]
  cases ha : asks h.js h.playdar qid msgp with
  | false =>
    rw [List.countP_eq_zero.mpr]
    · exact Nat.zero_le _
    · intro c _
      simp [ha]
  | true => exact List.countP_le_length.trans (List.length_filter_le _ _)

/-- **A node writes the query only when it fires**, and then once on each connection.  Only two
    effects broadcast a QUERY, and those are the two that `fires` counts; a timer's message is one
    for the query of the timer because the tables are sane. -/
theorem sentQueries_le {h : Host C} {q q' : Queries C} {e : Event C} {out : List (Action C)}
    (hs : Sane h q) (he : Welcome h e) (heff : Effect h q e q' out) {k : Nat}
    (hk : ∀ r, e.router = some r → (h.lib.foreachConns r).length ≤ k) (qid : Qid) :
    sentQueries h.js h.playdar qid out ≤ q.fires e qid * k := by
  -- no message is written in most cases
  have hquiet : ∀ out : List (Action C), (∀ c msgp, .asyncWrite c msgp ∉ out) →
      sentQueries h.js h.playdar qid out ≤ q.fires e qid * k := by
    intro out hout
    rw [sentQueries, List.countP_eq_zero.mpr]
    · exact Nat.zero_le _
    · intro a ha
      cases a with
      | asyncWrite c msgp => exact absurd ha (hout c msgp)
      | _ => simp
  -- a broadcast asks each open connection once, and is paid for by what fires
  have hbroadcast : ∀ (r : Router C) (rq : ResolverQuery) (uuid : String) (ex : Option C),
      e.router = some r → rq.Travels h.js h.playdar → (rq.id = qid → q.fires e qid = 1) →
      sentQueries h.js h.playdar qid (h.lib.broadcastExcept r (queryMessage h.js rq uuid) ex) ≤
        q.fires e qid * k := by
    intro r rq uuid ex hr ht hone
    refine (sentQueries_broadcast h r _ ex qid).trans ?_
    rw [asks_queryMessage ht]
    by_cases hid : rq.id = qid
    · rw [hone hid, Nat.one_mul, if_pos (decide_eq_true hid)]
      exact hk r hr
    · rw [if_neg (by simpa using hid)]
      exact Nat.zero_le _
  cases heff with
  | idle => exact hquiet _ (by simp)
  | noted r conn msgp out hadm hquery hresult hout =>
    refine hquiet _ fun c m hin => ?_
    rcases hout with rfl | rfl <;> simp at hin
  | accepted => exact hquiet _ (by simp)
  | stopped r conn msgp hadm ht =>
    cases he with
    | query => cases ht
    | result => cases ht
  | reported => exact hquiet _ (by simp)
  | forwarded r i err t out ht hout =>
    obtain ⟨-, rq, uuid, htr, hmsg, hid⟩ := hs.timers t (List.mem_of_getElem? ht)
    have hone : rq.id = qid → q.fires (.fwdSearch r i err) qid = 1 := fun heq => by
      simp [fires, ht, hid, heq]
    rcases fwdSearch_ok hout with rfl | rfl
    · exact hquiet _ (by simp)
    · rw [hmsg]
      exact hbroadcast r rq uuid _ rfl htr hone
  | resolved r j uuid x hx hun =>
    obtain ⟨hid, htr, -⟩ := hs.queries j x hx
    refine hbroadcast r x.rq uuid _ rfl htr fun heq => ?_
    simp [fires, hx, hun, ← heq, hid]
  | answered r i uuid cb hcb hrel =>
    cases ho : getQueryOrigin { q with callbacks := q.callbacks.eraseIdx i } r cb.qid with
    | none =>
      rw [sendResponse_none uuid ho]
      exact hquiet _ (by simp)
    | some conn =>
      obtain ⟨-, it, hit, -⟩ := hs.callbacks cb (List.mem_of_getElem? hcb)
      rw [sendResponse_some uuid ho hit]
      simp [sentQueries, asks, queryResultMessage]
  | called => exact hquiet _ (by simp)
  | localQuery => exact hquiet _ (by simp)
  | reportResults => exact hquiet _ (by simp)
  | solved => exact hquiet _ (by simp)
  | dropped => exact hquiet _ (by simp)

end Queries

end Greynet
