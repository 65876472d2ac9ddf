/-
  Results on their way through a node.

  A result that is reported waits for playdar to make the callback for it, and is then written to
  the origin of its query.  So what a node has yet to pass on is what has been reported and not been
  written; this is one node's share of the conservation law in `Greynet.Replies`.

  1. `pendingResults` — the results a node has yet to pass on: what is reported goes in, what is
     written to the query's origin comes out.  Results are told apart by their fields without the
     url, which every hop rewrites.
  2. Where a report comes from (`reportsMade_received`, `of_reportsMade`), and which guids a node
     puts on what it writes (`written_guid`).

  Everything here is counted and not only asked whether it is there.  The same song may well be
  found twice for one query, on two machines, and then the one who asked is to get two results; a
  lemma about membership would hold of a node that drops one of them.
-/
import Greynet.Relay

namespace Greynet

variable {C : Type} [DecidableEq C]

namespace Queries

/-! ## Pending results

  A number for each query and each result.  The lemmas say how it changes, one for each thing that
  can happen to the callbacks. -/

omit [DecidableEq C] in
/-- The callbacks due for results of `qid` that are `x` without their url.  The item of a callback
    is looked up in the heap: it is the object as it is now, not as it was when it was reported. -/
def pendingResults (q : Queries C) (qid : Qid) (x : ResolvedItem) : Nat :=
  q.callbacks.countP fun cb =>
    cb.qid = qid ∧ (q.items[cb.item]?).map (fun it => it.rmJsonValue "url") = some x

/-- The message is a QUERYRESULT for `qid` with the result `x`, read as the node that gets it reads
    it.  The url is taken off here too, although an honest message has none. -/
def carries (js : JsonSpirit) (pd : Playdar) (qid : Qid) (x : ResolvedItem) (msgp : Message) :
    Bool :=
  decide (msgp.type = .queryresult ∧
    (decodeResult js pd msgp).map (fun p => (p.1, p.2.rmJsonValue "url")) = some (qid, x))

/-- The results `x` for `qid` written to `conn` among some actions.  A step writes one at most, but
    that is for the law to say and not for the count. -/
def sentResults (js : JsonSpirit) (pd : Playdar) (qid : Qid) (x : ResolvedItem) (conn : C)
    (out : List (Action C)) : Nat :=
  out.countP fun
    | .asyncWrite c msgp => decide (c = conn) && carries js pd qid x msgp
    | _ => false

omit [DecidableEq C] in
/-- The reports to playdar of a result `x` for `qid` among some actions, from whatever source: a
    peer's results and those of this playdar's own resolvers are reported alike. -/
def reportsMade (qid : Qid) (x : ResolvedItem) (out : List (Action C)) : Nat :=
  out.countP fun
    | .reportResults k item => decide (k = qid ∧ item.rmJsonValue "url" = x)
    | _ => false

/-- A result that travels is carried by its own message, under its own query, and by no other. -/
theorem carries_queryResultMessage {js : JsonSpirit} {pd : Playdar} {k : Qid} {it : ResolvedItem}
    (ht : it.Travels js pd k) (hurl : it.rmJsonValue "url" = it) (uuid : String) (qid : Qid)
    (x : ResolvedItem) :
    carries js pd qid x (queryResultMessage js k it uuid) = decide (k = qid ∧ it = x) := by
  rw [carries, decodeResult_queryResultMessage ht]
  simp [queryResultMessage, hurl]

/-- A query carries none: it is of another type. -/
theorem carries_queryMessage (js : JsonSpirit) (pd : Playdar) (rq : ResolverQuery) (uuid : String)
    (qid : Qid) (x : ResolvedItem) : carries js pd qid x (queryMessage js rq uuid) = false := by
  simp [carries, queryMessage]

omit [DecidableEq C] in
/-- A node has nothing to pass on for a query it does not have, since a callback has its query. -/
theorem Sane.pendingResults_eq_zero {h : Host C} {q : Queries C} (hs : Sane h q) {qid : Qid}
    (hq : q.queries qid = none) (x : ResolvedItem) : q.pendingResults qid x = 0 := by
  rw [pendingResults, List.countP_eq_zero]
  intro cb hcb hmatch
  obtain ⟨⟨y, hy, -⟩, -⟩ := hs.callbacks cb hcb
  obtain ⟨rfl, -⟩ := of_decide_eq_true hmatch
  rw [hq] at hy
  cases hy

omit [DecidableEq C] in
/-- New items do not change what is pending.  A callback names a place that is filled already, and
    the heap only grows at its end. -/
theorem Sane.pendingResults_congr {h : Host C} {q q' : Queries C} (hs : Sane h q)
    (hcb : q'.callbacks = q.callbacks) (hi : ∃ new, q'.items = q.items ++ new) (qid : Qid)
    (x : ResolvedItem) : q'.pendingResults qid x = q.pendingResults qid x := by
  obtain ⟨new, hnew⟩ := hi
  rw [pendingResults, pendingResults, hcb]
  refine List.countP_congr fun cb hin => ?_
  obtain ⟨-, it, hit, -⟩ := hs.callbacks cb hin
  rw [hnew, getElem?_append hit, hit]

omit [DecidableEq C] in
/-- A guid has nothing to do with it. -/
theorem pendingResults_note (q : Queries C) (msgp : Message) (qid : Qid) (x : ResolvedItem) :
    (q.note msgp).pendingResults qid x = q.pendingResults qid x := by
  unfold note
  split <;> rfl

omit [DecidableEq C] in
/-- A report adds one pending result, if playdar has the query.  The new callback names the new
    item; the old ones name what they named before. -/
theorem Sane.pendingResults_report {h : Host C} {q : Queries C} (hs : Sane h q) {qid : Qid}
    (hex : q.queries qid ≠ none) (k : Qid) (item x : ResolvedItem) :
    (q.reportResults k item).pendingResults qid x =
      q.pendingResults qid x + reportsMade qid x [(.reportResults k item : Action C)] := by
  have hmade : reportsMade qid x [(.reportResults k item : Action C)] =
      if k = qid ∧ item.rmJsonValue "url" = x then 1 else 0 := by
    simp [reportsMade, List.countP_cons]
  rw [hmade]
  cases hk : q.queries k with
  | none =>
    have hne : k ≠ qid := by
      rintro rfl
      exact hex hk
    rw [reportResults_none item hk, if_neg (fun h => hne h.1), Nat.add_zero]
  | some y =>
    rw [reportResults_some item hk]
    show List.countP _ (q.callbacks ++ [_]) = _
    rw [List.countP_append, List.countP_singleton]
    refine congrArg₂ (· + ·) ?_ ?_
    · refine List.countP_congr fun cb hin => ?_
      obtain ⟨-, it, hit, -⟩ := hs.callbacks cb hin
      rw [getElem?_append hit, hit]
    · simp

omit [DecidableEq C] in
/-- A callback made is no longer pending.  The heap may have grown in the same step, by the copy
    that `send_response` makes. -/
theorem Sane.pendingResults_take {h : Host C} {q : Queries C} (hs : Sane h q) {i : Nat}
    {cb : Callback} {it : ResolvedItem} (hcb : q.callbacks[i]? = some cb)
    (hit : q.items[cb.item]? = some it) (new : List ResolvedItem) (qid : Qid) (x : ResolvedItem) :
    pendingResults { q with callbacks := q.callbacks.eraseIdx i, items := q.items ++ new } qid x +
        (if cb.qid = qid ∧ it.rmJsonValue "url" = x then 1 else 0) =
      q.pendingResults qid x := by
  have hless : Sane h { q with callbacks := q.callbacks.eraseIdx i } :=
    hs.less rfl rfl (fun _ ht => ht) (fun _ hcb => List.mem_of_mem_eraseIdx hcb) ⟨[], by simp⟩
  have hcount := Tally.countP_eraseIdx hcb fun cb => decide
    (cb.qid = qid ∧ (q.items[cb.item]?).map (fun it => it.rmJsonValue "url") = some x)
  simp only [hit, Option.map_some, Option.some.injEq, decide_eq_true_eq] at hcount
  have hsame : pendingResults { q with
        callbacks := q.callbacks.eraseIdx i, items := q.items ++ new } qid x =
      pendingResults { q with callbacks := q.callbacks.eraseIdx i } qid x := by
    apply hless.pendingResults_congr
    · rfl
    · exact ⟨new, rfl⟩
  rw [hsame]
  exact hcount

/-- A callback of `send_response`, made while the origin is alive: it is passed on.  If there is no
    origin to be found the callback was for another query, as this one has a living one. -/
theorem pendingResults_answered {h : Host C} {q q' : Queries C} {out : List (Action C)}
    (hs : Sane h q) {r : Router C} {i : Nat} {cb : Callback} {uuid : String} {qid : Qid} {conn : C}
    (hcb : q.callbacks[i]? = some cb) (ho : q.qidorigins qid = some conn)
    (hlive : conn ∉ r.expired)
    (hok : sendResponse h { q with callbacks := q.callbacks.eraseIdx i } r cb.qid cb.item uuid =
      (q', out)) (x : ResolvedItem) :
    q'.pendingResults qid x + sentResults h.js h.playdar qid x conn out =
      q.pendingResults qid x + reportsMade qid x out := by
  obtain ⟨-, it, hit, htr⟩ := hs.callbacks cb (List.mem_of_getElem? hcb)
  have hstrip := ResolvedItem.rmJsonValue_rmJsonValue it "url"
  cases hother : getQueryOrigin { q with callbacks := q.callbacks.eraseIdx i } r cb.qid with
  | none =>
    -- the origin of `qid` can be reached, so this callback was for some other query
    have hne : cb.qid ≠ qid := by
      rintro rfl
      simp only [getQueryOrigin, ho, Router.lock, if_neg hlive] at hother
      cases hother
    rw [sendResponse_none uuid hother] at hok
    obtain ⟨rfl, rfl⟩ := Prod.mk.inj hok
    have htake := hs.pendingResults_take hcb hit [] qid x
    rw [if_neg (fun h => hne h.1), List.append_nil] at htake
    exact congrArg (· + 0) htake
  | some c =>
    rw [sendResponse_some uuid hother hit] at hok
    obtain ⟨rfl, rfl⟩ := Prod.mk.inj hok
    -- a callback of the query itself writes to the origin of the query
    have hc : cb.qid = qid → c = conn := by
      rintro rfl
      simp only [getQueryOrigin, ho, Router.lock, if_neg hlive] at hother
      exact (Option.some.inj hother).symm
    have hsent : sentResults h.js h.playdar qid x conn [.asyncWrite c
        (queryResultMessage h.js cb.qid (it.rmJsonValue "url") uuid)] =
          if cb.qid = qid ∧ it.rmJsonValue "url" = x then 1 else 0 := by
      simp only [sentResults, List.countP_singleton, carries_queryResultMessage htr hstrip]
      by_cases hq : cb.qid = qid
      · simp [hq, hc hq]
      · simp [hq]
    rw [hsent]
    exact hs.pendingResults_take hcb hit [it.rmJsonValue "url"] qid x

/-- **What a node passes on**: what is reported for a query from a peer is written, once, to the
    connection the query came from.  Three effects have a share in it.  A report, from a peer or
    from here, adds to both sides; a callback moves one result from the pending ones to the written
    ones.  All others leave the four numbers alone. -/
theorem pendingResults_step {h : Host C} {q q' : Queries C} {e : Event C} {out : List (Action C)}
    (hs : Sane h q) (he : Welcome h e) (heff : Effect h q e q' out) {qid : Qid} {conn : C}
    (ho : q.qidorigins qid = some conn) (hlive : ∀ r, e.router = some r → conn ∉ r.expired)
    (x : ResolvedItem) :
    q'.pendingResults qid x + sentResults h.js h.playdar qid x conn out =
      q.pendingResults qid x + reportsMade qid x out := by
  have hex : q.queries qid ≠ none := hs.origins qid (by rw [ho]; simp)
  have hnone : ∀ out : List (Action C), (∀ c msgp, .asyncWrite c msgp ∈ out →
      carries h.js h.playdar qid x msgp = false) → (∀ k item, .reportResults k item ∉ out) →
      q'.pendingResults qid x = q.pendingResults qid x →
      q'.pendingResults qid x + sentResults h.js h.playdar qid x conn out =
        q.pendingResults qid x + reportsMade qid x out := by
    intro out hw hr heq
    rw [heq, sentResults, reportsMade, List.countP_eq_zero.mpr, List.countP_eq_zero.mpr]
    · intro a ha
      cases a with
      | reportResults k item => exact absurd ha (hr k item)
      | _ => simp
    · intro a ha
      cases a with
      | asyncWrite c msgp => simp [hw c msgp ha]
      | _ => simp
  have hbroadcast : ∀ (r : Router C) (rq : ResolverQuery) (uuid : String) (ex : Option C),
      q'.pendingResults qid x = q.pendingResults qid x →
      q'.pendingResults qid x + sentResults h.js h.playdar qid x conn
          (h.lib.broadcastExcept r (queryMessage h.js rq uuid) ex) =
        q.pendingResults qid x +
          reportsMade qid x (h.lib.broadcastExcept r (queryMessage h.js rq uuid) ex) := by
    intro r rq uuid ex heq
    refine hnone _ (fun c msgp hin => ?_) (fun k item hin => ?_) heq
    · obtain ⟨d, -, -, -, hd⟩ := Libf2f.mem_broadcastExcept.mp hin
      obtain ⟨-, rfl⟩ := Action.asyncWrite.inj hd
      exact carries_queryMessage ..
    · obtain ⟨d, -, -, -, hd⟩ := Libf2f.mem_broadcastExcept.mp hin
      cases hd
  cases heff with
  | idle => exact hnone _ (by simp) (by simp) rfl
  | noted r c msgp out hadm hquery hresult hout =>
    refine hnone _ ?_ ?_ (pendingResults_note ..) <;> rcases hout with rfl | rfl <;> simp
  | accepted r c msgp rq =>
    exact hnone _ (by simp) (by simp) ((pendingResults_note q msgp qid x) ▸ rfl)
  | stopped r c msgp hadm ht =>
    cases he with
    | query => cases ht
    | result => cases ht
  -- one report more, and one callback more
  | reported r c msgp k rip url hadm ht hd =>
    rw [(hs.note msgp).pendingResults_report (by rwa [note_queries]), pendingResults_note]
    simp [sentResults]
  | forwarded r i err t out ht hout =>
    obtain ⟨-, rq, uuid, htr, hmsg, hid⟩ := hs.timers t (List.mem_of_getElem? ht)
    rcases fwdSearch_ok hout with rfl | rfl
    · exact hnone _ (by simp) (by simp) rfl
    · rw [hmsg]
      exact hbroadcast _ _ _ _ rfl
  | resolved r j uuid y hy hun => exact hbroadcast _ _ _ _ rfl
  -- one callback less, and one message more
  | answered r i uuid cb hcb hrel =>
    exact pendingResults_answered hs hcb ho (hlive r rfl) rfl x
  | called r i uuid cb hcb hrel =>
    -- the callback of a query with an origin is `send_response`, so this is another query's
    obtain ⟨⟨y, hy, hyrel⟩, it, hit, -⟩ := hs.callbacks cb (List.mem_of_getElem? hcb)
    have hne : cb.qid ≠ qid := by
      rintro rfl
      obtain ⟨-, -, hiff⟩ := hs.queries _ _ hy
      rw [hyrel, hrel] at hiff
      exact absurd (hiff.mpr (by rw [ho]; simp)) (by simp)
    have htake := hs.pendingResults_take hcb hit [] qid x
    rw [if_neg (fun h => hne h.1), List.append_nil] at htake
    exact hnone _ (by simp) (by simp) htake
  | localQuery => exact hnone _ (by simp) (by simp) rfl
  | reportResults k item =>
    rw [hs.pendingResults_report hex]
    simp [sentResults]
  | solved => exact hnone _ (by simp) (by simp) rfl
  | dropped => cases he

/-- Results for a query go to its origin only.  With no origin recorded this says that nothing is
    written at all. -/
theorem sentResults_other {h : Host C} {q q' : Queries C} {e : Event C} {out : List (Action C)}
    (hs : Sane h q) (he : Welcome h e) (heff : Effect h q e q' out) {qid : Qid} {conn : C}
    (ho : q.qidorigins qid ≠ some conn) (x : ResolvedItem) :
    sentResults h.js h.playdar qid x conn out = 0 := by
  rw [sentResults, List.countP_eq_zero]
  intro a ha hmatch
  cases a with
  | asyncWrite c msgp =>
    obtain ⟨hc, hcarries⟩ := Bool.and_eq_true_iff.mp hmatch
    obtain rfl := of_decide_eq_true hc
    -- a broadcast is of queries, and no query counts as a result
    have hquery : ∀ (r : Router C) (rq : ResolverQuery) (uuid : String) (ex : Option C),
        .asyncWrite c msgp ∉ h.lib.broadcastExcept r (queryMessage h.js rq uuid) ex := by
      intro r rq uuid ex hin
      obtain ⟨d, -, -, -, hd⟩ := Libf2f.mem_broadcastExcept.mp hin
      obtain ⟨-, rfl⟩ := Action.asyncWrite.inj hd
      rw [carries_queryMessage] at hcarries
      cases hcarries
    cases heff with
    | noted r c' msgp' out hadm hq hr hout => rcases hout with rfl | rfl <;> simp at ha
    | stopped r c' msgp' hadm ht =>
      cases he with
      | query => cases ht
      | result => cases ht
    | forwarded r i err t out ht hout =>
      obtain ⟨-, rq, uuid, htr, hmsg, hid⟩ := hs.timers t (List.mem_of_getElem? ht)
      rcases fwdSearch_ok hout with rfl | rfl
      · cases ha
      · rw [hmsg] at ha
        exact hquery _ _ _ _ ha
    | resolved r j uuid y hy hun => exact hquery _ _ _ _ ha
    | answered r i uuid cb hcb hrel =>
      obtain ⟨-, it, hit, htr⟩ := hs.callbacks cb (List.mem_of_getElem? hcb)
      cases hother : getQueryOrigin { q with callbacks := q.callbacks.eraseIdx i } r cb.qid with
      | none =>
        rw [sendResponse_none uuid hother] at ha
        cases ha
      | some c' =>
        rw [sendResponse_some uuid hother hit] at ha
        obtain ⟨rfl, rfl⟩ := Action.asyncWrite.inj (List.mem_singleton.mp ha)
        rw [carries_queryResultMessage htr (ResolvedItem.rmJsonValue_rmJsonValue it "url")]
          at hcarries
        -- the result is for `qid`, so it was written to the origin of `qid`
        obtain ⟨rfl, -⟩ := of_decide_eq_true hcarries
        apply ho
        unfold getQueryOrigin at hother
        cases hor : q.qidorigins cb.qid with
        | none => simp [hor] at hother
        | some d =>
          simp only [hor, Router.lock] at hother
          split at hother
          · cases hother
          · exact hother
    | _ => simp at ha
  | _ => cases hmatch

/-- A query that has just been taken on has nothing pending yet: there was no query before, so there
    was no callback, and taking it on makes none. -/
theorem Sane.pendingResults_taken {h : Host C} {q q' : Queries C} (hs : Sane h q) {r : Router C}
    {conn : C} {msgp : Message} {out : List (Action C)}
    (heff : Effect h q (.received r conn msgp) q' out) (ht : msgp.type = .query) {qid : Qid}
    (hnew : q.queries qid = none) (x : ResolvedItem) : q'.pendingResults qid x = 0 := by
  have hnote : (q.note msgp).pendingResults qid x = 0 := by
    rw [pendingResults_note, hs.pendingResults_eq_zero hnew]
  cases heff with
  | idle => exact hs.pendingResults_eq_zero hnew x
  | noted => exact hnote
  | accepted => exact hnote
  | stopped _ _ _ _ ht' =>
    rw [ht] at ht'
    cases ht'
  | reported _ _ _ _ _ _ _ ht' =>
    rw [ht] at ht'
    cases ht'

/-! ## Where reports and messages come from

  The other side of the law: what comes in is reported once, and nothing is reported that has not
  come in or been found.  The duplicate filter enters here, as a message that it keeps out is not
  reported; so its guid has to be one that was never seen. -/

/-- A broadcast reports nothing: it is made of messages only. -/
theorem reportsMade_broadcast (h : Host C) (r : Router C) (msgp : Message) (ex : Option C)
    (qid : Qid) (x : ResolvedItem) :
    reportsMade qid x (h.lib.broadcastExcept r msgp ex) = 0 := by
  rw [reportsMade, List.countP_eq_zero]
  intro a ha
  obtain ⟨d, -, -, -, rfl⟩ := Libf2f.mem_broadcastExcept.mp ha
  simp

/-- **An honest message that gets past the filter is reported if it is a result**, and only then.
    The two honest messages are taken in turn; for each, most effects are excluded by the type. -/
theorem reportsMade_received {h : Host C} {q q' : Queries C} {r : Router C} {conn : C}
    {msgp : Message} {out : List (Action C)} (hh : Honest h.js h.playdar msgp)
    (heff : Effect h q (.received r conn msgp) q' out)
    (hadm : msgp.type = .queryresult → q.admits msgp = true) (qid : Qid) (x : ResolvedItem) :
    reportsMade qid x out = if carries h.js h.playdar qid x msgp then 1 else 0 := by
  cases hh with
  | query rq uuid ht =>
    rw [carries_queryMessage, if_neg (by simp)]
    cases heff with
    | noted _ _ _ out _ _ _ hout => rcases hout with rfl | rfl <;> rfl
    | stopped => exact reportsMade_broadcast ..
    | reported _ _ _ k rip url _ ht' => cases ht'
    | _ => rfl
  | result k it uuid hurl ht =>
    rw [carries_queryResultMessage ht hurl]
    have hd := decodeResult_queryResultMessage ht uuid
    cases heff with
    -- the filter has let it through, so it was not ignored
    | idle _ hb =>
      have hblocked : q.admits (queryResultMessage h.js k it uuid) = false := hb
      rw [hadm rfl] at hblocked
      cases hblocked
    | noted _ _ _ out _ _ hresult =>
      rw [hresult rfl] at hd
      cases hd
    | accepted _ _ _ _ _ ht' => cases ht'
    | stopped _ _ _ _ ht' => cases ht'
    | reported _ _ _ k' rip url _ _ hd' =>
      rw [hd] at hd'
      obtain ⟨rfl, rfl⟩ := Prod.mk.inj (Option.some.inj hd')
      simp [reportsMade, List.countP_cons, ResolvedItem.setUrl, ResolvedItem.rmJsonValue_set, hurl]

/-- A report is of a result that came in, or of one that was found here.  In the first case the
    message is one that carries it, so the two can be counted against each other. -/
theorem of_reportsMade {h : Host C} {q q' : Queries C} {e : Event C} {out : List (Action C)}
    (he : Welcome h e) (heff : Effect h q e q' out) {qid : Qid} {x : ResolvedItem}
    (hmade : reportsMade qid x out ≠ 0) :
    (∃ r conn msgp, e = .received r conn msgp ∧ carries h.js h.playdar qid x msgp = true) ∨
    ∃ item, e = .reportResults qid item := by
  cases heff with
  | noted _ _ _ out _ _ _ hout => rcases hout with rfl | rfl <;> exact absurd rfl hmade
  | stopped => exact absurd (reportsMade_broadcast ..) hmade
  | reported r conn msgp k rip url hadm ht hd =>
    refine Or.inl ⟨r, conn, msgp, rfl, ?_⟩
    rw [reportsMade_received he (.reported r conn msgp k rip url hadm ht hd) fun _ => hadm] at hmade
    by_contra hno
    exact hmade (if_neg hno)
  | forwarded r i err t out ht hout =>
    rcases fwdSearch_ok hout with rfl | rfl
    · exact absurd rfl hmade
    · exact absurd (reportsMade_broadcast ..) hmade
  | resolved => exact absurd (reportsMade_broadcast ..) hmade
  | answered r i uuid cb =>
    -- `send_response` writes to a peer and reports nothing here
    rcases (sendResponse_frame h { q with callbacks := q.callbacks.eraseIdx i } r cb.qid cb.item
      uuid).2 with hout | ⟨conn, msgp, hout⟩
    · rw [hout] at hmade
      exact absurd rfl hmade
    · rw [hout] at hmade
      exact absurd rfl hmade
  | reportResults k item =>
    refine Or.inr ⟨item, ?_⟩
    by_cases hk : k = qid
    · rw [hk]
    · simp [reportsMade, hk] at hmade
  | _ => exact absurd rfl hmade

/-- **What a node writes has a guid of its own**, except for a query passed on by its timer.  A guid
    of its own is the `uuid` of the event, which is what `gen_uuid` returned. -/
theorem written_guid {h : Host C} {q q' : Queries C} {e : Event C} {out : List (Action C)}
    (hs : Sane h q) (he : Welcome h e) (heff : Effect h q e q' out) {c : C}
    {msgp : Message} (hin : .asyncWrite c msgp ∈ out) :
    (msgp.type = .query ∧
      ((∃ t ∈ q.timers, t.msgp = msgp) ∨ ∃ r k, e = .startResolving r k msgp.guid)) ∨
    (msgp.type = .queryresult ∧ (∃ r i, e = .callback r i msgp.guid) ∧
      out = [.asyncWrite c msgp]) := by
  -- all that a broadcast writes is the one message it was given
  have hbroadcast : ∀ (r : Router C) (m : Message) (ex : Option C),
      .asyncWrite c msgp ∈ h.lib.broadcastExcept r m ex → msgp = m := by
    intro r m ex hin
    obtain ⟨d, -, -, -, hd⟩ := Libf2f.mem_broadcastExcept.mp hin
    exact (Action.asyncWrite.inj hd).2
  cases heff with
  | noted _ _ _ out _ _ _ hout => rcases hout with rfl | rfl <;> simp at hin
  | stopped _ _ _ _ ht =>
    cases he with
    | query => cases ht
    | result => cases ht
  | forwarded r i err t out ht hout =>
    have htm := List.mem_of_getElem? ht
    obtain ⟨-, rq, uuid, -, hmsg, -⟩ := hs.timers t htm
    rcases fwdSearch_ok hout with rfl | rfl
    · cases hin
    · obtain rfl := hbroadcast _ _ _ hin
      exact Or.inl ⟨by rw [hmsg]; rfl, Or.inl ⟨t, htm, rfl⟩⟩
  | resolved r k uuid y =>
    obtain rfl := hbroadcast _ _ _ hin
    exact Or.inl ⟨rfl, Or.inr ⟨r, k, rfl⟩⟩
  -- the one message of `send_response`, if the query has an origin that lives
  | answered r i uuid cb hcb hrel =>
    obtain ⟨-, it, hit, -⟩ := hs.callbacks cb (List.mem_of_getElem? hcb)
    cases ho : getQueryOrigin { q with callbacks := q.callbacks.eraseIdx i } r cb.qid with
    | none =>
      rw [sendResponse_none uuid ho] at hin
      cases hin
    | some d =>
      rw [sendResponse_some uuid ho hit] at hin ⊢
      obtain ⟨rfl, rfl⟩ := Action.asyncWrite.inj (List.mem_singleton.mp hin)
      exact Or.inr ⟨rfl, ⟨r, i, rfl⟩, rfl⟩
  | _ => simp at hin

/-- A new timer has the QUERY that has come in, as it came; its guid is the one that the peer gave
    it. -/
theorem timers_step {h : Host C} {q q' : Queries C} {e : Event C} {out : List (Action C)}
    (heff : Effect h q e q' out) {t : Timer C} (ht : t ∈ q'.timers) :
    t ∈ q.timers ∨ ∃ r conn, e = .received r conn t.msgp ∧ t.msgp.type = .query := by
  cases heff with
  | noted r conn msgp => exact Or.inl (note_timers q msgp ▸ ht)
  | accepted r conn msgp rq hadm hquery =>
    rcases List.mem_append.mp ht with ht | ht
    · exact Or.inl (note_timers q msgp ▸ ht)
    · obtain rfl := List.mem_singleton.mp ht
      exact Or.inr ⟨r, conn, rfl, hquery⟩
  | stopped r conn msgp => exact Or.inl (note_timers q msgp ▸ ht)
  | reported r conn msgp =>
    rw [(reportResults_frame ..).2.2, note_timers] at ht
    exact Or.inl ht
  | forwarded => exact Or.inl (List.mem_of_mem_eraseIdx ht)
  | answered =>
    rw [(sendResponse_frame ..).1] at ht
    exact Or.inl ht
  | reportResults =>
    rw [(reportResults_frame ..).2.2] at ht
    exact Or.inl ht
  | _ => exact Or.inl ht

end Queries

end Greynet
