/-
  Where results come from.

  A result that is read becomes an item of playdar's, gets a url of its own, is reported, and is
  copied without the url for whoever asked.  Nothing on its way says who has found it: the message
  has the query id and the item, and each node on the way puts its own neighbour into the url.
  Still there is somebody, a node whose playdar found it for that query, or a stranger that sent it.

  1. `Told` — what tells the queries of a result; `Due` — the results that callbacks are due for
     have some property, which those that are told have too.
  2. `Brings`, `Sourced` — what brings a result into the world.
  3. `Traced` — every result that is due, reported or written has a source; one step keeps it so,
     for what is told has one (`Traced.told`).
  4. `results_have_sources` — every result that is reported or written anywhere has a source, and
     is what the source has found, apart from the url.
-/
import Greynet.Darknet
import Greynet.Faults

namespace Greynet

variable {C : Type} [LinearOrder C]

namespace Queries

/-! ## What the queries are told

  A result goes through three places of a node: the items of a query, the callbacks that are due for
  them, and the messages that those write.  Whatever is true of each result that comes in is true of
  it all the way. -/

omit [LinearOrder C] in
/-- An event that tells of a result: one found here, or one that is read and gets its url.  There is
    no third way for the plugin to hear of one. -/
inductive Told (h : Host C) : Event C → Qid → ResolvedItem → Prop
  | here (qid : Qid) (it : ResolvedItem) : Told h (.reportResults qid it) qid it
  | read (r : Router C) (conn : C) (msgp : Message) (qid : Qid) (rip : ResolvedItem)
      (url : String) (ht : msgp.type = .queryresult)
      (hd : decodeResult h.js h.playdar msgp = some (qid, rip)) :
      Told h (.received r conn msgp) qid (rip.setUrl url)

/-- Only what is told is reported, at the step where it is told: each `report_results` of the
    plugin's has the result in its hands. -/
theorem told_of_reports {h : Host C} {q q' : Queries C} {e : Event C} {out : List (Action C)}
    (heff : Effect h q e q' out) {qid : Qid} {it : ResolvedItem}
    (hin : .reportResults qid it ∈ out) : Told h e qid it := by
  -- what is broadcast is no report
  have hbroadcast : ∀ (r : Router C) (msgp : Message) (ex : Option C),
      .reportResults qid it ∉ h.lib.broadcastExcept r msgp ex := by
    intro r msgp ex hin
    obtain ⟨d, -, -, -, he⟩ := Libf2f.mem_broadcastExcept.mp hin
    cases he
  cases heff with
  | idle | called | solved | dropped => cases hin
  | noted r conn msgp out hadm hquery hresult hout =>
    rcases hout with rfl | rfl
    · cases hin
    · cases List.mem_singleton.mp hin
  | accepted | localQuery => cases List.mem_singleton.mp hin
  | stopped r conn msgp => exact absurd hin (hbroadcast r msgp _)
  | reported r conn msgp qid' rip url hadm ht hd =>
    obtain ⟨rfl, rfl⟩ := Action.reportResults.inj (List.mem_singleton.mp hin)
    exact .read r conn msgp qid rip url ht hd
  | forwarded r i err t out ht hout =>
    rcases fwdSearch_ok hout with rfl | rfl
    · cases hin
    · exact absurd hin (hbroadcast r t.msgp _)
  | resolved r k uuid x => exact absurd hin (hbroadcast r _ _)
  | answered r i uuid cb =>
    rcases (sendResponse_frame h _ r cb.qid cb.item uuid).2 with hout | ⟨conn, msgp, hout⟩
    · rw [hout] at hin
      cases hin
    · rw [hout] at hin
      cases List.mem_singleton.mp hin
  | reportResults k item =>
    obtain ⟨rfl, rfl⟩ := Action.reportResults.inj (List.mem_singleton.mp hin)
    exact .here qid it

/-- Each result that a callback is due for has the property, for the query of the callback. -/
def Due (q : Queries C) (P : Qid → ResolvedItem → Prop) : Prop :=
  ∀ cb ∈ q.callbacks, ∃ it, q.items[cb.item]? = some it ∧ P cb.qid it

omit [LinearOrder C] in
/-- A weaker property holds of them too. -/
theorem Due.mono {q : Queries C} {P P' : Qid → ResolvedItem → Prop} (h : q.Due P)
    (hp : ∀ qid it, P qid it → P' qid it) : q.Due P' := by
  intro cb hcb
  obtain ⟨it, hit, hpit⟩ := h cb hcb
  exact ⟨it, hit, hp cb.qid it hpit⟩

omit [LinearOrder C] in
/-- Fewer callbacks and more items leave it so: items are appended and never removed, so a callback
    means the same item later. -/
theorem Due.less {q q' : Queries C} {P : Qid → ResolvedItem → Prop} (h : q.Due P)
    (hcb : ∀ cb ∈ q'.callbacks, cb ∈ q.callbacks) (hitems : ∃ new, q'.items = q.items ++ new) :
    q'.Due P := by
  intro cb hin
  obtain ⟨it, hit, hp⟩ := h cb (hcb cb hin)
  obtain ⟨new, hnew⟩ := hitems
  exact ⟨it, by rw [hnew]; exact getElem?_append hit, hp⟩

omit [LinearOrder C] in
/-- A result that is reported has its item appended, and one callback that is due for it; so if the
    property holds of it, it does of all. -/
theorem Due.reportResults {q : Queries C} {P : Qid → ResolvedItem → Prop} (h : q.Due P) {qid : Qid}
    {it : ResolvedItem} (hp : P qid it) : (q.reportResults qid it).Due P := by
  cases hx : q.queries qid with
  | none =>
    rw [reportResults_none it hx]
    exact h
  | some x =>
    rw [reportResults_some it hx]
    intro cb hin
    rcases List.mem_append.mp hin with hin | hin
    · obtain ⟨it', hit, hp'⟩ := h cb hin
      exact ⟨it', getElem?_append hit, hp'⟩
    · obtain rfl := List.mem_singleton.mp hin
      exact ⟨it, List.getElem?_concat_length, hp⟩

/-- **What is due has been told**: a property of all that is told stays one of all that is due.
    Only `report_results` adds a callback; the other events note a guid, add a query, or take a
    callback away. -/
theorem Due.step {h : Host C} {q q' : Queries C} {e : Event C} {out : List (Action C)}
    {P : Qid → ResolvedItem → Prop} (hd : q.Due P) (heff : Effect h q e q' out)
    (htold : ∀ qid it, Told h e qid it → P qid it) : q'.Due P := by
  have hnote : ∀ msgp, (q.note msgp).Due P := fun msgp =>
    hd.less (fun cb hin => note_callbacks q msgp ▸ hin)
      ⟨[], (note_items q msgp).trans (List.append_nil _).symm⟩
  cases heff with
  | noted r conn msgp => exact hnote msgp
  | accepted r conn msgp rq => exact (hnote msgp).less (fun _ hin => hin) ⟨[], by simp [accept]⟩
  | stopped r conn msgp =>
    exact (hnote msgp).less (fun _ hin => hin) ⟨[], by simp [modifyQuery]⟩
  | reported r conn msgp qid rip url hadm ht hdec =>
    exact (hnote msgp).reportResults (htold _ _ (.read r conn msgp qid rip url ht hdec))
  | answered r i uuid cb hcb hrel =>
    refine hd.less (fun cb' hin => ?_) (items_step (.answered r i uuid cb hcb hrel))
    rw [(sendResponse_frame ..).1] at hin
    exact List.mem_of_mem_eraseIdx hin
  | called r i uuid cb =>
    exact hd.less (fun _ hin => List.mem_of_mem_eraseIdx hin) ⟨[], (List.append_nil _).symm⟩
  | reportResults qid it => exact hd.reportResults (htold _ _ (.here qid it))
  | _ => exact hd.less (fun _ hin => hin) ⟨[], (List.append_nil _).symm⟩

omit [LinearOrder C] in
/-- A result that is read as it was written comes in as it was written: `queryResultObject` has the
    two fields that `decodeResult` looks up. -/
theorem decodeResult_read {js : JsonSpirit} {pd : Playdar} {m : Message} {qid : Qid}
    {it : ResolvedItem} {x : Qid × ResolvedItem}
    (hread : js.read m.payload = some (queryResultObject qid it))
    (hd : decodeResult js pd m = some x) : x = (qid, it) := by
  simp only [decodeResult, hread, queryResultObject, objToMap, List.foldl_cons, List.foldl_nil,
    Function.update_self] at hd
  rw [Function.update_of_ne (by decide), Function.update_self] at hd
  simp only [Playdar.newItem] at hd
  split at hd
  · simpa using hd.symm
  · cases hd

end Queries

/-- Without its url a result is the same whichever url it was given. -/
theorem ResolvedItem.rmJsonValue_setUrl (it : ResolvedItem) (url : String) :
    (it.setUrl url).rmJsonValue "url" = it.rmJsonValue "url" :=
  rmJsonValue_set it "url" (.str url)

/-- A result that a node writes is one that a callback was due for, and loses its url on the way
    out. -/
theorem Node.Run.result_written {host : Host C} {hist : Node.History C} {n n' : Node C}
    {e : Node.Event C} {out : List (Action C)} (hr : Node.Run host hist n)
    (hok : Node.step host n e = .ok (n', out)) {c : C} {m : Message}
    (hin : .asyncWrite c m ∈ out) (hty : m.type = .queryresult) :
    ∃ i uuid cb it, e = .callback i uuid ∧ cb ∈ n.queries.callbacks ∧
      n.queries.items[cb.item]? = some it ∧
      m = queryResultMessage host.js cb.qid (it.rmJsonValue "url") uuid := by
  -- a message of another type is none of these
  have hno : ∀ ty : MsgType, m.type = ty → ty ≠ .queryresult → False :=
    fun ty h hne => hne (h.symm.trans hty)
  rcases Node.step_speaks hr.transfers.sound hok with ⟨conn, o, me, uuid, -, -, -, -, hout⟩ |
    ⟨conn, msgp, answer, uuid, name, incoming, -, -, -, -, -, hout⟩ | ⟨-, hout⟩
  · exact (hno _ (Mesh.greeting_type (hout ▸ hin)) (by decide)).elim
  · exact (hno _ (Mesh.identReply_type (hout ▸ hin)) (by decide)).elim
  · cases hout.writes c m hin with
    | pong ping answer uuid he hgate ht hm => exact (hno .pong (hm ▸ rfl) (by decide)).elim
    | stop conn answer uuid he hgate ht => exact (hno _ ht (by decide)).elim
    | resolve qid uuid x he hx hm => exact (hno .query (hm ▸ rfl) (by decide)).elim
    | forward k err t he ht hm =>
      exact (hno .query (hm ▸ hr.vetted.timer t (List.mem_of_getElem? ht)) (by decide)).elim
    | result k uuid cb it he hcb ho hit hm =>
      exact ⟨k, uuid, cb, it, he, List.mem_of_getElem? hcb, hit, hm⟩
    | stream ht hasked =>
      rw [hty] at ht
      simp at ht
    | request ss aa uuid he hc hready hm => exact (hno .sidrequest (hm ▸ rfl) (by decide)).elim
    | pass conn req url oid uuid ss he hgate ht hss hc hready hm =>
      exact (hno .sidrequest (hm ▸ rfl) (by decide)).elim

namespace World

variable {N : Type} [DecidableEq N] {S : Society N C} {w w' : World N C} {hist : History N C}
  {i k : N}

/-! ## What brings a result into the world -/

omit [DecidableEq N] in
/-- An event that brings a result into the world `w`: a playdar finds it, or a stranger that has
    been let in sends it.  A message on a connection between two nodes brings nothing new. -/
inductive Brings (S : Society N C) (w : World N C) (qid : Qid) (it : ResolvedItem) :
    Event N C → Prop
  | found (o : N) : Brings S w qid it (.node o (.reportResults qid it))
  | strange (o : N) (c : C) (m : Message) (answer : SsAnswer) (uuid : String)
      (hmate : w.mate c = none) (hgate : (w.node o).PastGate c) (ht : m.type = .queryresult)
      (hd : Queries.decodeResult (S.host o).js (S.host o).playdar m = some (qid, it)) :
      Brings S w qid it (.node o (.received c m answer uuid))

/-- The result has been brought into the world, at some step so far and for that query, with
    whatever url. -/
def Sourced (S : Society N C) (hist : History N C) (qid : Qid) (it : ResolvedItem) : Prop :=
  ∃ st ∈ hist, ∃ src, Brings S st.pre qid src st.event ∧
    it.rmJsonValue "url" = src.rmJsonValue "url"

omit [DecidableEq N] in
/-- A source stays one, however the run goes on. -/
theorem Sourced.mono {qid : Qid} {it : ResolvedItem} (h : Sourced S hist qid it)
    (hist' : History N C) : Sourced S (hist ++ hist') qid it := by
  obtain ⟨st, hst, src, h⟩ := h
  exact ⟨st, List.mem_append_left _ hst, src, h⟩

omit [DecidableEq N] in
/-- The url does not matter: each node that reads a result replaces it. -/
theorem Sourced.congr {qid : Qid} {it it' : ResolvedItem} (h : Sourced S hist qid it)
    (hsame : it'.rmJsonValue "url" = it.rmJsonValue "url") : Sourced S hist qid it' := by
  obtain ⟨st, hst, src, hb, he⟩ := h
  exact ⟨st, hst, src, hb, hsame.trans he⟩

/-- The node has reported the result to its playdar, found there or read from a connection. -/
def Reported (hist : History N C) (i : N) (qid : Qid) (it : ResolvedItem) : Prop :=
  ∃ st ∈ hist, (i, Action.reportResults qid it) ∈ st.out

/-- Every result there is has a source: the ones that callbacks are due for, the ones that were
    reported, and the ones that were written, on whatever connection. -/
structure Traced (S : Society N C) (hist : History N C) (w : World N C) : Prop where
  due : ∀ i, (w.node i).queries.Due (Sourced S hist)
  reported : ∀ i qid it, Reported hist i qid it → Sourced S hist qid it
  written : ∀ i c m, Wrote hist i c m → m.type = .queryresult → ∃ qid it uuid,
    m = queryResultMessage (S.host i).js qid (it.rmJsonValue "url") uuid ∧ Sourced S hist qid it

omit [DecidableEq N] in
/-- What is legible in the end was legible all the time: nothing that was written is unwritten. -/
theorem Legible.before {st : Runs.Step (World N C) (Event N C) (N × Action C)}
    (h : Legible S (hist ++ [st])) : Legible S hist :=
  fun j d qid it uuid hwrote => h j d qid it uuid (hwrote.mono [st])

/-- **Whatever a node is told has a source**: it has just found it, or a stranger has sent it, or it
    reads what another node has written. -/
theorem Traced.told {st : Runs.Step (World N C) (Event N C) (N × Action C)} {e : Node.Event C}
    (htr : Traced S hist w) (hr : Run S hist w) (hleg : Legible S hist) (hpre : st.pre = w)
    (htakes : w.takes st.event = some (k, e)) {qe : Queries.Event C}
    (hqe : (w.node k).queryEvent e = some qe) {qid : Qid} {it : ResolvedItem}
    (htold : Queries.Told (S.host k) qe qid it) : Sourced S (hist ++ [st]) qid it := by
  have h := hr.sane
  have hseen := Node.seenAs_of_queryEvent hqe
  cases htold with
  | here =>
    obtain rfl : e = .reportResults qid it := hseen
    rcases takes_some htakes with ⟨hev, -⟩ | ⟨c, m, rest, answer, uuid, -, he, -⟩
    · exact ⟨st, List.mem_concat_self, it, hev ▸ .found k, rfl⟩
    · cases he
  | read r c m _ rip url ht hd =>
    obtain ⟨-, -, answer, uuid, rfl⟩ := hseen
    rcases takes_some htakes with ⟨hev, hperm⟩ |
      ⟨c', m', rest, answer', uuid', -, he, hheld, hwire⟩
    · refine ⟨st, List.mem_concat_self, rip, ?_, ResolvedItem.rmJsonValue_setUrl rip url⟩
      rw [hev, hpre]
      exact .strange k c m answer uuid (of_decide_eq_true hperm)
        (Node.pastGate_of_queryEvent hqe) ht hd
    · obtain ⟨rfl, rfl, -, -⟩ := Node.Event.received.inj he
      -- on a stranger's connection nothing is on the way
      have hmate : w.mate c ≠ none := by
        intro hno
        rw [h.quiet c hno] at hwire
        cases hwire
      obtain ⟨d, hd'⟩ := Option.ne_none_iff_exists'.mp hmate
      obtain ⟨j, hj⟩ := h.joined hd' hheld
      have hwrote : Wrote hist j d m := by
        refine hr.delivered.wire k c j d hj m ?_
        rw [hwire]
        exact List.mem_cons_self ..
      obtain ⟨qid', it', uuid', rfl, hsrc⟩ := htr.written j d m hwrote ht
      have hread := hleg j d qid' (it'.rmJsonValue "url") uuid' hwrote k
      obtain ⟨rfl, rfl⟩ := Prod.mk.inj (Queries.decodeResult_read hread hd)
      refine (hsrc.congr ?_).mono [st]
      rw [ResolvedItem.rmJsonValue_setUrl, ResolvedItem.rmJsonValue_rmJsonValue]

omit [DecidableEq N] in
/-- Where nobody acts, nothing is brought, reported or written. -/
theorem Traced.idle {st : Runs.Step (World N C) (Event N C) (N × Action C)}
    (htr : Traced S hist w) (hnode : w'.node = w.node) (hout : st.out = []) :
    Traced S (hist ++ [st]) w' := by
  have hlast : ∀ {x : N × Action C} {s : Runs.Step (World N C) (Event N C) (N × Action C)},
      s ∈ hist ++ [st] → x ∈ s.out → s ∈ hist := by
    intro x s hs hx
    rcases List.mem_append.mp hs with hs | hs
    · exact hs
    · rw [List.mem_singleton.mp hs, hout] at hx
      cases hx
  refine ⟨fun i => ?_, fun i qid it ⟨s, hs, hin⟩ => ?_, fun i c m ⟨s, hs, hin⟩ hty => ?_⟩
  · rw [hnode]
    exact (htr.due i).mono fun qid it hsrc => hsrc.mono [st]
  · exact (htr.reported i qid it ⟨s, hlast hs hin, hin⟩).mono [st]
  · obtain ⟨qid, it, uuid, hm, hsrc⟩ := htr.written i c m ⟨s, hlast hs hin, hin⟩ hty
    exact ⟨qid, it, uuid, hm, hsrc.mono [st]⟩

/-- A node acts.  What it reports it has been told now, and what it writes was due before; so both
    have a source, and so have the results that become due. -/
theorem Traced.acted {st : Runs.Step (World N C) (Event N C) (N × Action C)} {e : Node.Event C}
    {n : Node C} {acts : List (Action C)} {wire₀ : C → List Message} (htr : Traced S hist w)
    (hr : Run S hist w) (hleg : Legible S hist) (hpre : st.pre = w)
    (htakes : w.takes st.event = some (k, e)) (ha : Acted S w w' k e n acts wire₀)
    (hout : st.out = acts.map fun a => (k, a)) :
    Traced S (hist ++ [st]) w' := by
  -- the node that acts goes by its own history, which is a part of the world's
  have hmine : Node.Run (S.host k) (hist.filterMap (World.part k)) (w.node k) := Run.part hr k
  have htold : ∀ {qe qid it}, (w.node k).queryEvent e = some qe →
      Queries.Told (S.host k) qe qid it → Sourced S (hist ++ [st]) qid it :=
    fun hqe => htr.told hr hleg hpre htakes hqe
  -- whatever is in the longer history was there before, or is the node's own
  have hlast : ∀ {i : N} {a : Action C} {s : Runs.Step (World N C) (Event N C) (N × Action C)},
      s ∈ hist ++ [st] → (i, a) ∈ s.out → s ∈ hist ∨ (i = k ∧ a ∈ acts) := by
    intro i a s hs hin
    rcases List.mem_append.mp hs with hs | hs
    · exact Or.inl hs
    · rw [List.mem_singleton.mp hs, hout] at hin
      obtain ⟨a', ha', he⟩ := List.mem_map.mp hin
      obtain ⟨rfl, rfl⟩ := Prod.mk.inj he
      exact Or.inr ⟨rfl, ha'⟩
  refine ⟨fun i => ?_, fun i qid it ⟨s, hs, hin⟩ => ?_, fun i c m ⟨s, hs, hin⟩ hty => ?_⟩
  · have hold := (htr.due i).mono fun qid it hsrc => hsrc.mono [st]
    by_cases hi : i = k
    · subst hi
      rw [ha.node_self]
      rcases Node.step_queries ha.step with ⟨-, hsame⟩ | ⟨qe, out', hqe, hq⟩
      · rw [hsame]
        exact hold
      · exact hold.step (Queries.step_effect hq) fun qid it => htold hqe
    · rw [ha.node_ne hi]
      exact hold
  · rcases hlast hs hin with hs | ⟨rfl, hin⟩
    · exact (htr.reported i qid it ⟨s, hs, hin⟩).mono [st]
    · rcases Node.step_forQueries hmine.transfers.sound ha.step with
        ⟨-, -, hno⟩ | ⟨qe, out', hqe, hq, hsame⟩
      · exact absurd hin (Node.not_mem_of_ofQueries hno rfl)
      · exact htold hqe (Queries.told_of_reports (Queries.step_effect hq)
          ((Node.mem_of_ofQueries hsame rfl).mp hin))
  · rcases hlast hs hin with hs | ⟨rfl, hin⟩
    · obtain ⟨qid, it, uuid, hm, hsrc⟩ := htr.written i c m ⟨s, hs, hin⟩ hty
      exact ⟨qid, it, uuid, hm, hsrc.mono [st]⟩
    · -- a result is written by a callback, and that was due before this step
      obtain ⟨j, uuid, cb, it, -, hcb, hit, hm⟩ := hmine.result_written ha.step hin hty
      obtain ⟨it', hit', hsrc⟩ := htr.due i cb hcb
      obtain rfl := Option.some.inj (hit.symm.trans hit')
      exact ⟨cb.qid, it, uuid, hm, hsrc.mono [st]⟩

/-- So it is in every run: in the empty world there are no results at all. -/
theorem Run.traced (hr : Run S hist w) (hleg : Legible S hist) : Traced S hist w := by
  refine Runs.Run.invariant (I := fun hist w => Legible S hist → Traced S hist w) ?_ ?_ hr hleg
  · rintro w rfl -
    exact ⟨fun i cb hin => (by cases hin), fun i qid it ⟨st, hst, _⟩ => (by cases hst),
      fun i c m ⟨st, hst, _⟩ => by cases hst⟩
  · intro hist w ev w' out hr ih hok hleg
    have htr := ih hleg.before
    rcases step_takes (Run.sane hr) hok with ⟨-, hnil, hsame⟩ |
      ⟨k, e, n, acts, wire₀, htakes, ha, hout⟩
    · refine htr.idle ?_ hnil
      rcases hsame with rfl | hx
      · rfl
      · exact hx.node
    · exact htr.acted hr hleg.before rfl htakes ha hout

/-- **Every result has a source**: whatever is reported anywhere, and whatever is written to whom, a
    node's playdar has found it for that very query, or a stranger has sent it, and it has come
    through unchanged but for the url. -/
theorem results_have_sources (S : Society N C) (hist : History N C) (w : World N C)
    (hr : Run S hist w) (hleg : Legible S hist) :
    (∀ i qid it, Reported hist i qid it → Sourced S hist qid it) ∧
    ∀ i c m, Wrote hist i c m → m.type = .queryresult → ∃ qid it uuid,
      m = queryResultMessage (S.host i).js qid (it.rmJsonValue "url") uuid ∧
      Sourced S hist qid it :=
  ⟨(hr.traced hleg).reported, (hr.traced hleg).written⟩

/-- Bob's result comes to Alice. -/
def telling : List (Event Side Nat) := [.deliver .a 0 .nothing "g3"]

/-- All the steps up to then. -/
def toldHist : History Side Nat := searchedHist ++ Runs.trace (step searchers) searched telling

/-- It is the run of the searchers, one step longer. -/
theorem told_run :
    Run searchers toldHist (Runs.after (step searchers) searched telling) :=
  searched_run.append (Runs.run_trace telling rfl)

/-- She reports it, with a url that leads to Bob, and that is all. -/
theorem told_out : (Runs.trace (step searchers) searched telling).map Runs.Step.out =
    [[(.a, .reportResults "q" (Queries.song.setUrl (Queries.resultUrl "bob" "")))]] := by
  decide +kernel

/-- And what was written is legible still, for her reading writes nothing. -/
theorem told_legible : Legible searchers toldHist := by
  refine searchers_legible fun h => ?_
  obtain ⟨st, hst, hin⟩ := h
  rcases List.mem_append.mp hst with hst | hst
  · exact searched_written ⟨st, hst, hin⟩
  · have hout := List.mem_map_of_mem (f := Runs.Step.out) hst
    rw [told_out] at hout
    rw [List.mem_singleton.mp hout] at hin
    cases List.mem_singleton.mp hin

/-- It is his: the result she reports has a source. -/
theorem told_sourced :
    Sourced searchers toldHist "q" (Queries.song.setUrl (Queries.resultUrl "bob" "")) := by
  refine (results_have_sources searchers _ _ told_run told_legible).1 .a "q" _ ?_
  obtain ⟨st, hst, hout⟩ := List.mem_map.mp
    (told_out ▸ List.mem_singleton.mpr rfl : _ ∈ (Runs.trace _ searched telling).map Runs.Step.out)
  exact ⟨st, List.mem_append_right _ hst, by rw [hout]; exact List.mem_singleton.mpr rfl⟩

end World

end Greynet
