/-
  Greynet urls: what `handle_queryresult` writes and `ss_greynet::factory` reads.

  Source: `ss_greynet.cpp` (`factory`), `greynet.cpp` (`handle_queryresult`, `get_conn`).

  A result gets the url `greynet://NAME;ID`, where NAME is the connection it came on.  When playdar
  wants the stream, the factory cuts the url at the first `;` after `greynet://`, looks up the
  connection called NAME, and asks it for ID.

  1. `SsGreynet.factory` — with the range checks of `substr`; `factory_eq` — they never fail, and it
     comes to `ssFactory`.
  2. `Run.name_kept` — a connection's name stays, so the name in a url is the one it has now.
  3. `requests_iff`, `result_urls` — the stream is asked of the connection the result came on
     exactly if there is no `;` in its name.
-/
import Greynet.Lib.Separators
import Greynet.QuerySteps
import Greynet.Gate

namespace Greynet

variable {C : Type} [LinearOrder C]

/-! ## Reading a url

  `factory` looks for the `;` with `find` and cuts with `substr`, which throws beyond the end of a
  string.  The positions it cuts at are those of a character that is there, so it never does. -/

namespace SsGreynet

omit [LinearOrder C] in
/-- The name and the sid that `factory` cuts out of a url; `substr` may throw. -/
def parseUrl (url : String) : Except Fault (Option (String × Sid)) :=
  -- skip `greynet://`
  let offset := 10
  match Separators.find url.toList ';' offset with
  | none => .ok none
  | some offset2 =>
    match Separators.substr url.toList offset (offset2 - offset),
      Separators.substr url.toList (offset2 + 1) (url.toList.length - (offset2 + 1)) with
    | some username, some sid => .ok (some (String.ofList username, String.ofList sid))
    | _, _ => .error .exception

omit [LinearOrder C] in
/-- `ss_greynet::factory`; `oid` is the object it would make. -/
def factory (h : Host C) (r : Router C) (url : String) (oid : Nat) :
    Except Fault (Option (SsGreynet C)) :=
  match parseUrl url with
  | .error f => .error f
  | .ok none => .ok none
  | .ok (some (username, sid)) =>
    match h.lib.getConnectionByName r username with
    | some conn => .ok (some ⟨oid, conn, sid⟩)
    | none => .ok none

/-- No `substr` is out of range: the cut is at the first `;` after the first ten characters. -/
theorem parseUrl_eq (url : String) :
    parseUrl url = .ok ((Separators.cut ';' (url.toList.drop 10)).map fun p =>
      (String.ofList p.1, String.ofList p.2)) := by
  simp only [parseUrl]
  cases hfind : Separators.find url.toList ';' 10 with
  | none => rw [Separators.find_eq_none.mp hfind, Option.map_none]
  | some k =>
    obtain ⟨a, b, hcut, ha, hb⟩ := Separators.substr_of_find hfind
    simp only [ha, hb, hcut, Option.map_some]

omit [LinearOrder C] in
/-- **The factory always returns.** -/
theorem factory_eq (h : Host C) (r : Router C) (url : String) (oid : Nat) :
    factory h r url oid = .ok (ssFactory h r url oid) := by
  rw [factory, parseUrl_eq, ssFactory, Separators.cut]
  by_cases hsep : ';' ∈ url.toList.drop 10
  · simp only [if_pos hsep, Option.map_some]
    cases h.lib.getConnectionByName r
        (String.ofList ((url.toList.drop 10).takeWhile fun c => c ≠ ';')) with
    | none => rfl
    | some conn => rfl
  · simp only [if_neg hsep, Option.map_none]

/-- **A url is read as it was written exactly if there is no `;` in the name.** -/
theorem parseUrl_resultUrl (name : String) (id : Sid) :
    parseUrl (Queries.resultUrl name id) = .ok (some (name, id)) ↔ ';' ∉ name.toList := by
  have hdrop : (Queries.resultUrl name id).toList.drop 10 = name.toList ++ ';' :: id.toList := by
    simp [Queries.resultUrl, String.toList_append]
  rw [parseUrl_eq, hdrop, ← Separators.cut_append_iff (b := id.toList)]
  constructor
  · intro h
    obtain ⟨p, hp, hname⟩ := Option.map_eq_some_iff.mp (Except.ok.inj h)
    obtain ⟨rfl, rfl⟩ := Prod.mk.inj hname
    rw [String.toList_ofList, String.toList_ofList] at hp ⊢
    exact hp
  · intro h
    rw [h, Option.map_some, String.ofList_toList, String.ofList_toList]

end SsGreynet

/-! ## What is reported

  The url of a result is made where it comes in, with the name that its connection has at that
  moment. -/

/-- The field that `set_url` writes. -/
def ResolvedItem.url (it : ResolvedItem) : Option String := strField (objToMap it.fields) "url"

/-- It is what it was set to. -/
theorem ResolvedItem.url_setUrl (it : ResolvedItem) (url : String) :
    (it.setUrl url).url = some url := by
  simp [ResolvedItem.url, setUrl, set, objToMap, strField]

/-- **A result that comes in is reported under the url of the connection it came on.** -/
theorem Queries.reported_url {h : Host C} {q q' : Queries C} {r : Router C} {conn : C}
    {msgp : Message} {out : List (Action C)} {qid : Qid} {item : ResolvedItem}
    (hok : q.step h (.received r conn msgp) = .ok (q', out)) (hin : .reportResults qid item ∈ out) :
    ∃ rip, decodeResult h.js h.playdar msgp = some (qid, rip) ∧
      item = rip.setUrl (resultUrl (r.conn conn).nameStr (h.playdar.itemId rip)) := by
  cases step_effect hok with
  | idle => cases hin
  | noted _ _ _ out _ _ _ hout =>
    rcases hout with rfl | rfl
    · cases hin
    · cases List.mem_singleton.mp hin
  | accepted => cases List.mem_singleton.mp hin
  | stopped =>
    obtain ⟨c, -, -, -, hc⟩ := Libf2f.mem_broadcastExcept.mp hin
    cases hc
  | reported _ _ _ qid' rip url hadm ht hd =>
    obtain ⟨rfl, rfl⟩ := Action.reportResults.inj (List.mem_singleton.mp hin)
    -- the effect leaves the url open: it is the handler that says what it is
    simp only [step, received, if_pos hadm, ht, handleQueryresult_some hd] at hok
    obtain ⟨-, hout⟩ := Prod.mk.inj (Except.ok.inj hok)
    exact ⟨rip, hd, (Action.reportResults.inj (List.cons.inj hout).1).2.symm⟩

namespace Node

/-- A report on a message is `message_received`'s, so the connection has got through the gate. -/
theorem reported_pastGate {host : Host C} {n n' : Node C} {conn : C} {msgp : Message}
    {answer : SsAnswer} {uuid : String} {out : List (Action C)} {qid : Qid} {item : ResolvedItem}
    (ht : n.transfers.Sound) (hok : step host n (.received conn msgp answer uuid) = .ok (n', out))
    (hin : .reportResults qid item ∈ out) :
    n.PastGate conn ∧ ∃ rip, Queries.decodeResult host.js host.playdar msgp = some (qid, rip) ∧
      item = rip.setUrl (Queries.resultUrl (n.mesh.router.conn conn).nameStr
        (host.playdar.itemId rip)) := by
  rcases step_forQueries ht hok with ⟨-, -, hno⟩ | ⟨qe, out', hqe, hq, hsame⟩
  · exact absurd hin (not_mem_of_ofQueries hno rfl)
  · rw [queryEvent] at hqe
    split at hqe
    · rename_i hgate
      obtain rfl := Option.some.inj hqe
      exact ⟨⟨hgate.1, hgate.2⟩,
        Queries.reported_url hq ((mem_of_ofQueries hsame rfl).mp hin)⟩
    · cases hqe

/-! ## Names stay

  A url is read later than it was written; so what counts is that the connection still has its
  name. -/

/-- A ready connection has a name. -/
theorem Run.named {host : Host C} {hist : History C} {n : Node C} (hr : Run host hist n) (c : C)
    (hready : (n.mesh.router.conn c).ready = true) : (n.mesh.router.conn c).name ≠ none := by
  refine Runs.Run.invariant (I := fun _ n => ∀ c, (n.mesh.router.conn c).ready = true →
    (n.mesh.router.conn c).name ≠ none) ?_ ?_ hr c hready
  · rintro n rfl c hready
    cases hready
  · intro hist n e n' out _ ih hok c hready
    rcases step_moves hok with ⟨conn, o, me, -, -, hrouter⟩ |
      ⟨conn, msgp, answer, uuid, name, incoming, -, -, -, hrouter⟩ | hk
    · rw [hrouter] at hready ⊢
      by_cases hc : c = conn
      · -- a new connection is not ready
        rw [hc, Router.add_conn_self] at hready
        cases o <;> cases hready
      · rw [Router.add_conn_ne _ _ hc] at hready ⊢
        exact ih c hready
    · rw [hrouter] at hready ⊢
      by_cases hc : c = conn
      · rw [hc, Router.modify_conn_self]
        exact Option.some_ne_none name
      · rw [Router.modify_conn_ne _ _ hc] at hready ⊢
        exact ih c hready
    · rw [hk.conn] at hready ⊢
      exact ih c hready

/-- A connection is given its name once. -/
theorem name_step {host : Host C} {n n' : Node C} {e : Event C} {out : List (Action C)}
    (hm : ∀ c, Mesh.Handshaken (n.mesh.router.conn c)) (hok : step host n e = .ok (n', out)) {c : C}
    {name : String} (hknown : c ∈ n.mesh.router.known)
    (hname : (n.mesh.router.conn c).name = some name) :
    c ∈ n'.mesh.router.known ∧ (n'.mesh.router.conn c).name = some name := by
  rcases step_moves hok with ⟨conn, o, me, -, ho, hrouter⟩ |
    ⟨conn, msgp, answer, uuid, name', incoming, -, hexp, -, hrouter⟩ | hk
  · have hne : c ≠ conn := by
      rintro rfl
      exact (Mesh.opens_some ho).1 hknown
    rw [hrouter, Router.add_conn_ne _ _ hne]
    exact ⟨Router.mem_add_known.mpr (Or.inr hknown), hname⟩
  · -- the connection that awaits its IDENT has no name yet
    have hne : c ≠ conn := by
      rintro rfl
      have hnil := (hm c).ready ((hm c).named (by rw [hname]; exact Option.some_ne_none name))
      have hcb := hexp.callback
      rw [hnil] at hcb
      cases hcb
    rw [hrouter, Router.modify_conn_ne _ _ hne]
    exact ⟨hknown, hname⟩
  · rw [hk.known, hk.conn]
    exact ⟨hknown, hname⟩

/-- **The name a connection has at one time of a run it has at the end.** -/
theorem Run.name_kept {host : Host C} {hist : History C} {n : Node C} (hr : Run host hist n)
    {st : Runs.Step (Node C) (Event C) (Action C)} (hst : st ∈ hist) {c : C} {name : String}
    (hknown : c ∈ st.pre.mesh.router.known) (hname : (st.pre.mesh.router.conn c).name = some name) :
    (n.mesh.router.conn c).name = some name := by
  have hkept : c ∈ n.mesh.router.known ∧ (n.mesh.router.conn c).name = some name := by
    refine Runs.Run.invariant (I := fun hist n => ∀ st ∈ hist, c ∈ st.pre.mesh.router.known →
      (st.pre.mesh.router.conn c).name = some name →
      c ∈ n.mesh.router.known ∧ (n.mesh.router.conn c).name = some name) ?_ ?_ hr st hst hknown
        hname
    · intro n _ st hst
      cases hst
    · intro hist n e n' out hr ih hok st hst hknown hname
      have hm := Mesh.handshaken_of_reachable (Run.mesh hr)
      rcases List.mem_append.mp hst with hst | hst
      · obtain ⟨hknown, hname⟩ := ih st hst hknown hname
        exact name_step hm hok hknown hname
      · obtain rfl := List.mem_singleton.mp hst
        exact name_step hm hok hknown hname
  exact hkept.2

/-! ## Asking for a stream -/

/-- When playdar starts a stream from `url`, the plugin asks `conn` for `sid`. -/
def Requests (host : Host C) (n : Node C) (url : String) (conn : C) (sid : Sid) : Prop :=
  ∀ oid aa uuid, ∃ ss n', SsGreynet.factory host n.mesh.router url oid = .ok (some ss) ∧
    ss.conn = conn ∧ ss.sid = sid ∧ step host n (.startReply ss aa uuid) =
      .ok (n', [.asyncWrite conn (generalMessage .sidrequest sid uuid)])

/-- **A url leads to the connection whose name it was written with exactly if there is no `;` in
    the name**, whatever the other connections are called. -/
theorem requests_iff {host : Host C} {hist : History C} {n : Node C} (hr : Run host hist n)
    {conn : C} {name : String} (hopen : conn ∈ n.mesh.router.connections)
    (hname : (n.mesh.router.conn conn).name = some name) (id : Sid) :
    Requests host n (Queries.resultUrl name id) conn id ↔ ';' ∉ name.toList := by
  constructor
  · intro hreq
    obtain ⟨ss, -, hss, hconn, hsid, -⟩ := hreq 0 (.greynet 0) ""
    rw [SsGreynet.factory] at hss
    split at hss
    · cases hss
    · cases hss
    · rename_i username sid hparse
      split at hss
      · rename_i c hc
        obtain rfl := Option.some.inj (Except.ok.inj hss)
        -- the connection found has the name looked up
        obtain rfl : c = conn := hconn
        obtain rfl : sid = id := hsid
        obtain rfl := Option.some.inj (hname.symm.trans (host.lib.found hc).2)
        exact (SsGreynet.parseUrl_resultUrl _ _).mp hparse
      · cases hss
  · intro hsep oid aa uuid
    have hparse := (SsGreynet.parseUrl_resultUrl name id).mpr hsep
    have hfound : host.lib.getConnectionByName n.mesh.router name = some conn := by
      cases hl : host.lib.getConnectionByName n.mesh.router name with
      | none => exact absurd hname (host.lib.missing hl hopen)
      | some c =>
        obtain ⟨hc, hcn⟩ := host.lib.found hl
        rw [hr.name_inj hc hopen hcn hname]
    have hready : host.lib.ready n.mesh.router conn = true := by
      rw [host.lib.ready_open hopen]
      exact (Mesh.handshaken_of_reachable hr.mesh conn).named
        (by rw [hname]; exact Option.some_ne_none name)
    obtain ⟨t, hstart, -⟩ := Transfers.startReply_ready n.transfers ⟨oid, conn, id⟩ aa uuid
    refine ⟨⟨oid, conn, id⟩, { n with transfers := t }, ?_, rfl, rfl, ?_⟩
    · rw [SsGreynet.factory, hparse]
      simp only [hfound]
    · simp only [step, hready, hstart]
      rfl

/-- **Result urls lead back, if there is no `;` in the name.**
    1. A url with any name and id is read as it was written exactly in that case.
    2. For every string the factory returns, so no `substr` is out of range.
    3. Every result reported in a run has the url of the connection it came on, under its name and
       the result's id; and while that connection is up, the stream is asked of it, by that id,
       exactly in that case. -/
theorem result_urls {host : Host C} {hist : History C} {n : Node C} (hr : Run host hist n) :
    (∀ name id, SsGreynet.parseUrl (Queries.resultUrl name id) = .ok (some (name, id)) ↔
      ';' ∉ name.toList) ∧
    (∀ url oid, ∃ x, SsGreynet.factory host n.mesh.router url oid = .ok x) ∧
    ∀ st ∈ hist, ∀ conn msgp answer uuid qid item, st.event = .received conn msgp answer uuid →
      .reportResults qid item ∈ st.out →
      ∃ name rip, (n.mesh.router.conn conn).name = some name ∧
        Queries.decodeResult host.js host.playdar msgp = some (qid, rip) ∧
        item.url = some (Queries.resultUrl name (host.playdar.itemId rip)) ∧
        (conn ∈ n.mesh.router.connections →
          (Requests host n (Queries.resultUrl name (host.playdar.itemId rip)) conn
            (host.playdar.itemId rip) ↔ ';' ∉ name.toList)) := by
  refine ⟨SsGreynet.parseUrl_resultUrl, fun url oid => ⟨_, SsGreynet.factory_eq host _ url oid⟩, ?_⟩
  intro st hst conn msgp answer uuid qid item he hin
  obtain ⟨h₁, h₂, hh⟩ := List.append_of_mem hst
  -- the step that reports it stands somewhere in the run, after an initial part that is one
  have hcut : Run host h₁ st.pre ∧ step host st.pre st.event = .ok (st.post, st.out) := by
    subst hh
    obtain ⟨hpre, hok, -⟩ := Runs.Run.cut hr
    exact ⟨hpre, hok⟩
  obtain ⟨hpre, hok⟩ := hcut
  rw [he] at hok
  obtain ⟨hgate, rip, hd, rfl⟩ := reported_pastGate hpre.transfers.sound hok hin
  obtain ⟨name, hname⟩ := Option.ne_none_iff_exists'.mp (hpre.named conn (hpre.pastGate hgate))
  -- the name the connection had at that step is the name it has now
  have hnow := hr.name_kept hst (hpre.gated.known conn hgate.isOpen) hname
  have hstr : (st.pre.mesh.router.conn conn).nameStr = name := by
    rw [Connection.nameStr, hname]
    rfl
  rw [hstr]
  exact ⟨name, rip, hnow, hd, ResolvedItem.url_setUrl rip _, fun hopen =>
    requests_iff hr hopen hnow _⟩

/-! ## Two names

  A peer with an ordinary name, and one with a `;` in it. -/

/-- An IDENT under a name with a `;` in it. -/
def semicolonIdent : String := "\x7b\"name\":\"a;b\",\"cookie\":\"k\"\x7d"

/-- A playdar that gives every result the id `s`. -/
def urlHost : Host Nat :=
  { sampleHost with
    js := .ofTexts ((semicolonIdent, .obj [("name", .str "a;b"), ("cookie", .str "k")]) ::
      (aliceIdent, .obj [("name", .str "alice"), ("cookie", .str "k")]) :: Queries.sampleTexts)
    playdar := { Queries.samplePlaydar with itemId := fun _ => "s" } }

/-- Somebody connects, on connection 0, and sends a result. -/
def aResultFrom (jid ident : String) : List (Event Nat) :=
  [.mesh (.jabberNewPeer jid "k"), .mesh (.newIncomingConnection 0),
    .received 0 ⟨.ident, "g0", ident⟩ .nothing "u0",
    .received 0 ⟨.queryresult, "g1",
      "\x7b\"qid\":\"q\",\"result\":\x7b\"track\":\"t\"\x7d\x7d"⟩ .nothing "u1"]

/-- What such a run ends with. -/
theorem reported_last {jid ident : String} {hist : History Nat}
    {st : Runs.Step (Node Nat) (Event Nat) (Action Nat)}
    (htrace : Runs.trace (step urlHost) empty (aResultFrom jid ident) = hist ++ [st]) :
    st ∈ Runs.trace (step urlHost) empty (aResultFrom jid ident) := by
  rw [htrace]
  exact List.mem_concat_self

/-- Alice's song is asked of alice. -/
theorem alice_is_asked :
    Requests urlHost (Runs.after (step urlHost) empty (aResultFrom "alice" aliceIdent))
      "greynet://alice;s" 0 "s" := by
  have hlast : ∃ hist st answer uuid msgp item,
      Runs.trace (step urlHost) empty (aResultFrom "alice" aliceIdent) = hist ++ [st] ∧
      st.event = .received 0 msgp answer uuid ∧ .reportResults "q" item ∈ st.out :=
    ⟨[_, _, _], _, _, _, _, _, rfl, rfl, List.mem_singleton_self _⟩
  obtain ⟨hist, st, answer, uuid, msgp, item, htrace, he, hin⟩ := hlast
  obtain ⟨name, rip, hname, -, -, hreq⟩ :=
    (result_urls (Runs.run_trace (aResultFrom "alice" aliceIdent) rfl)).2.2 st
      (reported_last htrace) 0 msgp answer uuid "q" item he hin
  obtain rfl : "alice" = name := Option.some.inj hname
  exact (hreq (by decide)).mpr (by decide)

/-- The song of `a;b` is asked of `a`, and there is nobody of that name. -/
theorem semicolon_is_not_asked :
    (Runs.after (step urlHost) empty (aResultFrom "a;b" semicolonIdent)).PastGate 0 ∧
    (∃ st ∈ Runs.trace (step urlHost) empty (aResultFrom "a;b" semicolonIdent),
      ∃ item, .reportResults "q" item ∈ st.out ∧ item.url = some "greynet://a;b;s") ∧
    SsGreynet.parseUrl "greynet://a;b;s" = .ok (some ("a", "b;s")) ∧
    ∀ oid, SsGreynet.factory urlHost (Runs.after (step urlHost) empty
      (aResultFrom "a;b" semicolonIdent)).mesh.router "greynet://a;b;s" oid = .ok none := by
  refine ⟨⟨by decide, rfl⟩, ?_, by decide, fun oid => rfl⟩
  have hlast : ∃ hist st item,
      Runs.trace (step urlHost) empty (aResultFrom "a;b" semicolonIdent) = hist ++ [st] ∧
      .reportResults "q" item ∈ st.out ∧ item.url = some "greynet://a;b;s" :=
    ⟨[_, _, _], _, _, rfl, List.mem_singleton_self _, rfl⟩
  obtain ⟨hist, st, item, htrace, hin, hurl⟩ := hlast
  exact ⟨st, reported_last htrace, item, hin, hurl⟩

end Node

end Greynet
