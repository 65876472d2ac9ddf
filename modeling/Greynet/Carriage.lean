/-
  What an event of the node does to the transfers.

  The transfers hear of most events through `message_received`, and of some from playdar.  Here it
  is said once what reaches them, and which actions come with it; nothing after this module opens a
  handler of the node to find out about transfers.

  1. `registers`, `registered_before` — where the registration of a transfer comes from: from a step
     that sends a SIDREQUEST for it, or from before.
  2. `Carries` — what an event of the node does to the transfers, and the actions it takes;
     `Run.carries`.  Most events leave them `apart`, some are one event of theirs, and a request
     that a peer makes may come to a new adaptor, with or without a transfer that feeds it.
  3. `Run.registered` — every transfer that is registered has been requested.
-/
import Greynet.Outbound
import Greynet.TransferEnds
import Greynet.TransferFeeds

namespace Greynet

variable {C : Type} [LinearOrder C]

/-! ## What an event does to the transfers -/

namespace Transfers

/-- `handle_sidrequest` has made an adaptor: one more at the end of the list, with the sid that was
    asked for and the connection it was asked for on. -/
def adapted (t : Transfers C) (conn : C) (sid : Sid) : Transfers C :=
  { t with adaptors := t.adaptors ++ [{ sid := sid, conn := conn }] }

/-- One more adaptor changes no transfer. -/
theorem Sound.adapted {t : Transfers C} (hs : t.Sound) (conn : C) (sid : Sid) :
    (t.adapted conn sid).Sound :=
  sound_step hs (rfl : t.step (.newAdaptor conn sid) = .ok (t.adapted conn sid, []))

/-- A transfer that is registered was so before, or is being requested, in which case the very same
    step sends the SIDREQUEST. -/
theorem registers {t t' : Transfers C} {e : Event C} {out : List (Action C)}
    (hs : t.Sound) (hok : t.step e = .ok (t', out)) {s : Sid} {ss : SsGreynet C}
    (hss : t'.reg.sid2ss s = some ss) : t.reg.sid2ss s = some ss ∨
      ∃ uuid, .asyncWrite ss.conn (generalMessage .sidrequest s uuid) ∈ out := by
  by_cases hnew : ∃ ss' aa uuid, e = .startReply ss' aa true uuid ∧ ss'.sid = s
  · obtain ⟨ss', aa, uuid, rfl, rfl⟩ := hnew
    obtain ⟨t₁, heq, hreg, -⟩ := startReply_ready t ss' aa uuid
    rw [step, heq] at hok
    obtain ⟨rfl, rfl⟩ := Prod.mk.inj (Except.ok.inj hok)
    rw [hreg] at hss
    have hsame : Function.update t.reg.sid2ss ss'.sid (some ss') ss'.sid = some ss := hss
    rw [Function.update_self] at hsame
    obtain rfl := Option.some.inj hsame
    exact Or.inr ⟨uuid, List.mem_singleton.mpr rfl⟩
  · have hkept := sid2ss_step hs hok (s := s) fun ss' aa uuid he hsid =>
      hnew ⟨ss', aa, uuid, he, hsid⟩
    rw [hkept] at hss
    split at hss
    · cases hss
    · exact Or.inl hss

/-- A transfer that is registered with an adaptor was so before, if it is not being requested:
    nothing but `start_reply` gives an adaptor, and it registers only where it requests. -/
theorem registered_before {t t' : Transfers C} {e : Event C} {out : List (Action C)}
    (hs : t.Sound) (hok : t.step e = .ok (t', out)) {s : Sid} {ss : SsGreynet C} {aa : AdaptorId}
    (hno : ∀ uuid, .asyncWrite ss.conn (generalMessage .sidrequest s uuid) ∉ out)
    (hss : t'.reg.sid2ss s = some ss) (haa : (t'.ss ss).aa = some aa) :
    t.reg.sid2ss s = some ss ∧ (t.ss ss).aa = some aa := by
  obtain ⟨hsid, -⟩ := (sound_step hs hok).reg s ss hss
  rcases registers hs hok hss with hold | ⟨uuid, hout⟩
  · refine ⟨hold, ?_⟩
    rcases aa_step hs hok ss with ⟨aa', ready, uuid, rfl, -⟩ | hsame
    · cases ready with
      | true =>
        -- this is a request
        obtain ⟨t₁, heq, -⟩ := startReply_ready t ss aa' uuid
        rw [step, heq] at hok
        obtain ⟨-, rfl⟩ := Prod.mk.inj (Except.ok.inj hok)
        exact absurd (List.mem_singleton.mpr (by rw [hsid])) (hno uuid)
      | false =>
        -- this cancels it
        have hgone := sid2ss_step hs hok (s := s) fun _ _ _ he => by cases he
        rw [if_pos (by rw [← hsid]; exact List.mem_singleton.mpr rfl), hss] at hgone
        cases hgone
    · exact hsame ▸ haa
  · exact absurd hout (hno uuid)

end Transfers

namespace Node

/-- No event of the node is, to the transfers, just a new adaptor; `handle_sidrequest` is dealt with
    by itself. -/
theorem transferEvent_ne_newAdaptor {host : Host C} {n : Node C} {e : Event C} {conn : C}
    {sid : Sid} : n.transferEvent host e ≠ some (.newAdaptor conn sid) := by
  intro h
  cases e with
  | received c m answer uuid =>
    obtain ⟨-, hte⟩ := transferEvent_received.mp h
    unfold streamEvent at hte
    split at hte <;> cases hte
  | _ => cases h

/-- A SIDDATA for the transfers has come in past the gate, on the connection and with the payload
    that they are told. -/
theorem siddata_of_transferEvent {host : Host C} {n : Node C} {e : Event C} {c : C} {m : Message}
    (hte : n.transferEvent host e = some (.siddata c m)) :
    ∃ answer uuid, e = .received c m answer uuid ∧ n.PastGate c ∧ m.type = .siddata := by
  cases e with
  | received c' m' answer uuid =>
    obtain ⟨hgate, hstream⟩ := transferEvent_received.mp hte
    unfold streamEvent at hstream
    split at hstream
    · rename_i hty
      obtain ⟨rfl, rfl⟩ := Transfers.Event.siddata.inj (Option.some.inj hstream)
      exact ⟨answer, uuid, rfl, hgate, hty⟩
    · cases hstream
    · cases hstream
    · cases hstream
  | _ => cases hte

/-- An action that calls no adaptor and sends no part of a song; all that the mesh and the queries
    do is of this kind. -/
def Aloof : Action C → Prop
  | .adaptor _ _ => False
  | .asyncWrite _ m => m.type ≠ .siddata
  | _ => True

/-- What an event does to the transfers, and the actions it takes: one way for each path from the
    node's handlers to theirs. -/
inductive Carries (host : Host C) (n : Node C) (e : Event C) (n' : Node C)
    (out : List (Action C)) : Prop
  | apart (ht : n'.transfers = n.transfers) (hout : ∀ a ∈ out, Aloof a)
  | steps (te : Transfers.Event C) (hte : n.transferEvent host e = some te)
      (hok : n.transfers.step te = .ok (n'.transfers, out))
  /-- a strategy of another plugin is given a new adaptor -/
  | adapts (conn : C) (msgp : Message) (answer : SsAnswer) (uuid : String)
      (he : e = .received conn msgp answer uuid) (hgate : n.PastGate conn)
      (hty : msgp.type = .sidrequest) (hn : n'.transfers = n.transfers.adapted conn msgp.payload)
      (hout : out = [])
  /-- one of this plugin's is, and started -/
  | passes (conn : C) (msgp : Message) (url : String) (oid : Nat) (uuid : String)
      (he : e = .received conn msgp (.greynet url oid) uuid) (hgate : n.PastGate conn)
      (hty : msgp.type = .sidrequest) (ss : SsGreynet C)
      (hss : ssFactory host n.mesh.router url oid = some ss)
      (hok : (n.transfers.adapted conn msgp.payload).step
        (.startReply ss (.greynet n.transfers.adaptors.length)
          (host.lib.ready n.mesh.router ss.conn) uuid) = .ok (n'.transfers, out))

omit [LinearOrder C] in
/-- What the mesh does is IDENTs, closings, dials and adverts. -/
theorem aloof_mesh {a : Action C} (ha : Mesh.Own a) : Aloof a := by
  cases a with
  | asyncWrite c m =>
    have hident : m.type = .ident := ha
    show m.type ≠ .siddata
    rw [hident]
    decide
  | adaptor => exact ha
  | _ => exact trivial

/-- The queries send no part of a song: a QUERY, a QUERYRESULT or a QUERYSTOP.  The message of a
    timer is a QUERY since one has come in. -/
theorem aloof_queries {host : Host C} {q q' : Queries C} {qe : Queries.Event C}
    {out : List (Action C)} (htimer : ∀ t ∈ q.timers, t.msgp.type = .query)
    (hok : q.step host qe = .ok (q', out)) : ∀ a ∈ out, Aloof a := by
  intro a hin
  have heff := Queries.step_effect hok
  have hown := Queries.own_of_effect heff a hin
  cases a with
  | asyncWrite c m =>
    show m.type ≠ .siddata
    cases Queries.sends_of_effect heff hin with
    | stopped r conn he ht => rw [ht]; nofun
    | resolved r qid uuid x he hx hm => rw [hm]; nofun
    | forwarded r i err t he ht hm => rw [hm, htimer t (List.mem_of_getElem? ht)]; nofun
    | answered r i uuid cb it he hcb ho hit hm => rw [hm]; nofun
  | adaptor => exact hown
  | _ => exact trivial

/-- `handle_sidrequest`; `n₁` has noted the message.  It answers that there is no such song, or
    gives playdar's strategy a new adaptor, or starts a transfer that feeds one. -/
theorem carries_handleSidrequest {host : Host C} {n n₁ n' : Node C} {conn : C} {msgp : Message}
    {answer : SsAnswer} {uuid : String} {out : List (Action C)} (hmesh : n₁.mesh = n.mesh)
    (htransfers : n₁.transfers = n.transfers) (hgate : n.PastGate conn)
    (hty : msgp.type = .sidrequest)
    (hok : n₁.handleSidrequest host conn msgp answer uuid = .ok (n', out)) :
    Carries host n (.received conn msgp answer uuid) n' out := by
  -- without such a song only a SIDHEADERS goes out
  have hgone : ∀ {n₂ : Node C}, n₂.transfers = n.transfers →
      Carries host n (.received conn msgp answer uuid) n₂ [.asyncWrite conn
        (generalMessage .sidheaders "status\t404\n" msgp.payload)] := by
    intro n₂ hsame
    refine .apart hsame fun a ha => ?_
    rw [List.mem_singleton.mp ha]
    show MsgType.sidheaders ≠ .siddata
    decide
  simp only [handleSidrequest] at hok
  split at hok
  · obtain ⟨rfl, rfl⟩ := Prod.mk.inj (Except.ok.inj hok)
    exact hgone htransfers
  · obtain ⟨rfl, rfl⟩ := Prod.mk.inj (Except.ok.inj hok)
    exact .adapts conn msgp _ uuid rfl hgate hty (by rw [htransfers]; rfl) rfl
  · split at hok
    · obtain ⟨rfl, rfl⟩ := Prod.mk.inj (Except.ok.inj hok)
      exact hgone htransfers
    · rename_i ss hss
      obtain ⟨t, hstart, rfl⟩ := onTransfers_ok hok
      refine .passes conn msgp _ _ uuid rfl hgate hty ss (hmesh ▸ hss) ?_
      rw [htransfers, hmesh] at hstart
      exact hstart

/-- **Every event does one of these things to the transfers.**  One case for each component that the
    event may go to, and for the messages one for each type. -/
theorem Run.carries {host : Host C} {hist : History C} {n n' : Node C} {e : Event C}
    {out : List (Action C)} (hr : Run host hist n) (hok : step host n e = .ok (n', out)) :
    Carries host n e n' out := by
  -- an event reaches one of the machines, or none of them: one fact for each
  have hidle : Except.ok (n, []) = Except.ok (ε := Fault) (n', out) → Carries host n e n' out := by
    intro hx
    obtain ⟨rfl, rfl⟩ := Prod.mk.inj (Except.ok.inj hx)
    exact .apart rfl fun a ha => by cases ha
  have hmesh : ∀ {me}, n.onMesh (n.mesh.step host me) = .ok (n', out) →
      Carries host n e n' out := by
    intro me hx
    obtain ⟨m, hs, rfl⟩ := onMesh_ok hx
    exact .apart rfl fun a ha => aloof_mesh (Mesh.own_step hs a ha)
  have hqueries : ∀ {qe}, n.onQueries (n.queries.step host qe) = .ok (n', out) →
      Carries host n e n' out := by
    intro qe hx
    obtain ⟨q, hs, rfl⟩ := onQueries_ok hx
    exact .apart rfl (aloof_queries hr.vetted.timer hs)
  have htransfers : ∀ {te}, n.transferEvent host e = some te →
      n.onTransfers (n.transfers.step te) = .ok (n', out) → Carries host n e n' out := by
    intro te hte hx
    obtain ⟨t, hs, rfl⟩ := onTransfers_ok hx
    exact .steps te hte hs
  cases e with
  | mesh me =>
    rcases step_meshEvent host n me with hon | hon
    · exact hidle (hon ▸ hok)
    · exact hmesh (hon ▸ hok)
  | received conn msgp answer uuid =>
    by_cases hopen : conn ∈ n.mesh.router.connections
    · rcases hcbs : (n.mesh.router.conn conn).messageReceivedCbs with _ | ⟨incoming, cbs⟩
      · have hgate : n.PastGate conn := ⟨hopen, hcbs⟩
        -- past the gate: a stream's message is the transfers', any other goes by its type
        rcases hte : streamEvent conn msgp with _ | te
        · simp only [step, if_pos hopen, hcbs] at hok
          unfold messageReceived at hok
          split at hok
          · rename_i hadm
            cases hty : msgp.type with
            | sidrequest =>
              rw [hty] at hok
              -- the node with the guid noted gets a name of its own, so that the lemma on it
              -- applies
              obtain ⟨n₁, hn₁⟩ : ∃ n₁ : Node C, n₁ = { n with queries := n.queries.note msgp } :=
                ⟨_, rfl⟩
              have hnoted : n₁.handleSidrequest host conn msgp answer uuid = .ok (n', out) :=
                hn₁ ▸ hok
              exact carries_handleSidrequest (hn₁ ▸ rfl) (hn₁ ▸ rfl) hgate hty hnoted
            | query | queryresult | querystop =>
              rw [hty] at hok
              obtain ⟨q, hq, rfl⟩ := onQueries_ok hok
              have hrec : n.queries.step host (.received n.mesh.router conn msgp) =
                  .ok (q, out) := by
                simp only [Queries.step, Queries.received, if_pos hadm, hty]
                exact hq
              exact .apart rfl (aloof_queries hr.vetted.timer hrec)
            | siddata | sidheaders | sidfail => simp [streamEvent, hty] at hte
            | ping =>
              rw [hty] at hok
              obtain ⟨rfl, rfl⟩ := Prod.mk.inj (Except.ok.inj hok)
              refine .apart rfl fun a ha => ?_
              rw [List.mem_singleton.mp ha]
              show MsgType.pong ≠ .siddata
              decide
            | pong | ident | unknown _ =>
              rw [hty] at hok
              obtain ⟨rfl, rfl⟩ := Prod.mk.inj (Except.ok.inj hok)
              exact .apart rfl fun a ha => by cases ha
          · exact hidle hok
        · rw [step_stream hgate hte] at hok
          exact htransfers (transferEvent_received.mpr ⟨hgate, hte⟩) hok
      · simp only [step, if_pos hopen, hcbs] at hok
        exact hmesh hok
    · simp only [step, if_neg hopen] at hok
      exact hidle hok
  | connectionTerminated conn =>
    simp only [step] at hok
    split at hok
    · exact hidle hok
    · exact htransfers rfl hok
  | startReply ss aa uuid => exact htransfers rfl hok
  | timerExpires ss => exact htransfers rfl hok
  | timeoutCb ss => exact htransfers rfl hok
  | adaptorCall aa call => exact htransfers rfl hok
  | _ =>
    simp only [step] at hok
    exact hqueries hok

/-- **Every transfer that is registered has been requested**, from the peer it belongs to: by
    induction on the run, a registration comes with its SIDREQUEST or has been there before. -/
theorem Run.registered {host : Host C} {hist : History C} {n : Node C} (hr : Run host hist n)
    {s : Sid} {ss : SsGreynet C} (hss : n.transfers.reg.sid2ss s = some ss) :
    ∃ st ∈ hist, ∃ uuid, .asyncWrite ss.conn (generalMessage .sidrequest s uuid) ∈ st.out := by
  refine Runs.Run.invariant (I := fun hist n => ∀ s ss, n.transfers.reg.sid2ss s = some ss →
    ∃ st ∈ hist, ∃ uuid, .asyncWrite ss.conn (generalMessage .sidrequest s uuid) ∈ st.out)
    ?_ ?_ hr s ss hss
  · rintro n rfl s ss hss
    cases hss
  · intro hist n e n' out hr ih hok s ss hss
    -- what was registered before has its SIDREQUEST in the history already
    have hold : n.transfers.reg.sid2ss s = some ss → ∃ st ∈ hist ++ [⟨n, e, n', out⟩], ∃ uuid,
        .asyncWrite ss.conn (generalMessage .sidrequest s uuid) ∈ st.out := by
      intro h
      obtain ⟨st, hst, hout⟩ := ih s ss h
      exact ⟨st, List.mem_append_left _ hst, hout⟩
    have hs := (Run.transfers hr).sound
    -- what a step of the transfers registers it requests in that step
    have hnew : ∀ {t₀ : Transfers C} {te}, t₀.Sound → t₀.reg = n.transfers.reg →
        t₀.step te = .ok (n'.transfers, out) → ∃ st ∈ hist ++ [⟨n, e, n', out⟩], ∃ uuid,
          .asyncWrite ss.conn (generalMessage .sidrequest s uuid) ∈ st.out := by
      intro t₀ te hsound hreg ht
      rcases Transfers.registers hsound ht hss with hss | hout
      · exact hold (hreg ▸ hss)
      · exact ⟨_, List.mem_concat_self, hout⟩
    cases Run.carries hr hok with
    | apart ht => exact hold (ht ▸ hss)
    | steps te hte hstep => exact hnew hs rfl hstep
    | adapts conn msgp answer uuid he hgate hty hn => exact hold (by rwa [hn] at hss)
    | passes conn msgp url oid uuid he hgate hty ss' hss' hstep =>
      exact hnew (hs.adapted conn _) rfl hstep

end Node

end Greynet
