/-
  Songs, from one node to another.

  Nothing in the protocol says where in a song a part belongs, or whether any is missing: a SIDDATA
  message is a sid and some bytes, and the receiver appends what comes.  So that a song arrives as
  it was sent is left to the TCP connections, and to there being one transfer of it at a time.  A
  node that relays a song passes each part on as it comes, and keeps none.

  1. `Carried` — what one end of a connection has read is what the other has written, up to what is
     on the way and what was written to a connection already closed.
  2. `Run.solicits` — a part of a song comes in only after the song was asked for.
  3. `Hop` — one node asks another one; `Path` — that one passes the request on, and so on.
  4. `songs_arrive` — what an adaptor is given for a song is the beginning of what the adaptor at
     the other end of the path was given, and `songs_catch_up` — all of it when nothing is on the
     way.
  5. A song ends, for whoever receives it, with its first empty part.  `write_finish` sends one, but
     so does a `write_content` with an empty buffer, and then what follows is not delivered.
-/
import Greynet.Exchanges
import Greynet.Pieces

namespace Greynet

variable {C : Type} [LinearOrder C]

namespace World

variable {N : Type} [DecidableEq N] {S : Society N C} {w w' : World N C} {hist : History N C}
  {i j k : N} {c d : C}

/-! ## What a connection carries -/

/-- The messages that are none of the handshake.  An IDENT goes to the callback that waits for it at
    the gate, so no handler takes it in; all the others are read in the order they were written
    in. -/
def talk (ms : List Message) : List Message := ms.filter fun m => m.type ≠ .ident

/-- Where nothing has been read or written there is no talk either. -/
@[simp] theorem talk_nil : talk [] = [] := rfl

/-- Leaving the IDENT out of what is read and of what is still on the way is leaving it out of
    both. -/
theorem talk_append (ms ms' : List Message) : talk (ms ++ ms') = talk ms ++ talk ms' :=
  List.filter_append ..

/-- What the end `c` has read so far is what the end `d` has written, up to what is on the way; and
    nothing has been lost while `d` is open. -/
def Carried (hist : History N C) (w : World N C) : Prop :=
  ∀ i c j d, w.Joins i c j d → ∃ lost,
    talk (Node.written (hist.filterMap (part j)) d) =
      talk (Node.heardOn c (hist.filterMap (part i))) ++ talk (w.wire c) ++ lost ∧
    (d ∈ (w.node j).mesh.router.connections → lost = [])

/-- Taking a message off the wire: what was on the way before is what the node takes in now and what
    is left.  At the gate the only message that can come is the IDENT, which does not count. -/
theorem Acted.read {e : Node.Event C} {n : Node C} {acts : List (Action C)}
    {wire₀ : C → List Message} (h : Sane S w) (ha : Acted S w w' k e n acts wire₀)
    (hj : w.Joins i c j d) : talk (w.wire c) =
      talk (if k = i then (Node.takenIn c ⟨w.node i, e, w'.node i, acts⟩).toList else []) ++
        talk (wire₀ c) := by
  by_cases hrec : ∃ m answer uuid, e = .received c m answer uuid
  · obtain ⟨m, answer, uuid, rfl⟩ := hrec
    obtain ⟨hheld, hopen, hhead⟩ := ha.taken c m answer uuid rfl hj.mated
    rw [hj.here] at hheld
    obtain rfl := Option.some.inj hheld
    rw [if_pos rfl, hhead]
    rcases hcbs : ((w.node i).mesh.router.conn c).messageReceivedCbs with _ | ⟨incoming, cbs⟩
    · have htaken : Node.takenIn c ⟨w.node i, .received c m answer uuid, w'.node i, acts⟩ =
          some m := Node.takenIn_eq_some.mpr ⟨answer, uuid, rfl, hopen, hcbs⟩
      rw [htaken, ← talk_append]
      rfl
    · -- at the gate there is only the IDENT
      have htaken : Node.takenIn c ⟨w.node i, .received c m answer uuid, w'.node i, acts⟩ =
          none := by
        rw [Option.eq_none_iff_forall_ne_some]
        intro m' hm'
        obtain ⟨_, _, _, hgate⟩ := Node.takenIn_eq_some.mp hm'
        rw [hgate.callback] at hcbs
        cases hcbs
      have hexp : (w.node i).Expecting c incoming := ⟨hopen, by rw [hcbs]; rfl⟩
      have hident : m.type = .ident := ((h.flows i c j d hj).head (h.not_ready hexp)
        (fun hsh => hsh.2 hopen) hhead).type
      rw [htaken]
      show talk (m :: wire₀ c) = talk (wire₀ c)
      exact List.filter_cons_of_neg (by simp [hident])
  · have hwire := ha.others c fun m answer uuid he => hrec ⟨m, answer, uuid, he⟩
    have hnone : Node.takenIn c ⟨w.node i, e, w'.node i, acts⟩ = none := by
      rw [Option.eq_none_iff_forall_ne_some]
      intro m hm
      obtain ⟨answer, uuid, he, -⟩ := Node.takenIn_eq_some.mp hm
      exact hrec ⟨m, answer, uuid, he⟩
    rw [hnone, hwire]
    simp [talk]

/-- What is read on a connection after one more step is what was read before, and what that step
    takes in, if it is the node's. -/
theorem heardOn_part {st : Runs.Step (World N C) (Event N C) (N × Action C)} {e : Node.Event C}
    {acts : List (Action C)}
    (hpart : ∀ l, part l st = if k = l then some ⟨w.node l, e, w'.node l, acts⟩ else none) :
    Node.heardOn c ((hist ++ [st]).filterMap (part i)) =
      Node.heardOn c (hist.filterMap (part i)) ++
        if k = i then (Node.takenIn c ⟨w.node i, e, w'.node i, acts⟩).toList else [] := by
  have hmine := hpart i
  by_cases hk : k = i
  · rw [if_pos hk] at hmine ⊢
    rw [List.filterMap_append, List.filterMap_cons_some hmine, List.filterMap_nil,
      Node.heardOn_snoc]
  · rw [if_neg hk] at hmine ⊢
    rw [List.filterMap_append, List.filterMap_cons_none hmine, List.filterMap_nil, List.append_nil,
      List.append_nil]

/-- The same for what a node writes: a step adds what it writes on the connection, if it is the
    node's. -/
theorem written_part {st : Runs.Step (World N C) (Event N C) (N × Action C)} {e : Node.Event C}
    {acts : List (Action C)}
    (hpart : ∀ l, part l st = if k = l then some ⟨w.node l, e, w'.node l, acts⟩ else none) :
    Node.written ((hist ++ [st]).filterMap (part j)) d =
      Node.written (hist.filterMap (part j)) d ++ if k = j then sentOn d acts else [] := by
  have hmine := hpart j
  by_cases hk : k = j
  · rw [if_pos hk] at hmine ⊢
    rw [List.filterMap_append, List.filterMap_cons_some hmine, List.filterMap_nil,
      Node.written_snoc]
  · rw [if_neg hk] at hmine ⊢
    rw [List.filterMap_append, List.filterMap_cons_none hmine, List.filterMap_nil, List.append_nil,
      List.append_nil]

/-- At a step that is no node's nothing is read or written, so each node's own run is as it was. -/
theorem part_idle {st : Runs.Step (World N C) (Event N C) (N × Action C)}
    (hpart : part i st = none) :
    (hist ++ [st]).filterMap (part i) = hist.filterMap (part i) := by
  rw [List.filterMap_append, List.filterMap_cons_none hpart, List.filterMap_nil, List.append_nil]

/-- Making connections carries nothing.  On a new connection nobody has written or read yet, and the
    others are between the same two ends as before. -/
theorem Carried.extend (hr : Run S hist w) (hc : Carried hist w) (hx : Extends w w')
    {st : Runs.Step (World N C) (Event N C) (N × Action C)} (hpart : ∀ l, part l st = none) :
    Carried (hist ++ [st]) w' := by
  intro i c j d hj
  rw [part_idle (hpart j), part_idle (hpart i), hx.node, hx.wire]
  by_cases hnew : w.holder c = none
  · have hd := hx.fresh c d hnew hj.mate
    have hheard : Node.heardOn c (hist.filterMap (part i)) = [] := by
      refine List.eq_nil_iff_forall_not_mem.mpr fun m hm => ?_
      rw [(hr.delivered.heard i c m (Node.mem_heardOn.mp hm)).1] at hnew
      cases hnew
    refine ⟨[], ?_, fun _ => rfl⟩
    rw [hr.unwritten (hr.sane.fresh hd j), hheard, hr.sane.quiet c (hr.sane.held c hnew)]
    rfl
  · exact hc i c j d (hr.sane.joins_old hx hj hnew)

/-- **A node acts.**  What it takes off its end of the wire it has read; what it writes goes on the
    wire if the connection is open, and is lost if it is not, and then for good: a closed connection
    does not open again. -/
theorem Carried.acted (hr : Run S hist w) (hc : Carried hist w) {e : Node.Event C} {n : Node C}
    {acts : List (Action C)} {wire₀ : C → List Message} (ha : Acted S w w' k e n acts wire₀)
    {st : Runs.Step (World N C) (Event N C) (N × Action C)}
    (hpart : ∀ l, part l st = if k = l then some ⟨w.node l, e, w'.node l, acts⟩ else none) :
    Carried (hist ++ [st]) w' := by
  intro i c j d hj
  have h := hr.sane
  have hold := ha.joins.mp hj
  obtain ⟨lost, heq, hnone⟩ := hc i c j d hold
  have hread := ha.read h hold
  have hwire : w'.wire c = wire₀ c ++ w.post n acts c := by rw [ha.next]
  rw [heardOn_part hpart, written_part hpart, hwire]
  simp only [talk_append]
  rw [heq, hread]
  by_cases hk : k = j
  · subst hk
    rw [if_pos rfl, ha.node_self]
    by_cases hopen : d ∈ n.mesh.router.connections
    · have hpost : w.post n acts c = sentOn d acts := by
        simp only [post, hold.mate, Option.elim_some, List.contains_iff_mem, if_pos hopen]
      -- nothing was lost while it was open
      have hnil : lost = [] := by
        cases ha.on h d with
        | opened o me uuid he ho =>
          rw [hr.unwritten (Mesh.opens_some ho).1] at heq
          exact (List.append_eq_nil_iff.mp heq.symm).2
        | accepted msgp answer uuid name incoming he hexp => exact hnone hexp.isOpen
        | kept hconn hknown hstays => exact hnone (hstays hopen)
      refine ⟨[], ?_, fun _ => rfl⟩
      rw [hpost, hnil]
      simp only [List.append_assoc, List.append_nil]
    · have hpost : w.post n acts c = [] := by
        simp only [post, hold.mate, Option.elim_some, List.contains_iff_mem, if_neg hopen]
      refine ⟨lost ++ talk (sentOn d acts), ?_, fun hyes => absurd hyes hopen⟩
      rw [hpost]
      simp only [talk_nil, List.nil_append, List.append_assoc]
  · have hpost : w.post n acts c = [] := by
      have hopen : d ∉ n.mesh.router.connections := by
        intro hd
        obtain ⟨nhist, hn⟩ := h.runs k
        have hn' : Node.Run (S.host k) (nhist ++ [⟨w.node k, e, n, acts⟩]) n := .snoc hn ha.step
        have hheld := ha.known h (hn'.gated.known d hd)
        rw [hold.there] at hheld
        exact hk (Option.some.inj hheld).symm
      simp only [post, hold.mate, Option.elim_some, List.contains_iff_mem, if_neg hopen]
    rw [ha.node_ne fun he => hk he.symm]
    refine ⟨lost, ?_, hnone⟩
    rw [if_neg hk, hpost]
    simp only [talk_nil, List.append_nil, List.append_assoc]

/-- **A connection carries what is written on it, in order, up to some point**, in every run.  The
    point is where the writer's end was closed, and what comes after it is never read. -/
theorem Run.carried (hr : Run S hist w) : Carried hist w := by
  refine Runs.Run.invariant (I := Carried) ?_ ?_ hr
  · rintro w rfl i c j d hj
    cases hj.mate
  · intro hist w ev w' out hr hc hok
    have h : Sane S w := Run.sane hr
    rcases step_takes h hok with ⟨hnone, -, hsame⟩ | ⟨k, e, n, acts, wire₀, htakes, ha, hout⟩
    · have hpart := part_none (s := ⟨w, ev, w', out⟩) hnone
      rcases hsame with rfl | hx
      · intro i c j d hj
        rw [part_idle (hpart j), part_idle (hpart i)]
        exact hc i c j d hj
      · exact hc.extend hr hx hpart
    · exact hc.acted hr ha (part_some (s := ⟨w, ev, w', out⟩) htakes hout)

/-! ## When a song comes in

  What a receiving adaptor needs to know of its connection is that no part of the song comes before
  the request.  The handlers do not check it: a SIDDATA for a sid that is not registered is dropped,
  and one for a sid that is registered is taken.  Between nodes it holds, for they send what they
  were asked for. -/

/-- A connection stays between the two nodes it was made between: nothing takes an end away, or
    gives it to somebody else, not even when both of them have closed it. -/
theorem stays {w₀ : World N C} (hr : Runs.Run (step S) (· = w₀) hist w) (hc : w₀.holder c ≠ none) :
    w.holder c = w₀.holder c ∧ w.mate c = w₀.mate c := by
  refine hr.reachable.invariant (I := fun w => w.holder c = w₀.holder c ∧ w.mate c = w₀.mate c)
    ?_ ?_
  · rintro w rfl
    exact ⟨rfl, rfl⟩
  · intro w ev w' out hsame hok
    -- the connection is held still, so it is none of those that are made now
    have hheld : w.holder c ≠ none := by
      rw [hsame.1]
      exact hc
    cases step_does hok with
    | idle => exact hsame
    | cabled i j x y hne hx hy =>
      have hcx : c ≠ x := fun he => hheld (he ▸ hx)
      have hcy : c ≠ y := fun he => hheld (he ▸ hy)
      simp only [Function.update_of_ne hcx, Function.update_of_ne hcy]
      exact hsame
    | strange i x dials hx =>
      have hcx : c ≠ x := fun he => hheld (he ▸ hx)
      simp only [Function.update_of_ne hcx]
      exact hsame
    | acts => exact hsame
    | delivers => exact hsame

/-- A step of the node, as a step of the world: whatever came before it in the node's own run came
    before it in the world's. -/
theorem part_cut {h₁ h₂ : Node.History C} {pst : Runs.Step (Node C) (Node.Event C) (Action C)}
    (hcut : hist.filterMap (part i) = h₁ ++ pst :: h₂) :
    ∃ before st after, hist = before ++ st :: after ∧ before.filterMap (part i) = h₁ ∧
      part i st = some pst := by
  obtain ⟨l₁, l₂, rfl, hl₁, hl₂⟩ := List.filterMap_eq_append_iff.mp hcut
  obtain ⟨l₃, st, l₄, rfl, hnone, hst, -⟩ := List.filterMap_eq_cons_iff.mp hl₂
  refine ⟨l₁ ++ l₃, st, l₄, (List.append_assoc ..).symm, ?_, hst⟩
  rw [List.filterMap_append, hl₁, List.filterMap_eq_nil_iff.mpr hnone, List.append_nil]

/-- What a node has asked for, it has written; so a SIDREQUEST on the wire is one of its requests
    for that song. -/
theorem Wrote.requests (hr : Run S hist w) {r : Message} (h : Wrote hist i c r)
    (hty : r.type = .sidrequest) : c ∈ Node.requests r.payload (hist.filterMap (World.part i)) := by
  obtain ⟨h₁, pst, h₂, hhist, hin⟩ := h.part hr
  rw [hhist, Node.requests, List.mem_flatMap]
  exact ⟨pst, List.mem_append_right _ (List.mem_cons_self ..),
    Node.mem_requestsIn.mpr ⟨r, hin, hty, rfl⟩⟩

/-- No stranger sends the node a part of the song.  Strangers may still do anything else to it, and
    send it parts of other songs. -/
def Unfed (hist : History N C) (w : World N C) (i : N) (sid : Sid) : Prop :=
  ∀ c m, Heard hist i c m → m.type = .siddata → m.guid = sid → w.mate c ≠ none

/-- **A part of a song comes in after the song was asked for**, and where it was.  Whoever is at the
    other end has written it, and has written it because a SIDREQUEST had come in there; and that
    one was written here.  The connection is the one of the only request. -/
theorem Run.solicits (hr : Run S hist w) {sid : Sid} (hquiet : Unfed hist w i sid)
    (hone : Node.requests sid (hist.filterMap (World.part i)) = [c]) :
    Runs.Each (Node.Solicits c sid) (hist.filterMap (World.part i)) := by
  intro h₁ pst h₂ hcut c' m htaken hty hguid
  obtain ⟨before, st, after, rfl, hbefore, hpart⟩ := part_cut hcut
  obtain ⟨hr₁, hok, hr₂⟩ := hr.cut
  have hr₁ : Run S before st.pre := hr₁
  obtain ⟨answer, uuid, he, hgate⟩ := Node.takenIn_eq_some.mp htaken
  rcases step_takes hr₁.sane hok with ⟨hnone, -⟩ | ⟨k, e, n, acts, wire₀, htakes, ha, hout⟩
  · rw [part_none hnone] at hpart
    cases hpart
  · rw [part_some htakes hout] at hpart
    split at hpart
    · rename_i hk
      subst hk
      obtain rfl := Option.some.inj hpart
      have he : e = .received c' m answer uuid := he
      have hheld := hr₁.sane.known k c' (hr₁.sane.made hgate.isOpen)
      -- the connection has another end, then as now
      have hmate : st.pre.mate c' ≠ none := by
        have hheld' : st.pre.holder c' ≠ none := by
          rw [hheld]
          exact Option.some_ne_none k
        have hnow := hquiet c' m ⟨_, ?_, answer, uuid, he, hgate⟩ hty hguid
        · have hlast : Runs.Run (step S) (· = st.pre) ([st] ++ after) w :=
            (Runs.Run.one hok).append hr₂
          rwa [(stays hlast hheld').2] at hnow
        · rw [hcut]
          exact List.mem_append_right _ (List.mem_cons_self ..)
      obtain ⟨d, hd⟩ := Option.ne_none_iff_exists'.mp hmate
      obtain ⟨j, hj⟩ := hr₁.sane.joined hd hheld
      obtain ⟨-, -, hhead⟩ := ha.taken c' m answer uuid he hmate
      have hwrote : Wrote before j d m := by
        refine hr₁.delivered.wire k c' j d hj m ?_
        rw [hhead]
        exact List.mem_cons_self ..
      obtain ⟨r, hr', hrty, hpay⟩ := (hwrote.asked hr₁ hj).stream (by rw [hty]; rfl)
      have hreq := hr'.requests hr₁ hrty
      rw [hpay, hguid, hbefore] at hreq
      refine ⟨?_, fun hnil => by rw [hnil] at hreq; cases hreq⟩
      rw [hcut, Node.requests, List.flatMap_append] at hone
      have hmem : c' ∈ [c] := by
        rw [← hone]
        exact List.mem_append_left _ hreq
      exact List.mem_singleton.mp hmem
    · cases hpart

/-! ## From one adaptor to the other -/

/-- The parts of a song are none of the handshake, so to read off the parts it does not matter
    whether the IDENT has been left out before. -/
theorem pieces_talk (sid : Sid) (ms : List Message) : pieces sid (talk ms) = pieces sid ms := by
  rw [pieces, talk, List.filterMap_filter, pieces]
  refine List.filterMap_congr fun m _ => ?_
  by_cases hident : m.type = .ident
  · rw [piece_of_type (by rw [hident]; decide)]
    exact ite_self _
  · exact if_pos (by simpa using hident)

/-- What is read of a song is the beginning of what is written of it at the other end, in order,
    ... -/
theorem Run.pieces_carried (hr : Run S hist w) (hj : w.Joins i c j d) (sid : Sid) :
    pieces sid (Node.heardOn c (hist.filterMap (World.part i))) <+:
      pieces sid (Node.written (hist.filterMap (World.part j)) d) := by
  obtain ⟨lost, heq, -⟩ := hr.carried i c j d hj
  rw [← pieces_talk, ← pieces_talk sid (Node.written _ d), heq, pieces_append, pieces_append,
    List.append_assoc]
  exact List.prefix_append ..

/-- ... and all of it when nothing is on the way and the writer has not closed the connection. -/
theorem Run.pieces_delivered (hr : Run S hist w) (hj : w.Joins i c j d) (hwire : w.wire c = [])
    (hopen : d ∈ (w.node j).mesh.router.connections) (sid : Sid) :
    pieces sid (Node.heardOn c (hist.filterMap (World.part i))) =
      pieces sid (Node.written (hist.filterMap (World.part j)) d) := by
  obtain ⟨lost, heq, hnone⟩ := hr.carried i c j d hj
  rw [hwire, hnone hopen, talk_nil, List.append_nil, List.append_nil] at heq
  rw [← pieces_talk, ← pieces_talk sid (Node.written _ d), heq]

/-- A node that is asked for a song once has one adaptor for it at most.  `handle_sidrequest` makes
    one for each SIDREQUEST, and a request that is written once comes in once. -/
theorem Run.adaptors_once (hr : Run S hist w) (hj : w.Joins i c j d) {sid : Sid}
    (hone : Node.requests sid (hist.filterMap (World.part i)) = [c]) :
    (Transfers.fixed (w.node j).transfers.adaptors).count (d, sid) ≤ 1 := by
  have hback := hr.sane.swap hj
  have hmine : Node.Run (S.host j) (hist.filterMap (World.part j)) (w.node j) := Run.part hr j
  have htalk : ∀ ms : List Message,
      (talk ms).countP (Node.asksFor sid) = ms.countP (Node.asksFor sid) := by
    intro ms
    rw [talk, List.countP_filter]
    refine List.countP_congr fun m _ => ?_
    simp only [Node.asksFor, decide_eq_true_eq, Bool.and_eq_true]
    exact ⟨And.left, fun h => ⟨h, by rw [h.1]; decide⟩⟩
  obtain ⟨lost, heq, -⟩ := hr.carried j d i c hback
  have hwritten : (Node.written (hist.filterMap (World.part i)) c).countP (Node.asksFor sid) =
      1 := by
    rw [← Node.count_requests, hone]
    simp
  have hsum := congrArg (List.countP (Node.asksFor sid)) heq
  rw [htalk, hwritten, List.countP_append, List.countP_append, htalk] at hsum
  have hle := hmine.adaptors_le d sid
  omega

/-- What has been got is the beginning of what was sent, and whole, that is up to the first empty
    part and not beyond it, if that has come. -/
structure Arrives (sent got : List String) : Prop where
  begins : got <+: sent
  whole : "" ∈ got → Node.Ended got

/-- From hop to hop: the beginning of a beginning is one, and the end that counts is the receiver's
    own. -/
theorem Arrives.trans {sent passed got : List String} (h : Arrives sent passed)
    (h' : Arrives passed got) : Arrives sent got := ⟨h'.begins.trans h.begins, h'.whole⟩

/-- A node asks another one for a song, on a connection between them, and gives what comes to an
    adaptor. -/
structure Hop (N C : Type) where
  node : N
  conn : C
  peer : N
  /-- the connection at the other end -/
  back : C
  sid : Sid
  aa : AdaptorId

namespace Hop

/-- The song is asked for once, the adaptor is for this song, and no stranger sends any of it.  Each
    is needed: the receiver mixes the parts of two transfers with one sid, and those of two songs
    that are given to one adaptor. -/
structure Single (hist : History N C) (w : World N C) (h : Hop N C) : Prop where
  joins : w.Joins h.node h.conn h.peer h.back
  once : Node.requests h.sid (hist.filterMap (part h.node)) = [h.conn]
  own : Node.Dedicated h.aa h.sid (hist.filterMap (part h.node))
  unfed : Unfed hist w h.node h.sid

/-- What the adaptor has been given so far, part by part. -/
def got (hist : History N C) (h : Hop N C) : List String :=
  Node.fed h.aa (hist.filterMap (part h.node))

/-- The adaptor at the other end: the only one there that is for this song and this connection. -/
def Source (w : World N C) (h : Hop N C) (k : Nat) : Prop :=
  Transfers.Sole (Transfers.fixed (w.node h.peer).transfers.adaptors) h.back h.sid k

/-- What it has been given, by whoever calls its `write_content` and `write_finish`. -/
def sent (hist : History N C) (h : Hop N C) (k : Nat) : List String :=
  Node.given k (hist.filterMap (part h.peer))

variable {h h' : Hop N C}

/-- What comes in at the node for this song, as its own run has it: the hop's conditions are those
    of an adaptor that is fed from one connection. -/
theorem Single.incoming (hh : h.Single hist w) (hr : Run S hist w) :
    Node.Incoming h.aa h.conn h.sid (hist.filterMap (part h.node)) (w.node h.node) :=
  (hr.part h.node).incoming hh.own (by rw [hh.once]; exact Nat.le_refl 1)
    (hr.solicits hh.unfed hh.once)

/-- There is an adaptor at the other end, or nothing was sent: parts of a song are written by
    adaptors and nobody else. -/
theorem Single.source (hh : h.Single hist w) (hr : Run S hist w) : (∃ k, h.Source w k) ∨
    pieces h.sid (Node.written (hist.filterMap (part h.peer)) h.back) = [] := by
  by_cases hmem : (h.back, h.sid) ∈ Transfers.fixed (w.node h.peer).transfers.adaptors
  · exact Or.inl (Node.sole_of_count (hr.adaptors_once hh.joins hh.once) hmem)
  · exact Or.inr (((hr.part h.peer).outgoing h.back h.sid).none hmem)

/-- **From one adaptor to the other.**  What is given to the receiver's adaptor was read on the
    connection, so it was written at the other end, by the adaptor there, in the order that one was
    given it. -/
theorem Single.arrives (hh : h.Single hist w) (hr : Run S hist w) :
    h.got hist = [] ∨ ∃ k, h.Source w k ∧ Arrives (h.sent hist k) (h.got hist) := by
  have hin := hh.incoming hr
  have hbegins := hin.begins.trans (hr.pieces_carried hh.joins h.sid)
  rcases hh.source hr with ⟨k, hk⟩ | hnone
  · rw [((hr.part h.peer).outgoing h.back h.sid).sole k hk] at hbegins
    exact Or.inr ⟨k, hk, hbegins, hin.ended⟩
  · rw [hnone] at hbegins
    exact Or.inl (List.prefix_nil.mp hbegins)

/-- The peer of a hop asks another node in turn, and its transfer feeds the adaptor it has made for
    the hop; nobody else starts a transfer with that. -/
structure Linked (hist : History N C) (w : World N C) (h h' : Hop N C) (k : Nat) : Prop where
  node : h'.node = h.peer
  adaptor : h'.aa = .greynet k
  source : h.Source w k
  starts : ∀ st ∈ hist.filterMap (part h.peer), ∀ ss uuid,
    st.event ≠ .startReply ss (.greynet k) uuid

/-- What one hop has got is what the hop before it sends: the adaptor made for the hop is given what
    the relaying node's own transfer is given, and nothing else. -/
theorem Linked.sent_eq {k : Nat} (hl : Linked hist w h h' k) (hh : h'.Single hist w)
    (hr : Run S hist w) : h.sent hist k = h'.got hist := by
  have hown := hh.own.calls
  rw [hl.node, hl.adaptor] at hown
  rw [sent, (hr.part h.peer).given_eq hown hl.starts, got, hl.node, hl.adaptor]

/-- The transfer goes on, and all that was sent of the song has come in: it is still registered with
    its adaptor, nothing is on the way, and the connection is open at the sender's end. -/
structure CaughtUp (hist : History N C) (w : World N C) (h : Hop N C) : Prop where
  single : h.Single hist w
  registered : ∃ ss, (w.node h.node).transfers.reg.sid2ss h.sid = some ss ∧
    ((w.node h.node).transfers.ss ss).aa = some h.aa
  wire : w.wire h.conn = []
  isOpen : h.back ∈ (w.node h.peer).mesh.router.connections

/-- Then the adaptor has been given all that the one at the other end was given, if there is one
    there: what was written has been delivered, and what was delivered went to the adaptor.  Where
    the other node has made no adaptor for the song, nothing was sent. -/
theorem CaughtUp.arrived (hc : h.CaughtUp hist w) (hr : Run S hist w) :
    (∀ k, h.Source w k → h.got hist = h.sent hist k) ∧
    ((∀ k, ¬ h.Source w k) → h.got hist = []) := by
  obtain ⟨ss, hss, haa⟩ := hc.registered
  have hall := ((hc.single.incoming hr).all ss hss haa).1
  rw [hr.pieces_delivered hc.single.joins hc.wire hc.isOpen] at hall
  refine ⟨fun k hk => hall.trans (((hr.part h.peer).outgoing h.back h.sid).sole k hk), ?_⟩
  intro hno
  exact hall.trans ((hc.single.source hr).resolve_left fun ⟨k, hk⟩ => hno k hk)

/-- The nodes on the way of a song, from the one that wants it to the one that has it.  Each of the
    hops satisfies a condition, and each but the last is fed by the next. -/
inductive Path (ok : Hop N C → Prop) (hist : History N C) (w : World N C) :
    Hop N C → Hop N C → Prop
  | here (h : Hop N C) (hh : ok h) : Path ok hist w h h
  | more (h h' last : Hop N C) (k : Nat) (hh : ok h) (hl : Linked hist w h h' k)
      (hp : Path ok hist w h' last) : Path ok hist w h last

/-- The first hop of a path satisfies the condition, however long the path is. -/
theorem Path.first {ok : Hop N C → Prop} (hp : Path ok hist w h h') : ok h := by
  cases hp with
  | here _ hh => exact hh
  | more _ _ _ _ hh => exact hh

end Hop

/-- **A song arrives as it was sent, up to some point, over any number of nodes**: what the first
    adaptor is given is the beginning of what the last one was given.  No part is missing in
    between, none comes twice and none is another song's.  Once it is told the end, it has had every
    part there was before the last one's first empty part, for `write_finish` is an empty write; an
    empty buffer that somebody writes in the middle of a song ends it just as well. -/
theorem songs_arrive (S : Society N C) (hist : History N C) (w : World N C) (hr : Run S hist w)
    (first last : Hop N C) (hp : Hop.Path (fun h => h.Single hist w) hist w first last) :
    first.got hist = [] ∨
      ∃ k, last.Source w k ∧ Arrives (last.sent hist k) (first.got hist) := by
  induction hp with
  | here h hh => exact hh.arrives hr
  | more h h' last k hh hl hp ih =>
    rcases hh.arrives hr with hnone | ⟨k', hk', harrives⟩
    · exact Or.inl hnone
    · obtain rfl := hl.source.only k' hk'.here
      rw [hl.sent_eq hp.first hr] at harrives
      rcases ih with hnone | ⟨k, hk, hrest⟩
      · have hbegins := harrives.begins
        rw [hnone] at hbegins
        exact Or.inl (List.prefix_nil.mp hbegins)
      · exact Or.inr ⟨k, hk, hrest.trans harrives⟩

/-- **Nothing gets stuck on the way**: when the transfers go on and the connections between the
    nodes are empty, the first adaptor has been given all that the last one has, and nothing only
    where no node at the end of the path has the song.  Each hop has caught up with its own peer,
    and what that peer sends is what it has got itself; so the equations are joined hop by hop. -/
theorem songs_catch_up (S : Society N C) (hist : History N C) (w : World N C) (hr : Run S hist w)
    (first last : Hop N C) (hp : Hop.Path (fun h => h.CaughtUp hist w) hist w first last) :
    (∀ k, last.Source w k → first.got hist = last.sent hist k) ∧
    ((∀ k, ¬ last.Source w k) → first.got hist = []) := by
  induction hp with
  | here h hc => exact hc.arrived hr
  | more h h' last k hc hl hp ih =>
    have hgot : h.got hist = h'.got hist :=
      ((hc.arrived hr).1 k hl.source).trans (hl.sent_eq hp.first.single hr)
    rw [hgot]
    exact ih

/-! ## A song that comes back

  Alice asks Bob for a song that he has from her, under another sid; so the path has two hops, and
  what she gives her own adaptor comes back to her through him. -/

/-- Alice asks Bob for a song that he has from her.  He asks her for it in turn, and passes on to
    her what she sends him: one part, which crosses the wire twice. -/
def relaying : List (Event Side Nat) :=
  befriending ++ [.node .a (.startReply ⟨0, 0, "song"⟩ (.playdar 0) "u"),
    .deliver .b 1 (.greynet "greynet://alice;hers" 0) "v", .deliver .a 0 .other "x",
    .node .a (.adaptorCall (.greynet 0) (.writeContent "la")), .deliver .b 1 .nothing "",
    .deliver .b 1 .nothing "", .deliver .a 0 .nothing "", .deliver .a 0 .nothing ""]

/-- What has become of the world then. -/
def relayed : World Side Nat := Runs.after (step friends) empty relaying

/-- And the steps that led to it. -/
def relayedHist : History Side Nat := Runs.trace (step friends) empty relaying

/-- What she asks of him, for her playdar, ... -/
abbrev hers : Hop Side Nat := ⟨.a, 0, .b, 1, "song", .playdar 0⟩

/-- ... and he of her, for the adaptor that he has made for her request. -/
abbrev his : Hop Side Nat := ⟨.b, 1, .a, 0, "hers", .greynet 0⟩

/-- It is a run from the empty world. -/
theorem relayed_run : Run friends relayedHist relayed := Runs.run_trace relaying rfl

/-- The connections are the two ends of the one that Alice has dialled, ... -/
theorem relayed_joins : relayed.Joins .a 0 .b 1 := by
  have hall : relayed.mate 0 = some 1 ∧ relayed.holder 0 = some .a ∧
      relayed.holder 1 = some .b := by
    decide +kernel
  exact ⟨hall.1, hall.2.1, hall.2.2⟩

/-- ... nothing is on the way, both ends are open, and both transfers go on with their adaptors,
    ... -/
theorem relayed_facts : (relayed.wire hers.conn = [] ∧ relayed.wire his.conn = []) ∧
    (his.back ∈ (relayed.node his.peer).mesh.router.connections ∧
      hers.back ∈ (relayed.node hers.peer).mesh.router.connections) ∧
    ((relayed.node hers.node).transfers.reg.sid2ss hers.sid = some ⟨0, 0, "song"⟩ ∧
      ((relayed.node hers.node).transfers.ss ⟨0, 0, "song"⟩).aa = some hers.aa) ∧
    ((relayed.node his.node).transfers.reg.sid2ss his.sid = some ⟨0, 1, "hers"⟩ ∧
      ((relayed.node his.node).transfers.ss ⟨0, 1, "hers"⟩).aa = some his.aa) ∧
    Transfers.fixed (relayed.node hers.peer).transfers.adaptors = [(1, "song")] := by
  decide +kernel

/-- ... and in the run each has asked for its song once and given it to one adaptor. -/
theorem relayed_history : hers.got relayedHist = ["la"] ∧
    (Node.requests "song" (relayedHist.filterMap (part .a)) = [0] ∧
      (relayedHist.filterMap (part .a)).all (Node.serves (friendHost .a) (.playdar 0) "song")) ∧
    Node.requests "hers" (relayedHist.filterMap (part .b)) = [1] ∧
    (relayedHist.filterMap (part .b)).all (Node.serves (friendHost .b) (.greynet 0) "hers") := by
  decide +kernel

/-- There are no strangers, for either has one connection and it has another end. -/
theorem relayed_unfed (i : Side) (sid : Sid) : Unfed relayedHist relayed i sid := by
  intro c m hin _ _
  have halone : Alone relayedHist := by
    intro st hst i c dials he
    have hev := Runs.mem_of_event hst he
    simp [relaying, befriending, dialling] at hev
  refine relayed_run.mated halone ?_
  rw [(relayed_run.delivered.heard i c m hin).1]
  exact Option.some_ne_none _

/-- So her hop is one transfer of the song, ... -/
theorem hers_single : hers.Single relayedHist relayed where
  joins := relayed_joins
  once := relayed_history.2.1.1
  own := (relayed_run.part .a).dedicated_of_serves relayed_history.2.1.2
  unfed := relayed_unfed _ _

/-- ... and so is his, which has the connection the other way round. -/
theorem his_single : his.Single relayedHist relayed where
  joins := relayed_run.sane.swap relayed_joins
  once := relayed_history.2.2.1
  own := (relayed_run.part .b).dedicated_of_serves relayed_history.2.2.2
  unfed := relayed_unfed _ _

/-- Nothing is on the way to her, ... -/
theorem hers_caughtUp : hers.CaughtUp relayedHist relayed where
  single := hers_single
  registered := ⟨⟨0, 0, "song"⟩, relayed_facts.2.2.1⟩
  wire := relayed_facts.1.1
  isOpen := relayed_facts.2.1.2

/-- ... nor to him. -/
theorem his_caughtUp : his.CaughtUp relayedHist relayed where
  single := his_single
  registered := ⟨⟨0, 1, "hers"⟩, relayed_facts.2.2.2.1⟩
  wire := relayed_facts.1.2
  isOpen := relayed_facts.2.1.1

/-- What he is given he passes on: his transfer feeds the adaptor of hers. -/
theorem relayed_linked : Hop.Linked relayedHist relayed hers his 0 where
  node := rfl
  adaptor := rfl
  source := by
    rw [Hop.Source, relayed_facts.2.2.2.2]
    refine ⟨rfl, fun i hi => ?_⟩
    cases i with
    | zero => rfl
    | succ i => cases hi
  starts := by
    -- Bob's playdar starts nothing
    intro st hst ss uuid he
    obtain ⟨st', hst', hpart⟩ := List.mem_filterMap.mp hst
    have hev := event_of_part hpart fun c m answer uuid' he' => by
      rw [he] at he'
      cases he'
    rw [he] at hev
    have hin := Runs.mem_of_event hst' hev
    simp [relaying, befriending, dialling] at hin

/-- What she is given is the beginning of what the adaptor at the far end, which is her own, was
    given. -/
theorem songs_relayed : ∃ k, his.Source relayed k ∧ Arrives (his.sent relayedHist k) ["la"] := by
  have harrive := songs_arrive friends _ _ relayed_run hers his
    (.more _ _ _ 0 hers_single relayed_linked (.here _ his_single))
  rw [relayed_history.1] at harrive
  exact harrive.resolve_left (List.cons_ne_nil _ _)

/-- And it is all of it: there is somebody who has the song, or she would have been given
    nothing. -/
theorem songs_relayed_all : ∃ k, his.Source relayed k ∧ ["la"] = his.sent relayedHist k := by
  obtain ⟨hall, hnone⟩ := songs_catch_up friends _ _ relayed_run hers his
    (.more _ _ _ 0 hers_caughtUp relayed_linked (.here _ his_caughtUp))
  rw [relayed_history.1] at hall hnone
  have hsource : ∃ k, his.Source relayed k := by
    by_contra hno
    exact List.cons_ne_nil _ _ (hnone fun k hk => hno ⟨k, hk⟩)
  obtain ⟨k, hk⟩ := hsource
  exact ⟨k, hk, hall k hk⟩

end World

end Greynet
