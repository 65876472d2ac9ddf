/-
  Answers between nodes.

  Seen from one of the nodes, what happens in a world is a run of the plugin, so all that is proved
  of one node holds of each.  What is new is that on a connection between two nodes nothing comes
  in but what the other one has written.  A node cannot tell a result or a piece of a song that it
  has asked for from any other: the one goes by a query id, the other by a sid, and nobody looks
  where they come from.  Between nodes there are no others.

  1. `part`, `Run.part` — a run of the world, seen from one node.
  2. `Wrote`, `Delivered` — what is on the way, and what has come in, has been written by the node
     at the other end.
  3. `answers_were_asked` — every answer on the way was asked for, on that connection.
  4. `nobody_stops` — without strangers, no QUERYSTOP comes in anywhere and no query is stopped.
  5. `songs_from_their_peers` — without strangers, a song comes from the node it was asked of, if it
     was asked of one only.
-/
import Greynet.Carriage
import Greynet.Closed

namespace Greynet

variable {C : Type} [LinearOrder C]

namespace Node

/-- The queries are told of a message only where the connection is open and past the gate. -/
theorem pastGate_of_queryEvent {n : Node C} {c : C} {m : Message} {answer : SsAnswer}
    {uuid : String} {qe : Queries.Event C}
    (h : n.queryEvent (.received c m answer uuid) = some qe) : n.PastGate c := by
  rw [queryEvent] at h
  split at h
  · rename_i hgate
    exact ⟨hgate.1, hgate.2⟩
  · cases h

/-- **A node to which no QUERYSTOP comes stops no query**: each one starts out running, and nothing
    but `handle_querystop` calls `stop()` on it. -/
theorem Run.running {host : Host C} {hist : History C} {n : Node C} (hr : Run host hist n)
    (hfree : ∀ c m, Heard hist c m → m.type ≠ .querystop) {qid : Qid} {x : Query}
    (hx : n.queries.queries qid = some x) : x.stopped = false := by
  refine Runs.Run.invariant (I := fun hist n => (∀ c m, Heard hist c m → m.type ≠ .querystop) →
    ∀ qid x, n.queries.queries qid = some x → x.stopped = false) ?_ ?_ hr hfree qid x hx
  · rintro n rfl - qid x hx
    cases hx
  · intro hist n e n' out _ ih hok hfree qid x' hx'
    have hold := ih fun c m hm => hfree c m hm.mono
    rcases step_queries hok with ⟨-, hsame⟩ | ⟨qe, out', hqe, hq⟩
    · rw [hsame] at hx'
      exact hold qid x' hx'
    · cases Queries.came_of_effect (Queries.step_effect hq) hx' with
      | kept x hx hl hstop =>
        rw [← Bool.not_eq_true]
        intro hstopped
        rcases hstop hstopped with hbefore | ⟨r, conn, msgp, rfl, hty, -, -⟩
        · rw [hold qid x hx] at hbefore
          cases hbefore
        · -- the stop that did it has come in past the gate
          obtain ⟨-, -, answer, uuid, rfl⟩ := seenAs_of_queryEvent hqe
          exact hfree conn msgp (heard_last (pastGate_of_queryEvent hqe)) hty
      | received r conn msgp rq he ht hrq hid hnew heq => rw [heq]
      | started rq he hid hnew heq => rw [heq]

end Node

namespace World

variable {N : Type} [DecidableEq N]

/-! ## A run, seen from one node

  A step of the world is one of a single node, or it makes a connection, which no node notices.  So
  what is left of a run when the steps of the others are taken out is a run of that node. -/

/-- The node that takes an event at a step of the world, and the event. -/
def takes (w : World N C) : Event N C → Option (N × Node.Event C)
  | .node i e => if w.permits i e then some (i, e) else none
  | .deliver i c answer uuid =>
    if w.holder c = some i ∧ (w.node i).mesh.router.connections.contains c then
      (w.wire c).head?.map fun m => (i, .received c m answer uuid)
    else none
  | _ => none

/-- A step of the world as a step of the node `k`, if it is one. -/
def part (k : N) (st : Runs.Step (World N C) (Event N C) (N × Action C)) :
    Option (Runs.Step (Node C) (Node.Event C) (Action C)) :=
  ((st.pre.takes st.event).filter fun x => x.1 = k).map fun x =>
    ⟨st.pre.node k, x.2, st.post.node k, st.out.map Prod.snd⟩

variable {S : Society N C} {w w' : World N C} {hist : History N C} {i j k : N} {c d : C}

/-- **A step of the world is one of a node**, or makes connections, or changes nothing. -/
theorem step_takes {ev : Event N C} {out : List (N × Action C)} (h : Sane S w)
    (hok : step S w ev = .ok (w', out)) :
    (w.takes ev = none ∧ out = [] ∧ (w' = w ∨ Extends w w')) ∨
    ∃ i e n acts wire₀, w.takes ev = some (i, e) ∧ Acted S w w' i e n acts wire₀ ∧
      out = acts.map fun a => (i, a) := by
  -- an event that cannot happen yet: nobody takes anything
  have hidle : Except.ok (w, []) = Except.ok (ε := Fault) (w', out) → w.takes ev = none →
      (w.takes ev = none ∧ out = [] ∧ (w' = w ∨ Extends w w')) := by
    intro hx hnone
    obtain ⟨rfl, rfl⟩ := Prod.mk.inj (Except.ok.inj hx)
    exact ⟨hnone, rfl, Or.inl rfl⟩
  cases ev with
  | cable i j c d =>
    simp only [step] at hok
    split at hok
    · rename_i hnew
      obtain ⟨rfl, rfl⟩ := Prod.mk.inj (Except.ok.inj hok)
      exact Or.inl ⟨rfl, rfl, Or.inr (h.extends_cable i j hnew.1 hnew.2.1 hnew.2.2)⟩
    · exact Or.inl (hidle hok rfl)
  | stranger i c dials =>
    simp only [step] at hok
    split at hok
    · rename_i hnew
      obtain ⟨rfl, rfl⟩ := Prod.mk.inj (Except.ok.inj hok)
      exact Or.inl ⟨rfl, rfl, Or.inr (h.extends_stranger i dials hnew)⟩
    · exact Or.inl (hidle hok rfl)
  | node i e =>
    simp only [step] at hok
    split at hok
    · rename_i hperm
      unfold act at hok
      split at hok
      · cases hok
      · rename_i n acts hs
        obtain ⟨rfl, rfl⟩ := Prod.mk.inj (Except.ok.inj hok)
        exact Or.inr ⟨i, e, n, acts, _, if_pos hperm, acted_acts hperm hs, rfl⟩
    · rename_i hperm
      exact Or.inl (hidle hok (if_neg hperm))
  | deliver i c answer uuid =>
    simp only [step] at hok
    split at hok
    · rename_i hopen
      split at hok
      · rename_i m rest hwire
        unfold act at hok
        split at hok
        · cases hok
        · rename_i n acts hs
          obtain ⟨rfl, rfl⟩ := Prod.mk.inj (Except.ok.inj hok)
          -- the message taken is the first on the way, which is what `takes` looks up
          have htakes : w.takes (.deliver i c answer uuid) =
              some (i, .received c m answer uuid) := by
            rw [takes, if_pos hopen, hwire]
            rfl
          exact Or.inr ⟨i, _, n, acts, _, htakes,
            acted_delivers hopen.1 (List.contains_iff_mem.mp hopen.2) hwire hs, rfl⟩
      · rename_i hwire
        refine Or.inl (hidle hok ?_)
        rw [takes, if_pos hopen, hwire]
        rfl
    · rename_i hopen
      exact Or.inl (hidle hok (if_neg hopen))

omit [LinearOrder C] [DecidableEq N] in
/-- The actions of a step are labelled with the node; without the labels they are what it did. -/
theorem map_snd (i : N) (acts : List (Action C)) :
    (acts.map fun a => (i, a)).map Prod.snd = acts := by
  rw [List.map_map]
  exact List.map_id acts

/-- At a step where no node takes anything, none has a part. -/
theorem part_none {s : Runs.Step (World N C) (Event N C) (N × Action C)}
    (h : s.pre.takes s.event = none) (k : N) : part k s = none := by
  rw [part, h]
  rfl

/-- At a step where one does, it alone has, and its part is its own step. -/
theorem part_some {e : Node.Event C} {acts : List (Action C)}
    {s : Runs.Step (World N C) (Event N C) (N × Action C)}
    (h : s.pre.takes s.event = some (i, e)) (hout : s.out = acts.map fun a => (i, a)) (k : N) :
    part k s = if i = k then some ⟨s.pre.node k, e, s.post.node k, acts⟩ else none := by
  rw [part, h, hout, map_snd]
  by_cases hk : i = k
  · rw [if_pos hk, Option.filter_some, if_pos (decide_eq_true hk)]
    rfl
  · rw [if_neg hk, Option.filter_some, if_neg (by simpa using hk)]
    rfl

/-- What a node takes is an event of its own, or the next message from another node.  A message on a
    connection with two ends is never an event of its own. -/
theorem takes_some {ev : Event N C} {e : Node.Event C} (h : w.takes ev = some (i, e)) :
    (ev = .node i e ∧ w.permits i e = true) ∨
    ∃ c m rest answer uuid, ev = .deliver i c answer uuid ∧ e = .received c m answer uuid ∧
      w.holder c = some i ∧ w.wire c = m :: rest := by
  cases ev with
  | node j e' =>
    rw [takes] at h
    split at h
    · rename_i hperm
      obtain ⟨rfl, rfl⟩ := Prod.mk.inj (Option.some.inj h)
      exact Or.inl ⟨rfl, hperm⟩
    · cases h
  -- the connection is open and held by that node, and the message is the first on its wire
  | deliver j c answer uuid =>
    rw [takes] at h
    split at h
    · rename_i hopen
      obtain ⟨m, hhead, hm⟩ := Option.map_eq_some_iff.mp h
      obtain ⟨rfl, rfl⟩ := Prod.mk.inj hm
      obtain ⟨rest, hwire⟩ := List.head?_eq_some_iff.mp hhead
      exact Or.inr ⟨c, m, rest, answer, uuid, rfl, rfl, hopen.1, hwire⟩
    · cases h
  | cable i j c d => cases h
  | stranger i c dials => cases h

/-- What a node does by itself is an event of the world under its name; only a message can have come
    from another node. -/
theorem event_of_part {st : Runs.Step (World N C) (Event N C) (N × Action C)}
    {pst : Runs.Step (Node C) (Node.Event C) (Action C)} (hpart : part k st = some pst)
    (hown : ∀ c m answer uuid, pst.event ≠ .received c m answer uuid) :
    st.event = .node k pst.event := by
  rw [part, Option.map_eq_some_iff] at hpart
  obtain ⟨⟨i, e⟩, hx, rfl⟩ := hpart
  obtain ⟨htakes, hk⟩ := Option.filter_eq_some_iff.mp hx
  obtain rfl : i = k := by simpa using hk
  rcases takes_some htakes with ⟨hev, -⟩ | ⟨c, m, rest, answer, uuid, -, he, -⟩
  · exact hev
  · exact absurd he (hown c m answer uuid)

/-- **Seen from one node, a run of the world is a run of the node.** -/
theorem Run.part (hr : Run S hist w) (k : N) :
    Node.Run (S.host k) (hist.filterMap (World.part k)) (w.node k) := by
  refine Runs.Run.project (f := fun w => w.node k) ?_ ?_ hr
  · rintro w rfl
    rfl
  · rintro w ev w' out ⟨hist, hr⟩ hok
    rcases step_takes (Run.sane hr) hok with ⟨hnone, -, hsame⟩ |
      ⟨i, e, n, acts, wire₀, htakes, ha, hout⟩
    · refine Or.inl ⟨part_none hnone k, ?_⟩
      rcases hsame with rfl | hx
      · rfl
      · rw [hx.node]
    · have hpart := part_some (s := ⟨w, ev, w', out⟩) htakes hout k
      by_cases hk : i = k
      · subst hk
        rw [if_pos rfl] at hpart
        refine Or.inr ⟨e, acts, hpart, ?_⟩
        rw [ha.node_self]
        exact ha.step
      · rw [if_neg hk] at hpart
        exact Or.inl ⟨hpart, ha.node_ne fun he => hk he.symm⟩

/-! ## Who has written what comes in -/

/-- The node has written the message on the connection, at some step so far.  Whether the other end
    has it yet, or ever will, is another matter. -/
def Wrote (hist : History N C) (i : N) (c : C) (m : Message) : Prop :=
  ∃ st ∈ hist, (i, Action.asyncWrite c m) ∈ st.out

/-- The message has come in at the node on the connection, past the gate, so it is handed to
    `message_received`. -/
def Heard (hist : History N C) (i : N) (c : C) (m : Message) : Prop :=
  Node.Heard (hist.filterMap (part i)) c m

omit [DecidableEq N] in
/-- What has been written stays written, however the run goes on. -/
theorem Wrote.mono {m : Message} (h : Wrote hist i c m) (hist' : History N C) :
    Wrote (hist ++ hist') i c m := by
  obtain ⟨st, hst, hin⟩ := h
  exact ⟨st, List.mem_append_left _ hst, hin⟩

/-- At a step that is none of the node's nothing comes in there. -/
theorem heard_idle {st : Runs.Step (World N C) (Event N C) (N × Action C)} {m : Message}
    (hpart : part i st = none) : Heard (hist ++ [st]) i c m ↔ Heard hist i c m := by
  rw [Heard, List.filterMap_append, List.filterMap_cons_none hpart, List.filterMap_nil,
    List.append_nil, Heard]

/-- At one of its steps, what comes in is the message it takes, if the connection is past the
    gate. -/
theorem heard_part {st : Runs.Step (World N C) (Event N C) (N × Action C)}
    {pst : Runs.Step (Node C) (Node.Event C) (Action C)} {m : Message}
    (hpart : part i st = some pst) (h : Heard (hist ++ [st]) i c m) :
    Heard hist i c m ∨ ∃ answer uuid, pst.event = .received c m answer uuid ∧
      pst.pre.PastGate c := by
  rw [Heard, List.filterMap_append, List.filterMap_cons_some hpart, List.filterMap_nil] at h
  obtain ⟨st', hst', answer, uuid, he, hgate⟩ := h
  rcases List.mem_append.mp hst' with hst' | hst'
  · exact Or.inl ⟨st', hst', answer, uuid, he, hgate⟩
  · obtain rfl := List.mem_singleton.mp hst'
    exact Or.inr ⟨answer, uuid, he, hgate⟩

/-- **What is on the way to a node, and what has come in there**, was written by the node at the
    other end, if there is one. -/
structure Delivered (hist : History N C) (w : World N C) : Prop where
  wire : ∀ i c j d, w.Joins i c j d → ∀ m ∈ w.wire c, Wrote hist j d m
  heard : ∀ i c m, Heard hist i c m →
    w.holder c = some i ∧ ∀ j d, w.Joins i c j d → Wrote hist j d m

omit [DecidableEq N] in
/-- A connection between two nodes has another end. -/
theorem Joins.mated (hj : w.Joins i c j d) : w.mate c ≠ none := by
  rw [hj.mate]
  exact Option.some_ne_none d

/-- Making connections delivers nothing: the new ones are empty, and the others are as before. -/
theorem Delivered.extend (h : Sane S w) (hd : Delivered hist w)
    (hx : Extends w w') {st : Runs.Step (World N C) (Event N C) (N × Action C)}
    (hpart : ∀ k, part k st = none) : Delivered (hist ++ [st]) w' := by
  refine ⟨fun i c j d hj m hm => ?_, fun i c m hin => ?_⟩
  · rw [hx.wire] at hm
    by_cases hc : w.holder c = none
    · rw [h.quiet c (h.held c hc)] at hm
      cases hm
    · exact (hd.wire i c j d (h.joins_old hx hj hc) m hm).mono [st]
  · obtain ⟨hheld, hwrote⟩ := hd.heard i c m ((heard_idle (hpart i)).mp hin)
    have hc : w.holder c ≠ none := by
      rw [hheld]
      exact Option.some_ne_none i
    refine ⟨(hx.keeps c hc).1.trans hheld, fun j d hj => ?_⟩
    exact (hwrote j d (h.joins_old hx hj hc)).mono [st]

/-- A node acts.  What it takes was on the way, so it was written; what it writes is on the way now
    and was written at this very step. -/
theorem Delivered.acted {e : Node.Event C} {n : Node C} {acts : List (Action C)}
    {wire₀ : C → List Message} (h : Sane S w) (hd : Delivered hist w)
    (ha : Acted S w w' k e n acts wire₀)
    {st : Runs.Step (World N C) (Event N C) (N × Action C)}
    (hpart : ∀ l, part l st = if k = l then some ⟨w.node l, e, w'.node l, acts⟩ else none)
    (hout : st.out = acts.map fun a => (k, a)) : Delivered (hist ++ [st]) w' := by
  have hholder : w'.holder = w.holder := by rw [ha.next]
  have hwire : w'.wire = fun c => wire₀ c ++ w.post n acts c := by rw [ha.next]
  refine ⟨fun i c j d hj m hm => ?_, fun i c m hin => ?_⟩
  · have hold := ha.joins.mp hj
    rw [hwire] at hm
    rcases List.mem_append.mp hm with hm | hm
    · exact (hd.wire i c j d hold m (ha.left hold.mated hm)).mono [st]
    · obtain ⟨hheld, hsent⟩ := ha.posted h hold.mate hm
      rw [hold.there] at hheld
      obtain rfl := Option.some.inj hheld
      refine ⟨st, List.mem_concat_self, ?_⟩
      rw [hout]
      exact List.mem_map_of_mem (Node.mem_sentOn.mp hsent)
  · rw [hholder]
    have hold : Heard hist i c m → w.holder c = some i ∧
        ∀ j d, w'.Joins i c j d → Wrote (hist ++ [st]) j d m := by
      intro hin
      obtain ⟨hheld, hwrote⟩ := hd.heard i c m hin
      exact ⟨hheld, fun j d hj => (hwrote j d (ha.joins.mp hj)).mono [st]⟩
    by_cases hk : k = i
    · subst hk
      have hmine := hpart k
      rw [if_pos rfl] at hmine
      rcases heard_part hmine hin with hin | ⟨answer, uuid, he, hgate⟩
      · exact hold hin
      · -- it has just been taken off the wire
        refine ⟨h.known k c (h.made hgate.isOpen), fun j d hj => ?_⟩
        have hj' := ha.joins.mp hj
        obtain ⟨-, -, hhead⟩ := ha.taken c m answer uuid he hj'.mated
        refine (hd.wire k c j d hj' m ?_).mono [st]
        rw [hhead]
        exact List.mem_cons_self ..
    · have hother := hpart i
      rw [if_neg hk] at hother
      exact hold ((heard_idle hother).mp hin)

/-- In the empty world nothing is on the way, and each step keeps it so. -/
theorem Run.delivered (hr : Run S hist w) : Delivered hist w := by
  refine Runs.Run.invariant (I := Delivered) ?_ ?_ hr
  · rintro w rfl
    refine ⟨fun i c j d hj => (by cases hj.mate), fun i c m hin => ?_⟩
    obtain ⟨st, hst, -⟩ := hin
    cases hst
  · intro hist w ev w' out hr hd hok
    have h : Sane S w := Run.sane hr
    rcases step_takes h hok with ⟨hnone, -, hsame⟩ | ⟨k, e, n, acts, wire₀, htakes, ha, hout⟩
    · have hpart := part_none (s := ⟨w, ev, w', out⟩) hnone
      rcases hsame with rfl | hx
      · exact ⟨fun i c j d hj m hm => (hd.wire i c j d hj m hm).mono _,
          fun i c m hin => (hd.heard i c m ((heard_idle (hpart i)).mp hin)).imp_right
            fun hwrote j d hj => (hwrote j d hj).mono _⟩
      · exact hd.extend h hx hpart
    · exact hd.acted h ha (part_some (s := ⟨w, ev, w', out⟩) htakes hout) hout

/-! ## Answers -/

/-- An answer that the node `j` has given is one the node `i` has asked for. -/
structure Asked (S : Society N C) (hist : History N C) (i : N) (c : C) (j : N) (m : Message) :
    Prop where
  /-- a result, by a QUERY with that id -/
  result : m.type = .queryresult → ∃ q rq it uuid, Wrote hist i c q ∧ q.type = .query ∧
    Queries.decodeQuery (S.host j).js (S.host j).playdar q = some rq ∧
    m = queryResultMessage (S.host j).js rq.id it uuid
  /-- a part of a song, by a SIDREQUEST for that song -/
  stream : m.type.isStream = true →
    ∃ r, Wrote hist i c r ∧ r.type = .sidrequest ∧ r.payload = m.guid

/-- What a node has written, it has written at one of its own steps, and its run goes up to that
    step. -/
theorem Wrote.part {m : Message} (hr : Run S hist w) (h : Wrote hist i c m) :
    ∃ h₁ pst h₂, hist.filterMap (World.part i) = h₁ ++ pst :: h₂ ∧
      .asyncWrite c m ∈ pst.out := by
  obtain ⟨st, hst, hin⟩ := h
  obtain ⟨h₁, h₂, rfl⟩ := List.append_of_mem hst
  obtain ⟨hr₁, hok, -⟩ := hr.cut
  rcases step_takes (Run.sane hr₁) hok with ⟨-, hnil, -⟩ |
    ⟨k, e, n, acts, wire₀, htakes, -, hout⟩
  · rw [hnil] at hin
    cases hin
  · rw [hout] at hin
    obtain ⟨a, ha, heq⟩ := List.mem_map.mp hin
    obtain ⟨rfl, rfl⟩ := Prod.mk.inj heq
    have hpart := part_some (s := st) htakes hout k
    rw [if_pos rfl] at hpart
    refine ⟨h₁.filterMap (World.part k), ⟨st.pre.node k, e, st.post.node k, acts⟩,
      h₂.filterMap (World.part k), ?_, ha⟩
    rw [List.filterMap_append, List.filterMap_cons_some hpart]

/-- Nobody has written on a connection not made yet: what is written goes to connections the router
    knows. -/
theorem Run.unwritten (hr : Run S hist w) (hd : d ∉ (w.node j).mesh.router.known) :
    Node.written (hist.filterMap (World.part j)) d = [] := by
  have hrun : Node.Run (S.host j) (hist.filterMap (World.part j)) (w.node j) := Run.part hr j
  exact (hrun.spoken d).unmade hd

/-- It is among what the node has written on the connection, in its own run. -/
theorem Wrote.written {m : Message} (hr : Run S hist w) (h : Wrote hist i c m) :
    m ∈ Node.written (hist.filterMap (World.part i)) c := by
  obtain ⟨h₁, pst, h₂, hhist, hin⟩ := h.part hr
  rw [hhist, Node.written, List.mem_flatMap]
  exact ⟨pst, List.mem_append_right _ (List.mem_cons_self ..), Node.mem_sentOn.mpr hin⟩

/-- Whoever has written on a connection has made it, by dialling or by accepting. -/
theorem Wrote.known {m : Message} (hr : Run S hist w) (h : Wrote hist i c m) :
    c ∈ (w.node i).mesh.router.known := by
  by_contra hno
  have hmem := h.written hr
  rw [hr.unwritten hno] at hmem
  cases hmem

/-- The first to ask for a query has sent the QUERY itself, and it has come in here. -/
theorem heard_of_firstAsked {host : Host C} {nhist : Node.History C} {n : Node C} {qid : Qid}
    (hr : Node.Run host nhist n) (h : Node.FirstAsked host nhist qid c) :
    ∃ q rq, Node.Heard nhist c q ∧ q.type = .query ∧
      Queries.decodeQuery host.js host.playdar q = some rq ∧ rq.id = qid := by
  obtain ⟨h₁, st, h₂, rfl, ⟨q, answer, uuid, he, hasks, hdisp⟩, -⟩ := h
  rw [Queries.asks, decide_eq_true_eq, Option.map_eq_some_iff] at hasks
  obtain ⟨hty, rq, hdec, hid⟩ := hasks
  refine ⟨q, rq, ⟨st, List.mem_append_right _ (List.mem_cons_self ..), answer, uuid, he, ?_⟩, hty,
    hdec, hid⟩
  -- only what is past the gate is dispatched
  obtain ⟨hr₁, hok, -⟩ := hr.cut
  have hr₁ : Node.Run host h₁ st.pre := hr₁
  rw [he] at hok
  rcases Node.step_forQueries hr₁.transfers.sound hok with ⟨-, -, hout⟩ | ⟨qe, -, hqe, -⟩
  · exact absurd hdisp (Node.not_mem_of_ofQueries hout rfl)
  · exact Node.pastGate_of_queryEvent hqe

/-- **Whatever answers a node writes to another one, that one has asked for.**  A result goes to the
    connection the query came from, and a part of a song to the one its SIDREQUEST came from; and
    what came in there was written at the other end. -/
theorem Wrote.asked {m : Message} (hr : Run S hist w) (hj : w.Joins i c j d)
    (hw : Wrote hist j d m) : Asked S hist i c j m := by
  have hdel := hr.delivered
  have hback := hr.sane.swap hj
  obtain ⟨h₁, pst, h₂, hhist, hin⟩ := hw.part hr
  have hrun : Node.Run (S.host j) (hist.filterMap (World.part j)) (w.node j) := Run.part hr j
  rw [hhist] at hrun
  obtain ⟨hr₁, hok, -⟩ := hrun.cut
  have hr₁ : Node.Run (S.host j) h₁ pst.pre := hr₁
  -- whatever the writer has heard, the receiver has written
  have hwrote : ∀ x, Node.Heard (hist.filterMap (World.part j)) d x → Wrote hist i c x :=
    fun x hx => (hdel.heard j d x hx).2 i c hback
  rcases Node.step_speaks hr₁.transfers.sound hok with ⟨conn, o, me, uuid, -, -, -, -, hout⟩ |
    ⟨conn, msgp, answer, uuid, name, incoming, -, -, -, -, -, hout⟩ | ⟨-, hout⟩
  · have hident : m.type = .ident := Mesh.greeting_type (hout ▸ hin)
    exact ⟨fun ht => (by rw [hident] at ht; cases ht), fun ht => by rw [hident] at ht; cases ht⟩
  · have hident : m.type = .ident := Mesh.identReply_type (hout ▸ hin)
    exact ⟨fun ht => (by rw [hident] at ht; cases ht), fun ht => by rw [hident] at ht; cases ht⟩
  · have hno : ∀ ty : MsgType, m.type = ty → ty ≠ .queryresult → ty.isStream = false →
        Asked S hist i c j m := by
      rintro ty rfl hres hst
      exact ⟨fun ht => absurd ht hres, fun ht => by rw [hst] at ht; cases ht⟩
    cases hout.writes d m hin with
    | pong ping answer uuid he hgate ht hm => exact hno .pong (hm ▸ rfl) nofun rfl
    | stop conn answer uuid he hgate ht => exact hno _ ht nofun rfl
    | resolve qid uuid x he hx hm => exact hno .query (hm ▸ rfl) nofun rfl
    | forward k err t he ht hm =>
      have hquery : m.type = .query := hm ▸ hr₁.vetted.timer t (List.mem_of_getElem? ht)
      exact hno _ hquery nofun rfl
    | result k uuid cb it he hcb ho hit hm =>
      obtain ⟨q, rq, hheard, hty, hdec, hid⟩ := heard_of_firstAsked hr₁ (hr₁.origins.some _ _ ho)
      refine ⟨fun _ => ⟨q, rq, it.rmJsonValue "url", uuid, hwrote q (hhist ▸ hheard.mono), hty,
        hdec, hid ▸ hm⟩, fun ht => ?_⟩
      rw [hm] at ht
      cases ht
    | stream ht hasked =>
      obtain ⟨r, hheard, hty, hpay⟩ : Node.Requested (h₁ ++ [pst]) d m.guid := by
        rcases hasked with hfixed | hasks
        · obtain ⟨r, hheard, hreq⟩ := hr₁.backed.adaptor d m.guid hfixed
          exact ⟨r, hheard.mono, hreq⟩
        · exact Node.requested_last hasks
      have hheard' : Node.Heard (hist.filterMap (World.part j)) d r := by
        rw [hhist, List.append_cons]
        exact hheard.mono
      refine ⟨fun hres => ?_, fun _ => ⟨r, hwrote r hheard', hty, hpay⟩⟩
      rw [hres] at ht
      simp at ht
    | request ss aa uuid he hc hready hm => exact hno .sidrequest (hm ▸ rfl) nofun rfl
    | pass conn req url oid uuid ss he hgate ht hss hc hready hm =>
      exact hno .sidrequest (hm ▸ rfl) nofun rfl

/-- **Between nodes there are no answers that nobody asked for**: a result on the way answers a
    QUERY, and a part of a song a SIDREQUEST, that the receiver has written on that connection. -/
theorem answers_were_asked (S : Society N C) (hist : History N C) (w : World N C)
    (hr : Run S hist w) (i j : N) (c d : C) (hj : w.Joins i c j d) (m : Message)
    (hm : m ∈ w.wire c) : Asked S hist i c j m :=
  (hr.delivered.wire i c j d hj m hm).asked hr hj

/-- Alice asks Bob for a song, and he does not have it, so he answers with a 404. -/
def requesting : List (Event Side Nat) :=
  befriending ++ [.node .a (.startReply ⟨0, 0, "song"⟩ (.playdar 0) "u"),
    .deliver .b 1 .nothing "v"]

/-- They are connected, and the 404 is on its way to her. -/
theorem requesting_facts : (Runs.after (step friends) empty requesting).Joins .a 0 .b 1 ∧
    (Runs.after (step friends) empty requesting).wire 0 =
      [generalMessage .sidheaders "status\t404\n" "song"] := by
  have hall : ((Runs.after (step friends) empty requesting).mate 0 = some 1 ∧
      (Runs.after (step friends) empty requesting).holder 0 = some .a ∧
      (Runs.after (step friends) empty requesting).holder 1 = some .b) ∧
      (Runs.after (step friends) empty requesting).wire 0 =
        [generalMessage .sidheaders "status\t404\n" "song"] := by
    decide +kernel
  exact ⟨⟨hall.1.1, hall.1.2.1, hall.1.2.2⟩, hall.2⟩

/-- She has asked for what he tells her: the SIDREQUEST is hers. -/
theorem asked_requesting : Asked friends (Runs.trace (step friends) empty requesting) .a 0 .b
    (generalMessage .sidheaders "status\t404\n" "song") :=
  answers_were_asked friends _ _ (Runs.run_trace requesting rfl) .a .b 0 1 requesting_facts.1 _
    (by rw [requesting_facts.2]; exact List.mem_singleton.mpr rfl)

/-! ## Without strangers -/

/-- Among the nodes themselves every connection has two ends: only a stranger makes one with a
    single end. -/
theorem Run.mated (hr : Run S hist w) (halone : Alone hist) (hc : w.holder c ≠ none) :
    w.mate c ≠ none := by
  refine Runs.Run.invariant (I := fun hist w => Alone hist → ∀ c, w.holder c ≠ none →
    w.mate c ≠ none) ?_ ?_ hr halone c hc
  · rintro w rfl - c hc
    exact absurd rfl hc
  · intro hist w ev w' out hr ih hok halone
    have hmated := ih fun st hst => halone st (List.mem_append_left _ hst)
    cases step_does hok with
    | idle => exact hmated
    | cabled i j c d hne hc hd => exact mated_cable hmated i j hne
    | strange i c dials => exact absurd rfl (halone _ List.mem_concat_self i c dials)
    | acts => exact hmated
    | delivers => exact hmated

omit [DecidableEq N] in
/-- Where a connection has another end, there is a node at that end too. -/
theorem Sane.joined (h : Sane S w) (hmate : w.mate c = some d) (hheld : w.holder c = some i) :
    ∃ j, w.Joins i c j d := by
  have hd : w.holder d ≠ none := by
    intro hno
    have hback := (h.mates c d hmate).1
    rw [h.held d hno] at hback
    cases hback
  obtain ⟨j, hj⟩ := Option.ne_none_iff_exists'.mp hd
  exact ⟨j, hmate, hheld, hj⟩

/-! ## Nobody stops a query -/

/-- No QUERYSTOP is written, none comes in past a gate, which is where `handle_querystop` is called
    from, and no node has a query that is stopped. -/
structure Unhindered (hist : History N C) (w : World N C) : Prop where
  written : StopFree hist
  heard : ∀ i c m, Heard hist i c m → m.type ≠ .querystop
  running : ∀ i qid x, (w.node i).queries.queries qid = some x → x.stopped = false

/-- **Among the nodes themselves no query is ever stopped.**  What comes in has been written by a
    node, and no node writes a QUERYSTOP of its own accord; so `handle_querystop` is never reached,
    and nothing else stops a query. -/
theorem nobody_stops (S : Society N C) (hist : History N C) (w : World N C) (hr : Run S hist w)
    (halone : Alone hist) : Unhindered hist w := by
  have hfree : StopFree hist := hr.stopFree halone
  have hheard : ∀ i c m, Heard hist i c m → m.type ≠ .querystop := by
    intro i c m hin
    obtain ⟨hheld, hwrote⟩ := hr.delivered.heard i c m hin
    -- there is a node at the other end, which has written the message
    obtain ⟨d, hd⟩ := Option.ne_none_iff_exists'.mp
      (hr.mated halone (by rw [hheld]; exact Option.some_ne_none i))
    obtain ⟨j, hj⟩ := hr.sane.joined hd hheld
    obtain ⟨st, hst, hout⟩ := hwrote j d hj
    exact hfree st hst j d m hout
  exact ⟨hfree, hheard, fun i qid x hx => Node.Run.running (Run.part hr i) (hheard i) hx⟩

/-- Nor do Alice and Bob stop any: they dial each other and nothing else. -/
theorem nobody_befriending :
    Unhindered (Runs.trace (step friends) empty befriending) befriended := by
  refine nobody_stops friends _ _ befriended_run fun st hst i c dials he => ?_
  have hin := Runs.mem_of_event hst he
  simp [befriending, dialling] at hin

/-! ## Songs from their peers -/

/-- What a node has written at one of its steps, it has written in the world. -/
theorem wrote_of_part (hr : Run S hist w) {m : Message}
    {pst : Runs.Step (Node C) (Node.Event C) (Action C)}
    (hpst : pst ∈ hist.filterMap (World.part i)) (hin : .asyncWrite c m ∈ pst.out) :
    Wrote hist i c m := by
  obtain ⟨st, hst, hpart⟩ := List.mem_filterMap.mp hpst
  obtain ⟨h₁, h₂, rfl⟩ := List.append_of_mem hst
  obtain ⟨hr₁, hok, -⟩ := hr.cut
  refine ⟨st, hst, ?_⟩
  rcases step_takes (Run.sane hr₁) hok with ⟨hnone, -⟩ | ⟨k, e, n, acts, wire₀, htakes, -, hout⟩
  · rw [part_none hnone] at hpart
    cases hpart
  · rw [part_some htakes hout] at hpart
    split at hpart
    · rename_i hk
      subst hk
      obtain rfl := Option.some.inj hpart
      rw [hout]
      exact List.mem_map_of_mem hin
    · cases hpart

/-- The node has asked for each song on one connection at most.  Nothing in the plugin sees to that:
    the same sid may come in from two peers. -/
def AsksOne (hist : History N C) (i : N) : Prop :=
  ∀ c c' r r', Wrote hist i c r → Wrote hist i c' r' → r.type = .sidrequest →
    r'.type = .sidrequest → r.payload = r'.payload → c = c'

/-- Whatever happens to the node, its transfers are fed by their peers only: a part of a song that
    comes in is for a transfer of the connection it comes in on. -/
def FedByPeers (S : Society N C) (hist : History N C) (i : N) : Prop :=
  ∀ pst ∈ hist.filterMap (part i), Node.Separates (S.host i) pst.pre pst.event

/-- **Among nodes, a transfer is fed only by the node it was requested from**, if the song is
    requested from one only.  The handlers do not look who sends a part of a song; but no node
    sends one that it was not asked for. -/
theorem songs_from_their_peers (S : Society N C) (hist : History N C) (w : World N C)
    (hr : Run S hist w) (halone : Alone hist) (i : N) (hone : AsksOne hist i) :
    FedByPeers S hist i := by
  intro pst hpst
  obtain ⟨h₁, h₂, hhist⟩ := List.append_of_mem hpst
  have hrun : Node.Run (S.host i) (hist.filterMap (World.part i)) (w.node i) := Run.part hr i
  rw [hhist] at hrun
  obtain ⟨hr₁, -, -⟩ := hrun.cut
  have hr₁ : Node.Run (S.host i) h₁ pst.pre := hr₁
  refine (hr₁.separates_iff pst.event).mpr ?_
  rintro m ss ⟨c, answer, uuid, he, hgate, hstream, hss, hne⟩
  obtain ⟨hheld, hwrote⟩ := hr.delivered.heard i c m ⟨pst, hpst, answer, uuid, he, hgate⟩
  -- who is at the other end has been asked for it, ...
  obtain ⟨d, hd⟩ := Option.ne_none_iff_exists'.mp
    (hr.mated halone (by rw [hheld]; exact Option.some_ne_none i))
  obtain ⟨j, hj⟩ := hr.sane.joined hd hheld
  obtain ⟨r, hr', hty, hpay⟩ := ((hwrote j d hj).asked hr hj).stream hstream
  -- ... and so was the peer of the transfer
  obtain ⟨st, hst, uuid', hout⟩ := hr₁.registered hss
  have hmem : st ∈ hist.filterMap (World.part i) := by
    rw [hhist]
    exact List.mem_append_left _ hst
  exact absurd (hone ss.conn c _ r (wrote_of_part hr hmem hout) hr' rfl hty hpay.symm) hne

/-- What Alice asks for, she asks Bob: she has one connection. -/
theorem requesting_asksOne :
    AsksOne (Runs.trace (step friends) empty (requesting ++ [.deliver .a 0 .nothing ""])) .a := by
  have hknown : ((Runs.after (step friends) empty
      (requesting ++ [.deliver .a 0 .nothing ""])).node .a).mesh.router.known = [0] := by
    decide +kernel
  have hzero : ∀ c r, Wrote (Runs.trace (step friends) empty
      (requesting ++ [.deliver .a 0 .nothing ""])) .a c r → c = 0 := by
    intro c r hwrote
    have hmem := hwrote.known (Runs.run_trace _ rfl)
    rw [hknown] at hmem
    exact List.mem_singleton.mp hmem
  intro c c' r r' hr hr' _ _ _
  rw [hzero c r hr, hzero c' r' hr']

/-- So nobody else tells her anything about it, in this run or when his answer has come in. -/
theorem songs_requesting : FedByPeers friends
    (Runs.trace (step friends) empty (requesting ++ [.deliver .a 0 .nothing ""])) .a := by
  refine songs_from_their_peers friends _ _ (Runs.run_trace _ rfl) ?_ .a requesting_asksOne
  intro st hst i c dials he
  have hin := Runs.mem_of_event hst he
  simp [requesting, befriending, dialling] at hin

end World

end Greynet
