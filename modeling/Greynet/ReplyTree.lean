/-
  The reply tree of a query: at every node that has it, the connection it came from.

  `Tree` — the connections `set_query_origin` records form a tree rooted where the query was
  started.  It grows at the leaves: a node takes the query on from a peer that wrote it, and a node
  only writes a query it has (`tree_step`).  Connections that go away do not change it.

  In a network with cycles the query reaches most nodes over several connections.  The first one
  that it comes in on is recorded, and the later copies are turned away; that is why there is a
  tree.  Which tree it is depends on the run, on the order in which the copies happen to arrive.

  What makes the induction go through is the clause on the wire.  A tree that only spoke of the
  nodes would have nothing to say of the node that a new leaf hangs on.
-/
import Greynet.Lib.Forest
import Greynet.Flood

namespace Greynet

namespace Network

variable {N E : Type}

/-- The node a query came from, by the connection recorded for it.  The root has none, and neither
    has a node that the query has not reached. -/
def parent (net : Network N E) (s : Net N E) (qid : Qid) (n : N) : Option N :=
  ((s.queries n).qidorigins qid).map fun e => net.node (net.mate e)

/-- The origins of `qid` form a tree, with root `w` and the nodes of `L`.  The list is the order in
    which the nodes were reached, the latest first. -/
structure Tree (net : Network N E) (s : Net N E) (qid : Qid) (w : N) (L : List N) : Prop where
  grown : Forest.Grown (net.parent s qid) w L
  known : ∀ n, n ∈ L ↔ (s.queries n).queries qid ≠ none
  held : ∀ n e, (s.queries n).qidorigins qid = some e → net.node e = n
  /-- whoever wrote a QUERY that is on its way has the query -/
  wire : ∀ p ∈ s.wire, Queries.asks net.js net.playdar qid p.2 = true →
    net.node (net.mate p.1) ∈ L

variable {net : Network N E} {s s' : Net N E} {qid : Qid} {w : N} {L : List N}

/-- Nothing has changed for the query but the wire.  This is for all steps but those that take this
    very query on. -/
theorem Tree.congr (ht : net.Tree s qid w L)
    (ho : ∀ n, (s'.queries n).qidorigins qid = (s.queries n).qidorigins qid)
    (hq : ∀ n, (s'.queries n).queries qid = none ↔ (s.queries n).queries qid = none)
    (hwire : ∀ p ∈ s'.wire, Queries.asks net.js net.playdar qid p.2 = true →
      net.node (net.mate p.1) ∈ L) : net.Tree s' qid w L where
  grown := ht.grown.congr fun n _ => by simp only [parent, ho]
  known n := (ht.known n).trans (not_congr (hq n)).symm
  held n e he := ht.held n e ((ho n).symm.trans he)
  wire := hwire

/-- A node takes the query on over its end `e`, from a peer that has it.  It was not in the tree, so
    it is a leaf, and the path from it to the root goes on from the peer. -/
theorem Tree.graft (ht : net.Tree s qid w L) {e : E}
    (hnew : (s.queries (net.node e)).queries qid = none) (hpeer : net.node (net.mate e) ∈ L)
    (ho : (s'.queries (net.node e)).qidorigins qid = some e)
    (hq : (s'.queries (net.node e)).queries qid ≠ none)
    (hother : ∀ n, n ≠ net.node e → s'.queries n = s.queries n)
    (hwire : ∀ p ∈ s'.wire, Queries.asks net.js net.playdar qid p.2 = true →
      net.node (net.mate p.1) ∈ L) : net.Tree s' qid w (net.node e :: L) := by
  -- it does not know the query yet, so it is no node of the tree
  have hleaf : net.node e ∉ L := fun hin => (ht.known _).mp hin hnew
  refine ⟨?_, fun n => ?_, fun n d hd => ?_, fun p hp hasks => ?_⟩
  · apply Forest.Grown.grow (ht.grown.congr fun n hn => ?_) hleaf hpeer
    · simp [parent, ho]
    · have hne : n ≠ net.node e := fun he => hleaf (he ▸ hn)
      simp only [parent, hother n hne]
  · by_cases hn : n = net.node e
    · subst hn
      simp [hq]
    · rw [hother n hn, List.mem_cons, or_iff_right hn]
      exact ht.known n
  · by_cases hn : n = net.node e
    · subst hn
      rw [ho] at hd
      rw [Option.some.inj hd]
    · rw [hother n hn] at hd
      exact ht.held n d hd
  · exact List.mem_cons_of_mem _ (hwire p hp hasks)

/-- Before a query is started no node knows of it, and none has an origin for it: the tree is empty,
    so there is nobody to ask. -/
theorem Tree.none_known (hs : net.Decent s) (ht : net.Tree s qid w []) (n : N) :
    (s.queries n).queries qid = none ∧ (s.queries n).qidorigins qid = none := by
  have hnone : (s.queries n).queries qid = none := by
    by_contra hne
    cases (ht.known n).mpr hne
  refine ⟨hnone, ?_⟩
  by_contra ho
  exact (hs.sane n).origins qid ho hnone

variable [DecidableEq N] [DecidableEq E]

omit [DecidableEq N] in
/-- A node writes only queries it has.  The budget gives it: what is written is paid for by a timer
    or by `start_resolving`, and both have the query. -/
theorem Decent.writer_known (hs : net.Decent s)
    {ev : Event N E} (hev : net.Encodes ev) {n : N} {via : Option E} {qe : Queries.Event E}
    {w : List (E × Message)} {iss : List String} (hm : Moves net s ev n via qe w iss)
    {q : Queries E} {acts : List (Action E)}
    (heff : Queries.Effect (net.host n) (s.queries n) qe q acts) {p : E × Message}
    (hp : p ∈ net.packets (s.router n) acts)
    (hasks : Queries.asks net.js net.playdar qid p.2 = true) :
    net.node (net.mate p.1) = n ∧ (s.queries n).queries qid ≠ none := by
  obtain ⟨e, hopen, hmate, hin⟩ := mem_packets.mp hp
  refine ⟨by rw [hmate, net.mate_mate, hs.held n e hopen], (hs.sane n).of_fires (e := qe) ?_⟩
  intro hzero
  -- a step that is not due writes no QUERY
  have hle := Queries.sentQueries_le (hs.sane n) (hs.welcome hev hm) heff
    (fun r hr => by rw [hm.router_eq hr]) qid
  rw [hzero, Nat.zero_mul, net.host_js, net.host_playdar] at hle
  have hpos : 0 < Queries.sentQueries net.js net.playdar qid acts :=
    List.countP_pos_iff.mpr ⟨_, hin, hasks⟩
  omega

/-- **The tree grows at the leaves.**  A node that takes the query on was in no tree before, so
    there can be no cycle.  `hold` says that the query is not started in this step, or is started
    with an id that has been used, which changes nothing. -/
theorem tree_step {ev : Event N E} {out : List (Log N E)}
    (hs : net.Decent s) (hev : net.Encodes ev) (hok : net.step s ev = .ok (s', out))
    (ht : net.Tree s qid w L)
    (hold : ∀ n rq, ev = .localQuery n rq → rq.id = qid → rq.id ∈ s.issued) :
    ∃ L', net.Tree s' qid w L' ∧ (∀ n ∈ L, n ∈ L') ∧ (L = [] → L' = []) := by
  cases step_effect hok with
  | idle => exact ⟨L, ht, fun _ hn => hn, id⟩
  | lost i he e msgp hw =>
    exact ⟨L, ht.congr (fun _ => rfl) (fun _ => Iff.rfl) fun p hp =>
      ht.wire p (List.mem_of_mem_eraseIdx hp), fun _ hn => hn, id⟩
  | rerouted =>
    exact ⟨L, ht.congr (fun _ => rfl) (fun _ => Iff.rfl) ht.wire, fun _ hn => hn, id⟩
  | moved n via qe left iss hm q acts heff =>
    -- a node that writes it has it already, so what is on the wire comes from the tree
    have hwire : ∀ p ∈ left ++ net.packets (s.router n) acts,
        Queries.asks net.js net.playdar qid p.2 = true → net.node (net.mate p.1) ∈ L := by
      intro p hp hasks
      rcases List.mem_append.mp hp with hp | hp
      · exact ht.wire p (hm.wire_sub p hp) hasks
      · obtain ⟨hnode, hknown⟩ := hs.writer_known hev hm heff hp hasks
        rw [hnode]
        exact (ht.known n).mpr hknown
    cases Queries.takes_step heff qid (hm.keeps qid) with
    | no hq ho hd =>
      refine ⟨L, ht.congr (fun m => ?_) (fun m => ?_) hwire, fun _ hn => hn, id⟩
      · by_cases hn : m = n
        · subst hn
          simp only [put, Function.update_self, ho]
        · simp only [put, Function.update_of_ne hn]
      · by_cases hn : m = n
        · subst hn
          simp only [put, Function.update_self, hq]
        · simp only [put, Function.update_of_ne hn]
    | received r conn msgp rq he hquery hrq hid hnew hq ho hd =>
      cases hm with
      | deliver i e m hw hopen =>
        obtain ⟨-, rfl, rfl⟩ := Queries.Event.received.inj he
        have hpeer : net.node (net.mate e) ∈ L := by
          refine ht.wire (e, m) (List.mem_of_getElem? hw) ?_
          rw [net.host_js, net.host_playdar] at hrq
          simp [Queries.asks, hquery, hrq, hid]
        -- a new leaf, below the node the packet comes from
        refine ⟨net.node e :: L, ht.graft hnew hpeer ?_ ?_ ?_ hwire,
          fun k hk => List.mem_cons_of_mem _ hk, ?_⟩
        · simp only [put, Function.update_self, ho]
        · simp only [put, Function.update_self]
          exact hq
        · intro k hk
          exact Function.update_of_ne hk _ _
        · -- an empty tree has nobody to send the packet
          rintro rfl
          cases hpeer
      | _ => cases he
    | started rq he hid hnew hq ho hd =>
      cases hm with
      | localQuery n rq' hfresh =>
        obtain rfl := Queries.Event.localQuery.inj he
        exact absurd (hold n rq' rfl hid) hfresh
      | _ => cases he

/-- **The root is where the query is started.**  It has no origin there, which is what makes it the
    root, and no other node has the query yet. -/
theorem tree_started {out : List (Log N E)} {rq : ResolverQuery}
    (hs : net.Decent s) (hok : net.step s (.localQuery w rq) = .ok (s', out))
    (ht : net.Tree s rq.id w []) (hfresh : rq.id ∉ s.issued) : net.Tree s' rq.id w [w] := by
  cases step_effect hok with
  | idle hb => exact absurd hb hfresh
  | lost i he => cases he
  | rerouted e he => rcases he with he | he <;> cases he
  | moved n via qe left iss hm q acts heff =>
    cases hm with
    | localQuery =>
      cases heff with
      | idle e hb => exact absurd (ht.none_known hs w).1 hb
      | localQuery rq hnew =>
        -- nobody has an origin for the query: the node that starts it records none, the others know
        -- of none
        have horigin : ∀ n, ((Function.update s.queries w ((s.queries w).dispatch rq false))
            n).qidorigins rq.id = none := by
          intro n
          by_cases hn : n = w
          · rw [hn, Function.update_self]
            exact (ht.none_known hs w).2
          · rw [Function.update_of_ne hn]
            exact (ht.none_known hs n).2
        refine ⟨.root ?_, fun n => ?_, fun n e he => ?_, fun p hp hasks => ?_⟩
        · simp only [parent, put, horigin, Option.map_none]
        · by_cases hn : n = w
          · subst hn
            simp [put, Queries.dispatch]
          · simp [put, hn, (ht.none_known hs n).1]
        · simp only [put, horigin] at he
          cases he
        · rcases List.mem_append.mp hp with hp | hp
          · cases ht.wire p hp hasks
          · cases hp

/-! ## Runs

  With the id of a query new, its tree is empty up to where it is started and grows from there. -/

/-- The query has been started at `w`, with an id that was new.  Ids are generated, so two queries
    with one id do not occur unless somebody means it. -/
def Started (hist : History N E) (w : N) (rq : ResolverQuery) : Prop :=
  ∃ st ∈ hist, st.event = .localQuery w rq ∧ rq.id ∉ st.pre.issued

/-- An id that has been used stays used. -/
theorem issued_step {ev : Event N E} {out : List (Log N E)}
    (hok : net.step s ev = .ok (s', out)) : ∀ g ∈ s.issued, g ∈ s'.issued := by
  cases step_effect hok with
  | moved n via qe left iss hm => exact hm.issued_sub
  | _ => exact fun g hg => hg

/-- The id of a query that is started is used from then on, also where it had been used before. -/
theorem issued_localQuery {n : N} {rq : ResolverQuery} {out : List (Log N E)}
    (hok : net.step s (.localQuery n rq) = .ok (s', out)) : rq.id ∈ s'.issued := by
  cases step_effect hok with
  | idle hb => exact hb
  | lost i he => cases he
  | rerouted e he => rcases he with he | he <;> cases he
  | moved m via qe left iss hm =>
    cases hm with
    | localQuery => exact List.mem_cons_self ..

/-- **In every run the origins of a query form a tree**: the empty one until it is started, and from
    then on one with the originator as its root.  The two parts are proved together, since a query
    that is started in the last step is one of the first part before it. -/
theorem Run.tree {hist : History N E} (hr : net.Run hist s) (henc : net.AllEncode hist) :
    (∀ qid, (∀ w rq, Started hist w rq → rq.id ≠ qid) → ∀ w, net.Tree s qid w []) ∧
    ∀ w rq, Started hist w rq → rq.id ∈ s.issued ∧ ∃ L, net.Tree s rq.id w L ∧ w ∈ L := by
  refine Runs.Run.invariant (I := fun hist s => net.AllEncode hist →
    (∀ qid, (∀ w rq, Started hist w rq → rq.id ≠ qid) → ∀ w, net.Tree s qid w []) ∧
    ∀ w rq, Started hist w rq → rq.id ∈ s.issued ∧ ∃ L, net.Tree s rq.id w L ∧ w ∈ L)
    ?_ ?_ hr henc
  · intro s h0 _
    refine ⟨fun qid _ w => ⟨.nil, fun n => ?_, fun n e he => ?_, fun p hp => ?_⟩, ?_⟩
    · rw [h0.queries n]
      simp [Queries.empty]
    · rw [h0.queries n] at he
      cases he
    · rw [h0.wire] at hp
      cases hp
    · rintro w rq ⟨st, hst, -⟩
      cases hst
  · intro hist s ev s' out hr ih hok henc
    have hs := Run.decent hr henc.of_append
    have hev : net.Encodes ev := henc _ List.mem_concat_self
    obtain ⟨hnone, hroot⟩ := ih henc.of_append
    -- what was started is started still
    have hold : ∀ {w rq}, Started hist w rq → Started (hist ++ [⟨s, ev, s', out⟩]) w rq := by
      rintro w rq ⟨st, hst, hstart⟩
      exact ⟨st, List.mem_append_left _ hst, hstart⟩
    constructor
    · intro qid hqid w
      obtain ⟨L, hL, -, hnil⟩ := tree_step hs hev hok
        (hnone qid (fun w rq hst => hqid w rq (hold hst)) w) (by
          rintro n rq rfl hid
          by_contra hfresh
          exact hqid n rq ⟨_, List.mem_concat_self, rfl, hfresh⟩ hid)
      rwa [hnil rfl] at hL
    · rintro w rq ⟨st, hst, hstart, hfresh⟩
      rcases List.mem_append.mp hst with hst | hst
      · obtain ⟨hid, L, hL, hw⟩ := hroot w rq ⟨st, hst, hstart, hfresh⟩
        obtain ⟨L', hL', hsub, -⟩ := tree_step hs hev hok hL (by
          rintro n rq' rfl heq
          rwa [heq])
        exact ⟨issued_step hok _ hid, L', hL', hsub w hw⟩
      · -- it is started in this very step, and its tree was empty up to here
        obtain rfl := List.mem_singleton.mp hst
        obtain rfl : ev = .localQuery w rq := hstart
        have hnew : ∀ w' rq', Started hist w' rq' → rq'.id ≠ rq.id := fun w' rq' hst heq =>
          hfresh (heq ▸ (hroot w' rq' hst).1)
        exact ⟨issued_localQuery hok, _, tree_started hs hok (hnone _ hnew w) hfresh,
          List.mem_singleton_self _⟩

/-- **An origin is an end the node holds, and the peer at the other end has the query.**  So a
    result that is written to an origin is read by a node that knows what it is about. -/
theorem Run.peer_known {hist : History N E} (hr : net.Run hist s) (henc : net.AllEncode hist)
    {n : N} {e : E} (he : (s.queries n).qidorigins qid = some e) :
    net.node e = n ∧ (s.queries (net.node (net.mate e))).queries qid ≠ none := by
  have htree : ∃ w L, net.Tree s qid w L := by
    by_cases hst : ∃ w rq, Started hist w rq ∧ rq.id = qid
    · obtain ⟨w, rq, hst, rfl⟩ := hst
      obtain ⟨-, L, hL, -⟩ := (Run.tree hr henc).2 w rq hst
      exact ⟨w, L, hL⟩
    · refine ⟨n, [], (Run.tree hr henc).1 qid (fun w rq hstart hid => hst ⟨w, rq, hstart, hid⟩) n⟩
  obtain ⟨w, L, hL⟩ := htree
  have hn : n ∈ L := (hL.known n).mpr
    (((Run.decent hr henc).sane n).origins qid (by rw [he]; simp))
  exact ⟨hL.held n e he, (hL.known _).mp (hL.grown.parent_mem hn (by simp [parent, he]))⟩

end Network

end Greynet
