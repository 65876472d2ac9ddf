/-
  What a network of such nodes does with a query.

  `query_floods` — a query with a new id, started anywhere in a finite network of any shape, is
  dispatched at most once by each node, goes out in a bounded number of messages and moves in a
  bounded number of events; the connections the nodes remember lead back to where it was started;
  and when no connection drops, every result goes back along them, once.

  The bounds are those of `Greynet.Flood`, the way back that of `Greynet.ReplyTree`.  Here they are
  put together, and what they count is read off the log of the run.
-/
import Greynet.Replies
import Mathlib.Data.Fintype.Prod

namespace Greynet

namespace Network

variable {N E : Type} [DecidableEq N] [DecidableEq E]

/-- The events of a history that move `qid`: a QUERY for it arrives, or a timer or a
    `start_resolving` is due for it. -/
def floodEvents (net : Network N E) (qid : Qid) (hist : History N E) : Nat :=
  (hist.map fun st => fires qid st.pre st.event + net.arrives qid st.pre st.event).sum

variable [Fintype N] [Fintype E]

open Classical in
/-- The results `x` for a query that was started at `w` have all come back. -/
structure Returned (net : Network N E) (hist : History N E) (s : Net N E) (w : N) (qid : Qid)
    (x : ResolvedItem) : Prop where
  /-- a node is reported those found where the way to `w` goes through it -/
  reported : ∀ n, net.reportedAt n qid x (log hist) =
    ∑ m, if Forest.OnPath (net.parent s qid) w n m then foundAt m qid x (log hist) else 0
  /-- they come in over the connection the query went out on, and over no other -/
  relayed : ∀ e, relayedOver (net.mate e) qid x (log hist) =
    if (s.queries (net.node e)).qidorigins qid = some e then
      net.reportedAt (net.node e) qid x (log hist) else 0
  /-- the originator is reported all of them -/
  originator : net.reportedAt w qid x (log hist) = ∑ m, foundAt m qid x (log hist)
  /-- one that was found once, at `m`, is reported once on the way from there and nowhere else -/
  once : ∀ m, (∀ k, foundAt k qid x (log hist) = if k = m then 1 else 0) →
    net.reportedAt w qid x (log hist) = 1 ∧
    ∀ n, net.reportedAt n qid x (log hist) =
      if Forest.OnPath (net.parent s qid) w n m then 1 else 0

/-- What becomes of a query `qid` that was started at `w`. -/
structure Floods (net : Network N E) (hist : History N E) (s : Net N E) (w : N) (qid : Qid) :
    Prop where
  dispatched : ∀ n, dispatchedAt n qid (log hist) ≤ 1
  written : net.written qid (log hist) ≤ 2 * Fintype.card E
  ends : net.floodEvents qid hist ≤ 2 * Fintype.card E + 2 * Fintype.card N
  /-- whatever happens next, no handler throws or asserts -/
  goesOn : ∀ ev, net.Encodes ev → ∃ s' out, net.step s ev = .ok (s', out)
  /-- origins lead to the originator -/
  tree : ∀ n, 0 < dispatchedAt n qid (log hist) →
    ∃ l, Forest.Path (net.parent s qid) w n l ∧ l.Nodup
  returned : NoDrops hist → net.Settled s qid → ∀ x, net.Returned hist s w qid x

omit [DecidableEq N] [DecidableEq E] [Fintype N] [Fintype E] in
/-- What is counted in the log is counted step by step. -/
theorem countP_log (p : Log N E → Bool) (hist : History N E) :
    (log hist).countP p = (hist.map fun st => st.out.countP p).sum := by
  rw [log, List.countP_flatMap]
  rfl

variable {net : Network N E} {hist : History N E} {s : Net N E}

omit [Fintype N] [Fintype E] in
/-- Each node has been handed the query once, if it has it. -/
theorem Run.dispatchedAt_log (hr : net.Run hist s) (n : N) (qid : Qid) :
    dispatchedAt n qid (log hist) = if (s.queries n).queries qid = none then 0 else 1 :=
  (countP_log _ hist).trans (Run.dispatched_eq hr n qid)

/-- It goes over each connection twice each way at most. -/
theorem Run.written_le (hr : net.Run hist s) (henc : net.AllEncode hist) (qid : Qid) :
    net.written qid (log hist) ≤ 2 * Fintype.card E := by
  have hle := Run.flood_le hr henc 1 0 0 qid
  have hcost : net.floodCost 1 0 0 qid = fun st => net.written qid st.out := by
    funext st
    simp [floodCost]
  rw [hcost] at hle
  have hlog : net.written qid (log hist) = (hist.map fun st => net.written qid st.out).sum :=
    countP_log _ hist
  omega

/-- Each of these messages arrives once, and each node has one timer and one `start_resolving` for
    it. -/
theorem Run.floodEvents_le (hr : net.Run hist s) (henc : net.AllEncode hist) (qid : Qid) :
    net.floodEvents qid hist ≤ 2 * Fintype.card E + 2 * Fintype.card N := by
  have hle := Run.flood_le hr henc 0 1 1 qid
  have hcost : net.floodCost 0 1 1 qid =
      fun st => fires qid st.pre st.event + net.arrives qid st.pre st.event := by
    funext st
    simp [floodCost]
  rw [hcost] at hle
  unfold floodEvents
  omega

/-- All results have come back once everything is delivered: none is on the way, and the tree of
    origins says who has been told of which. -/
theorem Run.returned (hr : net.Run hist s) (henc : net.AllEncode hist) (hkeep : NoDrops hist)
    {w : N} {qid : Qid} {L : List N} (ht : net.Tree s qid w L) (hw : w ∈ L)
    (hdone : net.Settled s qid) (x : ResolvedItem) : net.Returned hist s w qid x := by
  classical
  have hs := Run.decent hr henc
  have hflow := Run.flow hr henc hkeep qid x
  have hreported := hflow.reportedAt_eq_sum hdone hs ht hw
  -- every result is found where the query is, and from there the way leads to the root
  have hroot : net.reportedAt w qid x (log hist) = ∑ m, foundAt m qid x (log hist) := by
    rw [hreported w]
    refine Finset.sum_congr rfl fun m _ => ?_
    by_cases hm : m ∈ L
    · obtain ⟨l, hl, -⟩ := ht.grown.path hm
      rw [if_pos (Forest.onPath_root hl)]
    · have hnone : (s.queries m).queries qid = none := by
        by_contra hne
        exact hm ((ht.known m).mpr hne)
      have hzero := hflow.unknown m hnone
      rw [reportedAt_eq] at hzero
      have hfound : foundAt m qid x (log hist) = 0 := by omega
      rw [hfound, ite_self]
  refine ⟨fun n => ?_, hflow.relayedOver_eq hdone, hroot, fun m hone => ⟨?_, fun n => ?_⟩⟩
  · rw [hreported n]
  · rw [hroot, Finset.sum_congr rfl fun k _ => hone k, Finset.sum_ite_eq',
      if_pos (Finset.mem_univ m)]
  · rw [hreported n, Finset.sum_congr rfl fun k _ => by rw [hone k]]
    rw [Finset.sum_eq_single_of_mem m (Finset.mem_univ m)]
    · rw [if_pos rfl]
    · intro k _ hk
      rw [if_neg hk, ite_self]

/-- **A query floods the network once, and its results come back once**: in every run, however its
    events are ordered. -/
theorem query_floods (hr : net.Run hist s) (henc : net.AllEncode hist) {w : N}
    {rq : ResolverQuery} (hstart : Started hist w rq) : net.Floods hist s w rq.id := by
  obtain ⟨-, L, hL, hw⟩ := (Run.tree hr henc).2 w rq hstart
  refine ⟨fun n => ?_, Run.written_le hr henc rq.id, Run.floodEvents_le hr henc rq.id,
    fun ev hev => (Run.decent hr henc).step_ok hev, fun n hn => ?_, fun hkeep hdone x => ?_⟩
  · rw [Run.dispatchedAt_log hr]
    split <;> decide
  · have hknown : n ∈ L := (hL.known n).mpr fun hnone => by
      rw [Run.dispatchedAt_log hr, if_pos hnone] at hn
      cases hn
    obtain ⟨l, hl, hnd, -⟩ := hL.grown.path hknown
    exact ⟨l, hl, hnd⟩
  · exact Run.returned hr henc hkeep hL hw hdone x

/-! ## A ring of three nodes -/

/-- A host that reads the sample query and its result. -/
def ringHost : Host (Fin 3 × Bool) where
  js := .ofTexts Queries.sampleTexts
  lib := .table
  playdar := Queries.samplePlaydar
  addressFromString _ := some 0
  jid := "me"
  publicIp := "1.2.3.4"
  port := 60211

/-- Connection `i` links the nodes `i` and `i + 1`. -/
def ring : Network (Fin 3) (Fin 3 × Bool) where
  host _ := ringHost
  js := ringHost.js
  playdar := ringHost.playdar
  host_js _ := rfl
  host_playdar _ := rfl
  node e := if e.2 then e.1 + 1 else e.1
  mate e := (e.1, !e.2)
  mate_mate e := by simp
  mate_ne e h := by simpa using congrArg Prod.snd h

/-- Nothing asked yet. -/
def ringStart : Net (Fin 3) (Fin 3 × Bool) where
  router n :=
    let ends := [(n, false), (n + 2, true)]
    ⟨ends, ends, [], fun _ => { ready := true }⟩
  queries _ := .empty
  wire := []
  issued := []

/-- Node 0 asks.  Both its neighbours take the query on, and node 1 passes it on to node 2, which
    has it by then.  Node 2 finds the song. -/
def ringEvents : List (Event (Fin 3) (Fin 3 × Bool)) :=
  [.localQuery 0 Queries.someQuery, .startResolving 0 "q" "u1", .deliver 0, .deliver 0,
    .fwdSearch 1 0 false, .deliver 0, .reportResults 2 "q" Queries.song, .callback 2 0 "u2",
    .deliver 0, .callback 0 0 "u3"]

/-- The query goes round the ring once, and the song comes back to node 0. -/
theorem ring_floods :
    Floods ring (Runs.trace ring.step ringStart ringEvents)
      (Runs.after ring.step ringStart ringEvents) 0 "q" ∧
    NoDrops (Runs.trace ring.step ringStart ringEvents) ∧
    ring.Settled (Runs.after ring.step ringStart ringEvents) "q" ∧
    foundAt 2 "q" (Queries.song.rmJsonValue "url")
      (log (Runs.trace ring.step ringStart ringEvents)) = 1 ∧
    ring.reportedAt 0 "q" (Queries.song.rmJsonValue "url")
      (log (Runs.trace ring.step ringStart ringEvents)) = 1 := by
  have hstarts : ring.Starts ringStart :=
    ⟨fun _ => rfl, rfl, by decide, by decide, fun _ _ _ => rfl, fun _ => rfl⟩
  have hfirst : ∃ s' out, ring.step ringStart (.localQuery 0 Queries.someQuery) = .ok (s', out) :=
    ⟨_, _, rfl⟩
  -- the events are a list of ten, so what is asked of each is looked up
  have hin : ∀ st ∈ Runs.trace ring.step ringStart ringEvents, st.event ∈ ringEvents := fun st =>
    Runs.event_mem_trace _
  have hstarted : Started (Runs.trace ring.step ringStart ringEvents) 0 Queries.someQuery := by
    obtain ⟨s', out, hok⟩ := hfirst
    refine ⟨⟨ringStart, .localQuery 0 Queries.someQuery, s', out⟩, ?_, rfl, List.not_mem_nil⟩
    rw [ringEvents, Runs.trace, hok]
    exact List.mem_cons_self ..
  refine ⟨query_floods (Runs.run_trace _ hstarts) ?_ hstarted, ?_, ⟨?_, ?_⟩, ?_, ?_⟩
  · intro st hst
    have hmem := hin st hst
    simp only [ringEvents, List.mem_cons, List.not_mem_nil, or_false] at hmem
    rcases hmem with he | he | he | he | he | he | he | he | he | he <;> rw [he]
    all_goals first
      | exact trivial
      | exact ⟨by decide, rfl⟩
  · intro st hst e
    have hmem := hin st hst
    simp only [ringEvents, List.mem_cons, List.not_mem_nil, or_false] at hmem
    rcases hmem with he | he | he | he | he | he | he | he | he | he <;> rw [he] <;> simp
  · have hwire : (Runs.after ring.step ringStart ringEvents).wire.length = 0 := by
      decide +kernel
    intro p hp
    rw [List.eq_nil_of_length_eq_zero hwire] at hp
    cases hp
  · have hcallbacks : ∀ n,
        ((Runs.after ring.step ringStart ringEvents).queries n).callbacks = [] := by
      decide +kernel
    intro n cb hcb
    rw [hcallbacks n] at hcb
    cases hcb
  · decide +kernel
  · decide +kernel

end Network

end Greynet
