/-
  The duplicate filter does not lose results.

  `message_received` drops a message whose guid it has seen.  A QUERY is passed on under the guid it
  came with, so the filter does drop copies of it; a QUERYRESULT has a guid of its own at every hop,
  so none is dropped: no guid of a result on its way has been used for anything else (`Fresh`).

  Guids are what `gen_uuid` answers, and that no answer comes twice is all that is assumed of it
  (`issued`).  The filter of a node keeps every guid it has seen, so a guid is spent for good.

  1. `Spent` — what a guid may have been used for; `Fresh` — the invariant.
  2. `Decent.spent_step`, `Decent.results_written` — what a node's step spends, and what it writes.
  3. `fresh_step`, `Run.fresh` — one step of the network, and every run.
-/
import Greynet.Network

namespace Greynet

namespace Network

variable {N E : Type}

/-- The guid has been seen, or belongs to a message that is no result: one on the wire, or one that
    a timer will forward. -/
def Spent (s : Net N E) (g : String) : Prop :=
  (∃ n, g ∈ (s.queries n).seenGuids) ∨
  (∃ n, ∃ t ∈ (s.queries n).timers, t.msgp.guid = g) ∨
  ∃ p ∈ s.wire, p.2.type ≠ .queryresult ∧ p.2.guid = g

/-- The results with guid `g` among some messages. -/
def resultsWith (g : String) (l : List (E × Message)) : Nat :=
  l.countP fun p => decide (p.2.type = .queryresult ∧ p.2.guid = g)

/-- Every result on its way has a guid of its own: it was issued, to nobody else, and no filter has
    seen it. -/
structure Fresh (s : Net N E) : Prop where
  spent : ∀ g, Spent s g → g ∈ s.issued ∧ resultsWith g s.wire = 0
  wire : ∀ p ∈ s.wire, p.2.guid ∈ s.issued
  once : ∀ g, resultsWith g s.wire ≤ 1

variable {net : Network N E} {s s' : Net N E}

/-- A result among the messages is counted. -/
theorem resultsWith_pos {g : String} {l : List (E × Message)} {p : E × Message} (hp : p ∈ l)
    (ht : p.2.type = .queryresult) (hg : p.2.guid = g) : 0 < resultsWith g l :=
  List.countP_pos_iff.mpr ⟨p, hp, by simp [ht, hg]⟩

/-- No message has a guid that has not been issued. -/
theorem Fresh.resultsWith_eq_zero (hf : Fresh s) {g : String} (hg : g ∉ s.issued) :
    resultsWith g s.wire = 0 := by
  rw [resultsWith, List.countP_eq_zero]
  intro p hp hmatch
  obtain ⟨-, rfl⟩ := of_decide_eq_true hmatch
  exact hg (hf.wire p hp)

/-- **A result that arrives gets past the duplicate filter**, at whichever node: the filter there
    has seen spent guids only. -/
theorem Fresh.admits (hf : Fresh s) {i : Nat} {e : E} {msgp : Message}
    (hw : s.wire[i]? = some (e, msgp)) (ht : msgp.type = .queryresult) (n : N) :
    (s.queries n).admits msgp = true := by
  by_contra hno
  rw [Bool.not_eq_true, Queries.admits_eq_false] at hno
  have hzero := (hf.spent msgp.guid (Or.inl ⟨n, hno.2⟩)).2
  have hpos : 0 < resultsWith msgp.guid s.wire :=
    resultsWith_pos (List.mem_of_getElem? hw) ht rfl
  omega

/-- A `uuid` is new, and is issued with the step that uses it. -/
theorem Moves.uuid {ev : Event N E} {n : N} {via : Option E} {qe : Queries.Event E}
    {left : List (E × Message)} {iss : List String} (hm : Moves net s ev n via qe left iss)
    {g : String} (he : (∃ r k, qe = .startResolving r k g) ∨ ∃ r i, qe = .callback r i g) :
    g ∉ s.issued ∧ g ∈ iss := by
  rcases he with ⟨r, k, rfl⟩ | ⟨r, i, rfl⟩
  · cases hm with
    | startResolving n k uuid hnew => exact ⟨hnew, List.mem_cons_self ..⟩
  · cases hm with
    | callback n i uuid hnew => exact ⟨hnew, List.mem_cons_self ..⟩

/-- An event may take a result off the wire, and puts none there before the node has moved. -/
theorem Moves.resultsWith_le {ev : Event N E} {n : N} {via : Option E} {qe : Queries.Event E}
    {left : List (E × Message)} {iss : List String} (hm : Moves net s ev n via qe left iss)
    (g : String) : resultsWith g left ≤ resultsWith g s.wire := by
  cases hm with
  | deliver i => exact (List.eraseIdx_sublist s.wire i).countP_le
  | _ => exact Nat.le_refl _

variable [DecidableEq N] [DecidableEq E]

/-- What a node's step spends: a guid for a QUERY of its own, or that of a result that arrives.
    What it forwards was spent before. -/
theorem Decent.spent_step (hs : net.Decent s) {ev : Event N E} (hev : net.Encodes ev) {n : N}
    {via : Option E} {qe : Queries.Event E} {left : List (E × Message)} {iss : List String}
    (hm : Moves net s ev n via qe left iss) {q : Queries E} {acts : List (Action E)}
    (heff : Queries.Effect (net.host n) (s.queries n) qe q acts) {g : String}
    (hg : Spent (net.put { s with wire := left, issued := iss } n q acts) g) :
    Spent s g ∨ (∃ r k, qe = .startResolving r k g) ∨
    ∃ i e msgp, ev = .deliver i ∧ s.wire[i]? = some (e, msgp) ∧ msgp.type = .queryresult ∧
      msgp.guid = g := by
  -- a message that is delivered, seen from the node
  have hdeliver : ∀ {r conn msgp}, qe = .received r conn msgp →
      ∃ i e, ev = .deliver i ∧ s.wire[i]? = some (e, msgp) := by
    rintro r conn msgp rfl
    cases hm with
    | deliver i e msgp hw => exact ⟨i, _, rfl, hw⟩
  rcases hg with ⟨m, hseen⟩ | ⟨m, t, ht, rfl⟩ | ⟨p, hp, ht, rfl⟩
  · by_cases hn : m = n
    · subst hn
      simp only [put, Function.update_self] at hseen
      rcases (Queries.mem_seenGuids_step heff).mp hseen with hold | ⟨r, conn, msgp, he, -, rfl⟩
      · exact Or.inl (Or.inl ⟨m, hold⟩)
      · obtain ⟨i, e, rfl, hw⟩ := hdeliver he
        by_cases htype : msgp.type = .queryresult
        · exact Or.inr (Or.inr ⟨i, e, msgp, rfl, hw, htype, rfl⟩)
        · exact Or.inl (Or.inr (Or.inr ⟨_, List.mem_of_getElem? hw, htype, rfl⟩))
    · simp only [put, Function.update_of_ne hn] at hseen
      exact Or.inl (Or.inl ⟨m, hseen⟩)
  · by_cases hn : m = n
    · subst hn
      simp only [put, Function.update_self] at ht
      rcases Queries.timers_step heff ht with hold | ⟨r, conn, he, hquery⟩
      · exact Or.inl (Or.inr (Or.inl ⟨m, t, hold, rfl⟩))
      · obtain ⟨i, e, rfl, hw⟩ := hdeliver he
        refine Or.inl (Or.inr (Or.inr ⟨_, List.mem_of_getElem? hw, ?_, rfl⟩))
        simp [hquery]
    · simp only [put, Function.update_of_ne hn] at ht
      exact Or.inl (Or.inr (Or.inl ⟨m, t, ht, rfl⟩))
  · rcases List.mem_append.mp hp with hp | hp
    · exact Or.inl (Or.inr (Or.inr ⟨p, hm.wire_sub p hp, ht, rfl⟩))
    · obtain ⟨c, -, -, hin⟩ := mem_packets.mp hp
      rcases Queries.written_guid (hs.sane n) (hs.welcome hev hm) heff hin with
        ⟨-, ⟨t, htm, heq⟩ | huuid⟩ | ⟨hresult, -⟩
      · exact Or.inl (Or.inr (Or.inl ⟨n, t, htm, by rw [heq]⟩))
      · exact Or.inr (Or.inl huuid)
      · exact absurd hresult ht

omit [DecidableEq N] in
/-- A node writes a result alone, under a new guid, and to one connection. -/
theorem Decent.results_written (hs : net.Decent s) {ev : Event N E} (hev : net.Encodes ev) {n : N}
    {via : Option E} {qe : Queries.Event E} {left : List (E × Message)} {iss : List String}
    (hm : Moves net s ev n via qe left iss) {q : Queries E} {acts : List (Action E)}
    (heff : Queries.Effect (net.host n) (s.queries n) qe q acts) (g : String) :
    resultsWith g (net.packets (s.router n) acts) = 0 ∨
      ((∃ r i, qe = .callback r i g) ∧ resultsWith g (net.packets (s.router n) acts) ≤ 1) := by
  by_cases hzero : resultsWith g (net.packets (s.router n) acts) = 0
  · exact Or.inl hzero
  · obtain ⟨p, hp, hmatch⟩ := List.countP_pos_iff.mp (Nat.pos_of_ne_zero hzero)
    obtain ⟨ht, rfl⟩ := of_decide_eq_true hmatch
    obtain ⟨c, -, -, hin⟩ := mem_packets.mp hp
    rcases Queries.written_guid (hs.sane n) (hs.welcome hev hm) heff hin with
      ⟨hquery, -⟩ | ⟨-, he, hone⟩
    · rw [ht] at hquery
      cases hquery
    · refine Or.inr ⟨he, List.countP_le_length.trans ?_⟩
      rw [hone]
      exact List.length_filterMap_le ..

omit [DecidableEq N] [DecidableEq E] in
/-- Losing a message keeps guids fresh. -/
theorem Fresh.lost (hf : Fresh s) (i : Nat) : Fresh { s with wire := s.wire.eraseIdx i } := by
  have hle : ∀ g, resultsWith g (s.wire.eraseIdx i) ≤ resultsWith g s.wire := fun g =>
    (List.eraseIdx_sublist s.wire i).countP_le
  refine ⟨fun g hg => ?_, fun p hp => hf.wire p (List.mem_of_mem_eraseIdx hp), fun g =>
    (hle g).trans (hf.once g)⟩
  have hspent : Spent s g := by
    rcases hg with hg | hg | ⟨p, hp, hg⟩
    · exact Or.inl hg
    · exact Or.inr (Or.inl hg)
    · exact Or.inr (Or.inr ⟨p, List.mem_of_mem_eraseIdx hp, hg⟩)
  obtain ⟨hissued, hzero⟩ := hf.spent g hspent
  exact ⟨hissued, Nat.eq_zero_of_le_zero (hzero ▸ hle g)⟩

omit [DecidableEq N] [DecidableEq E] in
/-- The guid of a delivered result is on nothing else that is on its way. -/
theorem Fresh.delivered (hf : Fresh s) {i : Nat} {e : E} {msgp : Message}
    (hw : s.wire[i]? = some (e, msgp)) (ht : msgp.type = .queryresult) :
    resultsWith msgp.guid (s.wire.eraseIdx i) = 0 := by
  have hcount := Tally.countP_eraseIdx hw fun p => decide
    (p.2.type = .queryresult ∧ p.2.guid = msgp.guid)
  have hone := hf.once msgp.guid
  simp only [ht, and_self, decide_true, if_true] at hcount
  unfold resultsWith at hone ⊢
  omega

/-- A step of a node: what it spends is issued, and no result is left under it. -/
theorem Fresh.moved (hf : Fresh s) (hs : net.Decent s) {ev : Event N E} (hev : net.Encodes ev)
    {n : N} {via : Option E} {qe : Queries.Event E} {left : List (E × Message)} {iss : List String}
    (hm : Moves net s ev n via qe left iss) {q : Queries E} {acts : List (Action E)}
    (heff : Queries.Effect (net.host n) (s.queries n) qe q acts) :
    Fresh (net.put { s with wire := left, issued := iss } n q acts) := by
  have hnew := hs.results_written hev hm heff
  have happend : ∀ g, resultsWith g (left ++ net.packets (s.router n) acts) =
      resultsWith g left + resultsWith g (net.packets (s.router n) acts) := fun g =>
    List.countP_append
  -- a guid that nobody has been given is on no message
  have hunissued : ∀ g, g ∉ s.issued → resultsWith g left = 0 := fun g hg =>
    Nat.eq_zero_of_le_zero (hf.resultsWith_eq_zero hg ▸ hm.resultsWith_le g)
  refine ⟨fun g hg => ?_, fun p hp => ?_, fun g => ?_⟩
  · show g ∈ iss ∧ resultsWith g (left ++ net.packets (s.router n) acts) = 0
    rw [happend]
    -- spent before, spent by what is written now, or spent by the delivery of this step
    rcases hs.spent_step hev hm heff hg with hold | huuid | ⟨i, e, msgp, rfl, hw, ht, rfl⟩
    · obtain ⟨hissued, hzero⟩ := hf.spent g hold
      refine ⟨hm.issued_sub g hissued, ?_⟩
      rcases hnew g with hno | ⟨hcallback, -⟩
      · have hle := hm.resultsWith_le g
        omega
      · exact absurd hissued (hm.uuid (Or.inr hcallback)).1
    · obtain ⟨hunused, hissued⟩ := hm.uuid (Or.inl huuid)
      refine ⟨hissued, ?_⟩
      rcases hnew g with hno | ⟨⟨r', i, he⟩, -⟩
      · rw [hno, hunissued g hunused]
      · obtain ⟨r, k, rfl⟩ := huuid
        cases he
    · refine ⟨hm.issued_sub _ (hf.wire _ (List.mem_of_getElem? hw)), ?_⟩
      cases hm with
      | deliver _ e' msgp' hw' =>
        rcases hnew msgp.guid with hno | ⟨⟨r, j, he⟩, -⟩
        · rw [hno, hf.delivered hw ht]
        · cases he
  · show p.2.guid ∈ iss
    rcases List.mem_append.mp hp with hp | hp
    · exact hm.issued_sub _ (hf.wire p (hm.wire_sub p hp))
    · obtain ⟨c, -, -, hin⟩ := mem_packets.mp hp
      -- a packet written now has the guid of a timer's message, or the one just given out
      rcases Queries.written_guid (hs.sane n) (hs.welcome hev hm) heff hin with
        ⟨-, ⟨t, ht, heq⟩ | huuid⟩ | ⟨-, he, -⟩
      · exact hm.issued_sub _ (hf.spent _ (Or.inr (Or.inl ⟨n, t, ht, by rw [heq]⟩))).1
      · exact (hm.uuid (Or.inl huuid)).2
      · exact (hm.uuid (Or.inr he)).2
  · show resultsWith g (left ++ net.packets (s.router n) acts) ≤ 1
    rw [happend]
    have hle := hm.resultsWith_le g
    have hone := hf.once g
    rcases hnew g with hno | ⟨hcallback, hle'⟩
    · omega
    · rw [hunissued g (hm.uuid (Or.inr hcallback)).1]
      omega

/-- **Results on their way keep guids of their own**, whichever step the network takes. -/
theorem fresh_step {ev : Event N E} {out : List (Log N E)} (hs : net.Decent s)
    (hev : net.Encodes ev) (hok : net.step s ev = .ok (s', out)) (hf : Fresh s) : Fresh s' := by
  cases step_effect hok with
  | idle => exact hf
  | lost i => exact hf.lost i
  | rerouted => exact ⟨hf.spent, hf.wire, hf.once⟩
  | moved n via qe left iss hm q acts heff => exact hf.moved hs hev hm heff

omit [DecidableEq N] [DecidableEq E] in
/-- At the start nothing is on the way and nothing has been seen. -/
theorem fresh_start (h0 : net.Starts s) : Fresh s := by
  have hwire : ∀ p, p ∉ s.wire := fun p hp => by
    rw [h0.wire] at hp
    cases hp
  refine ⟨fun g hg => ?_, fun p hp => absurd hp (hwire p), fun g => ?_⟩
  · rcases hg with ⟨n, hg⟩ | ⟨n, t, ht, -⟩ | ⟨p, hp, -⟩
    · rw [h0.queries n] at hg
      cases hg
    · rw [h0.queries n] at ht
      cases ht
    · exact absurd hp (hwire p)
  · rw [h0.wire]
    exact Nat.zero_le 1

/-- So it is in every run that encodes as the codec should. -/
theorem Run.fresh {hist : History N E} (hr : net.Run hist s) (henc : net.AllEncode hist) :
    Fresh s := by
  refine Runs.Run.invariant (I := fun hist s => net.AllEncode hist → Fresh s) ?_ ?_ hr henc
  · intro s h0 _
    exact fresh_start h0
  · intro hist s ev s' out hr ih hok henc
    exact fresh_step (Run.decent hr henc.of_append)
      (henc _ List.mem_concat_self) hok (ih henc.of_append)

end Network

end Greynet
