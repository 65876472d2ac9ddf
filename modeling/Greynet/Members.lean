/-
  What holds of the mesh as a whole, amid strangers.

  The nodes of a society run the plugin; a stranger may hold any other end and send anything on it.
  What can be said of the nodes then goes by the connections that have a node at both ends, and of
  these the IDENTs tell the truth: each is written by a node, with its own JID.

  1. Alice and Bob — two nodes, and a codec for all they write to each other.
  2. `names_are_true`, `mesh_is_simple` — who is connected to whom, and under which name.
  3. `members_conform`, `handshakes_agree` — what one end can rely on the other end to do.
  4. `firewalled_apart` — nodes that know no public address of their own.

  A stranger can still take a node's name, and then the node's own connection is refused for it.  So
  nothing here says that two nodes who dial each other do get connected; what is said is what holds
  of them if they are.
-/
import Greynet.Society

namespace Greynet

variable {C N : Type} [LinearOrder C] [DecidableEq N]

namespace World

/-! ## Alice and Bob

  The witnesses need a codec that reads what two nodes may write, IDENTs and adverts with any
  cookie.  It is no JSON parser: it compares a text with what these two write, up to the cookie. -/

/-- What stands between two texts, if the one begins so; it is cut off at the length of the
    other. -/
def between (pre post s : String) : Option String :=
  if pre.toList.isPrefixOf s.toList then
    some (String.ofList ((s.toList.drop pre.length).take (s.length - pre.length - post.length)))
  else none

/-- The text of an IDENT without a cookie, which is what an acceptor replies with. -/
def nameText (n : String) : String := "\x7b\"name\":\"" ++ n ++ "\"\x7d"

/-- The text of one with a cookie, up to there.  Cookies are any strings, so the codec has to find
    out where one begins and ends. -/
def introText (n : String) : String := "\x7b\"name\":\"" ++ n ++ "\",\"cookie\":\""

/-- The text of an advert, up to its cookie, with the line breaks that `write_formatted` puts in. -/
def advertText (ip digits : String) : String :=
  "\x7b\n" ++ ("    \"playdar-greynet\" : \"0.2\",\n    \"peer_ip\" : \"" ++ ip ++
    "\",\n    \"peer_port\" : " ++ digits ++ ",\n    \"cookie\" : \"")

/-- Reading what the node with this JID, address and port writes: an IDENT with or without a cookie,
    or an advert. -/
def readAs (n ip : String) (port : Int) (digits s : String) : Option Value :=
  if s = nameText n then some (.obj [("name", .str n)])
  else
    ((between (introText n) "\"\x7d" s).map fun k =>
      Value.obj [("name", .str n), ("cookie", .str k)]).or
    ((between (advertText ip digits) "\"\n\x7d" s).map fun k =>
      Value.obj [("playdar-greynet", .str "0.2"), ("peer_ip", .str ip), ("peer_port", .int port),
        ("cookie", .str k)])

/-- A codec for what Alice and Bob write: as one of them, or else as the other.  It reads infinitely
    many texts, one for each cookie. -/
def friendJson : JsonSpirit where
  read s := (readAs "alice" "1.1.1.1" 60210 "60210" s).or (readAs "bob" "2.2.2.2" 60211 "60211" s)
  write
    | .obj [(_, .str n)] => nameText n
    | .obj [(_, .str n), (_, .str k)] => introText n ++ k ++ "\"\x7d"
    | _ => ""
  writeFormatted
    | .obj [_, (_, .str ip), (_, .int port), (_, .str k)] =>
      advertText ip (if port = 60210 then "60210" else "60211") ++ k ++ "\"\n\x7d"
    | _ => ""

/-- What stands there is read back, whatever it is, quotes and all. -/
theorem between_append (pre k post : String) : between pre post (pre ++ k ++ post) = some k := by
  have htake : pre.length + k.length + post.length - pre.length - post.length =
      k.toList.length := by
    rw [String.length_toList]
    omega
  rw [between, if_pos]
  · simp only [String.length_append, String.toList_append, htake]
    rw [← String.length_toList, List.append_assoc, List.drop_left, List.take_left,
      String.ofList_toList]
  · rw [List.isPrefixOf_iff_prefix, String.toList_append, String.toList_append, List.append_assoc]
    exact List.prefix_append ..

/-- Texts that differ in their first `n` letters differ, whatever follows.  With this the texts are
    told apart without looking at what a cookie may be. -/
theorem not_prefix {a b t : List Char} (n : Nat) (ha : n ≤ a.length) (hb : n ≤ b.length)
    (h : a.take n ≠ b.take n) : ¬ a <+: b ++ t := by
  rintro ⟨u, hu⟩
  have htake := congrArg (List.take n) hu
  rw [List.take_append_of_le_length ha, List.take_append_of_le_length hb] at htake
  exact h htake

/-- So nothing is read of a text that begins otherwise, ... -/
theorem between_none {a b : String} (n : Nat) (ha : n ≤ a.toList.length) (hb : n ≤ b.toList.length)
    (h : a.toList.take n ≠ b.toList.take n) (post t : String) : between a post (b ++ t) = none := by
  rw [between, if_neg]
  rw [List.isPrefixOf_iff_prefix, String.toList_append]
  exact not_prefix n ha hb h

/-- ... and it is not that one. -/
theorem ne_append {a b : String} (n : Nat) (ha : n ≤ a.toList.length) (hb : n ≤ b.toList.length)
    (h : a.toList.take n ≠ b.toList.take n) (t : String) : b ++ t ≠ a := by
  intro hab
  refine not_prefix n ha hb h (t := t.toList) ?_
  rw [← String.toList_append, hab]

/-- An IDENT is read by whoever has the name in it, and the cookie is what was written. -/
theorem readAs_intro (n ip : String) (port : Int) (digits k : String) :
    readAs n ip port digits (introText n ++ k ++ "\"\x7d") =
      some (.obj [("name", .str n), ("cookie", .str k)]) := by
  have hlong : introText n ++ k ++ "\"\x7d" ≠ nameText n := by
    intro h
    have hlen := congrArg (fun s => s.toList.length) h
    simp [introText, nameText] at hlen
  rw [readAs, if_neg hlong, between_append]
  rfl

/-- Alice and Bob, each at an address of their own, so that each can advertise. -/
def friendHost (i : Side) : Host Nat where
  js := friendJson
  lib := .table
  playdar := .plain
  addressFromString ip :=
    if ip = "1.1.1.1" then some 0x01010101 else if ip = "2.2.2.2" then some 0x02020202 else none
  jid := if i = .a then "alice" else "bob"
  publicIp := if i = .a then "1.1.1.1" else "2.2.2.2"
  port := if i = .a then 60210 else 60211

/-- The codec finds out which of the two has written it, by the name that comes first, ... -/
theorem friendJson_reads_intro (i : Side) (k : String) :
    friendJson.read (introText (friendHost i).jid ++ k ++ "\"\x7d") =
      some (.obj [("name", .str (friendHost i).jid), ("cookie", .str k)]) := by
  cases i with
  | a => exact Option.or_eq_some_iff.mpr (Or.inl (readAs_intro ..))
  | b =>
    have hno : readAs "alice" "1.1.1.1" 60210 "60210" (introText "bob" ++ k ++ "\"\x7d") =
        none := by
      rw [readAs, String.append_assoc, if_neg (ne_append 10 (by decide) (by decide) (by decide) _),
        between_none 10 (by decide) (by decide) (by decide),
        between_none 10 (by decide) (by decide) (by decide)]
      rfl
    exact Option.or_eq_some_iff.mpr (Or.inr ⟨hno, readAs_intro ..⟩)

/-- ... so each IDENT is read as it was written, with and without a cookie. -/
theorem friendJson_reads (i j : Side) (x : Connection) :
    (friendHost i).js.read ((friendHost j).js.write (Mesh.identObject (friendHost j) x)) =
      some (Mesh.identObject (friendHost j) x) := by
  rw [Mesh.identObject]
  by_cases hk : x.get "cookie" = ""
  · rw [if_neg (not_not_intro hk)]
    cases i <;> cases j <;> decide
  · rw [if_pos hk]
    exact friendJson_reads_intro j (x.get "cookie")

/-- An advert starts a new line where an IDENT does not, and that is in its first two letters. -/
theorem take_advertText (ip digits : String) :
    2 ≤ (advertText ip digits).toList.length ∧
      (advertText ip digits).toList.take 2 = ['\x7b', '\n'] := by
  have hhead : "\x7b\n".toList = ['\x7b', '\n'] := by decide
  rw [advertText, String.toList_append, hhead]
  exact ⟨by simp, rfl⟩

/-- An advert is read with its cookie, by whoever has its address and port. -/
theorem readAs_advert (n ip : String) (port : Int) (digits k : String) :
    readAs n ip port digits (advertText ip digits ++ k ++ "\"\n\x7d") =
      some (.obj [("playdar-greynet", .str "0.2"), ("peer_ip", .str ip), ("peer_port", .int port),
        ("cookie", .str k)]) := by
  obtain ⟨hlen, htake⟩ := take_advertText ip digits
  have hname : advertText ip digits ++ (k ++ "\"\n\x7d") ≠ nameText n := by
    refine ne_append 2 ?_ hlen ?_ _
    · simp [nameText]
    · rw [htake]
      simp [nameText]
  have hintro : between (introText n) "\"\x7d" (advertText ip digits ++ (k ++ "\"\n\x7d")) =
      none := by
    refine between_none 2 ?_ hlen ?_ _ _
    · simp [introText]
    · rw [htake]
      simp [introText]
  rw [readAs, between_append, String.append_assoc, if_neg hname, hintro]
  rfl

/-- The texts of the friends' adverts. -/
theorem friend_advert (k : String) :
    friendJson.writeFormatted (Mesh.advertObject (friendHost .a) k) =
      advertText "1.1.1.1" "60210" ++ k ++ "\"\n\x7d" ∧
    friendJson.writeFormatted (Mesh.advertObject (friendHost .b) k) =
      advertText "2.2.2.2" "60211" ++ k ++ "\"\n\x7d" := by
  constructor <;> simp [friendJson, Mesh.advertObject, friendHost]

/-- And each of these is read as it was written too. -/
theorem friendJson_reads_advert (i : Side) (k : String) :
    friendJson.read (friendJson.writeFormatted (Mesh.advertObject (friendHost i) k)) =
      some (Mesh.advertObject (friendHost i) k) := by
  cases i with
  | a =>
    rw [(friend_advert k).1, friendJson]
    exact Option.or_eq_some_iff.mpr (Or.inl (readAs_advert "alice" "1.1.1.1" 60210 "60210" k))
  | b =>
    have hno : readAs "alice" "1.1.1.1" 60210 "60210"
        (advertText "2.2.2.2" "60211" ++ k ++ "\"\n\x7d") = none := by
      rw [readAs, String.append_assoc, if_neg (ne_append 2 (by decide) (by decide) (by decide) _),
        between_none 2 (by decide) (by decide) (by decide),
        between_none 60 (by decide) (by decide) (by decide)]
      rfl
    rw [(friend_advert k).2, friendJson]
    exact Option.or_eq_some_iff.mpr (Or.inr ⟨hno, readAs_advert "bob" "2.2.2.2" 60211 "60211" k⟩)

/-- The two of them: their JIDs are different and each reads the other. -/
def friends : Society Side Nat where
  host := friendHost
  jid_inj i j h := by
    cases i <;> cases j <;> first | rfl | exact absurd h (by decide)
  reads := friendJson_reads

/-- Bob advertises himself to Alice, who dials him: her end is 0 and his is 1. -/
def dialling : List (Event Side Nat) :=
  [.node .b (.mesh (.jabberNewPeer "alice" "ka")),
    .node .a (.mesh (.jabberMsgReceived
      (friendJson.writeFormatted (Mesh.advertObject (friendHost .b) "ka")) "bob")),
    .cable .a .b 0 1, .node .b (.mesh (.newIncomingConnection 1)),
    .node .a (.mesh (.newOutgoingConnection 0 0 "g"))]

/-- Her IDENT arrives, and his reply.  That makes both ends ready. -/
def befriending : List (Event Side Nat) :=
  dialling ++ [.deliver .b 1 .nothing "h", .deliver .a 0 .nothing ""]

/-- Her IDENT is on its way, and neither end is ready. -/
def dialled : World Side Nat := Runs.after (step friends) empty dialling

/-- They are connected, and nothing is on the way. -/
def befriended : World Side Nat := Runs.after (step friends) empty befriending

/-- Both are runs from the empty world, ... -/
theorem dialled_run : Run friends (Runs.trace (step friends) empty dialling) dialled :=
  Runs.run_trace dialling rfl

/-- ... the second one two deliveries longer. -/
theorem befriended_run : Run friends (Runs.trace (step friends) empty befriending) befriended :=
  Runs.run_trace befriending rfl

/-- While her IDENT is on its way: the two ends, and what arrives.  These and the next are what the
    witnesses below are made of. -/
theorem dialled_facts : dialled.Joins .b 1 .a 0 ∧
    1 ∈ (dialled.node .b).mesh.router.connections ∧
    ((dialled.node .b).mesh.router.conn 1).ready = false ∧
    dialled.wire 1 =
      [identMessage "\x7b\"name\":\"alice\",\"cookie\":\"ka\"\x7d" "g"] := by
  have hall : (dialled.mate 1 = some 0 ∧ dialled.holder 1 = some .b ∧ dialled.holder 0 = some .a) ∧
      1 ∈ (dialled.node .b).mesh.router.connections ∧
      ((dialled.node .b).mesh.router.conn 1).ready = false ∧
      dialled.wire 1 =
        [identMessage "\x7b\"name\":\"alice\",\"cookie\":\"ka\"\x7d" "g"] := by
    decide +kernel
  exact ⟨⟨hall.1.1, hall.1.2.1, hall.1.2.2⟩, hall.2⟩

/-- When both have arrived: the two ends are up and the two queues are empty. -/
theorem befriended_facts : befriended.Joins .a 0 .b 1 ∧ befriended.dials 0 = true ∧
    (0 ∈ (befriended.node .a).mesh.router.connections ∧
      ((befriended.node .a).mesh.router.conn 0).ready = true) ∧
    (1 ∈ (befriended.node .b).mesh.router.connections ∧
      ((befriended.node .b).mesh.router.conn 1).ready = true) ∧
    befriended.wire 0 = [] ∧ befriended.wire 1 = [] := by
  have hall : (befriended.mate 0 = some 1 ∧ befriended.holder 0 = some .a ∧
        befriended.holder 1 = some .b) ∧ befriended.dials 0 = true ∧
      (0 ∈ (befriended.node .a).mesh.router.connections ∧
        ((befriended.node .a).mesh.router.conn 0).ready = true) ∧
      (1 ∈ (befriended.node .b).mesh.router.connections ∧
        ((befriended.node .b).mesh.router.conn 1).ready = true) ∧
      befriended.wire 0 = [] ∧ befriended.wire 1 = [] := by
    decide +kernel
  exact ⟨⟨hall.1.1, hall.1.2.1, hall.1.2.2⟩, hall.2⟩

/-! ## The mesh

  That no two connections of the same two nodes are up comes from the names: each end has refused an
  IDENT with the name of an open connection, and between nodes the name is the JID. -/

variable {S : Society N C} {w w' : World N C} {i : N}

/-- The connection is open, and its IDENT accepted, at this end of it. -/
def Up (w : World N C) (i : N) (c : C) : Prop :=
  c ∈ (w.node i).mesh.router.connections ∧ w.Ready i c

/-- The two nodes are connected: one connection is up at both ends, the same one. -/
def Linked (w : World N C) (i j : N) : Prop := ∃ c d, w.Joins i c j d ∧ w.Up i c ∧ w.Up j d

omit [DecidableEq N] in
/-- The two ends of a connection, seen from the other one: each is the other's mate. -/
theorem Sane.swap (h : Sane S w) {j : N} {c d : C} (hj : w.Joins i c j d) : w.Joins j d i c :=
  ⟨(h.mates c d hj.mate).1, hj.there, hj.here⟩

omit [DecidableEq N] in
/-- No connection is its own other end, since one end has dialled and the other has not. -/
theorem Sane.mate_ne (h : Sane S w) {c d : C} (hcd : w.mate c = some d) : c ≠ d := by
  rintro rfl
  have hdials := (h.mates c c hcd).2
  cases hb : w.dials c <;> rw [hb] at hdials <;> cases hdials

omit [DecidableEq N] in
/-- Two connections of a node with the same other node are not both up: both would bear its name. -/
theorem Sane.up_inj (h : Sane S w) {j : N} {c d c' d' : C} (hj : w.Joins i c j d)
    (hj' : w.Joins i c' j d') (hc : w.Up i c) (hc' : w.Up i c') : c = c' := by
  obtain ⟨hist, hr⟩ := h.runs i
  exact hr.name_inj hc.1 hc'.1 (h.named i c j d hj hc.2) (h.named i c' j d' hj' hc'.2)

omit [DecidableEq N] in
/-- An open connection has been made, by one of the two calls of libf2f. -/
theorem Sane.made (h : Sane S w) {c : C} (hc : c ∈ (w.node i).mesh.router.connections) :
    c ∈ (w.node i).mesh.router.known := by
  obtain ⟨hist, hr⟩ := h.runs i
  exact hr.gated.known c hc

omit [DecidableEq N] in
/-- The accepting end has spoken once it is ready, and not before, since it speaks in reply. -/
theorem Sane.answered (h : Sane S w) {j : N} {c d : C} (hj : w.Joins i c j d)
    (hdials : w.dials c = true) (hspoke : w.Spoke j d) : w.Ready j d := by
  rcases hspoke with hready | ⟨-, hd⟩
  · exact hready
  · rw [(h.mates c d hj.mate).2, hdials] at hd
    cases hd

/-- **A connection between two nodes bears the other one's JID from the moment it is ready, and no
    name before.**  Nothing checks what an IDENT says; it is true because every node writes its own
    JID, and nobody else's words come on a connection between nodes. -/
theorem names_are_true (S : Society N C) (hist : History N C) (w : World N C) (hr : Run S hist w)
    (i j : N) (c d : C) (hj : w.Joins i c j d) :
    (((w.node i).mesh.router.conn c).ready = true →
      ((w.node i).mesh.router.conn c).name = some (S.host j).jid) ∧
    (((w.node i).mesh.router.conn c).ready = false →
      ((w.node i).mesh.router.conn c).name = none) := by
  refine ⟨fun hready => hr.sane.named i c j d hj hready, fun hnot => ?_⟩
  obtain ⟨hist', hr'⟩ := hr.sane.runs i
  by_contra hname
  rw [(Mesh.handshaken_of_reachable hr'.mesh c).named hname] at hnot
  cases hnot

/-- Alice knows that it is Bob. -/
theorem names_befriended : ((befriended.node .a).mesh.router.conn 0).name = some "bob" :=
  (names_are_true friends _ _ befriended_run .a .b 0 1 befriended_facts.1).1
    befriended_facts.2.2.1.2

/-- **The mesh is a simple graph**, two nodes being linked when a connection of theirs is up at both
    ends: no node is linked to itself, not even one that dials its own address, and no node has two
    connections up with the same other one.  It rests on the names: a second connection with the
    same node would bear a name that is taken.  One end may well be up alone, while the other
    one's IDENT is on its way or after it has closed; such a connection counts as none. -/
theorem mesh_is_simple (S : Society N C) (hist : History N C) (w : World N C)
    (hr : Run S hist w) :
    (∀ i, ¬ w.Linked i i) ∧ (∀ i j, w.Linked i j → w.Linked j i) ∧
    ∀ i j c d c' d', w.Joins i c j d → w.Joins i c' j d' → w.Up i c → w.Up i c' →
      c = c' ∧ d = d' := by
  have h := hr.sane
  refine ⟨?_, ?_, ?_⟩
  · rintro i ⟨c, d, hj, hc, hd⟩
    -- its two ends would both bear the node's own name
    exact h.mate_ne hj.mate (h.up_inj hj (h.swap hj) hc hd)
  · rintro i j ⟨c, d, hj, hc, hd⟩
    exact ⟨d, c, h.swap hj, hd, hc⟩
  · intro i j c d c' d' hj hj' hc hc'
    obtain rfl := h.up_inj hj hj' hc hc'
    exact ⟨rfl, Option.some.inj (hj.mate.symm.trans hj'.mate)⟩

/-- They are connected both ways, and Alice not to herself. -/
theorem simple_befriended : befriended.Linked .b .a ∧ ¬ befriended.Linked .a .a :=
  have hsimple := mesh_is_simple friends _ _ befriended_run
  ⟨hsimple.2.1 .a .b ⟨0, 1, befriended_facts.1, befriended_facts.2.2.1, befriended_facts.2.2.2.1⟩,
    hsimple.1 .a⟩

omit [DecidableEq N] in
/-- The first message to a waiting end is the other node's IDENT: on their connection nothing is
    written before it, and nothing overtakes it. -/
theorem Sane.introduced (h : Sane S w) {j : N} {c d : C} (hj : w.Joins i c j d) {m : Message}
    {rest : List Message} (hopen : c ∈ (w.node i).mesh.router.connections)
    (hwire : w.wire c = m :: rest) (hnot : ¬ w.Ready i c) : Introduces (S.host j) m :=
  (h.flows i c j d hj).head hnot (fun hsh => hsh.2 hopen) hwire

omit [DecidableEq N] in
/-- What a waiting end does with that IDENT: it passes under the other node's JID, or the
    connection is closed.  No third name is possible, for the IDENT bears no other. -/
theorem Sane.hears (h : Sane S w) {j : N} {c d : C} (hj : w.Joins i c j d) {m : Message}
    {rest : List Message} (hopen : c ∈ (w.node i).mesh.router.connections)
    (hwire : w.wire c = m :: rest) (hnot : ¬ w.Ready i c) (answer : SsAnswer) (uuid : String) :
    ∃ n out,
      Node.step (S.host i) (w.node i) (.received c m answer uuid) = .ok (n, out) ∧
      ((Node.LetIn n c (S.host j).jid ∧ out = Mesh.identReply (S.host i) c (!w.dials c) uuid) ∨
        (Node.ShutOut (w.node i) c n ∧ out = [.fin c] ∧
          ¬ Mesh.Passes (S.host i) (w.node i).mesh m (!w.dials c) (S.host j).jid)) := by
  have hours : Introduces (S.host j) m := h.introduced hj hopen hwire hnot
  obtain ⟨hist, hr⟩ := h.runs i
  have hexp : (w.node i).Expecting c (!w.dials c) :=
    ⟨hopen, by rw [h.waiting i c (h.made hopen) hnot]; rfl⟩
  rcases Node.step_expecting hr hexp m answer uuid with ⟨o, name, n, ha, hlet, hs⟩ |
    ⟨n, hno, hshut, hs⟩
  · have hp := Node.passes_iff.mpr ⟨o, ha⟩
    obtain rfl := Option.some.inj (hp.named.symm.trans hours.named)
    exact ⟨n, _, hs, Or.inl ⟨hlet, rfl⟩⟩
  · refine ⟨n, _, hs, Or.inr ⟨hshut, rfl, fun hp => ?_⟩⟩
    obtain ⟨o, ha⟩ := Node.passes_iff.mp hp
    exact hno o _ ha

/-- **What arrives from a node on an open connection is what `expect_ident` and the router count
    on**: the first message is that node's IDENT, and it is let in under that node's JID unless the
    JID is taken here already or the accepting end has issued no such cookie; after that, no IDENT
    comes at all.  `refused_for_twins` says more where adverts and cookies are honest. -/
theorem members_conform (S : Society N C) (hist : History N C) (w : World N C) (hr : Run S hist w)
    (i j : N) (c d : C) (hj : w.Joins i c j d) (m : Message) (rest : List Message)
    (hopen : c ∈ (w.node i).mesh.router.connections) (hwire : w.wire c = m :: rest) :
    (w.Ready i c → m.type ≠ .ident) ∧
    (¬ w.Ready i c → Introduces (S.host j) m ∧ ∀ answer uuid, ∃ n out,
      Node.step (S.host i) (w.node i) (.received c m answer uuid) = .ok (n, out) ∧
      ((Node.LetIn n c (S.host j).jid ∧ out = Mesh.identReply (S.host i) c (!w.dials c) uuid) ∨
        (Node.ShutOut (w.node i) c n ∧ out = [.fin c] ∧
          ((S.host i).lib.hasConnection (w.node i).mesh.router (S.host j).jid = true ∨
            (w.dials c = false ∧ ∀ k, identCookie (S.host i).js m = some k → k ≠ "" →
              (w.node i).mesh.peerCookies k = none))))) := by
  have h := hr.sane
  refine ⟨fun hready => (h.flows i c j d hj).tail hready hwire, fun hnot => ?_⟩
  have hours : Introduces (S.host j) m := h.introduced hj hopen hwire hnot
  refine ⟨hours, fun answer uuid => ?_⟩
  obtain ⟨n, out, hs, hlet | ⟨hshut, hout, hno⟩⟩ := h.hears hj hopen hwire hnot answer uuid
  · exact ⟨n, out, hs, Or.inl hlet⟩
  · refine ⟨n, out, hs, Or.inr ⟨hshut, hout, ?_⟩⟩
    -- were the name free and the cookie known, the IDENT would have passed
    by_contra hwhy
    obtain ⟨hfree, hcookie⟩ := not_or.mp hwhy
    refine hno ⟨hours.named, Bool.eq_false_iff.mpr hfree, fun hin => ?_⟩
    have hdials : w.dials c = false := by simpa using hin
    have hissued : ¬ ∀ k, identCookie (S.host i).js m = some k → k ≠ "" →
        (w.node i).mesh.peerCookies k = none := fun hall => hcookie ⟨hdials, hall⟩
    push Not at hissued
    exact hissued

/-- Bob takes Alice's IDENT: it is hers, and it can only be let in, or her name be taken, or her
    cookie unknown. -/
theorem conform_dialled : Introduces (friendHost .a)
      (identMessage "\x7b\"name\":\"alice\",\"cookie\":\"ka\"\x7d" "g") ∧ ∃ n out,
    Node.step (friendHost .b) (dialled.node .b) (.received 1
      (identMessage "\x7b\"name\":\"alice\",\"cookie\":\"ka\"\x7d" "g") .nothing "h") =
      .ok (n, out) ∧
    ((Node.LetIn n 1 "alice" ∧ out = Mesh.identReply (friendHost .b) 1 (!dialled.dials 1) "h") ∨
      (Node.ShutOut (dialled.node .b) 1 n ∧ out = [.fin 1] ∧
        ((friendHost .b).lib.hasConnection (dialled.node .b).mesh.router "alice" = true ∨
          (dialled.dials 1 = false ∧ ∀ k, identCookie friendJson
            (identMessage "\x7b\"name\":\"alice\",\"cookie\":\"ka\"\x7d" "g") = some k → k ≠ "" →
              (dialled.node .b).mesh.peerCookies k = none)))) :=
  ((members_conform friends _ _ dialled_run .b .a 1 0 dialled_facts.1 _ []
    dialled_facts.2.1 dialled_facts.2.2.2).2
    fun hready => absurd (hready.symm.trans dialled_facts.2.2.1) (by decide)).imp_right
    fun htakes => htakes .nothing "h"

/-- **The two ends of a handshake agree**: the dialling end is ready only when the other one is;
    and when nothing is on the way between two ends that are open, both are up. -/
theorem handshakes_agree (S : Society N C) (hist : History N C) (w : World N C)
    (hr : Run S hist w) (i j : N) (c d : C) (hj : w.Joins i c j d) (hdials : w.dials c = true) :
    (w.Ready i c → w.Ready j d) ∧
    (w.wire c = [] → w.wire d = [] → c ∈ (w.node i).mesh.router.connections →
      d ∈ (w.node j).mesh.router.connections → w.Up i c ∧ w.Up j d) := by
  have h := hr.sane
  have hback := h.flows i c j d hj
  have hforth := h.flows j d i c (h.swap hj)
  refine ⟨fun hready => ?_, fun hc hd hopen hopen' => ?_⟩
  · by_contra hnot
    exact (hback.silent fun hspoke => hnot (h.answered hj hdials hspoke)).2 hready
  · rw [hc] at hback
    rw [hd] at hforth
    have hthere : w.Ready j d :=
      hforth.idle (Or.inr ⟨h.made hopen, hdials⟩) fun hsh => hsh.2 hopen'
    exact ⟨⟨hopen, hback.idle (Or.inl hthere) fun hsh => hsh.2 hopen⟩, hopen', hthere⟩

/-- Nothing is on the way any more, so both ends are up. -/
theorem agree_befriended : befriended.Up .a 0 ∧ befriended.Up .b 1 :=
  have hfacts := befriended_facts
  (handshakes_agree friends _ _ befriended_run .a .b 0 1 hfacts.1 hfacts.2.1).2
    hfacts.2.2.2.2.1 hfacts.2.2.2.2.2 hfacts.2.2.1.1 hfacts.2.2.2.1.1

/-! ## Behind a firewall

  `jabber_new_peer` advertises nothing where `m_publicip` is empty, so it issues no cookie either;
  and without a cookie no incoming connection gets past `expect_ident`. -/

omit [LinearOrder C] in
/-- A node that knows no public address of its own issues no cookie: `jabber_new_peer` returns
    before it makes one. -/
theorem no_cookies [DecidableEq C] {h : Host C} (hip : h.publicIp = "") {m : Mesh C}
    (hr : Runs.Reachable (Mesh.step h) (fun m => m = Mesh.empty) m) :
    m.peerCookies = fun _ => none := by
  refine hr.invariant (I := fun m => m.peerCookies = fun _ => none) ?_ fun m e m' out ih hok => ?_
  · rintro m rfl
    rfl
  · cases Mesh.step_effect hok with
    | issues jid cookie body he hout =>
      -- it would have sent an advert, without an address to put in it
      subst he
      have hnothing : (m.jabberNewPeer h jid cookie).2 = [] := by
        unfold Mesh.jabberNewPeer
        simp only [hip, if_true, ite_self]
      have hsent : (m.jabberNewPeer h jid cookie).2 = out := congrArg Prod.snd (Except.ok.inj hok)
      rw [← hsent, hnothing] at hout
      cases hout
    | opened conn o ho hrouter hcookies => rw [hcookies, ih]
    | accepts conn msgp uuid incoming cbs name he hopen hcbs hp hm => rw [hm, ih]
    | keeps ho hconn hknown hcookies => rw [hcookies, ih]

/-- So an IDENT is accepted on connections it dialled only, whatever is shown on the others.  No
    cookie is in the table, so none will do. -/
theorem Acted.dialled {e : Node.Event C} {n : Node C} {out : List (Action C)}
    {wire₀ : C → List Message} {k : N} (ha : Acted S w w' k e n out wire₀) (h : Sane S w)
    (hip : (S.host i).publicIp = "") (hold : ∀ c, w.Ready i c → w.dials c = true) (c : C)
    (hready : w'.Ready i c) : w'.dials c = true := by
  rw [ha.dials]
  by_cases hi : i = k
  · subst hi
    rw [Ready, ha.node_self] at hready
    cases ha.on h c with
    | opened o me uuid he ho hconn =>
      rw [hconn] at hready
      cases o <;> cases hready
    | accepted msgp answer uuid name incoming he hexp hp =>
      cases hincoming : incoming with
      | false => simpa [hincoming] using h.expecting hexp
      -- on a connection that came in it would take a cookie of the table, which is empty
      | true =>
        obtain ⟨cookie, -, -, hissued⟩ := hp.cookie hincoming
        obtain ⟨hist, hr⟩ := h.runs i
        rw [no_cookies hip hr.mesh] at hissued
        exact absurd rfl hissued
    | kept hconn =>
      rw [hconn] at hready
      exact hold c hready
  · rw [Ready, ha.node_ne hi] at hready
    exact hold c hready

/-- That holds in every run: a ready connection of such a node is one that it dialled. -/
theorem Run.dialled {hist : History N C} (hr : Run S hist w) (hip : (S.host i).publicIp = "")
    {c : C} (hready : w.Ready i c) : w.dials c = true := by
  refine Runs.Run.invariant (I := fun _ w => ∀ c, w.Ready i c → w.dials c = true) ?_ ?_ hr c hready
  · rintro w rfl c hready
    cases hready
  · intro hist w e w' out hr hold hok c hready
    have h : Sane S w := Run.sane hr
    -- a connection that is ready was held before, so the step did not make it
    have hheld : w'.node = w.node → w.holder c ≠ none := by
      intro hnode hno
      rw [Ready, hnode] at hready
      exact h.unmade (h.fresh hno i) hready
    cases step_does hok with
    | idle => exact hold c hready
    | cabled k l x y hne hx hy =>
      have hcx : c ≠ x := fun he => hheld rfl (he ▸ hx)
      have hcy : c ≠ y := fun he => hheld rfl (he ▸ hy)
      simp only [Function.update_of_ne hcx, Function.update_of_ne hcy]
      exact hold c hready
    | strange k x dials hx =>
      have hcx : c ≠ x := fun he => hheld rfl (he ▸ hx)
      simp only [Function.update_of_ne hcx]
      exact hold c hready
    | acts k e n out hperm hs => exact (acted_acts hperm hs).dialled h hip hold c hready
    | delivers k x answer uuid m rest n out hholder hopen hwire hs =>
      exact (acted_delivers hholder hopen hwire hs).dialled h hip hold c hready

/-- **A node that knows no public address of its own gets only the connections it dials**, whoever
    calls; so two such nodes are never connected, at either end. -/
theorem firewalled_apart (S : Society N C) (hist : History N C) (w : World N C)
    (hr : Run S hist w) (i : N) (hip : (S.host i).publicIp = "") :
    (∀ c, w.Ready i c → w.dials c = true) ∧
    ∀ j c d, (S.host j).publicIp = "" → w.Joins i c j d → ¬ w.Ready i c ∧ ¬ w.Ready j d := by
  refine ⟨fun c => hr.dialled hip, fun j c d hip' hj => ?_⟩
  have h := hr.sane
  have hsides := (h.mates c d hj.mate).2
  have hflows := h.flows i c j d hj
  have hflows' := h.flows j d i c (h.swap hj)
  have hc : w.Ready i c → w.dials c = true := hr.dialled hip
  have hd : w.Ready j d → w.dials d = true := hr.dialled hip'
  -- the accepting end is not ready, so it has not spoken, so the dialling one is not either
  cases hdials : w.dials c with
  | true =>
    rw [hdials] at hsides
    have hnot : ¬ w.Ready j d := fun hready => by
      rw [hd hready] at hsides
      cases hsides
    exact ⟨(hflows.silent fun hspoke => hnot (h.answered hj hdials hspoke)).2, hnot⟩
  | false =>
    rw [hdials] at hsides
    have hnot : ¬ w.Ready i c := fun hready => by
      rw [hc hready] at hdials
      cases hdials
    exact ⟨hnot, (hflows'.silent fun hspoke => hnot (h.answered (h.swap hj) hsides hspoke)).2⟩

/-- Alice and Bob, neither of whom knows a public address. -/
def shyFriends : Society Side Nat where
  host i := { friendHost i with publicIp := "" }
  jid_inj := friends.jid_inj
  reads := friendJson_reads

/-- Alice dials Bob all the same, at the address somebody typed in; her IDENT arrives. -/
def shyDialling : List (Event Side Nat) :=
  [.node .a (.mesh (.connectToPeer "2.2.2.2" 60211)), .cable .a .b 0 1,
    .node .b (.mesh (.newIncomingConnection 1)), .node .a (.mesh (.newOutgoingConnection 0 0 "g")),
    .deliver .b 1 .nothing "h"]

/-- It does not help. -/
theorem apart_shyDialling :
    let w := Runs.after (step shyFriends) empty shyDialling
    w.Joins .a 0 .b 1 ∧ ¬ w.Ready .a 0 ∧ ¬ w.Ready .b 1 := by
  have hjoins : (Runs.after (step shyFriends) empty shyDialling).Joins .a 0 .b 1 :=
    ⟨by decide +kernel, by decide +kernel, by decide +kernel⟩
  exact ⟨hjoins,
    (firewalled_apart shyFriends _ _ (Runs.run_trace shyDialling rfl) .a rfl).2 .b 0 1 rfl hjoins⟩

end World

end Greynet
