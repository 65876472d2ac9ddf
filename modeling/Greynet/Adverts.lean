/-
  Adverts: what `jabber_new_peer` writes, and what `jabber_msg_received` makes of any text.

  Source: `greynet.cpp` (`connect_to_peer`, `jabber_msg_received`, `jabber_new_peer`).

  An advert is a JSON object in a chat message: a version, an ip, a port and a cookie.  The handler
  looks whether there are four fields of these types and no further.  The address it hands to
  `address_v4::from_string`, which throws at what is none and which nobody catches, and the port to
  a parameter of type `unsigned short`.

  1. `readAdvert` — the address, the port and the cookie in a message, if it has the four fields
     of an advert; `jabberMsgReceived_eq` — the handler dials these, the port cut down to 16 bits.
  2. `DialsFaithfully` — what the handler should do with a message; `adverts_dialled` — it does so
     exactly if the address is one and the port fits, and so with every advert a node writes.
-/
import Greynet.Mesh

namespace Greynet

namespace Mesh

variable {C : Type}

/-! ## Reading a message -/

/-- The ip, the port and the cookie of an advert, if the four fields are there with their types.
    The value of `playdar-greynet` is not looked at, and further fields do not matter. -/
def readAdvert (js : JsonSpirit) (body : String) : Option (String × Int × String) :=
  match js.read body with
  | some (.obj o) =>
    match objToMap o "playdar-greynet", objToMap o "peer_ip", objToMap o "peer_port",
      objToMap o "cookie" with
    | some (.str _), some (.str ip), some (.int port), some (.str cookie) => some (ip, port, cookie)
    | _, _, _, _ => none
  | _ => none

/-- A message that is no advert is ignored, whatever else stands in it. -/
theorem jabberMsgReceived_none {h : Host C} {body : String} (hno : readAdvert h.js body = none)
    (m : Mesh C) (jid : String) : m.jabberMsgReceived h body jid = .ok (m, []) := by
  unfold jabberMsgReceived
  split
  · rename_i o hread
    split
    · rename_i hv hip hport hcookie
      simp [readAdvert, hread, hv, hip, hport, hcookie] at hno
    · rfl
  · rfl

/-- One that is an advert is dialled, with what it says; the JID it came from goes along as a
    property. -/
theorem jabberMsgReceived_some {h : Host C} {body ip cookie : String} {port : Int}
    (hadvert : readAdvert h.js body = some (ip, port, cookie)) (m : Mesh C) (jid : String) :
    m.jabberMsgReceived h body jid =
      m.connectToPeer h ip (port % 65536).toNat [("cookie", cookie), ("jid", jid)] := by
  unfold readAdvert at hadvert
  split at hadvert
  · rename_i o hread
    split at hadvert
    · rename_i hv hip hport hcookie
      obtain ⟨rfl, rfl, rfl⟩ := Option.some.inj hadvert
      simp only [jabberMsgReceived, hread, hv, hip, hport, hcookie]
    · cases hadvert
  · cases hadvert

/-- The advert a node writes is one, so it is read with the ip, the port and the cookie it was
    written with. -/
theorem readAdvert_advertObject {h : Host C} {js : JsonSpirit} {text cookie : String}
    (hread : js.read text = some (advertObject h cookie)) :
    readAdvert js text = some (h.publicIp, (h.port : Int), cookie) := by
  simp [readAdvert, hread, advertObject, objToMap]

/-- A node that reads an advert dials the node it is from, at the port modulo 65536. -/
theorem dials_advert {h h' : Host C} {text cookie : String}
    (hread : h.js.read text = some (advertObject h' cookie)) (m : Mesh C) (jid : String) :
    m.jabberMsgReceived h text jid =
      m.connectToPeer h h'.publicIp ((h'.port : Int) % 65536).toNat
        [("cookie", cookie), ("jid", jid)] :=
  jabberMsgReceived_some (readAdvert_advertObject hread) m jid

/-- A new peer is sent the node's advert, or nothing: if it is the node itself or connected already,
    or the node has no public ip to advertise. -/
theorem jabberNewPeer_out [DecidableEq C] (h : Host C) (m : Mesh C) (jid cookie : String) :
    (m.jabberNewPeer h jid cookie).2 = [] ∨ (m.jabberNewPeer h jid cookie).2 =
      [.sendTo jid (h.js.writeFormatted (advertObject h cookie))] := by
  unfold jabberNewPeer
  split
  · exact Or.inl rfl
  · split
    · exact Or.inl rfl
    · split
      · exact Or.inl rfl
      · exact Or.inr rfl

/-! ## Dialling faithfully

  The two ways in which the handler gets an advert wrong are independent of each other, and of the
  state of the mesh: what it does is decided by the text. -/

/-- The handler returns.  It dials nothing, or the address and the port in the message, with its
    cookie and the sender's JID; and nothing if there is no such address or no such port. -/
def DialsFaithfully (h : Host C) (m : Mesh C) (body jid : String) : Prop :=
  ∃ m' out, m.jabberMsgReceived h body jid = .ok (m', out) ∧
    ((m' = m ∧ out = []) ∨
      ∃ (ip cookie : String) (n port : Nat),
        readAdvert h.js body = some (ip, (port : Int), cookie) ∧
        h.addressFromString ip = some n ∧
        m' = { m with dialling := m.dialling ++ [⟨n, port, [("cookie", cookie), ("jid", jid)]⟩] } ∧
        out = [.connectToRemote n port [("cookie", cookie), ("jid", jid)]]) ∧
    ∀ ip port cookie, readAdvert h.js body = some (ip, port, cookie) →
      (h.addressFromString ip = none ∨ port < 0 ∨ 65535 < port) → out = []

/-- If the message is an advert, its `peer_ip` is an IPv4 address and its `peer_port` a port.  Of
    any other message it asks nothing. -/
def WellAddressed (h : Host C) (body : String) : Prop :=
  ∀ ip port cookie, readAdvert h.js body = some (ip, port, cookie) →
    h.addressFromString ip ≠ none ∧ 0 ≤ port ∧ port ≤ 65535

/-- Dialling a port that is one: the 16 bits it is cut down to are all of it. -/
theorem jabberMsgReceived_port {h : Host C} {body ip cookie : String} {n port : Nat}
    (hadvert : readAdvert h.js body = some (ip, (port : Int), cookie))
    (hip : h.addressFromString ip = some n) (hport : port ≤ 65535) (m : Mesh C) (jid : String) :
    m.jabberMsgReceived h body jid =
      .ok ({ m with dialling := m.dialling ++ [⟨n, port, [("cookie", cookie), ("jid", jid)]⟩] },
        [.connectToRemote n port [("cookie", cookie), ("jid", jid)]]) := by
  have hcut : ((port : Int) % 65536).toNat = port := by omega
  rw [jabberMsgReceived_some hadvert, hcut, connectToPeer, hip]

/-- An address that is none makes the handler throw, and a port that is none is dialled as another
    one; otherwise the dial is as the advert says. -/
theorem dialsFaithfully_iff (h : Host C) (m : Mesh C) (body jid : String) :
    DialsFaithfully h m body jid ↔ WellAddressed h body := by
  constructor
  · rintro ⟨m', out, hok, -, hdrop⟩ ip port cookie hadvert
    rw [jabberMsgReceived_some hadvert] at hok
    obtain ⟨n, -, rfl⟩ := connectToPeer_ok hok
    -- something is dialled, so the message was not to be dropped
    have hgood : ¬ (h.addressFromString ip = none ∨ port < 0 ∨ 65535 < port) := fun hbad => by
      cases hdrop ip port cookie hadvert hbad
    rw [not_or] at hgood
    exact ⟨hgood.1, by omega, by omega⟩
  · intro hwell
    cases hadvert : readAdvert h.js body with
    | none =>
      refine ⟨m, [], jabberMsgReceived_none hadvert m jid, Or.inl ⟨rfl, rfl⟩, ?_⟩
      intro ip port cookie hsome
      rw [hadvert] at hsome
      cases hsome
    | some a =>
      obtain ⟨ip, port, cookie⟩ := a
      obtain ⟨hip, hlow, hhigh⟩ := hwell ip port cookie hadvert
      obtain ⟨n, hn⟩ := Option.ne_none_iff_exists'.mp hip
      obtain ⟨k, rfl⟩ := Int.eq_ofNat_of_zero_le hlow
      refine ⟨_, _, jabberMsgReceived_port hadvert hn (by omega) m jid,
        Or.inr ⟨ip, cookie, n, k, hadvert, hn, rfl, rfl⟩, fun ip' port' cookie' hsome hbad => ?_⟩
      rw [hadvert] at hsome
      obtain ⟨rfl, rfl, rfl⟩ := Option.some.inj hsome
      rcases hbad with hbad | hbad
      · exact absurd hbad hip
      · omega

/-- **Adverts are dialled faithfully or dropped, if they are well addressed.**
    1. Whatever the message and its sender: the handler does what it should exactly if a message
       that is an advert has an IPv4 address and a port in it.
    2. So with what `jabber_new_peer` writes on a node with a public address: it is dialled there,
       at the node's port and with the cookie. -/
theorem adverts_dialled [DecidableEq C] (h : Host C) :
    (∀ (m : Mesh C) (body jid : String), DialsFaithfully h m body jid ↔ WellAddressed h body) ∧
    ∀ (h' : Host C) (m m' : Mesh C) (peer cookie text jid : String) (n : Nat),
      Action.sendTo peer text ∈ (m'.jabberNewPeer h' peer cookie).2 →
      h.js.read (h'.js.writeFormatted (advertObject h' cookie)) = some (advertObject h' cookie) →
      h.addressFromString h'.publicIp = some n → h'.port < 65536 →
      m.jabberMsgReceived h text jid =
        .ok ({ m with
            dialling := m.dialling ++ [⟨n, h'.port, [("cookie", cookie), ("jid", jid)]⟩] },
          [.connectToRemote n h'.port [("cookie", cookie), ("jid", jid)]]) := by
  refine ⟨dialsFaithfully_iff h, fun h' m m' peer cookie text jid n hwrites hcodec hip hport => ?_⟩
  have htext : text = h'.js.writeFormatted (advertObject h' cookie) := by
    rcases jabberNewPeer_out h' m' peer cookie with hout | hout
    · rw [hout] at hwrites
      cases hwrites
    · rw [hout] at hwrites
      exact (Action.sendTo.inj (List.mem_singleton.mp hwrites)).2
  rw [htext]
  exact jabberMsgReceived_port (readAdvert_advertObject hcodec) hip (by omega) m jid

/-! ## Three messages -/

/-- The object of an advert with this address and port. -/
def sampleAdvert (ip : String) (port : Int) : Value :=
  .obj [("playdar-greynet", .str "0.2"), ("peer_ip", .str ip), ("peer_port", .int port),
    ("cookie", .str "k")]

/-- A node at 1.2.3.4 that can read three adverts: its own, one whose ip is none, and one whose port
    is none. -/
def sampleReader : Host Nat where
  js := .ofTexts [("own", sampleAdvert "1.2.3.4" 60211), ("no ip", sampleAdvert "nowhere" 60211),
    ("no port", sampleAdvert "1.2.3.4" 65616)]
  lib := .table
  playdar := .plain
  addressFromString ip := if ip = "1.2.3.4" then some 0x01020304 else none
  jid := "me@x/playdar"
  publicIp := "1.2.3.4"
  port := 60211

/-- Its own advert is dialled where it is: nothing compares the address with the node's own. -/
theorem own_advert_dialled :
    (empty : Mesh Nat).jabberMsgReceived sampleReader "own" "me@x/playdar" =
      .ok ({ (empty : Mesh Nat) with
          dialling := [⟨0x01020304, 60211, [("cookie", "k"), ("jid", "me@x/playdar")]⟩] },
        [.connectToRemote 0x01020304 60211 [("cookie", "k"), ("jid", "me@x/playdar")]]) :=
  (adverts_dialled sampleReader).2 sampleReader empty empty "you@x/playdar" "k" "own"
    "me@x/playdar" 0x01020304 (by decide) (by decide) rfl (by decide)

/-- The second makes the handler throw, and the third is dialled at port 80.  Neither is ignored, as
    a message with a field missing would be. -/
theorem adverts_not_dropped :
    ¬ DialsFaithfully sampleReader empty "no ip" "you@x/playdar" ∧
      ¬ DialsFaithfully sampleReader empty "no port" "you@x/playdar" := by
  constructor
  · rintro ⟨m', out, hok, -⟩
    have hthrows : (empty : Mesh Nat).jabberMsgReceived sampleReader "no ip" "you@x/playdar" =
        .error .exception := rfl
    rw [hthrows] at hok
    cases hok
  · rintro ⟨m', out, hok, -, hdrop⟩
    have hdials : (empty : Mesh Nat).jabberMsgReceived sampleReader "no port" "you@x/playdar" =
        .ok ({ (empty : Mesh Nat) with
            dialling := [⟨0x01020304, 80, [("cookie", "k"), ("jid", "you@x/playdar")]⟩] },
          [.connectToRemote 0x01020304 80 [("cookie", "k"), ("jid", "you@x/playdar")]]) := rfl
    rw [hdials] at hok
    obtain ⟨-, rfl⟩ := Prod.mk.inj (Except.ok.inj hok)
    have hnothing := hdrop "1.2.3.4" 65616 "k" (by decide) (by decide)
    cases hnothing

end Mesh

end Greynet
