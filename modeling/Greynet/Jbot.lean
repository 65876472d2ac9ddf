/-
  The XMPP bot: presences, disco replies and chat messages.

  Source: `jbot.h`, `jbot.cpp`.

  gloox logs in and calls the handlers of `jbot`; the bot keeps the list of the full JIDs that are
  online with playdar (`m_playdarpeers`) and tells the plugin about new ones and about chat
  messages, by its two callbacks.  A peer is found in one of two ways: its resource contains
  `playdar` (the google workaround), or its disco reply has the feature `playdar:resolver`.

  1. `Jid`, `RosterItem`, `PresenceType` — what gloox hands over.
  2. `Jbot` — the list; one function for each handler that does more than print.  What a handler
     does to the outside is a `Call`: a callback of the plugin, or a request to gloox.
  3. `Jbot.step` — every event, in any order.  After `stop` gloox reports nothing more; here it may,
     which only adds runs.
  4. `Does` — what a step can do, said once; `Why` — which event makes which call.
-/
import Greynet.Lib.Runs
import Greynet.Wire
import Mathlib.Data.Finset.Basic
import Mathlib.Data.List.TakeWhile

namespace Greynet

/-! ## What gloox hands over

  Types of the library, with what the handlers use of them. -/

/-- `gloox::JID`: `node@server`, and the resource, which may be empty.  The resource tells apart the
    clients that one account is online with. -/
structure Jid where
  bare : String
  resource : String
  deriving DecidableEq, Repr

namespace Jid

/-- `JID(s)`: the bare JID goes up to the first slash, and the resource is what follows it, further
    slashes and all. -/
def ofString (s : String) : Jid where
  bare := String.ofList (s.toList.takeWhile fun c => c ≠ '/')
  resource := String.ofList ((s.toList.dropWhile fun c => c ≠ '/').drop 1)

/-- `full()`: the bare JID if there is no resource.  The list of peers is one of full JIDs. -/
def full (j : Jid) : String := if j.resource = "" then j.bare else j.bare ++ "/" ++ j.resource

/-- `setResource`: another client of the same contact, which is how the handlers name the sender of
    a presence. -/
def setResource (j : Jid) (resource : String) : Jid := { j with resource := resource }

/-- A text without a slash is a bare JID, so `full()` gives back the text. -/
theorem ofString_bare {s : String} (h : '/' ∉ s.toList) : ofString s = ⟨s, ""⟩ := by
  have hall : ∀ c ∈ s.toList, (fun c => decide (c ≠ '/')) c = true := by
    intro c hc
    have hne : c ≠ '/' := fun he => h (he ▸ hc)
    simpa using hne
  unfold ofString
  rw [List.takeWhile_eq_self_iff.mpr hall, List.dropWhile_eq_nil_iff.mpr hall, String.ofList_toList]
  rfl

end Jid

/-- `gloox::RosterItem`: a contact, under its bare JID.  Its clients are told by the resource of a
    presence. -/
structure RosterItem where
  jid : String
  noSlash : '/' ∉ jid.toList

/-- `Presence::PresenceType`, with the values of gloox's.  The handlers only tell three of them from
    the rest. -/
inductive PresenceType where
  | available | chat | away | dnd | xa | unavailable | probe | error | invalid
  deriving DecidableEq, Repr

/-- The types that say that the contact is offline, or cannot be queried; the rest say that it is
    there. -/
def PresenceType.offline : PresenceType → Bool
  | .unavailable | .error | .invalid => true
  | _ => false

/-! ## The bot -/

/-- `jbot`: `m_playdarpeers`, the full JIDs online with playdar.  The source has a `std::set` of
    strings, whose order plays no part here. -/
structure Jbot where
  playdarpeers : Finset String := ∅

namespace Jbot

/-- What the bot asks of the plugin and of gloox, in the order in which it asks. -/
inductive Call where
  /-- `m_new_peer_cb(jid)` -/
  | newPeer (jid : String)
  /-- `m_msg_received_callback(msg, jid)` -/
  | msgReceived (msg jid : String)
  /-- `j->disco()->getDiscoInfo(jid, "", this, 0)` -/
  | getDiscoInfo (jid : Jid)
  /-- `j->rosterManager()->subscribe(jid, ...)` -/
  | subscribe (jid : Jid)
  /-- `stop()`: offline, no handlers, disconnected -/
  | stop
  deriving DecidableEq, Repr

/-- A playdar peer has been found: it is entered and announced, unless it is in the list, where it
    has been announced before. -/
def addPeer (j : Jbot) (jid : String) : Jbot × List Call :=
  if jid ∈ j.playdarpeers then (j, [])
  else ({ j with playdarpeers := insert jid j.playdarpeers }, [.newPeer jid])

/-- `handleRosterPresence`.  The list holds full JIDs, but it is the bare one that is looked up to
    see whether the contact is known. -/
def handleRosterPresence (j : Jbot) (item : RosterItem) (resource : String)
    (presence : PresenceType) : Jbot × List Call :=
  let jid := (Jid.ofString item.jid).setResource resource
  if presence.offline then ({ j with playdarpeers := j.playdarpeers.erase jid.full }, [])
  else if item.jid ∈ j.playdarpeers then (j, [])
  else
    -- the google workaround
    let found :=
      if "playdar".toList <:+: jid.resource.toList then j.addPeer jid.full else (j, [])
    (found.1, found.2 ++ [.getDiscoInfo jid])

/-- `handleSelfPresence`: a presence of the own account is handled like any other, so another
    playdar of the same user is a peer. -/
def handleSelfPresence (j : Jbot) (item : RosterItem) (resource : String)
    (presence : PresenceType) : Jbot × List Call :=
  j.handleRosterPresence item resource presence

/-- `handleDiscoInfo`: whoever has the feature is a playdar peer; of others nothing is remembered,
    so they are asked again. -/
def handleDiscoInfo (j : Jbot) (sender : Jid) (features : List String) : Jbot × List Call :=
  if "playdar:resolver" ∈ features then j.addPeer sender.full else (j, [])

/-- `handleMessage`; `own` is `m_jid`.  A `quit` from the own account stops the bot, any other text
    goes to the plugin with the full JID of its sender. -/
def handleMessage (own : String) (j : Jbot) (sender : Jid) (body : String) : Jbot × List Call :=
  if sender.bare = (Jid.ofString own).bare ∧ body = "quit" then (j, [.stop])
  else (j, [.msgReceived body sender.full])

/-- `handleSubscriptionRequest`: whoever asks is subscribed to in turn, without looking at who it
    is. -/
def handleSubscriptionRequest (j : Jbot) (jid : Jid) : Jbot × List Call := (j, [.subscribe jid])

/-! ## Every event

  The handlers in any order, as gloox may call them.  Those that only print are left out. -/

/-- What gloox reports: presences, disco replies, messages and subscriptions.  A disco reply need
    not have been asked for. -/
inductive Event where
  | rosterPresence (item : RosterItem) (resource : String) (presence : PresenceType)
  | selfPresence (item : RosterItem) (resource : String) (presence : PresenceType)
  | discoInfo (sender : Jid) (features : List String)
  | message (sender : Jid) (body : String)
  | subscriptionRequest (jid : Jid)
  /-- the handlers that only print: of the roster, of disco items and errors, of the log -/
  | printed

/-- The next state and the calls.  No handler can fail, whatever gloox passes to it. -/
def step (own : String) (j : Jbot) : Event → Except Fault (Jbot × List Call)
  | .rosterPresence item resource presence => .ok (j.handleRosterPresence item resource presence)
  | .selfPresence item resource presence => .ok (j.handleSelfPresence item resource presence)
  | .discoInfo sender features => .ok (j.handleDiscoInfo sender features)
  | .message sender body => .ok (handleMessage own j sender body)
  | .subscriptionRequest jid => .ok (j.handleSubscriptionRequest jid)
  | .printed => .ok (j, [])

/-- The history of a run of the bot. -/
abbrev History := List (Runs.Step Jbot Event Call)

/-- The runs from the empty list, whatever gloox reports and in whatever order. -/
abbrev Run (own : String) (hist : History) (j : Jbot) : Prop :=
  Runs.Run (step own) (fun j₀ => j₀ = {}) hist j

/-! ## What a step can do

  A step erases a peer, finds one, asks gloox about one, or passes something on.  All that is proved
  of the bot goes by these ways and not by its handlers. -/

/-- The presence an event brings, in the roster or of the own account, which are handled alike. -/
def Event.presence : Event → Option (RosterItem × String × PresenceType)
  | .rosterPresence item resource presence => some (item, resource, presence)
  | .selfPresence item resource presence => some (item, resource, presence)
  | _ => none

/-- What a step does: one way for each branch it can take.  Of the ways that enter somebody in the
    list there are two, by the resource and by a disco reply. -/
inductive Does (own : String) (j : Jbot) (e : Event) : Jbot → List Call → Prop
  | leaves (item : RosterItem) (resource : String) (presence : PresenceType)
      (he : e.presence = some (item, resource, presence)) (hoff : presence.offline = true) :
    Does own j e { j with playdarpeers := j.playdarpeers.erase (Jid.mk item.jid resource).full } []
  /-- the contact's bare JID is in the list -/
  | ignores (item : RosterItem) (resource : String) (presence : PresenceType)
      (he : e.presence = some (item, resource, presence)) (hon : presence.offline = false)
      (hin : item.jid ∈ j.playdarpeers) : Does own j e j []
  | detects (item : RosterItem) (resource : String) (presence : PresenceType)
      (he : e.presence = some (item, resource, presence)) (hon : presence.offline = false)
      (hnot : item.jid ∉ j.playdarpeers) (hres : "playdar".toList <:+: resource.toList) :
    Does own j e (j.addPeer (Jid.mk item.jid resource).full).1
      ((j.addPeer (Jid.mk item.jid resource).full).2 ++ [.getDiscoInfo ⟨item.jid, resource⟩])
  | probes (item : RosterItem) (resource : String) (presence : PresenceType)
      (he : e.presence = some (item, resource, presence)) (hon : presence.offline = false)
      (hnot : item.jid ∉ j.playdarpeers) (hres : ¬ "playdar".toList <:+: resource.toList) :
    Does own j e j [.getDiscoInfo ⟨item.jid, resource⟩]
  | answers (sender : Jid) (features : List String) (he : e = .discoInfo sender features)
      (hf : "playdar:resolver" ∈ features) :
    Does own j e (j.addPeer sender.full).1 (j.addPeer sender.full).2
  | denies (sender : Jid) (features : List String) (he : e = .discoInfo sender features)
      (hf : "playdar:resolver" ∉ features) : Does own j e j []
  | hears (sender : Jid) (body : String) (he : e = .message sender body)
      (hq : ¬ (sender.bare = (Jid.ofString own).bare ∧ body = "quit")) :
    Does own j e j [.msgReceived body sender.full]
  | quits (sender : Jid) (he : e = .message sender "quit")
      (hown : sender.bare = (Jid.ofString own).bare) : Does own j e j [.stop]
  | subscribes (jid : Jid) (he : e = .subscriptionRequest jid) : Does own j e j [.subscribe jid]
  | prints (he : e = .printed) : Does own j e j []

/-- A presence erases the peer, is ignored, or is followed by a disco query; with `playdar` in the
    resource the peer is found besides. -/
theorem handleRosterPresence_does (own : String) (j : Jbot) {e : Event} {item : RosterItem}
    {resource : String} {presence : PresenceType}
    (he : e.presence = some (item, resource, presence)) :
    Does own j e (j.handleRosterPresence item resource presence).1
      (j.handleRosterPresence item resource presence).2 := by
  have hjid : (Jid.ofString item.jid).setResource resource = ⟨item.jid, resource⟩ := by
    rw [Jid.ofString_bare item.noSlash]
    rfl
  unfold handleRosterPresence
  rw [hjid]
  cases hoff : presence.offline with
  | true => exact .leaves item resource presence he hoff
  | false =>
    simp only [Bool.false_eq_true, if_false]
    by_cases hin : item.jid ∈ j.playdarpeers
    · rw [if_pos hin]
      exact .ignores item resource presence he hoff hin
    · rw [if_neg hin]
      by_cases hres : "playdar".toList <:+: resource.toList
      · rw [if_pos hres]
        exact .detects item resource presence he hoff hin hres
      · rw [if_neg hres]
        exact .probes item resource presence he hoff hin hres

/-- **Every step does one of these things.**  A case for each event, and the branches of its
    handler. -/
theorem step_does {own : String} {j j' : Jbot} {e : Event} {out : List Call}
    (hok : step own j e = .ok (j', out)) : Does own j e j' out := by
  cases e with
  -- the two presences share a handler, and its branches have a lemma of their own
  | rosterPresence item resource presence =>
    obtain ⟨rfl, rfl⟩ := Prod.mk.inj (Except.ok.inj hok)
    exact handleRosterPresence_does own j rfl
  | selfPresence item resource presence =>
    obtain ⟨rfl, rfl⟩ := Prod.mk.inj (Except.ok.inj hok)
    exact handleRosterPresence_does own j rfl
  | discoInfo sender features =>
    simp only [step, handleDiscoInfo] at hok
    split at hok
    · rename_i hf
      obtain ⟨rfl, rfl⟩ := Prod.mk.inj (Except.ok.inj hok)
      exact .answers sender features rfl hf
    · rename_i hf
      obtain ⟨rfl, rfl⟩ := Prod.mk.inj (Except.ok.inj hok)
      exact .denies sender features rfl hf
  | message sender body =>
    simp only [step, handleMessage] at hok
    split at hok
    · rename_i hq
      obtain ⟨rfl, rfl⟩ := Prod.mk.inj (Except.ok.inj hok)
      obtain ⟨hown, rfl⟩ := hq
      exact .quits sender rfl hown
    · rename_i hq
      obtain ⟨rfl, rfl⟩ := Prod.mk.inj (Except.ok.inj hok)
      exact .hears sender body rfl hq
  | subscriptionRequest jid =>
    obtain ⟨rfl, rfl⟩ := Prod.mk.inj (Except.ok.inj hok)
    exact .subscribes jid rfl
  | printed =>
    obtain ⟨rfl, rfl⟩ := Prod.mk.inj (Except.ok.inj hok)
    exact .prints rfl

/-- Why a call is made: by which event, and about whom.  An announcement, a disco query and a
    message passed on are about whoever the event is about. -/
inductive Why (own : String) (e : Event) : Call → Prop
  | present (item : RosterItem) (resource : String) (presence : PresenceType)
      (he : e.presence = some (item, resource, presence)) :
    Why own e (.newPeer (Jid.mk item.jid resource).full)
  | answered (sender : Jid) (features : List String) (he : e = .discoInfo sender features) :
    Why own e (.newPeer sender.full)
  | asked (item : RosterItem) (resource : String) (presence : PresenceType)
      (he : e.presence = some (item, resource, presence)) :
    Why own e (.getDiscoInfo ⟨item.jid, resource⟩)
  | heard (sender : Jid) (body : String) (he : e = .message sender body)
      (hq : ¬ (sender.bare = (Jid.ofString own).bare ∧ body = "quit")) :
    Why own e (.msgReceived body sender.full)
  | subscribed (jid : Jid) : Why own e (.subscribe jid)
  | quit : Why own e .stop

/-- Finding a peer makes no call but the announcement of it, and that only if it is new. -/
theorem mem_addPeer_call {j : Jbot} {f : String} {c : Call} (hc : c ∈ (j.addPeer f).2) :
    c = .newPeer f := by
  unfold addPeer at hc
  split at hc
  · cases hc
  · exact List.mem_singleton.mp hc

/-- Each call that a step makes has such a reason, which is read off what the step does. -/
theorem step_why {own : String} {j j' : Jbot} {e : Event} {out : List Call}
    (hok : step own j e = .ok (j', out)) {c : Call} (hc : c ∈ out) : Why own e c := by
  cases step_does hok with
  | leaves | ignores | denies | prints => cases hc
  | detects item resource presence he =>
    rcases List.mem_append.mp hc with hc | hc
    · rw [mem_addPeer_call hc]
      exact .present item resource presence he
    · rw [List.mem_singleton.mp hc]
      exact .asked item resource presence he
  | probes item resource presence he =>
    rw [List.mem_singleton.mp hc]
    exact .asked item resource presence he
  | answers sender features he =>
    rw [mem_addPeer_call hc]
    exact .answered sender features he
  | hears sender body he hq =>
    rw [List.mem_singleton.mp hc]
    exact .heard sender body he hq
  | quits =>
    rw [List.mem_singleton.mp hc]
    exact .quit
  | subscribes jid =>
    rw [List.mem_singleton.mp hc]
    exact .subscribed jid

end Jbot

end Greynet
