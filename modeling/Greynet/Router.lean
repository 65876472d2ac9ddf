/-
  libf2f's connections and router, as far as the plugin sees them.

  Source: the calls on `conn->` and `m_router->` in `greynet.cpp`.  A `Connection` has the state
  the plugin reads back: `ready`, the name (`none` until `set_name`), the string properties of
  `get`/`set`, and the stack of message callbacks pushed on it (the plugin only ever pushes
  `expect_ident`, bound to its `incoming` flag, so the stack is a list of those flags).

  A `Router C` is the table over connection handles `C`: which objects were ever made, which of
  them are open, and which have been destroyed (so that a `weak_ptr` to them has expired).
  `fin` closes; a closed connection leaves the table of open ones and gets no further message.

  The two lookups of libf2f are parameters: `Libf2f` says what they promise and no more, and
  `Libf2f.table` is an instance that can be run.
-/
import Greynet.Wire

namespace Greynet

/-- What the plugin reads back from a `libf2f::Connection`. -/
structure Connection where
  name : Option String := none
  ready : Bool := false
  props : String → String := fun _ => ""
  messageReceivedCbs : List Bool := []

namespace Connection

/-- `conn->get(key)`, empty for a property that was never set. -/
def get (c : Connection) (key : String) : String := c.props key

/-- `conn->set(key, val)`. -/
def set (c : Connection) (key val : String) : Connection :=
  { c with props := Function.update c.props key val }

/-- `conn->set_ready(b)`. -/
def setReady (c : Connection) (b : Bool) : Connection := { c with ready := b }

/-- `conn->set_name(name)`. -/
def setName (c : Connection) (name : String) : Connection := { c with name := some name }

/-- `conn->push_message_received_cb(...)`, with `expect_ident` bound to this flag. -/
def pushMessageReceivedCb (c : Connection) (incoming : Bool) : Connection :=
  { c with messageReceivedCbs := incoming :: c.messageReceivedCbs }

/-- `conn->pop_message_received_cb()`. -/
def popMessageReceivedCb (c : Connection) : Connection :=
  { c with messageReceivedCbs := c.messageReceivedCbs.tail }

/-- `conn->name()`, empty before `set_name`. -/
def nameStr (c : Connection) : String := c.name.getD ""

end Connection

/-- The connection objects and libf2f's table of the open ones. -/
structure Router (C : Type) where
  /-- every connection object made so far -/
  known : List C
  /-- the open ones -/
  connections : List C
  /-- the destroyed ones -/
  expired : List C
  conn : C → Connection

namespace Router

variable {C : Type} [DecidableEq C]

/-- No connection made yet, and so none open and none expired. -/
def empty : Router C := ⟨[], [], [], fun _ => {}⟩

/-- A new connection object, open and in the table.  The plugin gives it its callback right after
    that. -/
def add (r : Router C) (c : C) (x : Connection) : Router C :=
  { r with
    known := c :: r.known
    connections := c :: r.connections
    conn := Function.update r.conn c x }

/-- `conn->fin()`: no message comes in any more, and the object stays what it is. -/
def fin (r : Router C) (c : C) : Router C :=
  { r with connections := r.connections.filter fun d => d ≠ c }

/-- Change one connection object, open or closed.  A closed one may well be changed by a handler
    that still holds it. -/
def modify (r : Router C) (c : C) (f : Connection → Connection) : Router C :=
  { r with conn := Function.update r.conn c (f (r.conn c)) }

/-- The last `shared_ptr` to a closed connection is gone, and a `weak_ptr` to it will be null from
    now on. -/
def release (r : Router C) (c : C) : Router C := { r with expired := c :: r.expired }

/-- Constructing a `shared_ptr` from a `weak_ptr`: null where that throws.  It is the object that
    counts and not whether it is open. -/
def lock (r : Router C) (c : C) : Option C := if c ∈ r.expired then none else some c

/-! ## What each operation leaves alone

  One lemma for each part of the router and each operation, so that no later proof unfolds them. -/

/-- Closing sets nothing on any connection, so a closed one keeps its name and its flag, ... -/
@[simp] theorem fin_conn (r : Router C) (c : C) : (r.fin c).conn = r.conn := rfl

/-- ... and closes that one. -/
@[simp] theorem mem_fin {r : Router C} {c d : C} :
    d ∈ (r.fin c).connections ↔ d ∈ r.connections ∧ d ≠ c := by
  simp [fin]

/-- A change is made to the one object it is meant for ... -/
@[simp] theorem modify_conn_self (r : Router C) (c : C) (f : Connection → Connection) :
    (r.modify c f).conn c = f (r.conn c) := by simp [modify]

/-- ... and to no other. -/
theorem modify_conn_ne (r : Router C) {c d : C} (f : Connection → Connection) (h : d ≠ c) :
    (r.modify c f).conn d = r.conn d := by simp [modify, h]

/-- A new object is as it was made, with the properties it was given, ... -/
@[simp] theorem add_conn_self (r : Router C) (c : C) (x : Connection) :
    (r.add c x).conn c = x := by simp [add]

/-- ... and the others are as they were. -/
theorem add_conn_ne (r : Router C) {c d : C} (x : Connection) (h : d ≠ c) :
    (r.add c x).conn d = r.conn d := by simp [add, h]

/-- Changing a connection just added is adding it changed, which is what the two steps of
    `new_incoming_connection` come to. -/
theorem add_modify (r : Router C) (c : C) (x : Connection) (f : Connection → Connection) :
    (r.add c x).modify c f = r.add c (f x) := by
  simp [add, modify, Function.update_idem]

/-- A new connection is open, ... -/
@[simp] theorem mem_add {r : Router C} {c d : C} {x : Connection} :
    d ∈ (r.add c x).connections ↔ d = c ∨ d ∈ r.connections := by simp [add]

/-- ... and has been made. -/
@[simp] theorem mem_add_known {r : Router C} {c d : C} {x : Connection} :
    d ∈ (r.add c x).known ↔ d = c ∨ d ∈ r.known := by simp [add]

end Router

/-- The lookups of libf2f's router, with what they promise. -/
structure Libf2f (C : Type) where
  /-- `get_connection_by_name` -/
  getConnectionByName : Router C → String → Option C
  /-- it answers an open connection whose name was set to the given one ... -/
  found : ∀ {r n c}, getConnectionByName r n = some c →
    c ∈ r.connections ∧ (r.conn c).name = some n
  /-- ... if there is one -/
  missing : ∀ {r n c}, getConnectionByName r n = none → c ∈ r.connections →
    (r.conn c).name ≠ some n
  /-- the connections `foreach_conns_except(f, nullptr)` applies `f` to -/
  foreachConns : Router C → List C
  /-- it ranges over the open ready ones -/
  mem_foreachConns : ∀ {r c}, c ∈ foreachConns r ↔ c ∈ r.connections ∧ (r.conn c).ready = true
  /-- each of them once -/
  nodup_foreachConns : ∀ {r}, r.connections.Nodup → (foreachConns r).Nodup
  /-- `conn->ready()`, which may be asked of a connection that somebody still holds although it has
      been closed; what it answers then is left to the library -/
  ready : Router C → C → Bool
  /-- of an open connection it answers what `set_ready` was last told ... -/
  ready_open : ∀ {r c}, c ∈ r.connections → ready r c = (r.conn c).ready
  /-- ... and one that has never been made ready is not, open or closed -/
  ready_set : ∀ {r c}, ready r c = true → (r.conn c).ready = true

namespace Libf2f

variable {C : Type} [DecidableEq C]

/-- A router that searches its table from the front, and whose closed connections are not ready.  It
    shows that what is asked of libf2f can be had. -/
def table : Libf2f C where
  getConnectionByName r n := r.connections.find? fun c => (r.conn c).name = some n
  found h := ⟨List.mem_of_find?_eq_some h, by simpa using List.find?_some h⟩
  missing h hc := by simpa using List.find?_eq_none.mp h _ hc
  foreachConns r := r.connections.filter fun c => (r.conn c).ready
  mem_foreachConns := by simp
  nodup_foreachConns h := h.filter _
  ready r c := r.connections.contains c && (r.conn c).ready
  ready_open h := by rw [List.contains_iff_mem.mpr h, Bool.true_and]
  ready_set h := (Bool.and_eq_true _ _ ▸ h).2

/-- `foreach_conns_except(async_write(msg), except)`; `except` is null for `none`.  The order is
    that of the table, and nothing depends on it. -/
def broadcastExcept (lib : Libf2f C) (r : Router C) (msg : Message) (except : Option C) :
    List (Action C) :=
  ((lib.foreachConns r).filter fun c => some c ≠ except).map fun c => .asyncWrite c msg

/-- `m_router->get_connection_by_name(n)` is not null, which is all that the handlers ask of it. -/
def hasConnection (lib : Libf2f C) (r : Router C) (n : String) : Bool :=
  (lib.getConnectionByName r n).isSome

omit [DecidableEq C] in
/-- There is such a connection exactly if an open one has the name.  Whether it is ready is not
    asked. -/
theorem hasConnection_iff {lib : Libf2f C} {r : Router C} {n : String} :
    lib.hasConnection r n = true ↔ ∃ c ∈ r.connections, (r.conn c).name = some n := by
  rw [hasConnection]
  cases h : lib.getConnectionByName r n with
  | none =>
    constructor
    · intro h'
      cases h'
    · rintro ⟨c, hc, hn⟩
      exact absurd hn (lib.missing h hc)
  | some c => exact ⟨fun _ => ⟨c, lib.found h⟩, fun _ => rfl⟩

/-- A broadcast writes the one message, to every open ready connection but the one excepted, and
    does nothing else. -/
theorem mem_broadcastExcept {lib : Libf2f C} {r : Router C} {msg : Message} {ex : Option C}
    {a : Action C} :
    a ∈ lib.broadcastExcept r msg ex ↔
      ∃ c ∈ r.connections, (r.conn c).ready = true ∧ some c ≠ ex ∧ a = .asyncWrite c msg := by
  simp only [broadcastExcept, List.mem_map, List.mem_filter, lib.mem_foreachConns,
    decide_eq_true_eq]
  constructor
  · rintro ⟨c, ⟨⟨hc, hr⟩, hne⟩, rfl⟩
    exact ⟨c, hc, hr, hne, rfl⟩
  · rintro ⟨c, hc, hr, hne, rfl⟩
    exact ⟨c, ⟨⟨hc, hr⟩, hne⟩, rfl⟩

end Libf2f

end Greynet
