/-
  What crosses the plugin's border: JSON values, mesh messages, queries and results, and the
  calls it makes on the libraries around it.

  Source: `greynet_messages.hpp`, and the uses of json_spirit, libf2f and playdar in the handlers.
  Three libraries are not part of the repository, so they enter as parameters:

  * `JsonSpirit` — `read` (answers false on text that is not JSON), `write`, `write_formatted`;
  * `Playdar`    — the parts of playdar that decide something here: when
    `ResolverQuery::from_json` and the `ResolvedItem` constructor throw, and an item's id;
  * `Libf2f` (in `Greynet.Router`).

  Everything a handler does to the outside is an `Action`, so a handler is a function from a
  state to a new state and a list of actions.  What can go wrong is a `Fault`: an exception that
  leaves the handler, a null pointer followed, an assertion failing, a loop that never ends.
-/
import Mathlib.Data.List.Basic
import Mathlib.Data.List.Nodup
import Mathlib.Logic.Function.Basic

namespace Greynet

/-- `query_uid`: whatever string is in the JSON of a query.  Playdar makes them unique, and nobody
    checks. -/
abbrev Qid := String
/-- `source_uid`: whatever string playdar calls a song by.  It is the guid of the messages of its
    stream too. -/
abbrev Sid := String

/-- A `shared_ptr` to an `AsyncAdaptor`: the plugin's own class, or one of playdar's.  Only the
    first kind turns its calls into messages. -/
inductive AdaptorId where
  | greynet (n : Nat)
  | playdar (n : Nat)
  deriving DecidableEq, Repr

/-- How a handler can fail to return normally.  Nothing in the plugin catches what leaves a
    handler. -/
inductive Fault where
  | exception
  | nullDeref
  | assertion
  | hang
  deriving DecidableEq, Repr

/-! ## json_spirit

  What the handlers use of it: the types of a value, the accessors that throw, and reading and
  writing.  That reading undoes writing is nowhere assumed; where it is needed, it is a hypothesis
  about the values in question. -/

/-- `json_spirit::Value`, one constructor for each of its types.  A number is an `int_type` or a
    `real_type` by how it is written. -/
inductive Value where
  | obj (o : List (String × Value))
  | array (a : List Value)
  | str (s : String)
  | bool (b : Bool)
  | int (n : Int)
  | real (x : Rat)
  | null

/-- `json_spirit::Object`, pairs in the order they stand in; names may come twice, and then it is up
    to who looks. -/
abbrev Object := List (String × Value)

mutual

/-- Values are compared part by part, so that a codec can look one up, ... -/
def Value.decEq : (a b : Value) → Decidable (a = b)
  | .obj o, .obj o' =>
    match Value.decEqObject o o' with
    | isTrue h => isTrue (congrArg Value.obj h)
    | isFalse h => isFalse fun he => h (Value.obj.inj he)
  | .array a, .array a' =>
    match Value.decEqArray a a' with
    | isTrue h => isTrue (congrArg Value.array h)
    | isFalse h => isFalse fun he => h (Value.array.inj he)
  | .str s, .str s' => decidable_of_iff (s = s') (by simp)
  | .bool b, .bool b' => decidable_of_iff (b = b') (by simp)
  | .int n, .int n' => decidable_of_iff (n = n') (by simp)
  | .real x, .real x' => decidable_of_iff (x = x') (by simp)
  | .null, .null => isTrue rfl
  | .obj _, .array _ | .obj _, .str _ | .obj _, .bool _ | .obj _, .int _ | .obj _, .real _
  | .obj _, .null | .array _, .obj _ | .array _, .str _ | .array _, .bool _ | .array _, .int _
  | .array _, .real _ | .array _, .null | .str _, .obj _ | .str _, .array _ | .str _, .bool _
  | .str _, .int _ | .str _, .real _ | .str _, .null | .bool _, .obj _ | .bool _, .array _
  | .bool _, .str _ | .bool _, .int _ | .bool _, .real _ | .bool _, .null | .int _, .obj _
  | .int _, .array _ | .int _, .str _ | .int _, .bool _ | .int _, .real _ | .int _, .null
  | .real _, .obj _ | .real _, .array _ | .real _, .str _ | .real _, .bool _ | .real _, .int _
  | .real _, .null | .null, .obj _ | .null, .array _ | .null, .str _ | .null, .bool _
  | .null, .int _ | .null, .real _ => isFalse (by simp)

/-- ... objects by their pairs in order, ... -/
def Value.decEqObject : (a b : List (String × Value)) → Decidable (a = b)
  | [], [] => isTrue rfl
  | [], _ :: _ => isFalse (by simp)
  | _ :: _, [] => isFalse (by simp)
  | (k, v) :: t, (k', v') :: t' =>
    match (inferInstance : Decidable (k = k')), Value.decEq v v', Value.decEqObject t t' with
    | isTrue hk, isTrue hv, isTrue ht => isTrue (by rw [hk, hv, ht])
    | isFalse hk, _, _ => isFalse fun h => hk (congrArg Prod.fst (List.cons.inj h).1)
    | _, isFalse hv, _ => isFalse fun h => hv (congrArg Prod.snd (List.cons.inj h).1)
    | _, _, isFalse ht => isFalse fun h => ht (List.cons.inj h).2

/-- ... and arrays element by element. -/
def Value.decEqArray : (a b : List Value) → Decidable (a = b)
  | [], [] => isTrue rfl
  | [], _ :: _ => isFalse (by simp)
  | _ :: _, [] => isFalse (by simp)
  | v :: t, v' :: t' =>
    match Value.decEq v v', Value.decEqArray t t' with
    | isTrue hv, isTrue ht => isTrue (by rw [hv, ht])
    | isFalse hv, _ => isFalse fun h => hv (List.cons.inj h).1
    | _, isFalse ht => isFalse fun h => ht (List.cons.inj h).2
end

instance : DecidableEq Value := Value.decEq

/-- The functions of json_spirit the plugin calls.  Nothing is assumed of them here: where a text
    must be read back, that is a hypothesis there. -/
structure JsonSpirit where
  /-- `read(s, v)`: `none` where it answers false. -/
  read : String → Option Value
  /-- `write(v, os)`. -/
  write : Value → String
  /-- `write_formatted(v, os)`. -/
  writeFormatted : Value → String

/-- A codec that knows these documents, each with its text, and no others.  It is what the examples
    use, which have a handful of texts each. -/
def JsonSpirit.ofTexts (texts : List (String × Value)) : JsonSpirit where
  read s := (texts.find? fun t => t.1 = s).map Prod.snd
  write v := ((texts.find? fun t => t.2 = v).map Prod.fst).getD ""
  writeFormatted v := ((texts.find? fun t => t.2 = v).map Prod.fst).getD ""

/-- `obj_to_map`: pairs are entered in order, so the last one of a name stays.  What is not there is
    `none`, where the source asks `find` first. -/
def objToMap (o : Object) : String → Option Value :=
  o.foldl (fun m p => Function.update m p.1 (some p.2)) fun _ => none

/-- A field that is there and has type `str_type`, which is the test of `expect_ident` and of the
    adverts. -/
def strField (m : String → Option Value) (key : String) : Option String :=
  match m key with
  | some (.str s) => some s
  | _ => none

/-- `get_str`, which throws on a value of another type, and is called in places where nothing has
    been tested. -/
def Value.getStr : Value → Except Fault String
  | .str s => .ok s
  | _ => .error .exception

/-- `get_obj`, which throws on a value of another type in the same way. -/
def Value.getObj : Value → Except Fault Object
  | .obj o => .ok o
  | _ => .error .exception

/-! ## Queries and results

  Playdar's classes, with what the plugin reads and writes of them.  A result is a map of fields,
  and the plugin touches one of these, the url. -/

/-- `playdar::ResolverQuery`: its id and what `get_json` answers.  The fields that resolvers look at
    are in the object and nowhere else. -/
structure ResolverQuery where
  id : Qid
  json : Object

/-- `playdar::ResolvedItem`: a finite map of JSON fields, so no key comes twice.  The order of the
    fields is kept, as it is the order they are written in. -/
structure ResolvedItem where
  fields : Object
  keys_nodup : (fields.map Prod.fst).Nodup

namespace ResolvedItem

instance : DecidableEq ResolvedItem := fun a b =>
  decidable_of_iff (a.fields = b.fields) (by cases a; cases b; simp)

/-- `rm_json_value`: a field is taken out, if it is there. -/
def rmJsonValue (it : ResolvedItem) (key : String) : ResolvedItem :=
  ⟨it.fields.filter fun f => f.1 ≠ key,
    it.keys_nodup.sublist (List.filter_sublist.map Prod.fst)⟩

/-- Enter a field, over an older value of the same key, which it then replaces. -/
def set (it : ResolvedItem) (key : String) (v : Value) : ResolvedItem :=
  ⟨(it.rmJsonValue key).fields ++ [(key, v)], by
    rw [List.map_append, List.nodup_append]
    refine ⟨(it.rmJsonValue key).keys_nodup, List.nodup_singleton _, ?_⟩
    rintro k hk k' hk' rfl
    obtain ⟨f, hf, rfl⟩ := List.mem_map.mp hk
    have hne : f.1 ≠ key := of_decide_eq_true (List.mem_filter.mp hf).2
    exact hne (List.mem_singleton.mp hk')⟩

/-- `set_url`, which is a field like any other. -/
def setUrl (it : ResolvedItem) (url : String) : ResolvedItem := it.set "url" (.str url)

/-- The map a JSON object denotes: of two fields with one name the later one stays. -/
def ofObject (o : Object) : ResolvedItem :=
  o.foldl (fun it f => it.set f.1 f.2) ⟨[], List.nodup_nil⟩

end ResolvedItem

/-- The parts of playdar's query and result classes that decide something in this plugin: whether
    they can be made of an object, and what an item's id is. -/
structure Playdar where
  /-- `ResolverQuery::from_json`: `none` where it throws. -/
  fromJson : Object → Option ResolverQuery
  /-- Whether the `ResolvedItem` constructor accepts the object or throws. -/
  acceptsItem : Object → Bool
  /-- `ResolvedItem::id`. -/
  itemId : ResolvedItem → Sid

/-- A playdar that accepts no query and every result, for examples that are about neither. -/
def Playdar.plain : Playdar := ⟨fun _ => none, fun _ => true, fun _ => ""⟩

/-- `new ResolvedItem(o)`: `none` where it throws. -/
def Playdar.newItem (pd : Playdar) (o : Object) : Option ResolvedItem :=
  if pd.acceptsItem o then some (.ofObject o) else none

/-! ## Mesh messages -/

/-- The message types, `#define`d 0 to 9; any other code is `unknown`, and a message with one is let
    through to the handler that prints it. -/
inductive MsgType where
  | ping | pong | ident | query | queryresult | querystop
  | sidrequest | siddata | sidfail | sidheaders
  | unknown (code : Nat)
  deriving DecidableEq, Repr

/-- `libf2f::Message`: the header fields the plugin reads, and the payload.  In the header the guid
    is a field of 36 bytes, filled by a `memcpy` of 36; so query ids and sids, which travel in it,
    are taken to be 36 bytes long, as those that `gen_uuid` makes are, and here it is the string
    itself.  Strings stand for byte strings, and the ttl and the hops, which nothing reads, are
    left out. -/
structure Message where
  type : MsgType
  guid : String
  payload : String
  deriving DecidableEq, Repr

/-- `PongMessage`: no payload, and a guid of its own, not that of the PING. -/
def pongMessage (uuid : String) : Message := ⟨.pong, uuid, ""⟩

/-- `PingMessage`: none either.  It is sent to all from the web interface. -/
def pingMessage (uuid : String) : Message := ⟨.ping, uuid, ""⟩

/-- The message `send_ident` writes, with the JSON in `body`. -/
def identMessage (body uuid : String) : Message := ⟨.ident, uuid, body⟩

/-- `QueryMessage`: the query as JSON, its id in there.  The guid is that of this message and not of
    the query. -/
def queryMessage (js : JsonSpirit) (rq : ResolverQuery) (uuid : String) : Message :=
  ⟨.query, uuid, js.write (.obj rq.json)⟩

/-- The object a `QueryResultMessage` carries: under `"qid"` which query it is for, under `"result"`
    the item. -/
def queryResultObject (qid : Qid) (it : ResolvedItem) : Value :=
  .obj [("qid", .str qid), ("result", .obj it.fields)]

/-- `QueryResultMessage`: the id of the query and the result, as JSON. -/
def queryResultMessage (js : JsonSpirit) (qid : Qid) (it : ResolvedItem) (uuid : String) :
    Message :=
  ⟨.queryresult, uuid, js.write (queryResultObject qid it)⟩

/-- `libf2f::GeneralMessage`: type, payload and guid as they are given, which is how a stream's
    messages get the sid for a guid. -/
def generalMessage (type : MsgType) (payload guid : String) : Message := ⟨type, guid, payload⟩

/-! ## Calls on the outside

  What the plugin calls that is not its own: libf2f's connections, the bot, playdar and its
  adaptors. -/

/-- A `shared_ptr<ss_greynet>`: which object it is, and the members its constructor fixes.  What
    changes is in the state of the transfers, under `oid`. -/
structure SsGreynet (C : Type) where
  oid : Nat
  conn : C
  sid : Sid
  deriving DecidableEq, Repr

/-- The calls an `AsyncAdaptor` receives, with the numbers as the C++ `int`s they are. -/
inductive AdaptorCall where
  | writeContent (buffer : String)
  | writeFinish
  | writeCancel
  | setContentLength (n : Int32)
  | setMimeType (m : String)
  | setStatusCode (n : Int32)
  deriving DecidableEq, Repr

/-- What a handler does to the world around the plugin, in the order in which it does it. -/
inductive Action (C : Type) where
  /-- `conn->async_write(msg)` -/
  | asyncWrite (conn : C) (msg : Message)
  /-- `conn->fin()` -/
  | fin (conn : C)
  /-- `m_jbot->send_to(jid, body)` -/
  | sendTo (jid body : String)
  /-- `m_router->connect_to_remote(ep, props)` -/
  | connectToRemote (ip port : Nat) (props : List (String × String))
  /-- a call on an adaptor -/
  | adaptor (aa : AdaptorId) (call : AdaptorCall)
  /-- `ss->cancel_handler()` entered -/
  | cancelHandler (ss : SsGreynet C)
  /-- `m_pap->dispatch(rq, cb)` -/
  | dispatch (qid : Qid)
  /-- `m_pap->report_results(qid, [item])` -/
  | reportResults (qid : Qid) (item : ResolvedItem)
  deriving DecidableEq

/-- The connections some actions close, each as often as `fin` is called on it. -/
def finished {C : Type} (out : List (Action C)) : List C :=
  out.filterMap fun
    | .fin c => some c
    | _ => none

/-! ## The finite map laws of a result

  The few that the plugin's own changes to a result need: a url that is set and removed leaves
  nothing behind, and a result is read as it was written. -/

namespace ResolvedItem

/-- A result is its fields: that no key comes twice is a property of them. -/
theorem ext_fields {a b : ResolvedItem} (h : a.fields = b.fields) : a = b := by
  cases a
  cases b
  cases h
  rfl

/-- Removing a field that has just been entered is removing it from what there was before. -/
@[simp] theorem rmJsonValue_set (it : ResolvedItem) (key : String) (v : Value) :
    (it.set key v).rmJsonValue key = it.rmJsonValue key := by
  apply ext_fields
  simp [rmJsonValue, set, List.filter_append, List.filter_filter]

/-- Removing it twice is removing it once, so a result that has been stripped can be stripped
    again. -/
@[simp] theorem rmJsonValue_rmJsonValue (it : ResolvedItem) (key : String) :
    (it.rmJsonValue key).rmJsonValue key = it.rmJsonValue key := by
  apply ext_fields
  simp [rmJsonValue, List.filter_filter]

/-- Entering pairs with new and different keys appends them, in the order they come in. -/
theorem foldl_set (o : Object) :
    ∀ it : ResolvedItem, ((it.fields ++ o).map Prod.fst).Nodup →
      (o.foldl (fun it f => it.set f.1 f.2) it).fields = it.fields ++ o := by
  induction o with
  | nil => intro it _; simp
  | cons f o ih =>
    intro it hnd
    have hnew : ∀ g ∈ it.fields, g.1 ≠ f.1 := by
      intro g hg he
      rw [List.map_append, List.nodup_append] at hnd
      exact hnd.2.2 g.1 (List.mem_map_of_mem hg) f.1 (by simp) he
    have hset : (it.set f.1 f.2).fields = it.fields ++ [f] := by
      show it.fields.filter (fun g => decide (g.1 ≠ f.1)) ++ [(f.1, f.2)] = it.fields ++ [f]
      rw [List.filter_eq_self.mpr fun g hg => by simpa using hnew g hg]
    rw [List.foldl_cons, ih (it.set f.1 f.2) (by rw [hset]; simpa using hnd), hset]
    simp

/-- **A result survives its own encoding**: the map its field list denotes is the result. -/
@[simp] theorem ofObject_fields (it : ResolvedItem) : ofObject it.fields = it := by
  apply ext_fields
  have h := foldl_set it.fields ⟨[], List.nodup_nil⟩ (by simpa using it.keys_nodup)
  simpa [ofObject] using h

end ResolvedItem

end Greynet
