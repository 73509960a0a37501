import Droidlogic.Lib.Parcel

set_option autoImplicit false

namespace Droidlogic.Lib

-- What a method takes and gives: its arguments in the order they are sent in, its result and what it stores.
structure Signature where
  params : List Kind
  ret : Option Kind
  outs : List Kind
deriving DecidableEq

structure Answer where
  ret : Option Value
  outs : List Value
deriving DecidableEq

inductive ReplyOrder
  | retFirst
  | retLast
  | outsOnly
deriving DecidableEq

def Answer.parts (answer : Answer) : ReplyOrder → List Value
  | .retFirst => answer.ret.toList ++ answer.outs
  | .retLast => answer.outs ++ answer.ret.toList
  | .outsOnly => answer.outs

-- guarded stores nothing where the result is false, assumed reads no result, logged reads it for the log first.
inductive Decoding
  | plain (ret : Option Kind) (outs : List Kind)
  | retLast (outs : List Kind) (ret : Kind)
  | guarded (outs : List Kind)
  | assumed (outs : List Kind)
  | logged
deriving DecidableEq

structure Proxy (Code : Type) where
  code : Code
  tokenFirst : Bool
  decoding : Decoding
  fallback : Option Value

structure Stub (Name : Type) where
  checks : Bool
  params : List Kind
  calls : Name
  order : ReplyOrder

structure Interface (Name Code : Type) where
  signature : Name → Signature
  bp : Name → Proxy Code
  bn : Code → Stub Name

abbrev Service (Name State : Type) := Name → List Value → State → Answer × State

section
variable {Parcel Name Code State : Type} (ops : ParcelOps Parcel) (iface : Interface Name Code)
  (service : Service Name State) (verbose : Bool)

-- The reply, or none where the call is refused.
def onTransact (code : Code) (data : Parcel) (state : State) : Option Parcel × State :=
  let stub := iface.bn code
  let (accepted, data) := if stub.checks then ops.enforceInterface data else (true, data)
  if accepted then
    let (args, _) := readValues ops data stub.params
    let (answer, state) := service stub.calls args state
    (some (writeItems ops ops.empty ((answer.parts stub.order).flatMap Value.items)), state)
  else (none, state)

def Decoding.answer (decoding : Decoding) (prior : List Value) (reply : Parcel) : Answer :=
  match decoding with
  | .plain ret outs =>
      let (values, reply) := readValues ops reply ret.toList
      ⟨values.head?, (readValues ops reply outs).1⟩
  | .retLast outs ret =>
      let (values, reply) := readValues ops reply outs
      ⟨some (readValue ops reply ret).1, values⟩
  | .guarded outs =>
      let (err, reply) := ops.readInt32 reply
      if err = 0 then ⟨some (.bool false), prior⟩ else ⟨some (.bool true), (readValues ops reply outs).1⟩
  | .assumed outs => ⟨some (.bool true), (readValues ops reply outs).1⟩
  | .logged =>
      let reply := if verbose then (ops.readInt32 reply).2 else reply
      ⟨some (.int32 (ops.readInt32 reply).1), []⟩

-- prior is what the caller's variables hold before the call.
def transact (name : Name) (args prior : List Value) (state : State) : Answer × State :=
  let proxy := iface.bp name
  let items := args.flatMap Value.items
  let data := writeItems ops ops.empty (if proxy.tokenFirst then .token :: items else items ++ [.token])
  match onTransact ops iface service proxy.code data state with
  | (some reply, state) => (proxy.decoding.answer ops verbose prior reply, state)
  | (none, state) => (⟨proxy.fallback, prior⟩, state)

-- What the caller sees of an answer.
def Decoding.seen (decoding : Decoding) (prior : List Value) (answer : Answer) : Answer :=
  match decoding with
  | .plain .. | .retLast .. => answer
  | .guarded _ => if answer.ret = some (.bool false) then ⟨some (.bool false), prior⟩ else answer
  | .assumed _ => { answer with ret := some (.bool true) }
  | .logged => if verbose then ⟨some (.int32 0), []⟩ else answer

structure Typed (signature : Signature) (answer : Answer) : Prop where
  ret : answer.ret.map Value.kind = signature.ret
  outs : answer.outs.map Value.kind = signature.outs

def Decoding.Matches (decoding : Decoding) (signature : Signature) (order : ReplyOrder) : Prop :=
  match decoding with
  | .plain ret outs => order = .retFirst ∧ ret = signature.ret ∧ outs = signature.outs
  | .retLast outs ret => order = .retLast ∧ some ret = signature.ret ∧ outs = signature.outs
  | .guarded outs => order = .retFirst ∧ some .bool = signature.ret ∧ outs = signature.outs
  | .assumed outs => order = .outsOnly ∧ outs = signature.outs
  | .logged => order = .retFirst ∧ some .int32 = signature.ret ∧ [] = signature.outs

instance (decoding : Decoding) (signature : Signature) (order : ReplyOrder) : Decidable (decoding.Matches signature order) :=
  match decoding with
  | .plain .. | .retLast .. | .guarded .. | .logged => inferInstanceAs (Decidable (_ ∧ _ ∧ _))
  | .assumed .. => inferInstanceAs (Decidable (_ ∧ _))

-- The proxy and the stub agree on a method.
structure Agreed (name : Name) : Prop where
  token : (iface.bp name).tokenFirst = true
  calls : (iface.bn (iface.bp name).code).calls = name
  params : (iface.bn (iface.bp name).code).params = (iface.signature name).params
  checked : (iface.bn (iface.bp name).code).checks = true ∨ (iface.signature name).params = []
  reply : (iface.bp name).decoding.Matches (iface.signature name) (iface.bn (iface.bp name).code).order

omit ops iface service verbose in
theorem ret_bool (ret : Option Value) (kind : ret.map Value.kind = some .bool) : ∃ flag, ret = some (.bool flag) := by
  obtain ⟨value, rfl, bool⟩ := Option.map_eq_some_iff.mp kind
  cases value <;> first | exact ⟨_, rfl⟩ | cases bool

omit ops iface service verbose in
theorem ret_int32 (ret : Option Value) (kind : ret.map Value.kind = some .int32) : ∃ value, ret = some (.int32 value) := by
  obtain ⟨value, rfl, int⟩ := Option.map_eq_some_iff.mp kind
  cases value <;> first | exact ⟨_, rfl⟩ | cases int

variable {ops} {Holds : Parcel → List Item → Prop} (fifo : Fifo ops Holds)
include fifo

-- Values that are all that is left.
theorem Fifo.read_last (parcel : Parcel) (values : List Value) (held : Holds parcel (values.flatMap Value.items)) :
    (readValues ops parcel (values.map Value.kind)).1 = values :=
  (fifo.read_values parcel values [] ((List.append_nil _).symm ▸ held)).1

theorem Fifo.decode (decoding : Decoding) (signature : Signature) (order : ReplyOrder) (agreed : decoding.Matches signature order)
    (prior : List Value) (answer : Answer) (typed : Typed signature answer) (reply : Parcel)
    (held : Holds reply ((answer.parts order).flatMap Value.items)) :
    decoding.answer ops verbose prior reply = decoding.seen verbose prior answer := by
  obtain ⟨ret, outs⟩ := answer
  obtain ⟨retKind, outKinds⟩ := typed
  dsimp only at retKind outKinds
  cases decoding with
  | plain wantedRet wantedOuts =>
      obtain ⟨rfl, rfl, rfl⟩ := agreed
      rw [Answer.parts, List.flatMap_append] at held
      have kinds : signature.ret.toList = ret.toList.map Value.kind := by
        rw [← retKind]
        cases ret <;> rfl
      obtain ⟨first, later⟩ := fifo.read_values reply ret.toList _ held
      have others := fifo.read_last _ outs later
      simp only [Decoding.answer, Decoding.seen, kinds, ← outKinds, first, others, Answer.mk.injEq, and_true]
      cases ret <;> rfl
  | retLast wantedOuts wantedRet =>
      obtain ⟨rfl, wanted, rfl⟩ := agreed
      rw [Answer.parts, List.flatMap_append] at held
      obtain ⟨value, rfl⟩ : ∃ value, ret = some value := Option.isSome_iff_exists.mp (by
        rw [← Option.isSome_map, retKind, ← wanted]
        rfl)
      have kind : wantedRet = value.kind := Option.some.inj (wanted.trans retKind.symm)
      obtain ⟨first, later⟩ := fifo.read_values reply outs _ held
      have last := (fifo.read_value _ value [] later).1
      simp only [Decoding.answer, Decoding.seen, kind, ← outKinds, first, last]
  | guarded wantedOuts =>
      obtain ⟨rfl, wanted, rfl⟩ := agreed
      obtain ⟨flag, rfl⟩ : ∃ flag, ret = some (.bool flag) := ret_bool ret (retKind.trans wanted.symm)
      obtain ⟨err, later⟩ := fifo.int32 reply (if flag then 1 else 0) _ held
      have others := fifo.read_last _ outs later
      cases flag with
      | false => simp only [Decoding.answer, Decoding.seen, err, Bool.false_eq_true, if_false, if_true]
      | true =>
          have apart : ¬ (1 : Int32) = 0 := by decide
          simp [Decoding.answer, Decoding.seen, err, apart, ← outKinds, others]
  | assumed wantedOuts =>
      obtain ⟨rfl, rfl⟩ := agreed
      simp only [Decoding.answer, Decoding.seen, ← outKinds, fifo.read_last reply outs held]
  | logged =>
      obtain ⟨rfl, wanted, nothing⟩ := agreed
      obtain ⟨value, rfl⟩ := ret_int32 ret (retKind.trans wanted.symm)
      obtain rfl : outs = [] := List.map_eq_nil_iff.mp (outKinds.trans nothing.symm)
      obtain ⟨first, later⟩ := fifo.int32 reply value [] held
      cases verbose with
      | false => simp [Decoding.answer, Decoding.seen, first]
      | true => simp [Decoding.answer, Decoding.seen, fifo.ended _ later]

theorem Fifo.sent (items : List Item) : Holds (writeItems ops ops.empty items) items :=
  fifo.write_items ops.empty [] items fifo.empty

theorem Fifo.on_transact (name : Name) (agreed : Agreed iface name) (args : List Value)
    (kinds : args.map Value.kind = (iface.signature name).params) (state : State) (data : Parcel)
    (held : Holds data (.token :: args.flatMap Value.items)) :
    onTransact ops iface service (iface.bp name).code data state =
      (some (writeItems ops ops.empty
          (((service name args state).1.parts (iface.bn (iface.bp name).code).order).flatMap Value.items)),
        (service name args state).2) := by
  have params : (iface.bn (iface.bp name).code).params = args.map Value.kind := agreed.params.trans kinds.symm
  obtain ⟨token, later⟩ := fifo.token data _ held
  unfold onTransact
  dsimp only
  rw [params, agreed.calls]
  cases checks : (iface.bn (iface.bp name).code).checks with
  | true => simp only [if_true, token, fifo.read_last _ args later]
  | false =>
      have none : args = [] := by
        rcases agreed.checked with checked | empty
        · exact absurd (checks.symm.trans checked) (by decide)
        · exact List.map_eq_nil_iff.mp (kinds.trans empty)
      subst none
      simp only [Bool.false_eq_true, if_false, if_true, List.map_nil, readValues]

-- A call that both sides agree on is the direct call, as far as the caller sees it.
theorem Fifo.transact_agreed (name : Name) (agreed : Agreed iface name) (args : List Value)
    (kinds : args.map Value.kind = (iface.signature name).params) (prior : List Value) (state : State)
    (typed : Typed (iface.signature name) (service name args state).1) :
    transact ops iface service verbose name args prior state =
      ((iface.bp name).decoding.seen verbose prior (service name args state).1, (service name args state).2) := by
  have taken := fifo.on_transact iface service name agreed args kinds state _ (fifo.sent (.token :: args.flatMap Value.items))
  have decoded := fifo.decode verbose (iface.bp name).decoding (iface.signature name) _ agreed.reply prior _ typed _ (fifo.sent _)
  simp only [transact, agreed.token, if_true, taken, decoded]

-- A call whose arguments stand before the token, a text first, is refused.
theorem Fifo.transact_refused (name : Name) (last : (iface.bp name).tokenFirst = false)
    (checks : (iface.bn (iface.bp name).code).checks = true) (text : String16) (args prior : List Value) (state : State) :
    transact ops iface service verbose name (.text text :: args) prior state = (⟨(iface.bp name).fallback, prior⟩, state) := by
  have refused := fifo.refused _ text _ (fifo.sent ((Value.text text :: args).flatMap Value.items ++ [.token]))
  simp only [transact, last, onTransact, checks, refused, Bool.false_eq_true, if_true, if_false]

end

end Droidlogic.Lib
