import Droidlogic.Lib.Crc
import Droidlogic.Lib.Run
import Droidlogic.Bootenv.Calls

set_option autoImplicit false

namespace Droidlogic.Bootenv

open Droidlogic.Lib

-- pending is a ghost: the last call that reached save() returned an error, and
-- nothing has been loaded from the flash since.
structure Session (device : EnvDevice) where
  board : Board device
  pending : Bool
deriving DecidableEq

inductive Call (device : EnvDevice) where
  | updateValue (name value : CStr) (outcomes : Nat → SaveOutcome device)
  | getValue (key : CStr)
  | reInit (query : MtdQuery) (reads : Nat → ReadOutcome)

section
variable {device : EnvDevice} (crc32 : Bytes → UInt32)

def ReachesSave (env : Ubootenv device) (name value : CStr) : Prop :=
  env.mEnvInitDone = true ∧ ∃ key ∈ envNameOf name, value ≠ (get env key).getD .empty

instance (env : Ubootenv device) (name value : CStr) : Decidable (ReachesSave env name value) :=
  inferInstanceAs (Decidable (_ ∧ ∃ key ∈ envNameOf name, _))

def callResult (session : Session device) : Call device → Option (Int × Session device)
  | .updateValue name value outcomes =>
      (updateValue crc32 session.board name value outcomes).map fun (ret, board) =>
        (ret, ⟨board, if ReachesSave session.board.env name value then decide (ret < 0) else session.pending⟩)
  | .getValue _ => some (0, session)
  | .reInit query reads => (reInit crc32 session.board query reads).map fun (ret, board) => (ret, ⟨board, false⟩)

def callStep (session : Session device) (call : Call device) : Option (Session device) :=
  (callResult crc32 session call).map Prod.snd

-- The calls whose success is a promise about the flash. The name holds no '=';
-- an empty value is only given to a variable that exists and has two letters;
-- the value that memory already shows is not one that a failed save left there;
-- and the printed variables leave room for the empty entry that closes them.
def UpdateOk (session : Session device) : Call device → Prop
  | .updateValue name value _ =>
      ∀ key ∈ envNameOf name,
        0x3D ∉ key.bytes ∧
        (value = .empty → 2 ≤ key.bytes.length ∧ get session.board.env key ≠ none) ∧
        (session.pending = true → get session.board.env key ≠ some value) ∧
        ∀ result ∈ setAttribute key value true session.board.env.attributes,
          (block (stored result.2)).length < mEnvSize device
  | .getValue _ => True
  | .reInit _ _ => True

instance (session : Session device) (call : Call device) : Decidable (UpdateOk session call) := by
  unfold UpdateOk
  split <;> infer_instance

structure Synced (session : Session device) : Prop where
  done : session.board.env.mEnvInitDone = true
  plain : PlainKeys session.board.env.attributes
  flash : session.pending = false → ∀ key value, key.bytes ≠ [] →
    3 ≤ key.bytes.length + 1 + value.bytes.length →
    lookup key session.board.env.attributes = some value → Holds crc32 session.board.flash key value

theorem env_name_named (name key : CStr) (named : envNameOf name = some key) : key.bytes ≠ [] := by
  by_cases boot : name.bytes = profixUbootenvVar ++ bootcmd.bytes
  · rw [envNameOf, if_pos boot] at named
    cases Option.some.inj named
    decide
  · rw [envNameOf, if_neg boot] at named
    by_cases env : isEnv name = true
    · rw [if_pos env] at named
      cases Option.some.inj named
      simp only [isEnv, Bool.and_eq_true, decide_eq_true_eq] at env
      simp only [CStr.drop_bytes, ne_eq, List.drop_eq_nil_iff]
      omega
    · simp [env] at named

theorem loaded_synced (board : Board device) (done : board.env.mEnvInitDone = true)
    (loaded : Loaded crc32 board.env board.flash) : Synced crc32 ⟨board, false⟩ :=
  ⟨done, parse_plain _ _ loaded.2.1, fun _ _ _ _ _ found => ⟨loaded.1, board.env.attributes, loaded.2.1, found⟩⟩

theorem unloaded_synced (board : Board device) (done : board.env.mEnvInitDone = true)
    (unloaded : Unloaded board.env) : Synced crc32 ⟨board, false⟩ := by
  refine ⟨done, ?_, ?_⟩
  · simp [PlainKeys, unloaded.1, EnvAttribute.cleared, CStr.empty]
  · intro _ key value named _ found
    obtain ⟨attr, member, same, _⟩ := lookup_member key value _ found
    rw [unloaded.1, List.mem_singleton] at member
    subst member
    exact absurd (congrArg CStr.bytes same.symm) named

theorem saved_holds (attrs : List EnvAttribute) (flash : EnvImage device) (key value : CStr)
    (some_attr : attrs ≠ []) (plain : PlainKeys attrs) (formats : Formats crc32 attrs flash)
    (closed : (block (stored attrs)).length < mEnvSize device)
    (long : 3 ≤ key.bytes.length + 1 + value.bytes.length) (found : lookup key attrs = some value) :
    Holds crc32 flash key value :=
  ⟨formats.2, stored attrs, parse_format _ attrs _ some_attr plain formats.1 closed,
    stored_lookup_kept key value attrs long found⟩

theorem printed_long (key value : CStr) (named : key.bytes ≠ []) (letters : value = .empty → 2 ≤ key.bytes.length) :
    3 ≤ key.bytes.length + 1 + value.bytes.length := by
  have some_letter := List.length_pos_iff.mpr named
  by_cases empty : value = .empty
  · have two := letters empty
    omega
  · have size : value.bytes.length ≠ 0 := fun zero => empty ((cstr_empty_iff value).mpr zero)
    omega

theorem unsaved_pending (env : Ubootenv device) (name value : CStr)
    (refused : env.mEnvInitDone = false ∨ ∀ key, envNameOf name = some key → value = (get env key).getD .empty) :
    ¬ ReachesSave env name value := by
  rintro ⟨done, key, named, different⟩
  rcases refused with undone | same
  · rw [done] at undone
    cases undone
  · exact different (same key named)

-- A value that memory already shows is on the flash.
theorem shown_holds (session : Session device) (name key value : CStr) (synced : Synced crc32 session)
    (outcomes : Nat → SaveOutcome device) (guard : UpdateOk session (.updateValue name value outcomes))
    (named : envNameOf name = some key) (same : value = (get session.board.env key).getD .empty) :
    Holds crc32 session.board.flash key value := by
  obtain ⟨_, emptyOk, pendingOk, _⟩ := guard key named
  have shown : get session.board.env key = some value := by
    cases found : get session.board.env key with
    | none =>
        rw [found, Option.getD_none] at same
        exact absurd found (emptyOk same).2
    | some current => rw [same, found, Option.getD_some]
  have saved : session.pending = false := by
    cases pending : session.pending with
    | false => rfl
    | true => exact absurd shown (pendingOk pending)
  have stays : lookup key session.board.env.attributes = some value := by
    simpa only [get, synced.done, if_true] using shown
  have letters := env_name_named name key named
  exact synced.flash saved key value letters (printed_long key value letters fun empty => (emptyOk empty).1) stays

theorem update_synced (session : Session device) (name value : CStr) (outcomes : Nat → SaveOutcome device)
    (ret : Int) (next : Session device) (synced : Synced crc32 session)
    (guard : UpdateOk session (.updateValue name value outcomes))
    (returned : callResult crc32 session (.updateValue name value outcomes) = some (ret, next)) :
    Synced crc32 next ∧
      (ret = 0 → ∃ key, envNameOf name = some key ∧ Holds crc32 next.board.flash key value) := by
  simp only [callResult, Option.map_eq_some_iff, Prod.exists, Prod.mk.injEq] at returned
  obtain ⟨code, board, updated, rfl, rfl⟩ := returned
  rcases update_cases crc32 session.board board name value outcomes code updated with
    ⟨negative, rfl, refused⟩ | ⟨key, named, done, unchanged | ⟨different, setCode, attrs, changed, saved⟩⟩
  · have quiet := unsaved_pending session.board.env name value (refused.imp_right fun absent key named => by
      rw [absent] at named
      cases named)
    rw [if_neg quiet]
    exact ⟨synced, fun zero => by omega⟩
  · obtain ⟨rfl, rfl, same⟩ := unchanged
    have quiet := unsaved_pending session.board.env name value (.inr fun other namedOther => by
      rwa [← Option.some.inj (named.symm.trans namedOther)])
    rw [if_neg quiet]
    exact ⟨synced, fun _ => ⟨key, named, shown_holds crc32 session name key value synced outcomes guard named same⟩⟩
  · obtain ⟨plainKey, emptyOk, _, room⟩ := guard key named
    have closed := room (setCode, attrs) changed
    have plain := set_attribute_plain key value _ attrs setCode synced.plain plainKey changed
    have some_attr := set_attribute_ne_nil key value _ attrs setCode changed
    obtain ⟨attrsKept, doneKept, finished⟩ := save_retry_cases crc32 outcomes _ _ board (-1) code (by decide) saved
    rw [if_pos ⟨done, key, named, different⟩]
    refine ⟨⟨doneKept.trans synced.done, attrsKept ▸ plain, ?_⟩, fun zero => ⟨key, named, ?_⟩⟩
    · intro settled other current _ long found
      rcases finished with ⟨_, formats, _⟩ | negative
      · rw [attrsKept] at found
        exact saved_holds crc32 attrs board.flash other current some_attr plain formats closed long found
      · simp only [decide_eq_false_iff_not] at settled
        exact absurd negative settled
    · rcases finished with ⟨_, formats, _⟩ | negative
      · have long := printed_long key value (env_name_named name key named) fun empty => (emptyOk empty).1
        apply saved_holds crc32 attrs board.flash key value some_attr plain formats closed long
        rw [set_attribute_lookup key value key _ attrs setCode changed, if_pos rfl]
      · omega

theorem call_synced (session next : Session device) (call : Call device) (synced : Synced crc32 session)
    (guard : UpdateOk session call) (stepped : callStep crc32 session call = some next) : Synced crc32 next := by
  obtain ⟨⟨ret, _⟩, returned, rfl⟩ := Option.map_eq_some_iff.mp stepped
  cases call with
  | updateValue name value outcomes =>
      exact (update_synced crc32 session name value outcomes ret _ synced guard returned).1
  | getValue key =>
      cases Option.some.inj returned
      exact synced
  | reInit query reads =>
      simp only [callResult, Option.map_eq_some_iff, Prod.exists, Prod.mk.injEq] at returned
      obtain ⟨code, board, done, _, rfl⟩ := returned
      obtain ⟨flash, kept, outcome⟩ := reinit_cases crc32 session.board board query reads code done
      rcases outcome with unloaded | loaded
      · exact unloaded_synced crc32 board (kept synced.done) unloaded
      · exact loaded_synced crc32 board (kept synced.done) (flash ▸ loaded)

theorem update_durable (start : Board device) (done : start.env.mEnvInitDone = true)
    (loaded : Loaded crc32 start.env start.flash) (calls : List (Call device)) (name value : CStr)
    (outcomes : Nat → SaveOutcome device) (session next : Session device)
    (guarded : Guarded (callStep crc32) UpdateOk ⟨start, false⟩ (calls ++ [.updateValue name value outcomes]))
    (reached : run (callStep crc32) ⟨start, false⟩ calls = some session)
    (returned : callResult crc32 session (.updateValue name value outcomes) = some (0, next)) :
    ∃ key, envNameOf name = some key ∧ Holds crc32 next.board.flash key value := by
  obtain ⟨before, last⟩ := guarded_append (callStep crc32) UpdateOk _ session calls _ guarded reached
  have synced := run_invariant (callStep crc32) UpdateOk (Synced crc32)
    (fun state call result kept guard stepped => call_synced crc32 state result call kept guard stepped)
    ⟨start, false⟩ session calls (loaded_synced crc32 start done loaded) before reached
  exact (update_synced crc32 session name value outcomes 0 next synced last.1 returned).2 rfl

end

def smallDevice : EnvDevice := .blockUbootenv 40 8 (by decide)

-- A partition that holds the one variable ab=1.
def smallFlash : EnvImage smallDevice :=
  let data := ascii ['a', 'b', '=', '1'] ++ List.replicate 28 0
  ⟨Crc.crc32 data, data, List.replicate 4 0, rfl, rfl⟩

def smallBoard : Board smallDevice :=
  ⟨⟨some smallFlash, [⟨⟨⟨[0x61, 0x62], by decide⟩, by decide⟩, ⟨⟨[0x31], by decide⟩, by decide⟩⟩], true⟩, smallFlash⟩

def nameAb : CStr := ⟨profixUbootenvVar ++ [0x61, 0x62], by decide⟩

theorem small_board_loaded : Loaded Crc.crc32 smallBoard.env smallBoard.flash :=
  ⟨by decide +kernel, by decide +kernel, rfl⟩

-- A variable that an earlier call has already changed.
theorem update_durable_small :
    ∃ session next, run (callStep Crc.crc32) ⟨smallBoard, false⟩
        [.updateValue nameAb ⟨[0x33], by decide⟩ fun _ => .stored] = some session ∧
      callResult Crc.crc32 session (.updateValue nameAb ⟨[0x32], by decide⟩ fun _ => .stored) = some (0, next) ∧
      ∃ key, envNameOf nameAb = some key ∧ Holds Crc.crc32 next.board.flash key ⟨[0x32], by decide⟩ := by
  have both : ((run (callStep Crc.crc32) ⟨smallBoard, false⟩
      [.updateValue nameAb ⟨[0x33], by decide⟩ fun _ => .stored]).bind fun session =>
        callResult Crc.crc32 session (.updateValue nameAb ⟨[0x32], by decide⟩ fun _ => .stored)).map Prod.fst = some 0 := by
    decide +kernel
  obtain ⟨⟨ret, next⟩, second, zero⟩ := Option.map_eq_some_iff.mp both
  obtain ⟨session, first, second⟩ := Option.bind_eq_some_iff.mp second
  cases zero
  have guard : Guarded (callStep Crc.crc32) UpdateOk ⟨smallBoard, false⟩
      [.updateValue nameAb ⟨[0x33], by decide⟩ fun _ => .stored, .updateValue nameAb ⟨[0x32], by decide⟩ fun _ => .stored] := by
    decide +kernel
  exact ⟨session, next, first, second,
    update_durable Crc.crc32 smallBoard rfl small_board_loaded _ nameAb _ _ session next guard first second⟩

-- After five failed attempts the same call again returns 0 without writing.
theorem update_lost_after_failed_save :
    smallBoard.env.mEnvInitDone = true ∧ Loaded Crc.crc32 smallBoard.env smallBoard.flash ∧
    ∃ session next, run (callStep Crc.crc32) ⟨smallBoard, false⟩
        [.updateValue nameAb ⟨[0x32], by decide⟩ fun _ => .openFailed] = some session ∧
      callResult Crc.crc32 session (.updateValue nameAb ⟨[0x32], by decide⟩ fun _ => .stored) = some (0, next) ∧
      ¬ ∃ key, envNameOf nameAb = some key ∧ Holds Crc.crc32 next.board.flash key ⟨[0x32], by decide⟩ := by
  have both : ((run (callStep Crc.crc32) ⟨smallBoard, false⟩
      [.updateValue nameAb ⟨[0x32], by decide⟩ fun _ => .openFailed]).bind fun session =>
        callResult Crc.crc32 session (.updateValue nameAb ⟨[0x32], by decide⟩ fun _ => .stored)).map
          (fun (ret, next) => (ret, next.board.flash)) = some (0, smallFlash) := by decide +kernel
  obtain ⟨⟨ret, next⟩, second, same⟩ := Option.map_eq_some_iff.mp both
  obtain ⟨session, first, second⟩ := Option.bind_eq_some_iff.mp second
  obtain ⟨rfl, flash⟩ := Prod.mk.inj same
  refine ⟨rfl, small_board_loaded, session, next, first, second, ?_⟩
  rintro ⟨key, named, _, attrs, parsed, found⟩
  have name : envNameOf nameAb = some ⟨[0x61, 0x62], by decide⟩ := by decide +kernel
  cases Option.some.inj (name.symm.trans named)
  have old : parseAttribute smallFlash.data = some smallBoard.env.attributes := by decide +kernel
  rw [flash] at parsed
  cases Option.some.inj (old.symm.trans parsed)
  exact absurd found (by decide +kernel)

end Droidlogic.Bootenv
