import Droidlogic.Pq.FactoryRows

set_option autoImplicit false

namespace Droidlogic.Pq.Factory

open Lib

def Command.Writes : Command → Nat → Prop
  | .wv _ _, _ => False
  | .bw written _ _ _, addr => written = addr
  | .w written _, addr => written = addr
  | .r _, _ => False
  | .blkExtEn, addr => addr = vppBlackextCtrl
  | .blkStart _, addr => addr = vppBlackextCtrl
  | .blkSlope _, addr => addr = vppBlackextCtrl

-- What pq_reg_rw does: a register reads back as it was last written.
structure Registers (device : Device) : Prop where
  written : ∀ sent addr word, device (sent ++ [.w addr word]) addr = word
  kept : ∀ sent command addr, ¬command.Writes addr → device (sent ++ [command]) addr = device sent addr

theorem device_kept (device : Device) (registers : Registers device) (sent commands : List Command) (addr : Nat)
    (away : ∀ command ∈ commands, ¬command.Writes addr) : device (sent ++ commands) addr = device sent addr := by
  induction commands generalizing sent with
  | nil => rw [List.append_nil]
  | cons command rest ih =>
      rw [List.append_cons, ih _ fun other member => away other (.tail _ member)]
      exact registers.kept sent command addr (away command (.head _))

def readBack (device : Device) (sent : List Command) (addr : Nat) (word : Word) : Word :=
  if word = 0 then device (sent ++ [.r addr]) addr else word

-- The word that the bits of a setting are taken from.
def taken (device : Device) (sent : List Command) (setting : Setting) (word : Word) : Word :=
  match setting with
  | .sharpness timing type => readBack device sent (matchSharpnessRegAddr type timing) word
  | _ => word

-- The word that they are put into: a row of a gain has no others.
def base (device : Device) (sent : List Command) (setting : Setting) (word : Word) : Word :=
  match setting with
  | .cti .cvdYcDelay => word
  | .cti .decodeCti => word
  | .cti _ => 0
  | setting => taken device sent setting word

def marker : Word := (0x8 : Word) <<< 12 ||| (0x8 : Word) <<< 28

-- A brightness or contrast of the decoder sets two more bits, and adds the other of the two.
def marks (db : PqDb) (param : SourceInputParam) : Setting → Word
  | .decodeLuma .brightness => marker ||| (lumaField .contrast).get (lumaRow db param .contrast) <<< 16
  | .decodeLuma .contrast => marker ||| (lumaField .brightness).get (lumaRow db param .brightness)
  | _ => 0

def newWord (device : Device) (state : State) (param : SourceInputParam) (setting : Setting) (old val : Word) : Word :=
  (field setting).put (base device state.sent setting old) val ||| marks state.db param setting

def asked (setting : Setting) (old : Word) : List Command :=
  match setting with
  | .sharpness timing type => if old = 0 then [.r (matchSharpnessRegAddr type timing)] else []
  | _ => []

-- The word goes out whole, a gain in its bits, and a black extension as commands of its own.
def ordered (addr : Nat) (setting : Setting) (word : Word) : List Command :=
  match setting with
  | .cti .cvdYcDelay => [.wv word addr]
  | .cti .decodeCti => [.wv word addr]
  | .cti type => [.bw addr ((ctiField type).get word) (ctiField type).shift (ctiField type).width]
  | .decodeLuma _ => [.wv word addr]
  | .sharpness _ _ => [.w addr word]
  | .blackExt => [.blkExtEn, .blkStart (startField.get word), .blkSlope (slopeField.get word)]

-- The address that a setter sends to, whatever the timing.
def sentAddr : Setting → Nat
  | .sharpness _ type => matchSharpnessRegAddr type .sd
  | setting => regAddr setting

theorem sharpness_register (device : Device) (state : State) (param : SourceInputParam) (timing : Timing)
    (type : SharpnessParamType) (old : Word)
    (here : pqGetSharpnessAdvancedParams state.db param (matchSharpnessRegAddr type timing) timing = some old) :
    sharpnessRegister device state param timing type =
      some (taken device state.sent (.sharpness timing type) old,
        { state with sent := state.sent ++ asked (.sharpness timing type) old }) := by
  simp only [sharpnessRegister, here, Option.bind_eq_bind, Option.bind_some, taken, readBack, asked]
  by_cases zero : old = 0
  · rw [if_pos zero, if_pos zero, if_pos zero]
    rfl
  · rw [if_neg zero, if_neg zero, if_neg zero, List.append_nil]

theorem get_raw (device : Device) (state : State) (param : SourceInputParam) (setting : Setting) :
    factoryGet device state param setting =
      (raw state.db param setting).map fun word => (field setting).get (taken device state.sent setting word) := by
  cases setting with
  | cti type => exact congrArg some (cti_value type _)
  | decodeLuma type => exact congrArg some (luma_value type _)
  | sharpness timing type =>
      cases here : pqGetSharpnessAdvancedParams state.db param (matchSharpnessRegAddr type timing) timing with
      | none =>
          simp only [factoryGet, factoryGetSharpnessParams, sharpnessRegister, raw, here]
          rfl
      | some word =>
          simp only [factoryGet, factoryGetSharpnessParams, sharpness_register device state param timing type word here,
            raw, here]
          exact congrArg some (sharpness_value type _)
  | blackExt =>
      simp only [factoryGet, factoryGetBlackExtRegParams, raw]
      cases pqGetBeParams state.db param vppBlackextCtrl with
      | none => rfl
      | some word => exact congrArg some (black_ext_slope word)

theorem marks_get (db : PqDb) (param : SourceInputParam) (setting : Setting) :
    (field setting).get (marks db param setting) = 0#32 := by
  cases setting with
  | cti type => exact Field.get_zero _
  | decodeLuma type =>
      cases type with
      | brightness =>
          have marker : (field (.decodeLuma .brightness)).get marker = 0#32 := by decide
          rw [marks, Field.get_or, marker, Field.get_shifted _ _ 16 (by decide), BitVec.or_zero]
      | contrast =>
          have marker : (field (.decodeLuma .contrast)).get marker = 0#32 := by decide
          rw [marks, Field.get_or, marker, Field.get_narrow _ _ _ (by decide), BitVec.or_zero]
      | saturation => exact Field.get_zero _
  | sharpness timing type => exact Field.get_zero _
  | blackExt => exact Field.get_zero _

theorem new_word_get (device : Device) (state : State) (param : SourceInputParam) (setting : Setting) (old val : Word)
    (accepted : Accepted setting val) : (field setting).get (newWord device state param setting old val) = val := by
  rw [newWord, Field.get_or, Field.get_put _ _ _ (accepted_holds setting val accepted), marks_get, BitVec.or_zero]

theorem new_word_bit (device : Device) (state : State) (param : SourceInputParam) (setting : Setting) (old val : Word)
    (accepted : Accepted setting val) (i : Nat) (bound : i < 32) (outside : ¬(field setting).Has i) :
    (newWord device state param setting old val).getLsbD i =
      ((base device state.sent setting old).getLsbD i || (marks state.db param setting).getLsbD i) := by
  rw [newWord, BitVec.getLsbD_or, Field.put_bit _ _ _ (accepted_holds setting val accepted) i bound, if_neg outside]

-- What the hardware is sent is one command, but for the black extension.
theorem cti_word (device : Device) (state : State) (param : SourceInputParam) (type : CtiParamType) (old val : Word)
    (accepted : Accepted (.cti type) val) :
    (ctiWord type old val).1 = newWord device state param (.cti type) old val ∧
      [(ctiWord type old val).2] =
        ordered (regAddr (.cti type)) (.cti type) (newWord device state param (.cti type) old val) := by
  have got : (ctiField type).get (newWord device state param (.cti type) old val) = val :=
    new_word_get device state param (.cti type) old val accepted
  have word : (ctiWord type old val).1 = newWord device state param (.cti type) old val := by
    cases type <;> simp [ctiWord, newWord, base, marks, field, ctiField, Field.put, Field.ones, nibble, octet]
  refine ⟨word, ?_⟩
  rw [← word] at got ⊢
  cases type <;> simp only [ordered, got] <;> rfl

theorem luma_word (device : Device) (state : State) (param : SourceInputParam) (type : DecodeLuma) (val : Word) :
    lumaWord state.db param type val =
      (newWord device state param (.decodeLuma type) (lumaRow state.db param type) val,
        .wv (newWord device state param (.decodeLuma type) (lumaRow state.db param type) val) (lumaAddr type)) := by
  have word : (lumaWord state.db param type val).1 =
      newWord device state param (.decodeLuma type) (lumaRow state.db param type) val := by
    cases type with
    | brightness =>
        have contrast := luma_value .contrast (lumaRow state.db param .contrast)
        simp only [lumaValue] at contrast
        simp only [lumaWord, newWord, base, taken, marks, field, ← contrast, marker, ← BitVec.or_assoc]
        simp [Field.put, Field.ones, lumaField]
    | contrast =>
        have brightness := luma_value .brightness (lumaRow state.db param .brightness)
        simp only [lumaValue] at brightness
        simp only [lumaWord, newWord, base, taken, marks, field, ← brightness, marker, ← BitVec.or_assoc]
        simp [Field.put, Field.ones, lumaField]
    | saturation => simp [lumaWord, newWord, base, taken, marks, field, Field.put, Field.ones, lumaField, octet]
  rw [← word]
  cases type <;> rfl

-- One spec for the four setters: what is stored, and what is sent.
theorem set_raw (device : Device) (state : State) (param : SourceInputParam) (setting : Setting) (old val : Word)
    (next : PqDb) (accepted : Accepted setting val) (here : raw state.db param setting = some old)
    (done : store state.db param setting (newWord device state param setting old val) = some next) :
    (factorySet device state param setting val).map Prod.snd =
      some ⟨next, state.sent ++ asked setting old ++
        ordered (sentAddr setting) setting (newWord device state param setting old val)⟩ := by
  cases setting with
  | cti type =>
      have same := Option.some.inj here
      have done := Option.some.inj done
      obtain ⟨word, command⟩ := cti_word device state param type old val accepted
      have inside : ¬outOfRange val (ctiMax type) := accepted
      simp only [factorySet, factorySetCtiParams, if_neg inside, Option.map_some, same, word, State.send, done, asked,
        List.append_nil, sentAddr, ← command]
  | decodeLuma type =>
      have same := Option.some.inj here
      have done := Option.some.inj done
      have inside : ¬outOfRange val (lumaMax type) := accepted
      subst same
      simp only [factorySet, factorySetDecodeLumaParams, if_neg inside, Option.map_some, luma_word device, State.send,
        done, asked, List.append_nil, sentAddr, ordered, regAddr]
  | sharpness timing type =>
      have inside : ¬outOfRange val (sharpnessMax type) := accepted
      have word : sharpnessWord type (taken device state.sent (.sharpness timing type) old) val =
          newWord device state param (.sharpness timing type) old val :=
        (sharpness_word type _ val).trans (BitVec.or_zero).symm
      simp only [store] at done
      simp only [factorySet, factorySetSharpnessParams, if_neg inside, Option.bind_eq_bind, Option.bind_some,
        sharpness_register device state param timing type old here, word, State.send, done, Option.map_some]
      rfl
  | blackExt =>
      have word : clear old blackextSlope.reverse ||| val <<< 16 = newWord device state param .blackExt old val :=
        (black_ext_word old val).trans (BitVec.or_zero).symm
      have start : gather old 24 blackextStart = startField.get (newWord device state param .blackExt old val) := by
        rw [← word, black_ext_word, black_ext_start]
        exact (Field.get_put_apart slopeField startField (.inl (by decide)) old val
          (accepted_holds .blackExt val accepted)).symm
      have got : slopeField.get (newWord device state param .blackExt old val) = val :=
        new_word_get device state param .blackExt old val accepted
      have here : pqGetBeParams state.db param vppBlackextCtrl = some old := here
      have done := Option.some.inj done
      simp only [factorySet, factorySetBlackExtRegParams, here, Option.bind_eq_bind, Option.bind_some, word, start,
        Option.map_some, State.send, done, asked, ordered, got, List.append_nil, List.append_assoc, List.cons_append,
        List.nil_append]

-- The sharpness of the HD timing is stored at its own address and sent to that of the SD one.
def Misdirected : Setting → Prop
  | .sharpness .hd _ => True
  | _ => False

-- The getter goes to the hardware.
def FallsBack (db : PqDb) (param : SourceInputParam) (setting : Setting) : Prop :=
  match setting with
  | .sharpness _ _ => raw db param setting = some 0
  | _ => False

def Settled (db : PqDb) (param : SourceInputParam) (setting other : Setting) : Prop :=
  Misdirected setting → ¬FallsBack db param other

theorem ordered_writes (setting : Setting) (old word : Word) (directed : ¬Misdirected setting) (command : Command)
    (member : command ∈ asked setting old ++ ordered (sentAddr setting) setting word) (addr : Nat)
    (writes : command.Writes addr) : regAddr setting = addr := by
  rcases List.mem_append.mp member with ask | order
  · cases setting with
    | cti type => cases ask
    | decodeLuma type => cases ask
    | sharpness timing type =>
        simp only [asked] at ask
        split at ask
        · rw [List.mem_singleton.mp ask] at writes
          exact writes.elim
        · cases ask
    | blackExt => cases ask
  · cases setting with
    | cti type =>
        cases type <;> simp only [ordered, List.mem_singleton] at order <;> subst order <;>
          first | exact writes.elim | exact writes
    | decodeLuma type =>
        rw [List.mem_singleton.mp order] at writes
        exact writes.elim
    | sharpness timing type =>
        rw [List.mem_singleton.mp order] at writes
        cases timing with
        | sd => exact writes
        | hd => exact (directed trivial).elim
    | blackExt =>
        simp only [ordered, List.mem_cons, List.not_mem_nil, or_false] at order
        rcases order with rfl | rfl | rfl <;> exact Eq.symm writes

theorem same_address (setting : Setting) (timing : Timing) (type : SharpnessParamType)
    (same : regAddr setting = regAddr (.sharpness timing type)) : SameRow setting (.sharpness timing type) := by
  have families : family setting = family (.sharpness timing type) := by
    rw [← address_family, ← address_family, same]
  cases setting with
  | cti another => cases families
  | decodeLuma another => cases families
  | sharpness otherTiming another => exact sharpness_row otherTiming timing another type same
  | blackExt => cases families

theorem asks_kept (device : Device) (registers : Registers device) (sent : List Command) (asks addr : Nat) :
    device (sent ++ [.r asks]) addr = device sent addr :=
  registers.kept sent (.r asks) addr id

-- Another register keeps its value.
theorem taken_other (device : Device) (registers : Registers device) (sent : List Command) (setting other : Setting)
    (old word its : Word) (apart : ¬SameRow setting other) (fresh : Misdirected setting → its ≠ 0) :
    taken device (sent ++ asked setting old ++ ordered (sentAddr setting) setting word) other its =
      taken device sent other its := by
  cases other with
  | cti type => rfl
  | decodeLuma type => rfl
  | sharpness timing type =>
      simp only [taken, readBack]
      by_cases zero : its = 0
      · have directed : ¬Misdirected setting := fun misdirected => fresh misdirected zero
        have away : ∀ command ∈ asked setting old ++ ordered (sentAddr setting) setting word,
            ¬command.Writes (matchSharpnessRegAddr type timing) := fun command member writes =>
          apart (same_address setting timing type (ordered_writes setting old word directed command member _ writes))
        rw [if_pos zero, if_pos zero, asks_kept device registers, asks_kept device registers, List.append_assoc]
        exact device_kept device registers sent _ _ away
      · rw [if_neg zero, if_neg zero]
  | blackExt => rfl

-- The register that was just written reads back as the word.
theorem taken_written (device : Device) (registers : Registers device) (sent : List Command) (timing : Timing)
    (type another : SharpnessParamType) (word : Word) (group : type.group = another.group)
    (fresh : timing = .hd → word ≠ 0) :
    taken device (sent ++ ordered (sentAddr (.sharpness timing type)) (.sharpness timing type) word)
      (.sharpness timing another) word = word := by
  simp only [taken, readBack]
  by_cases zero : word = 0
  · rw [if_pos zero, asks_kept device registers]
    cases timing with
    | sd =>
        have addr : sentAddr (.sharpness .sd type) = matchSharpnessRegAddr another .sd := by
          simp only [sentAddr, matchSharpnessRegAddr, group]
        rw [addr]
        exact registers.written sent _ word
    | hd => exact absurd zero (fresh rfl)
  · rw [if_neg zero]

theorem sharpness_apart (type other : SharpnessParamType) (different : other ≠ type) (group : type.group = other.group) :
    (sharpnessField type).Apart (sharpnessField other) := by
  rw [Field.Apart]
  cases type <;> cases other <;> first | exact absurd rfl different | decide | cases group

theorem own_value (device : Device) (registers : Registers device) (sent : List Command) (db : PqDb)
    (param : SourceInputParam) (setting : Setting) (word val : Word) (got : (field setting).get word = val)
    (there : raw db param setting = some word) (settled : Settled db param setting setting) :
    factoryGet device ⟨db, sent ++ ordered (sentAddr setting) setting word⟩ param setting = some val := by
  rw [get_raw, there, Option.map_some]
  cases setting with
  | cti type => exact congrArg some got
  | decodeLuma type => exact congrArg some got
  | sharpness timing type =>
      have fresh : timing = .hd → word ≠ 0 := by
        intro hd zero
        subst hd
        exact settled trivial (there.trans (congrArg some zero))
      rw [taken_written device registers sent timing type type word rfl fresh, got]
  | blackExt => exact congrArg some got

-- Another field of the word just written.
theorem shared_value (device : Device) (registers : Registers device) (state : State) (sent : List Command) (db : PqDb)
    (param : SourceInputParam) (timing : Timing) (type another : SharpnessParamType) (old val : Word)
    (accepted : Accepted (.sharpness timing type) val) (different : another ≠ type) (group : type.group = another.group)
    (here : raw state.db param (.sharpness timing type) = some old)
    (there : raw db param (.sharpness timing type) =
      some (newWord device state param (.sharpness timing type) old val))
    (settled : Settled db param (.sharpness timing type) (.sharpness timing another)) :
    factoryGet device ⟨db, sent ++ ordered (sentAddr (.sharpness timing type)) (.sharpness timing type)
        (newWord device state param (.sharpness timing type) old val)⟩ param (.sharpness timing another) =
      factoryGet device state param (.sharpness timing another) := by
  have addr : matchSharpnessRegAddr another timing = matchSharpnessRegAddr type timing := by
    cases timing <;> simp only [matchSharpnessRegAddr, group]
  have shared (db : PqDb) : raw db param (.sharpness timing another) = raw db param (.sharpness timing type) := by
    simp only [raw, addr]
  have fresh : timing = .hd → newWord device state param (.sharpness timing type) old val ≠ 0 := by
    intro hd zero
    subst hd
    exact settled trivial ((shared db).trans (there.trans (congrArg some zero)))
  have before : taken device state.sent (.sharpness timing another) old =
      taken device state.sent (.sharpness timing type) old := by
    simp only [taken, addr]
  rw [get_raw, get_raw, shared, shared, here, there, Option.map_some, Option.map_some,
    taken_written device registers sent timing type another _ group fresh, before]
  refine congrArg some ((congrArg _ BitVec.or_zero).trans ?_)
  exact Field.get_put_apart _ _ (sharpness_apart type another different group) _ val
    (accepted_holds (.sharpness timing type) val accepted)

theorem unshared_value (device : Device) (registers : Registers device) (state : State) (db : PqDb)
    (param : SourceInputParam) (setting other : Setting) (old word : Word)
    (same : raw db param other = raw state.db param other) (apart : ¬SameRow setting other)
    (settled : Settled db param setting other) :
    factoryGet device ⟨db, state.sent ++ asked setting old ++ ordered (sentAddr setting) setting word⟩ param other =
      factoryGet device state param other := by
  rw [get_raw, get_raw, same]
  cases its : raw state.db param other with
  | none => rfl
  | some value =>
      rw [Option.map_some, Option.map_some]
      refine congrArg (fun word => some ((field other).get word)) ?_
      cases other with
      | sharpness timing type =>
          have fresh : Misdirected setting → value ≠ 0 := fun misdirected zero =>
            settled misdirected (same.trans (its.trans (congrArg some zero)))
          exact taken_other device registers state.sent setting _ old word value apart fresh
      | cti type => rfl
      | decodeLuma type => rfl
      | blackExt => rfl

theorem other_value (device : Device) (registers : Registers device) (state : State) (db : PqDb)
    (param : SourceInputParam) (setting other : Setting) (old val : Word) (accepted : Accepted setting val)
    (different : other ≠ setting) (here : raw state.db param setting = some old)
    (done : store state.db param setting (newWord device state param setting old val) = some db)
    (there : raw db param setting = some (newWord device state param setting old val))
    (settled : Settled db param setting other) :
    factoryGet device ⟨db, state.sent ++ asked setting old ++
        ordered (sentAddr setting) setting (newWord device state param setting old val)⟩ param other =
      factoryGet device state param other := by
  by_cases same : SameRow setting other
  · cases setting with
    | sharpness timing type =>
        cases other with
        | sharpness otherTiming another =>
            obtain ⟨timings, group⟩ := same
            subst timings
            have names : another ≠ type := fun equal => different (congrArg (Setting.sharpness timing) equal)
            exact shared_value device registers state _ db param timing type another old val accepted names group here
              there settled
        | cti another => exact same.elim
        | decodeLuma another => exact same.elim
        | blackExt => exact same.elim
    | cti type => exact same.elim
    | decodeLuma type => exact same.elim
    | blackExt => exact same.elim
  · have unchanged := store_frame state.db db param setting other _ done different same
    exact unshared_value device registers state db param setting other old _ unchanged same settled

theorem sent_directed (setting : Setting) (directed : ¬Misdirected setting) : sentAddr setting = regAddr setting := by
  cases setting with
  | cti type => rfl
  | decodeLuma type => rfl
  | sharpness timing type =>
      cases timing with
      | sd => rfl
      | hd => exact (directed trivial).elim
  | blackExt => rfl

theorem factory_set_fields (device : Device) (registers : Registers device) (state : State) (param : SourceInputParam)
    (setting : Setting) (old val : Word) (accepted : Accepted setting val)
    (present : stored state.db param setting = some old) :
    ∃ next word, (factorySet device state param setting val).map Prod.snd = some next ∧
      stored next.db param setting = some word ∧
      (Settled next.db param setting setting → factoryGet device next param setting = some val) ∧
      (∀ other, other ≠ setting → Settled next.db param setting other →
        factoryGet device next param other = factoryGet device state param other) ∧
      (∀ i, i < 32 → ¬(field setting).Has i →
        word.getLsbD i = ((base device state.sent setting old).getLsbD i || (marks state.db param setting).getLsbD i)) ∧
      ∃ addr, next.sent = state.sent ++ asked setting old ++ ordered addr setting word ∧
        (¬Misdirected setting → addr = regAddr setting) := by
  have here := stored_raw state.db param setting old present
  obtain ⟨db, done, kept⟩ :=
    store_stored state.db param setting old (newWord device state param setting old val) present
  have set := set_raw device state param setting old val db accepted here done
  have there := stored_raw db param setting _ kept
  have got := new_word_get device state param setting old val accepted
  refine ⟨_, _, set, kept, ?_, ?_, ?_, sentAddr setting, rfl, sent_directed setting⟩
  · exact own_value device registers _ db param setting _ val got there
  · intro other different settled
    exact other_value device registers state db param setting other old val accepted different here done there settled
  · exact new_word_bit device state param setting old val accepted

def effect (addr : Nat) (value : Word) : Command → Word
  | .wv _ _ => value
  | .bw written bits start length =>
      if written = addr then value &&& ~~~(BitVec.ofNat 32 (2 ^ length - 1) <<< start) ||| bits <<< start else value
  | .w written word => if written = addr then word else value
  | .r _ => value
  | .blkExtEn => value
  | .blkStart start => if addr = vppBlackextCtrl then startField.put value start else value
  | .blkSlope slope => if addr = vppBlackextCtrl then slopeField.put value slope else value

def plain : Device := fun sent addr => sent.foldl (effect addr) 0

theorem plain_registers : Registers plain := by
  constructor
  · intro sent addr word
    simp [plain, effect]
  · intro sent command addr away
    rw [plain, plain, List.foldl_append, List.foldl_cons, List.foldl_nil]
    cases command with
    | wv word written => rfl
    | bw written bits start length => exact if_neg away
    | w written word => exact if_neg away
    | r asks => rfl
    | blkExtEn => rfl
    | blkStart start => exact if_neg away
    | blkSlope slope => exact if_neg away

def hdmiSd : SourceInputParam := ⟨.hdmi1, tvinSigFmtHdmi1920x1080p60hz, 0⟩

def cvd2Table : TableName := ascii ['C', 'V', 'D', '2']
def blackBlueTable : TableName := ascii ['B', 'l', 'u', 'e']
def fixedTable : TableName := timed .sd ['_', 'H', 'D', 'M', 'I', '_', 'S', 'D'] []

def factoryDb : PqDb where
  rows name :=
    if name = fixedTable then
      [⟨⟨1, 0x322f, 0x00ff0000⟩, 0x00ff00ff⟩, ⟨⟨1, 0x3213, 0xffffffff⟩, 0x12345678⟩, ⟨⟨1, 0x320f, 0xffffffff⟩, 0⟩]
    else if name = cvd2Table then [⟨⟨0, 0x157, 0x1ff⟩, 0x00ff0000⟩, ⟨⟨0, 0x157, 0x3ff0000⟩, 0x03000000⟩]
    else if name = blackBlueTable then [⟨⟨0, 0x1d80, 0xffffffff⟩, 0⟩]
    else []
  generalCvd2 _ := cvd2Table
  generalBlackBlue _ := blackBlueTable
  generalSharpnessG9 _ := [fixedTable]
  generalCommon _ := [fixedTable]

theorem sharpness_gain_set :
    ∃ next, (factorySet plain ⟨factoryDb, []⟩ hdmiSd (.sharpness .sd .hGainHigh) 9).map Prod.snd = some next ∧
      factoryGet plain next hdmiSd (.sharpness .sd .hGainHigh) = some 9 := by
  obtain ⟨next, word, set, kept, own, others, bits, sent⟩ := factory_set_fields plain plain_registers ⟨factoryDb, []⟩
    hdmiSd (.sharpness .sd .hGainHigh) 0x12345678 9 (by decide) (by decide +kernel)
  exact ⟨next, set, own fun misdirected => misdirected.elim⟩

-- A gain clears the rest of its word, and goes out as bits; a brightness sets bits 15 and 31 and
-- adds the contrast of the other row to the one in its own; a sharpness that has no word takes
-- the register's; and a black extension goes out as commands.
theorem rest_of_word_changed :
    stored factoryDb hdmiSd (.cti .sr0CtiGain1) = some 0x00ff00ff ∧
    ((factorySet plain ⟨factoryDb, []⟩ hdmiSd (.cti .sr0CtiGain1) 1).bind fun done =>
      stored done.2.db hdmiSd (.cti .sr0CtiGain1)) = some 0x00010000 ∧
    (factorySet plain ⟨factoryDb, []⟩ hdmiSd (.cti .sr0CtiGain1) 1).map (fun done => done.2.sent) =
      some [.bw 0x322f 1 16 8] ∧
    stored factoryDb hdmiSd (.decodeLuma .brightness) = some 0x00ff0000 ∧
    stored factoryDb hdmiSd (.decodeLuma .contrast) = some 0x03000000 ∧
    ((factorySet plain ⟨factoryDb, []⟩ hdmiSd (.decodeLuma .brightness) 3).bind fun done =>
      stored done.2.db hdmiSd (.decodeLuma .brightness)) = some 0x83ff8003 ∧
    stored factoryDb hdmiSd (.sharpness .sd .hpDiagCore) = some 0 ∧
    ((factorySet plain ⟨factoryDb, [.w 0x320f 0x1000]⟩ hdmiSd (.sharpness .sd .hpDiagCore) 7).bind fun done =>
      stored done.2.db hdmiSd (.sharpness .sd .hpDiagCore)) = some 0x1007 ∧
    (factorySet plain ⟨factoryDb, []⟩ hdmiSd .blackExt 5).map (fun done => done.2.sent) =
      some [.blkExtEn, .blkStart 0, .blkSlope 5] := by
  decide +kernel

end Droidlogic.Pq.Factory
