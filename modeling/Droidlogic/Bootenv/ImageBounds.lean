import Droidlogic.Lib.Lines
import Droidlogic.Bootenv.Durability

set_option autoImplicit false

namespace Droidlogic.Bootenv.ImageBounds

open Droidlogic.Lib

-- What sprintf returns for "%s=%s".
def printed (key value : CStr) : Nat := key.bytes.length + 1 + value.bytes.length

-- The sizes of the variables once one of them has been set.
def sizes (key value : CStr) : List EnvAttribute → List Nat
  | [] => [printed key value]
  | attr :: next =>
      if key = attr.key.str then printed key value :: next.map (·.text.length)
      else attr.text.length :: sizes key value next

-- The bytes that variables of these sizes take: one below three is printed over by the next.
def taken : List Nat → Nat
  | [] => 0
  | [last] => last + 1
  | size :: following :: rest => if size < 3 then taken (following :: rest) else size + 1 + taken (following :: rest)

theorem taken_cons (size : Nat) (sizes : List Nat) (more : sizes ≠ []) :
    taken (size :: sizes) = if size < 3 then taken sizes else size + 1 + taken sizes := by
  cases sizes with
  | nil => exact absurd rfl more
  | cons following rest => rw [taken]

theorem stored_size (attrs : List EnvAttribute) : (block (stored attrs)).length = taken (attrs.map (·.text.length)) := by
  induction attrs with
  | nil => rfl
  | cons attr next ih =>
      cases next with
      | nil => simp [stored, block, taken]
      | cons following rest =>
          rw [List.map_cons, taken_cons _ _ (by simp), ← ih, stored]
          split
          · rfl
          · simp [block]
            omega

theorem set_sizes (key value : CStr) (attrs next : List EnvAttribute) (code : Nat)
    (changed : setAttribute key value true attrs = some (code, next)) :
    next.map (·.text.length) = sizes key value attrs := by
  have written := set_attribute_written key value attrs next code changed
  clear changed
  induction written with
  | created attr named holds => simp [sizes, printed, text_length, named, holds]
  | replaced attr newValue next here holds => rw [sizes, if_pos here, List.map_cons, text_length, holds, printed, here]
  | kept attr rest next other _ ih => rw [sizes, if_neg other, List.map_cons, ih]

theorem taken_two (attr : EnvAttribute) (next : List EnvAttribute) : 2 ≤ taken ((attr :: next).map (·.text.length)) := by
  induction next generalizing attr with
  | nil =>
      have size := text_length attr
      simp only [List.map_cons, List.map_nil, taken]
      omega
  | cons following rest ih =>
      rw [List.map_cons, taken_cons _ _ (by simp)]
      have later := ih following
      split <;> omega

theorem format_loop_fits (data : Bytes) (offset : Nat) (attrs : List EnvAttribute)
    (room : offset + taken (attrs.map (·.text.length)) < data.length) :
    ∃ result, formatLoop data offset attrs = some result := by
  induction attrs generalizing data offset with
  | nil => exact ⟨data, rfl⟩
  | cons attr next ih =>
      have inside : offset + (attr.text ++ [0]).length ≤ data.length := by
        rw [List.length_append, List.length_singleton]
        cases next with
        | nil =>
            simp only [List.map_cons, List.map_nil, taken] at room
            omega
        | cons following rest =>
            have least := taken_two following rest
            rw [List.map_cons, taken_cons _ _ (by simp)] at room
            split at room <;> omega
      have written : overwrite data offset (attr.text ++ [0]) ≠ none := by
        rw [ne_eq, overwrite_none_iff]
        omega
      obtain ⟨printed, same⟩ := Option.ne_none_iff_exists'.mp written
      have length := overwrite_length data _ printed offset same
      simp only [formatLoop, same]
      apply ih
      rw [length]
      cases next with
      | nil =>
          simp only [List.map_cons, List.map_nil, taken] at room ⊢
          split <;> omega
      | cons following rest =>
          rw [List.map_cons, taken_cons _ _ (by simp)] at room
          split at room <;> rename_i short
          · rw [if_pos short]
            exact room
          · rw [if_neg short]
            omega

theorem terminated_block (attrs : List EnvAttribute) (behind : Bytes) :
    terminated 0 (block attrs ++ behind) = attrs.map EnvAttribute.text ++ terminated 0 behind := by
  induction attrs with
  | nil => rfl
  | cons attr next ih =>
      have front : block (attr :: next) ++ behind = attr.text ++ 0 :: (block next ++ behind) := by simp [block]
      rw [front, terminated_cut 0 _ _ _ (cut_at 0 _ _ (text_no_nul attr)), ih]
      rfl

-- The formatted data has an empty entry behind the variables where these leave room for it.
theorem format_closed_iff (size : Nat) (attrs : List EnvAttribute) (data : Bytes) (some_attr : attrs ≠ [])
    (formatted : formatAttribute size attrs = some data) :
    [] ∈ terminated 0 data ↔ taken (attrs.map (·.text.length)) < size := by
  obtain ⟨left, rfl⟩ := format_shape size attrs data some_attr formatted
  have length := format_length _ _ _ formatted
  rw [List.length_append, List.length_replicate, stored_size] at length
  rw [terminated_block, List.mem_append]
  have full : [] ∉ (stored attrs).map EnvAttribute.text := by
    intro member
    obtain ⟨attr, _, empty⟩ := List.mem_map.mp member
    have size := text_length attr
    rw [empty, List.length_nil] at size
    omega
  cases left with
  | zero => exact iff_of_false (fun member => member.elim full List.not_mem_nil) (by omega)
  | succ left =>
      rw [List.replicate_succ, terminated, if_pos rfl]
      exact iff_of_true (Or.inr List.mem_cons_self) (by omega)

structure Update (device : EnvDevice) where
  name : CStr
  value : CStr
  outcomes : Nat → SaveOutcome device

section
variable {device : EnvDevice} (crc32 : Bytes → UInt32)

def step (board : Board device) (update : Update device) : Option (Board device) :=
  (updateValue crc32 board update.name update.value update.outcomes).map Prod.snd

def Closed (board : Board device) : Prop := ∃ image ∈ board.env.mEnvData, [] ∈ terminated 0 image.data

-- Every copy stays in its array and every print in the data, which then ends with an empty entry.
structure Bounded (board : Board device) (update : Update device) : Prop where
  inside : ∃ next, step crc32 board update = some next
  closed : ReachesSave board.env update.name update.value → ∀ next, step crc32 board update = some next → Closed next

def Fits (board : Board device) (update : Update device) : Prop :=
  ReachesSave board.env update.name update.value → ∀ key ∈ envNameOf update.name,
    update.value.bytes.length < 1024 ∧
    (lookup key board.env.attributes = none → key.bytes.length < 256) ∧
    taken (sizes key update.value board.env.attributes) < mEnvSize device

structure Live (board : Board device) : Prop where
  done : board.env.mEnvInitDone = true
  image : ∃ image, board.env.mEnvData = some image
  attributes : board.env.attributes ≠ []

-- The image that save() leaves holds the formatted variables, whether it was written or not.
structure Formatted (board next : Board device) (data : Bytes) : Prop where
  attributes : next.env.attributes = board.env.attributes
  done : next.env.mEnvInitDone = board.env.mEnvInitDone
  image : ∃ image, next.env.mEnvData = some image ∧ image.data = data

theorem save_formatted (board : Board device) (outcome : SaveOutcome device) (image : EnvImage device) (data : Bytes)
    (live : board.env.mEnvData = some image) (formatted : formatAttribute (mEnvSize device) board.env.attributes = some data) :
    ∃ code next, save crc32 board outcome = some (code, next) ∧ Formatted board next data := by
  simp only [save, live]
  split
  · rename_i absent
    cases absent.symm.trans formatted
  · rename_i other same
    cases Option.some.inj (same.symm.trans formatted)
    cases outcome with
    | openFailed => exact ⟨_, _, rfl, rfl, rfl, _, rfl, rfl⟩
    | writeFailed left => exact ⟨_, _, rfl, rfl, rfl, _, rfl, rfl⟩
    | stored => exact ⟨_, _, rfl, rfl, rfl, _, rfl, rfl⟩

theorem save_overflow (board : Board device) (outcome : SaveOutcome device)
    (overflow : formatAttribute (mEnvSize device) board.env.attributes = none) : save crc32 board outcome = none := by
  rw [save]
  split
  · rfl
  · split
    · rfl
    · rename_i data same
      cases same.symm.trans overflow

theorem save_retry_formatted (outcomes : Nat → SaveOutcome device) (left : Nat) (ret : Int) (board : Board device)
    (image : EnvImage device) (live : board.env.mEnvData = some image)
    (formatted : formatAttribute (mEnvSize device) board.env.attributes = some image.data) :
    ∃ code next, saveRetry crc32 outcomes left ret board = some (code, next) ∧ Formatted board next image.data := by
  induction left generalizing ret board image with
  | zero => exact ⟨ret, board, rfl, rfl, rfl, image, live, rfl⟩
  | succ left ih =>
      rw [saveRetry]
      split
      · obtain ⟨code, middle, saved, ⟨attributes, done, fresh, liveNext, same⟩⟩ :=
          save_formatted crc32 board (outcomes (maxUbootRwretry - (left + 1))) image image.data live formatted
        obtain ⟨final, next, finished, ⟨attributesNext, doneNext, kept⟩⟩ :=
          ih code middle fresh liveNext (by rw [attributes, formatted, same])
        simp only [saved]
        exact ⟨final, next, finished, attributesNext.trans attributes, doneNext.trans done, same ▸ kept⟩
      · exact ⟨ret, board, rfl, rfl, rfl, image, live, rfl⟩

theorem save_loop_formatted (outcomes : Nat → SaveOutcome device) (board : Board device) (image : EnvImage device)
    (data : Bytes) (live : board.env.mEnvData = some image)
    (formatted : formatAttribute (mEnvSize device) board.env.attributes = some data) :
    ∃ code next, saveRetry crc32 outcomes maxUbootRwretry (-1) board = some (code, next) ∧ Formatted board next data := by
  obtain ⟨code, middle, saved, ⟨attributes, done, fresh, liveNext, same⟩⟩ :=
    save_formatted crc32 board (outcomes 0) image data live formatted
  obtain ⟨final, next, finished, ⟨attributesNext, doneNext, kept⟩⟩ :=
    save_retry_formatted crc32 outcomes 4 code middle fresh liveNext (by rw [attributes, formatted, same])
  refine ⟨final, next, ?_, attributesNext.trans attributes, doneNext.trans done, same ▸ kept⟩
  rw [maxUbootRwretry, saveRetry, if_pos (by decide)]
  simp only [maxUbootRwretry, Nat.sub_self, saved]
  exact finished

theorem save_loop_overflow (outcomes : Nat → SaveOutcome device) (board : Board device)
    (overflow : formatAttribute (mEnvSize device) board.env.attributes = none) :
    saveRetry crc32 outcomes maxUbootRwretry (-1) board = none := by
  rw [maxUbootRwretry, saveRetry, if_pos (by decide), save_overflow crc32 board _ overflow]

theorem update_saving (board : Board device) (update : Update device) (key : CStr) (done : board.env.mEnvInitDone = true)
    (named : envNameOf update.name = some key) (different : update.value ≠ (get board.env key).getD .empty) :
    step crc32 board update = (setAttribute key update.value true board.env.attributes).bind fun result =>
      (saveRetry crc32 update.outcomes maxUbootRwretry (-1)
        ⟨{ board.env with attributes := result.2 }, board.flash⟩).map Prod.snd := by
  rw [step, updateValue, if_neg (by simp [done]), named]
  simp only [if_neg different]
  cases setAttribute key update.value true board.env.attributes with
  | none => rfl
  | some result => rfl

theorem update_quiet (board : Board device) (update : Update device) (done : board.env.mEnvInitDone = true)
    (quiet : ¬ReachesSave board.env update.name update.value) : step crc32 board update = some board := by
  rw [step, updateValue, if_neg (by simp [done])]
  cases named : envNameOf update.name with
  | none => rfl
  | some key =>
      have same : update.value = (get board.env key).getD .empty := by
        by_contra different
        exact quiet ⟨done, key, named, different⟩
      simp only [if_pos same, Option.map_some]

theorem update_kept (board next : Board device) (update : Update device) (live : Live board)
    (stepped : step crc32 board update = some next) : Live next := by
  by_cases reaches : ReachesSave board.env update.name update.value
  · obtain ⟨done, key, named, different⟩ := reaches
    rw [update_saving crc32 board update key done named different, Option.bind_eq_some_iff] at stepped
    obtain ⟨⟨code, attrs⟩, changed, saved⟩ := stepped
    obtain ⟨image, some_image⟩ := live.image
    cases formatted : formatAttribute (mEnvSize device) attrs with
    | none =>
        rw [save_loop_overflow crc32 update.outcomes _ formatted] at saved
        cases saved
    | some data =>
        obtain ⟨ret, result, finished, same⟩ := save_loop_formatted crc32 update.outcomes
          ⟨{ board.env with attributes := attrs }, board.flash⟩ image data some_image formatted
        rw [finished] at saved
        cases Option.some.inj saved
        obtain ⟨fresh, held, _⟩ := same.image
        exact ⟨same.done.trans done, ⟨fresh, held⟩, same.attributes ▸ set_attribute_ne_nil key _ _ attrs code changed⟩
  · rw [update_quiet crc32 board update live.done reaches] at stepped
    exact Option.some.inj stepped ▸ live

theorem saved_closed_iff (board : Board device) (outcomes : Nat → SaveOutcome device) (attrs : List EnvAttribute)
    (some_image : ∃ image, board.env.mEnvData = some image) (some_attr : attrs ≠ []) :
    (∃ next, (saveRetry crc32 outcomes maxUbootRwretry (-1) ⟨{ board.env with attributes := attrs }, board.flash⟩).map
        Prod.snd = some next ∧ Closed next) ↔
      taken (attrs.map (·.text.length)) < mEnvSize device := by
  obtain ⟨image, live⟩ := some_image
  cases formatted : formatAttribute (mEnvSize device) attrs with
  | none =>
      refine iff_of_false ?_ fun room => ?_
      · rintro ⟨next, saved, _⟩
        rw [save_loop_overflow crc32 outcomes _ formatted] at saved
        cases saved
      · obtain ⟨data, printed⟩ := format_loop_fits (List.replicate (mEnvSize device) 0) 0 attrs
          (by rw [Nat.zero_add, List.length_replicate]; exact room)
        cases formatted.symm.trans printed
  | some data =>
      obtain ⟨ret, next, finished, same⟩ := save_loop_formatted crc32 outcomes
        ⟨{ board.env with attributes := attrs }, board.flash⟩ image data live formatted
      obtain ⟨fresh, held, contents⟩ := same.image
      rw [finished, Option.map_some, ← format_closed_iff (mEnvSize device) attrs data some_attr formatted]
      constructor
      · rintro ⟨other, saved, kept, member, empty⟩
        cases Option.some.inj saved
        cases Option.some.inj (held.symm.trans member)
        exact contents ▸ empty
      · intro empty
        exact ⟨next, rfl, fresh, held, contents ▸ empty⟩

theorem bounded_saving (board : Board device) (update : Update device)
    (reaches : ReachesSave board.env update.name update.value) :
    Bounded crc32 board update ↔ ∃ next, step crc32 board update = some next ∧ Closed next := by
  constructor
  · intro bounded
    obtain ⟨next, stepped⟩ := bounded.inside
    exact ⟨next, stepped, bounded.closed reaches next stepped⟩
  · rintro ⟨next, stepped, closed⟩
    refine ⟨⟨next, stepped⟩, fun _ other steppedToo => ?_⟩
    cases Option.some.inj (stepped.symm.trans steppedToo)
    exact closed

theorem update_bounded_iff (board : Board device) (update : Update device) (live : Live board) :
    Bounded crc32 board update ↔ Fits board update := by
  by_cases reaches : ReachesSave board.env update.name update.value
  · obtain ⟨key, named, different⟩ := reaches.2
    have fits : Fits board update ↔ update.value.bytes.length < 1024 ∧
        (lookup key board.env.attributes = none → key.bytes.length < 256) ∧
        taken (sizes key update.value board.env.attributes) < mEnvSize device := by
      constructor
      · exact fun fits => fits reaches key named
      · intro fits _ other namedOther
        exact Option.some.inj (named.symm.trans namedOther) ▸ fits
    rw [fits, bounded_saving crc32 board update reaches, update_saving crc32 board update key live.done named different]
    cases changed : setAttribute key update.value true board.env.attributes with
    | none =>
        refine iff_of_false ?_ ?_
        · rintro ⟨next, stepped, _⟩
          cases stepped
        · rintro ⟨valueFits, keyFits, _⟩
          rcases (set_attribute_none_iff key _ _).mp changed with long | ⟨absent, long⟩
          · omega
          · exact absurd (keyFits absent) (by omega)
    | some result =>
        obtain ⟨code, attrs⟩ := result
        obtain ⟨valueFits, keyFits⟩ := set_attribute_fits key _ _ (code, attrs) changed
        rw [Option.bind_some, saved_closed_iff crc32 board update.outcomes attrs live.image
          (set_attribute_ne_nil key _ _ attrs code changed), set_sizes key _ _ attrs code changed]
        exact ⟨fun room => ⟨valueFits, keyFits, room⟩, fun fits => fits.2.2⟩
  · refine iff_of_true ⟨⟨board, update_quiet crc32 board update live.done reaches⟩, ?_⟩ ?_
    · exact fun saving => absurd saving reaches
    · exact fun saving => absurd saving reaches

end

def EntryFits (entry : Bytes) : Prop :=
  ∀ key value, cut 0x3D entry = some (key, value) → key.length < 256 ∧ value.length < 1024

-- The entries end with an empty one, and the keys and values in front of it fit their arrays.
def Ended (entries : List Bytes) : Prop :=
  ∃ first rest more, entries = first :: rest ++ [] :: more ∧ [] ∉ rest ∧ ∀ entry ∈ first :: rest, EntryFits entry

def Loadable (data : Bytes) : Prop := Ended (terminated 0 data)

theorem parse_entry_iff (entry : Bytes) (noNul : 0 ∉ entry) : (∃ attr, parseEntry entry = some attr) ↔ EntryFits entry := by
  cases found : cut 0x3D entry with
  | none =>
      refine iff_of_true ⟨.cleared, by rw [parseEntry, found]⟩ ?_
      rintro key value same
      cases found.symm.trans same
  | some pair =>
      obtain ⟨key, value⟩ := pair
      have whole := (cut_some 0x3D entry key value found).1
      have keyRead := CStr.read_bytes key fun member => noNul (whole ▸ List.mem_append_left _ member)
      have valueRead := CStr.read_bytes value fun member =>
        noNul (whole ▸ List.mem_append_right _ (List.mem_cons_of_mem _ member))
      constructor
      · rintro ⟨attr, parsed⟩ otherKey otherValue same
        cases Option.some.inj (found.symm.trans same)
        simp only [parseEntry, found, Option.bind_eq_bind, Option.bind_eq_some_iff] at parsed
        obtain ⟨keyCopy, keyEq, valueCopy, valueEq, _⟩ := parsed
        have keyFits := keyCopy.fits
        have valueFits := valueCopy.fits
        rw [strcpy_eq_some _ _ _ keyEq, keyRead] at keyFits
        rw [strcpy_eq_some _ _ _ valueEq, valueRead] at valueFits
        exact ⟨keyFits, valueFits⟩
      · intro fits
        obtain ⟨keyFits, valueFits⟩ := fits key value found
        rw [← keyRead] at keyFits
        rw [← valueRead] at valueFits
        exact ⟨⟨⟨.read key, keyFits⟩, ⟨.read value, valueFits⟩⟩, by
          simp [parseEntry, found, strcpy_some 256 _ keyFits, strcpy_some 1024 _ valueFits]⟩

theorem parse_open (data proc : Bytes) (noNul : 0 ∉ data) : parseLoop proc data = none := by
  have scanned := parse_scan data proc [] noNul
  rw [List.append_nil] at scanned
  exact scanned.trans rfl

theorem not_ended_one (entry : Bytes) : ¬Ended [entry] := by
  rintro ⟨first, rest, more, same, _⟩
  simp at same

theorem ended_last (entry : Bytes) (more : List Bytes) : Ended (entry :: [] :: more) ↔ EntryFits entry := by
  constructor
  · rintro ⟨first, rest, after, same, _, fits⟩
    cases (List.cons.inj same).1
    exact fits entry List.mem_cons_self
  · intro fits
    refine ⟨entry, [], more, rfl, List.not_mem_nil, fun inner member => ?_⟩
    exact List.mem_singleton.mp member ▸ fits

theorem ended_next (entry next : Bytes) (more : List Bytes) (nonempty : next ≠ []) :
    Ended (entry :: next :: more) ↔ EntryFits entry ∧ Ended (next :: more) := by
  constructor
  · rintro ⟨first, rest, after, same, inside, fits⟩
    cases (List.cons.inj same).1
    cases rest with
    | nil => exact absurd (List.cons.inj (List.cons.inj same).2).1 nonempty
    | cons second rest =>
        refine ⟨fits entry List.mem_cons_self, second, rest, after, (List.cons.inj same).2, ?_, ?_⟩
        · exact fun member => inside (List.mem_cons_of_mem _ member)
        · exact fun inner member => fits inner (List.mem_cons_of_mem _ member)
  · rintro ⟨here, first, rest, after, same, inside, fits⟩
    refine ⟨entry, first :: rest, after, congrArg _ same, ?_, ?_⟩
    · intro member
      rcases List.mem_cons.mp member with empty | later
      · exact nonempty ((List.cons.inj same).1.trans empty.symm)
      · exact inside later
    · intro inner member
      rcases List.mem_cons.mp member with rfl | later
      · exact here
      · exact fits inner later

theorem parse_unfollowed (entry : Bytes) (noNul : 0 ∉ entry) : parseAttribute (entry ++ [0]) = none := by
  rw [parseAttribute, parse_scan _ _ _ noNul, List.nil_append, parseLoop, if_neg (not_not_intro rfl)]
  cases parseEntry entry with
  | none => rfl
  | some attr => rfl

theorem parse_next_iff (entry rest : Bytes) (byte : UInt8) (noNul : 0 ∉ entry) (nonzero : byte ≠ 0) :
    (∃ attrs, parseAttribute (entry ++ 0 :: byte :: rest) = some attrs) ↔
      EntryFits entry ∧ ∃ attrs, parseAttribute (byte :: rest) = some attrs := by
  rw [parse_next entry rest byte noNul nonzero, ← parse_entry_iff entry noNul]
  constructor
  · rintro ⟨attrs, parsed⟩
    obtain ⟨attr, entered, mapped⟩ := Option.bind_eq_some_iff.mp parsed
    obtain ⟨others, parsedMore, _⟩ := Option.map_eq_some_iff.mp mapped
    exact ⟨⟨attr, entered⟩, others, parsedMore⟩
  · rintro ⟨⟨attr, entered⟩, others, parsedMore⟩
    exact ⟨attr :: others, by rw [entered, Option.bind_some, parsedMore, Option.map_some]⟩

theorem ended_tail (entry : Bytes) (byte : UInt8) (rest : Bytes) (nonzero : byte ≠ 0) :
    Ended (entry :: terminated 0 (byte :: rest)) ↔ EntryFits entry ∧ Ended (terminated 0 (byte :: rest)) := by
  cases next : terminated 0 (byte :: rest) with
  | nil => exact iff_of_false (not_ended_one entry) fun both => by simp [Ended] at both
  | cons head more =>
      have nonempty : head ≠ [] := by
        rintro rfl
        rw [terminated, if_neg nonzero] at next
        split at next
        · cases next
        · cases (List.cons.inj next).1
      exact ended_next entry head more nonempty

theorem parse_some_iff (data : Bytes) : (∃ attrs, parseAttribute data = some attrs) ↔ Loadable data := by
  induction size : data.length using Nat.strongRecOn generalizing data with
  | ind n ih =>
      rw [Loadable]
      cases found : cut 0 data with
      | none =>
          have absent := cut_none 0 data found
          rw [parseAttribute, parse_open data [] absent, (terminated_nil_iff 0 data).mpr absent]
          simp [Ended]
      | some pair =>
          obtain ⟨entry, rest⟩ := pair
          obtain ⟨whole, noNul⟩ := cut_some 0 data entry rest found
          have shorter : rest.length < n := by
            rw [← size, whole, List.length_append, List.length_cons]
            omega
          have later := ih rest.length shorter rest rfl
          rw [terminated_cut 0 data entry rest found, whole]
          cases rest with
          | nil =>
              rw [parse_unfollowed entry noNul]
              refine iff_of_false ?_ (not_ended_one entry)
              rintro ⟨attrs, parsed⟩
              cases parsed
          | cons byte rest =>
              by_cases ends : byte = 0
              · rw [ends, terminated, if_pos rfl, parse_last entry rest noNul, ended_last, ← parse_entry_iff entry noNul]
                simp
              · rw [parse_next_iff entry rest byte noNul ends, ended_tail entry byte rest ends, later, Loadable]

theorem parse_ne_nil (proc data : Bytes) (attrs : List EnvAttribute) (parsed : parseLoop proc data = some attrs) : attrs ≠ [] := by
  induction data generalizing proc with
  | nil => cases parsed
  | cons byte rest ih =>
      rw [parseLoop] at parsed
      split at parsed
      · exact ih _ parsed
      · cases entry : parseEntry proc with
        | none => simp [entry] at parsed
        | some attr =>
            cases rest with
            | nil => simp [entry] at parsed
            | cons next rest =>
                simp only [entry, List.head?_cons] at parsed
                split at parsed
                · cases Option.some.inj parsed
                  exact List.cons_ne_nil _ _
                · obtain ⟨more, _, rfl⟩ := Option.map_eq_some_iff.mp parsed
                  exact List.cons_ne_nil _ _

section
variable {device : EnvDevice} (crc32 : Bytes → UInt32)

-- A load of a valid image and any updates: every copy and print stays inside where the image and each update fit.
theorem bounds_iff (env : Ubootenv device) (flash : EnvImage device) (query : MtdQuery) (reads : Nat → ReadOutcome)
    (updates : List (Update device)) (freed : env.mEnvData = none) (answered : query.code device = 0)
    (whole : ∃ i, i + 1 < maxUbootRwretry ∧ reads i = .whole) (valid : crc32 flash.data = flash.crc) :
    (∃ loaded, init crc32 env flash query reads = some (0, loaded) ∧
        Guarded (step crc32) (Bounded crc32) ⟨loaded, flash⟩ updates) ↔
      Loadable flash.data ∧ ∀ loaded, init crc32 env flash query reads = some (0, loaded) →
        Guarded (step crc32) Fits ⟨loaded, flash⟩ updates := by
  rw [init_whole crc32 env flash query reads freed answered whole valid, ← parse_some_iff]
  cases parsed : parseAttribute flash.data with
  | none => simp
  | some attrs =>
      have live : Live (⟨⟨some flash, attrs, true⟩, flash⟩ : Board device) :=
        ⟨rfl, ⟨flash, rfl⟩, parse_ne_nil [] flash.data attrs parsed⟩
      have same := guarded_iff_kept (step crc32) Live (Bounded crc32) Fits
        (fun board update next live stepped => update_kept crc32 board next update live stepped)
        (fun board update live => update_bounded_iff crc32 board update live) _ updates live
      constructor
      · rintro ⟨loaded, ready, bounded⟩
        cases Option.some.inj ready
        refine ⟨⟨attrs, rfl⟩, fun other readyToo => ?_⟩
        cases Option.some.inj readyToo
        exact same.mp bounded
      · rintro ⟨_, fits⟩
        exact ⟨_, rfl, same.mpr (fits _ rfl)⟩

end

def smallUpdate (value : CStr) : Update smallDevice := ⟨nameAb, value, fun _ => .stored⟩

theorem small_update_bounded :
    ∃ loaded, init Crc.crc32 ⟨none, [.cleared], false⟩ smallFlash .answered (fun _ => .whole) = some (0, loaded) ∧
      Guarded (step Crc.crc32) (Bounded Crc.crc32) ⟨loaded, smallFlash⟩ [smallUpdate ⟨[0x32], by decide⟩] := by
  refine (bounds_iff Crc.crc32 ⟨none, [.cleared], false⟩ smallFlash .answered (fun _ => .whole)
    [smallUpdate ⟨[0x32], by decide⟩] rfl rfl ⟨0, by decide, rfl⟩ (by decide +kernel)).mpr ⟨?_, ?_⟩
  · exact (parse_some_iff _).mp ⟨smallBoard.env.attributes, by decide +kernel⟩
  · intro loaded ready
    refine ⟨fun _ key named => ?_, fun _ _ => trivial⟩
    have board : init Crc.crc32 ⟨none, [.cleared], false⟩ smallFlash .answered (fun _ => .whole) = some (0, smallBoard.env) := by
      decide +kernel
    cases Option.some.inj (board.symm.trans ready)
    have key_ab : envNameOf nameAb = some ⟨[0x61, 0x62], by decide⟩ := by decide +kernel
    cases Option.some.inj (key_ab.symm.trans named)
    decide +kernel

def longValue : CStr := ⟨List.replicate 1024 0x78, by decide +kernel⟩

theorem long_value_overflows :
    ¬∃ loaded, init Crc.crc32 ⟨none, [.cleared], false⟩ smallFlash .answered (fun _ => .whole) = some (0, loaded) ∧
      Guarded (step Crc.crc32) (Bounded Crc.crc32) ⟨loaded, smallFlash⟩ [smallUpdate longValue] := by
  rintro ⟨loaded, ready, bounded, _⟩
  obtain ⟨next, stepped⟩ := bounded.inside
  have overflow : (init Crc.crc32 ⟨none, [.cleared], false⟩ smallFlash .answered (fun _ => .whole)).bind
      (fun result => step Crc.crc32 ⟨result.2, smallFlash⟩ (smallUpdate longValue)) = none := by decide +kernel
  rw [ready, Option.bind_some, stepped] at overflow
  cases overflow

end Droidlogic.Bootenv.ImageBounds
