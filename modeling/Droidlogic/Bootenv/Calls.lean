import Droidlogic.Bootenv.Lookup

set_option autoImplicit false

namespace Droidlogic.Bootenv

open Droidlogic.Lib

section
variable {device : EnvDevice} (crc32 : Bytes → UInt32)

def Formats (attrs : List EnvAttribute) (image : EnvImage device) : Prop :=
  formatAttribute (mEnvSize device) attrs = some image.data ∧ crc32 image.data = image.crc

def Loaded (env : Ubootenv device) (flash : EnvImage device) : Prop :=
  crc32 flash.data = flash.crc ∧ parseAttribute flash.data = some env.attributes ∧ env.mEnvData = some flash

-- reInit() after every read has failed.
def Unloaded (env : Ubootenv device) : Prop := env.attributes = [.cleared] ∧ env.mEnvData = none

def Holds (flash : EnvImage device) (key value : CStr) : Prop :=
  crc32 flash.data = flash.crc ∧ ∃ attrs, parseAttribute flash.data = some attrs ∧ lookup key attrs = some value

theorem save_cases (board next : Board device) (outcome : SaveOutcome device) (ret : Int)
    (saved : save crc32 board outcome = some (ret, next)) :
    next.env.attributes = board.env.attributes ∧ next.env.mEnvInitDone = board.env.mEnvInitDone ∧
      ((ret = 0 ∧ Formats crc32 board.env.attributes next.flash ∧ next.env.mEnvData = some next.flash) ∨ ret < 0) := by
  cases live : board.env.mEnvData with
  | none => simp [save, live] at saved
  | some image =>
      simp only [save, live] at saved
      split at saved
      · cases saved
      · rename_i data formatted
        cases outcome with
        | openFailed =>
            cases Option.some.inj saved
            exact ⟨rfl, rfl, .inr (by decide)⟩
        | writeFailed left =>
            cases Option.some.inj saved
            exact ⟨rfl, rfl, .inr (by decide)⟩
        | stored =>
            cases Option.some.inj saved
            exact ⟨rfl, rfl, .inl ⟨rfl, ⟨formatted, rfl⟩, rfl⟩⟩

theorem save_retry_cases (outcomes : Nat → SaveOutcome device) (left : Nat) (board next : Board device) (ret code : Int)
    (failing : ret < 0) (saved : saveRetry crc32 outcomes left ret board = some (code, next)) :
    next.env.attributes = board.env.attributes ∧ next.env.mEnvInitDone = board.env.mEnvInitDone ∧
      ((code = 0 ∧ Formats crc32 board.env.attributes next.flash ∧ next.env.mEnvData = some next.flash) ∨ code < 0) := by
  induction left generalizing board ret with
  | zero =>
      cases Option.some.inj saved
      exact ⟨rfl, rfl, .inr failing⟩
  | succ left ih =>
      rw [saveRetry, if_pos failing] at saved
      cases attempt : save crc32 board (outcomes (maxUbootRwretry - (left + 1))) with
      | none => simp [attempt] at saved
      | some result =>
          obtain ⟨once, middle⟩ := result
          obtain ⟨attrs, done, finished⟩ := save_cases crc32 board middle _ once attempt
          simp only [attempt] at saved
          rcases finished with ⟨zero, formats, live⟩ | negative
          · have stops : saveRetry crc32 outcomes left once middle = some (once, middle) := by
              cases left <;> simp [saveRetry, zero]
            rw [stops] at saved
            cases Option.some.inj saved
            exact ⟨attrs, done, .inl ⟨zero, formats, live⟩⟩
          · obtain ⟨laterAttrs, laterDone, rest⟩ := ih middle once negative saved
            rw [attrs] at laterAttrs rest
            exact ⟨laterAttrs, laterDone.trans done, rest⟩

-- Whatever the earlier attempts left on the flash, one that succeeds replaces it.
theorem save_retry_succeeds (outcomes : Nat → SaveOutcome device) (left : Nat) (board : Board device) (ret : Int)
    (image : EnvImage device) (data : Bytes) (live : board.env.mEnvData = some image)
    (formatted : formatAttribute (mEnvSize device) board.env.attributes = some data) (failing : ret < 0)
    (attempt : ∃ i, maxUbootRwretry - left ≤ i ∧ i < maxUbootRwretry ∧ outcomes i = .stored)
    (bounded : left ≤ maxUbootRwretry) :
    ∃ next, saveRetry crc32 outcomes left ret board = some (0, next) := by
  induction left generalizing board ret image with
  | zero =>
      obtain ⟨i, lower, upper, _⟩ := attempt
      omega
  | succ left ih =>
      rw [saveRetry, if_pos failing]
      have once : ∃ code next, save crc32 board (outcomes (maxUbootRwretry - (left + 1))) = some (code, next) ∧
          (outcomes (maxUbootRwretry - (left + 1)) = .stored ∧ code = 0 ∨
            outcomes (maxUbootRwretry - (left + 1)) ≠ .stored ∧ code < 0) ∧ ∃ fresh, next.env.mEnvData = some fresh := by
        simp only [save, live]
        split
        · rename_i absent
          rw [absent] at formatted
          cases formatted
        · cases outcomes (maxUbootRwretry - (left + 1)) with
          | openFailed => exact ⟨-1, _, rfl, .inr ⟨by simp, by decide⟩, _, rfl⟩
          | writeFailed left => exact ⟨-3, _, rfl, .inr ⟨by simp, by decide⟩, _, rfl⟩
          | stored => exact ⟨0, _, rfl, .inl ⟨rfl, rfl⟩, _, rfl⟩
      obtain ⟨code, next, saved, outcome, fresh, liveNext⟩ := once
      simp only [saved]
      rcases outcome with ⟨_, rfl⟩ | ⟨failed, negative⟩
      · exact ⟨next, by cases left <;> simp [saveRetry]⟩
      · have attrs := (save_cases crc32 board next _ code saved).1
        refine ih next code fresh liveNext (attrs ▸ formatted) negative ?_ (by omega)
        obtain ⟨i, lower, upper, stored⟩ := attempt
        refine ⟨i, ?_, upper, stored⟩
        rcases Nat.lt_or_ge (maxUbootRwretry - (left + 1)) i with later | same
        · omega
        · have equal : i = maxUbootRwretry - (left + 1) := by omega
          exact absurd (equal ▸ stored) failed

theorem update_cases (board next : Board device) (name value : CStr) (outcomes : Nat → SaveOutcome device) (ret : Int)
    (updated : updateValue crc32 board name value outcomes = some (ret, next)) :
    (ret < 0 ∧ next = board ∧ (board.env.mEnvInitDone = false ∨ envNameOf name = none)) ∨
    (∃ key, envNameOf name = some key ∧ board.env.mEnvInitDone = true ∧
      ((ret = 0 ∧ next = board ∧ value = (get board.env key).getD .empty) ∨
        (value ≠ (get board.env key).getD .empty ∧ ∃ code attrs,
          setAttribute key value true board.env.attributes = some (code, attrs) ∧
          saveRetry crc32 outcomes maxUbootRwretry (-1) ⟨{ board.env with attributes := attrs }, board.flash⟩ =
            some (ret, next)))) := by
  by_cases done : board.env.mEnvInitDone = false
  · rw [updateValue, if_pos done] at updated
    cases Option.some.inj updated
    exact .inl ⟨by decide, rfl, .inl done⟩
  · rw [updateValue, if_neg done] at updated
    cases named : envNameOf name with
    | none =>
        simp only [named] at updated
        cases Option.some.inj updated
        exact .inl ⟨by decide, rfl, .inr rfl⟩
    | some key =>
        refine .inr ⟨key, rfl, by simpa using done, ?_⟩
        simp only [named] at updated
        by_cases same : value = (get board.env key).getD .empty
        · rw [if_pos same] at updated
          cases Option.some.inj updated
          exact .inl ⟨rfl, rfl, same⟩
        · rw [if_neg same] at updated
          cases changed : setAttribute key value true board.env.attributes with
          | none => simp [changed] at updated
          | some result => exact .inr ⟨same, result.1, result.2, rfl, by simpa only [changed] using updated⟩

theorem read_cases (env next : Ubootenv device) (flash : EnvImage device) (outcome : ReadOutcome) (code : Int)
    (unloaded : Unloaded env) (done : readPartitionData crc32 env flash outcome = some (code, next)) :
    next.mEnvInitDone = env.mEnvInitDone ∧
      ((code < 0 ∧ Unloaded next) ∨ (code = 0 ∧ Loaded crc32 next flash)) := by
  cases outcome with
  | openFailed =>
      cases Option.some.inj done
      exact ⟨rfl, .inl ⟨by decide, unloaded⟩⟩
  | mallocFailed =>
      cases Option.some.inj done
      exact ⟨rfl, .inl ⟨by decide, unloaded⟩⟩
  | shortRead =>
      cases Option.some.inj done
      exact ⟨rfl, .inl ⟨by decide, unloaded.1, rfl⟩⟩
  | whole =>
      by_cases valid : crc32 flash.data = flash.crc
      · simp only [readPartitionData, valid, ne_eq, not_true_eq_false, if_false] at done
        cases parsed : parseAttribute flash.data with
        | none => simp [parsed] at done
        | some attrs =>
            simp only [parsed] at done
            cases Option.some.inj done
            exact ⟨rfl, .inr ⟨rfl, valid, parsed, rfl⟩⟩
      · simp only [readPartitionData, ne_eq, valid, not_false_eq_true, if_true] at done
        cases Option.some.inj done
        exact ⟨rfl, .inl ⟨by decide, unloaded.1, rfl⟩⟩

theorem read_retry_cases (env next : Ubootenv device) (flash : EnvImage device) (reads : Nat → ReadOutcome)
    (left rest : Nat) (ret : Int) (failing : ret < 0) (unloaded : Unloaded env)
    (done : readRetry crc32 flash reads left ret env = some (rest, next)) :
    next.mEnvInitDone = env.mEnvInitDone ∧ (Unloaded next ∨ Loaded crc32 next flash) := by
  induction left generalizing env ret with
  | zero =>
      cases Option.some.inj done
      exact ⟨rfl, .inl unloaded⟩
  | succ left ih =>
      rw [readRetry, if_pos failing] at done
      cases attempt : readPartitionData crc32 env flash (reads (maxUbootRwretry - (left + 1))) with
      | none => simp [attempt] at done
      | some result =>
          obtain ⟨code, middle⟩ := result
          obtain ⟨same, outcome⟩ := read_cases crc32 env middle flash _ code unloaded attempt
          simp only [attempt] at done
          rcases outcome with ⟨negative, still⟩ | ⟨zero, loaded⟩
          · obtain ⟨later, final⟩ := ih middle code negative still done
            exact ⟨later.trans same, final⟩
          · have stops : ∃ count, readRetry crc32 flash reads left code middle = some (count, middle) := by
              cases left <;> simp [readRetry, zero]
            obtain ⟨count, stops⟩ := stops
            rw [stops] at done
            cases Option.some.inj done
            exact ⟨same, .inr loaded⟩

theorem init_cases (env next : Ubootenv device) (flash : EnvImage device) (query : MtdQuery)
    (reads : Nat → ReadOutcome) (ret : Int) (unloaded : Unloaded env)
    (done : init crc32 env flash query reads = some (ret, next)) :
    (env.mEnvInitDone = true → next.mEnvInitDone = true) ∧ (Unloaded next ∨ Loaded crc32 next flash) := by
  by_cases refused : query.code device < 0
  · rw [init, if_pos refused] at done
    cases Option.some.inj done
    exact ⟨id, .inl unloaded⟩
  · rw [init, if_neg refused] at done
    cases loop : readRetry crc32 flash reads maxUbootRwretry (-1) env with
    | none => simp [loop] at done
    | some result =>
        obtain ⟨left, middle⟩ := result
        obtain ⟨same, outcome⟩ := read_retry_cases crc32 env middle flash reads _ left (-1) (by decide) unloaded loop
        cases left with
        | zero =>
            simp only [loop] at done
            cases Option.some.inj done
            exact ⟨same.trans, outcome⟩
        | succ left =>
            simp only [loop] at done
            cases Option.some.inj done
            exact ⟨fun _ => rfl, outcome⟩

theorem reinit_cases (board next : Board device) (query : MtdQuery) (reads : Nat → ReadOutcome) (ret : Int)
    (done : reInit crc32 board query reads = some (ret, next)) :
    next.flash = board.flash ∧ (board.env.mEnvInitDone = true → next.env.mEnvInitDone = true) ∧
      (Unloaded next.env ∨ Loaded crc32 next.env board.flash) := by
  simp only [reInit, Option.map_eq_some_iff, Prod.exists, Prod.mk.injEq] at done
  obtain ⟨code, env, loaded, _, rfl⟩ := done
  obtain ⟨kept, outcome⟩ := init_cases crc32 _ env board.flash query reads code ⟨rfl, rfl⟩ loaded
  exact ⟨rfl, kept, outcome⟩

theorem read_failed (env : Ubootenv device) (flash : EnvImage device) (outcome : ReadOutcome)
    (freed : env.mEnvData = none) (failed : outcome ≠ .whole) :
    ∃ code, readPartitionData crc32 env flash outcome = some (code, env) ∧ code < 0 := by
  have same : { env with mEnvData := none } = env := by rw [← freed]
  cases outcome with
  | openFailed => exact ⟨-1, rfl, by decide⟩
  | mallocFailed => exact ⟨-2, rfl, by decide⟩
  | shortRead => exact ⟨-5, by rw [readPartitionData, same], by decide⟩
  | whole => exact absurd rfl failed

-- The fifth attempt comes too late for init.
theorem read_retry_whole (env : Ubootenv device) (flash : EnvImage device) (reads : Nat → ReadOutcome) (left : Nat)
    (ret : Int) (failing : ret < 0) (freed : env.mEnvData = none) (valid : crc32 flash.data = flash.crc)
    (bounded : left ≤ maxUbootRwretry)
    (whole : ∃ i, maxUbootRwretry - left ≤ i ∧ i + 1 < maxUbootRwretry ∧ reads i = .whole) :
    ∃ rest, readRetry crc32 flash reads left ret env = (parseAttribute flash.data).map fun attrs =>
      (rest + 1, { env with mEnvData := some flash, attributes := attrs }) := by
  obtain ⟨i, lower, upper, found⟩ := whole
  induction left generalizing ret with
  | zero => omega
  | succ left ih =>
      rw [readRetry, if_pos failing]
      by_cases now : reads (maxUbootRwretry - (left + 1)) = .whole
      · rw [now]
        cases parsed : parseAttribute flash.data with
        | none => exact ⟨0, by simp [readPartitionData, valid, parsed]⟩
        | some attrs =>
            obtain ⟨rest, rfl⟩ : ∃ rest, left = rest + 1 := ⟨left - 1, by omega⟩
            exact ⟨rest, by simp [readPartitionData, valid, parsed, readRetry]⟩
      · obtain ⟨code, read, negative⟩ := read_failed crc32 env flash _ freed now
        have later : i ≠ maxUbootRwretry - (left + 1) := fun same => now (same ▸ found)
        simp only [read]
        exact ih code negative (by omega) (by omega)

theorem init_whole (env : Ubootenv device) (flash : EnvImage device) (query : MtdQuery) (reads : Nat → ReadOutcome)
    (freed : env.mEnvData = none) (answered : query.code device = 0)
    (whole : ∃ i, i + 1 < maxUbootRwretry ∧ reads i = .whole) (valid : crc32 flash.data = flash.crc) :
    init crc32 env flash query reads = (parseAttribute flash.data).map fun attrs => (0, ⟨some flash, attrs, true⟩) := by
  obtain ⟨i, upper, found⟩ := whole
  obtain ⟨rest, loop⟩ := read_retry_whole crc32 env flash reads maxUbootRwretry (-1) (by decide) freed valid
    (Nat.le_refl _) ⟨i, by omega, upper, found⟩
  cases parsed : parseAttribute flash.data with
  | none => simp [init, answered, loop, parsed]
  | some attrs => simp [init, answered, loop, parsed]

theorem reinit_whole (board : Board device) (query : MtdQuery) (reads : Nat → ReadOutcome)
    (answered : query.code device = 0) (whole : ∃ i, i + 1 < maxUbootRwretry ∧ reads i = .whole)
    (valid : crc32 board.flash.data = board.flash.crc) :
    reInit crc32 board query reads = (parseAttribute board.flash.data).map fun attrs =>
      (0, ⟨⟨some board.flash, attrs, true⟩, board.flash⟩) := by
  rw [reInit, init_whole crc32 _ board.flash query reads rfl answered whole valid]
  cases parseAttribute board.flash.data with
  | none => rfl
  | some attrs => rfl

end

end Droidlogic.Bootenv
