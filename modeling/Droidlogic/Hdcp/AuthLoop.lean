import Droidlogic.Lib.CString
import Droidlogic.Lib.Polling
import Droidlogic.Lib.Text

set_option autoImplicit false

namespace Droidlogic.Hdcp.AuthLoop

open Lib

def modeLen : Nat := 64

inductive Node
  | hdcpAuth
  | hdcpMode
  | hdcpConf
  | hdcpPower
  | avmute
deriving DecidableEq

-- What the loop does to the nodes and the properties; the readings of the status are numbered.
inductive Act
  | poll (k : Nat)
  | readSysfs (node : Node)
  | writeSysfs (node : Node) (value : Bytes)
  | setProperty (key value : Bytes)
deriving DecidableEq

def hdcpTx22 : Bytes := ascii ['h', 'd', 'c', 'p', '_', 't', 'x', '2', '2']

def stopVerAll : List Act :=
  [.writeSysfs .hdcpPower (ascii ['1']),
    .setProperty (ascii ['c', 't', 'l', '.', 's', 't', 'o', 'p']) hdcpTx22,
    .readSysfs .hdcpPower,
    .writeSysfs .hdcpConf (ascii ['s', 't', 'o', 'p', '1', '4']),
    .writeSysfs .hdcpConf (ascii ['s', 't', 'o', 'p', '2', '2'])]

def startVer14 : List Act := [.writeSysfs .hdcpMode (ascii ['1'])]

def clearAvmute : Act := .writeSysfs .avmute (ascii ['-', '1'])

-- What stands in auth after each reading, and mExitHdcpTxThread at each test of the loop: the
-- test before poll k is number k.
structure Env where
  auth : Nat → CharArray modeLen
  mExitHdcpTxThread : Nat → Bool

def Env.ok (env : Env) (k : Nat) : Bool := contains (env.auth k).str.bytes (ascii ['1'])

structure Outcome where
  success : Bool
  -- The loop has ended at its test of the exit flag.
  exited : Bool
  acts : List Act
deriving DecidableEq

def Outcome.after (acts : List Act) (out : Outcome) : Outcome := { out with acts := acts ++ out.acts }

-- The loop from poll k on.
def authLoop (env : Env) (k count : Nat) (useHdcp22 useHdcp14 : Bool) : Outcome :=
  if env.mExitHdcpTxThread k then ⟨false, true, []⟩
  else if env.ok k then ⟨true, false, [.poll k, clearAvmute]⟩
  else if 40 < count + 1 then
    match useHdcp22 with
    | true => (authLoop env (k + 1) 0 false true).after (.poll k :: stopVerAll ++ startVer14)
    | false => ⟨false, false, .poll k :: (if useHdcp14 then startVer14 else []) ++ [clearAvmute]⟩
  else (authLoop env (k + 1) (count + 1) useHdcp22 useHdcp14).after [.poll k]
termination_by (useHdcp22.toNat, 41 - count)
decreasing_by
  · exact Prod.Lex.left _ _ (by decide)
  · exact Prod.Lex.right _ (by omega)

def pollsFrom (first last : Nat) : List Act := (List.range' first (last - first)).map .poll

def pollOf : Act → Option Nat
  | .poll k => some k
  | _ => none

-- The last act of stopVerAll stops HDCP 2.2.
def stop22 : Act := .writeSysfs .hdcpConf (ascii ['s', 't', 'o', 'p', '2', '2'])

def polls (out : Outcome) : List Nat := out.acts.filterMap pollOf

-- Either 2.2 is never given up, and 1.4 not started in its place, or that is done once, after
-- 41 polls without success.
def SwitchedOnce (env : Env) (useHdcp22 : Bool) (acts : List Act) : Prop :=
  (stop22 ∉ acts ∧ (useHdcp22 = true → ∀ act ∈ startVer14, act ∉ acts)) ∨
    (useHdcp22 = true ∧ Missed env.ok 0 41 ∧
      ∃ rest, acts = pollsFrom 0 41 ++ stopVerAll ++ startVer14 ++ rest ∧ stop22 ∉ rest)

structure Ends (env : Env) (useHdcp22 : Bool) (count : Nat) (out : Outcome) : Prop where
  inOrder : polls out = List.range count
  bounded : count ≤ 82
  returned : out.success = true ↔ ∃ last, count = last + 1 ∧ env.ok last = true
  switched : SwitchedOnce env useHdcp22 out.acts
  exited : out.exited = true → env.mExitHdcpTxThread count = true
  unmuted : out.exited = false → out.acts.getLast? = some clearAvmute

theorem polls_from_cons (first last : Nat) (some_poll : first < last) :
    pollsFrom first last = .poll first :: pollsFrom (first + 1) last := by
  obtain ⟨length, rfl⟩ := Nat.exists_eq_add_of_lt some_poll
  have here : first + length + 1 - first = length + 1 := by omega
  have later : first + length + 1 - (first + 1) = length := by omega
  rw [pollsFrom, pollsFrom, here, later, List.range'_succ, List.map_cons]

theorem polls_from_self (first : Nat) : pollsFrom first first = [] := by
  rw [pollsFrom, Nat.sub_self]
  rfl

theorem auth_loop_step (env : Env) (k count : Nat) (useHdcp22 useHdcp14 : Bool) :
    authLoop env k count useHdcp22 useHdcp14 =
      if env.mExitHdcpTxThread k then ⟨false, true, []⟩
      else if env.ok k then ⟨true, false, [.poll k, clearAvmute]⟩
      else if 40 < count + 1 then
        match useHdcp22 with
        | true => (authLoop env (k + 1) 0 false true).after (.poll k :: stopVerAll ++ startVer14)
        | false => ⟨false, false, .poll k :: (if useHdcp14 then startVer14 else []) ++ [clearAvmute]⟩
      else (authLoop env (k + 1) (count + 1) useHdcp22 useHdcp14).after [.poll k] := by
  conv_lhs => rw [authLoop.eq_def]

-- One phase of the loop is a polling for the polls that count leaves.
theorem auth_loop_eq (env : Env) (left k count : Nat) (useHdcp22 useHdcp14 : Bool) (some_left : count + (left + 1) = 41) :
    authLoop env k count useHdcp22 useHdcp14 =
      match polling env.mExitHdcpTxThread env.ok (left + 1) k with
      | .exited n => ⟨false, true, pollsFrom k n⟩
      | .hit n => ⟨true, false, pollsFrom k (n + 1) ++ [clearAvmute]⟩
      | .spent =>
          match useHdcp22 with
          | true => (authLoop env (k + (left + 1)) 0 false true).after
              (pollsFrom k (k + (left + 1)) ++ (stopVerAll ++ startVer14))
          | false => ⟨false, false,
              pollsFrom k (k + (left + 1)) ++ ((if useHdcp14 then startVer14 else []) ++ [clearAvmute])⟩ := by
  induction left generalizing k count with
  | zero =>
      have last : 40 < count + 1 := by omega
      rw [auth_loop_step env k count, polling]
      by_cases told : env.mExitHdcpTxThread k = true
      · simp only [if_pos told, polls_from_self]
      · by_cases found : env.ok k = true
        · simp only [if_neg told, if_pos found, polls_from_cons k (k + 1) (Nat.lt_succ_self k), polls_from_self]
          rfl
        · simp only [if_neg told, if_neg found, if_pos last, polling, Nat.zero_add,
            polls_from_cons k (k + 1) (Nat.lt_succ_self k), polls_from_self]
          cases useHdcp22 <;> rfl
  | succ left ih =>
      have more : ¬40 < count + 1 := by omega
      rw [auth_loop_step env k count, polling]
      by_cases told : env.mExitHdcpTxThread k = true
      · simp only [if_pos told, polls_from_self]
      · by_cases found : env.ok k = true
        · simp only [if_neg told, if_pos found, polls_from_cons k (k + 1) (Nat.lt_succ_self k), polls_from_self]
          rfl
        · simp only [if_neg told, if_neg found, if_neg more]
          rw [ih (k + 1) (count + 1) (by omega)]
          cases ended : polling env.mExitHdcpTxThread env.ok (left + 1) (k + 1) with
          | exited n =>
              obtain ⟨low, _⟩ := polling_exited _ _ _ _ _ ended
              simp only [polls_from_cons k n (by omega)]
              rfl
          | hit n =>
              obtain ⟨low, _⟩ := polling_hit _ _ _ _ _ ended
              simp only [polls_from_cons k (n + 1) (by omega)]
              rfl
          | spent =>
              have shifted : k + 1 + (left + 1) = k + (left + 1 + 1) := by omega
              simp only [polls_from_cons k (k + (left + 1 + 1)) (by omega), shifted]
              cases useHdcp22 <;> rfl

theorem polls_from_polls (first last : Nat) : (pollsFrom first last).filterMap pollOf = List.range' first (last - first) := by
  have each : pollOf ∘ Act.poll = some := rfl
  rw [pollsFrom, List.filterMap_map, each, List.filterMap_some]

theorem polls_from_only (first last : Nat) (act : Act) (inside : act ∈ pollsFrom first last) : ∃ k, act = .poll k := by
  obtain ⟨k, _, rfl⟩ := List.mem_map.mp inside
  exact ⟨k, rfl⟩

-- What a run of the loop does from poll first on, when it ends before poll next.
structure Phase (env : Env) (first next : Nat) (out : Outcome) : Prop where
  low : first ≤ next
  high : next ≤ first + 41
  inOrder : polls out = List.range' first (next - first)
  returned : out.success = true ↔ first < next ∧ env.ok (next - 1) = true
  exited : out.exited = true → env.mExitHdcpTxThread next = true
  unmuted : out.exited = false → out.acts.getLast? = some clearAvmute
  kept : stop22 ∉ out.acts

section
variable (env : Env) (first n : Nat)

theorem exited_phase (ended : polling env.mExitHdcpTxThread env.ok 41 first = .exited n) :
    Phase env first n ⟨false, true, pollsFrom first n⟩ := by
  obtain ⟨low, high, told, missed⟩ := polling_exited _ _ _ _ _ ended
  refine ⟨low, by omega, polls_from_polls first n, iff_of_false Bool.false_ne_true fun found => ?_, fun _ => told, nofun, ?_⟩
  · have miss := missed (n - 1) (by omega) (by omega)
    rw [miss] at found
    exact absurd found.2 Bool.false_ne_true
  · exact fun inside => nomatch polls_from_only _ _ _ inside

theorem hit_phase (ended : polling env.mExitHdcpTxThread env.ok 41 first = .hit n) :
    Phase env first (n + 1) ⟨true, false, pollsFrom first (n + 1) ++ [clearAvmute]⟩ := by
  obtain ⟨low, high, found, _⟩ := polling_hit _ _ _ _ _ ended
  refine ⟨by omega, by omega, ?_, iff_of_true rfl ⟨by omega, found⟩, nofun, fun _ => List.getLast?_concat .., ?_⟩
  · rw [polls, List.filterMap_append, polls_from_polls]
    exact List.append_nil _
  · intro inside
    rcases List.mem_append.mp inside with poll | clear
    · exact nomatch polls_from_only _ _ _ poll
    · exact absurd (List.mem_singleton.mp clear) (by decide)

theorem spent_phase (useHdcp14 : Bool) (ended : polling env.mExitHdcpTxThread env.ok 41 first = .spent) :
    Phase env first (first + 41)
      ⟨false, false, pollsFrom first (first + 41) ++ ((if useHdcp14 then startVer14 else []) ++ [clearAvmute])⟩ := by
  have missed := polling_spent _ _ _ _ ended
  refine ⟨by omega, Nat.le_refl _, ?_, iff_of_false Bool.false_ne_true fun found => ?_, nofun, fun _ => ?_, ?_⟩
  · rw [polls, List.filterMap_append, polls_from_polls]
    cases useHdcp14 <;> exact List.append_nil _
  · have miss := missed (first + 41 - 1) (by omega) (by omega)
    rw [miss] at found
    exact absurd found.2 Bool.false_ne_true
  · rw [← List.append_assoc]
    exact List.getLast?_concat ..
  · intro inside
    rcases List.mem_append.mp inside with poll | rest
    · exact nomatch polls_from_only _ _ _ poll
    · cases useHdcp14 <;> exact absurd rest (by decide)

theorem phase14 (useHdcp14 : Bool) : ∃ next, Phase env first next (authLoop env first 0 false useHdcp14) := by
  rw [auth_loop_eq env 40 first 0 false useHdcp14 rfl]
  cases ended : polling env.mExitHdcpTxThread env.ok (40 + 1) first with
  | exited n => exact ⟨n, exited_phase env first n ended⟩
  | hit n => exact ⟨n + 1, hit_phase env first n ended⟩
  | spent => exact ⟨first + 41, spent_phase env first useHdcp14 ended⟩

end

-- A phase from the first poll on is a whole run.
theorem phase_ends (env : Env) (useHdcp22 : Bool) (next : Nat) (out : Outcome) (phase : Phase env 0 next out)
    (free : useHdcp22 = true → ∀ act ∈ startVer14, act ∉ out.acts) : Ends env useHdcp22 next out where
  inOrder := by rw [phase.inOrder, Nat.sub_zero, List.range_eq_range']
  bounded := by
    have high := phase.high
    omega
  returned := by
    rw [phase.returned]
    constructor
    · rintro ⟨some_poll, found⟩
      exact ⟨next - 1, by omega, found⟩
    · rintro ⟨last, rfl, found⟩
      exact ⟨Nat.succ_pos last, found⟩
  switched := .inl ⟨phase.kept, free⟩
  exited := phase.exited
  unmuted := phase.unmuted

-- 2.2 without success, and then a phase of 1.4.
theorem switch_ends (env : Env) (next : Nat) (out : Outcome) (missed : Missed env.ok 0 41) (phase : Phase env 41 next out) :
    Ends env true next (out.after (pollsFrom 0 41 ++ (stopVerAll ++ startVer14))) where
  inOrder := by
    have low := phase.low
    have acts : polls (out.after (pollsFrom 0 41 ++ (stopVerAll ++ startVer14))) =
        (pollsFrom 0 41).filterMap pollOf ++ polls out := by
      rw [polls, Outcome.after, List.filterMap_append, List.filterMap_append]
      rfl
    have whole : List.range' 0 41 ++ List.range' (0 + 41) (next - 41) = List.range' 0 (41 + (next - 41)) :=
      List.range'_append_1
    rw [Nat.add_sub_cancel' low] at whole
    rw [acts, polls_from_polls, phase.inOrder, List.range_eq_range']
    exact whole
  bounded := phase.high
  returned := by
    refine phase.returned.trans ⟨fun found => ⟨next - 1, ?_, found.2⟩, fun found => ?_⟩
    · have some_poll := found.1
      omega
    · obtain ⟨last, rfl, hit⟩ := found
      refine ⟨?_, hit⟩
      by_contra early
      rw [missed last (Nat.zero_le last) (by omega)] at hit
      cases hit
  switched := by
    refine .inr ⟨rfl, missed, out.acts, ?_, phase.kept⟩
    rw [Outcome.after, ← List.append_assoc (pollsFrom 0 41)]
  exited := phase.exited
  unmuted := fun told => by
    have last := phase.unmuted told
    rw [Outcome.after, List.getLast?_append, last]
    rfl

theorem auth_loop_ends (env : Env) (useHdcp22 useHdcp14 : Bool) :
    ∃ count, Ends env useHdcp22 count (authLoop env 0 0 useHdcp22 useHdcp14) := by
  cases useHdcp22 with
  | false =>
      obtain ⟨next, phase⟩ := phase14 env 0 useHdcp14
      exact ⟨next, phase_ends env false next _ phase nofun⟩
  | true =>
      rw [auth_loop_eq env 40 0 0 true useHdcp14 rfl]
      cases ended : polling env.mExitHdcpTxThread env.ok (40 + 1) 0 with
      | exited n =>
          refine ⟨n, phase_ends env true n _ (exited_phase env 0 n ended) fun _ act listed inside => ?_⟩
          cases List.mem_singleton.mp listed
          exact nomatch polls_from_only _ _ _ inside
      | hit n =>
          refine ⟨n + 1, phase_ends env true (n + 1) _ (hit_phase env 0 n ended) fun _ act listed inside => ?_⟩
          cases List.mem_singleton.mp listed
          rcases List.mem_append.mp inside with poll | clear
          · exact nomatch polls_from_only _ _ _ poll
          · exact absurd (List.mem_singleton.mp clear) (by decide)
      | spent =>
          obtain ⟨next, phase⟩ := phase14 env 41 true
          have missed := polling_spent _ _ _ _ ended
          exact ⟨next, switch_ends env next _ missed phase⟩

end Droidlogic.Hdcp.AuthLoop
