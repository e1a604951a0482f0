import Mathlib.Tactic.Common
import TurbocableServer.Connection.Limiter
import TurbocableServer.Foundations.Reachability

/-!
# Admission

The runs of `handle_socket` against the limiter, interleaved at single map
accesses: a run asks for a slot, authenticates, serves its connection and gives
the slot back.  Every path that leaves a run after the slot was granted goes
through `release`, and no other path does.

A run counts how often it was granted a slot and how often it gave one back;
nothing reads these counters.
-/

namespace TurbocableServer.Connection

open Foundations

universe u

/-! ## Authentication -/

structure CloseFrame where
  code : Nat
  reason : String
  deriving DecidableEq, Repr

/-- The claims of a token that `handle_socket` reads. -/
structure Claims where
  sub : String
  allowedStreams : List String
  deriving DecidableEq, Repr

def wsCloseAuthFailed : Nat := 3000

/-- The frame for an address that has used up its slots. -/
def limitClose : CloseFrame := ⟨1008, "too many connections from this IP"⟩

/-- What a connection may subscribe to and whose it is, or the frame it is
closed with.  `verifier` is `None` when JWT is disabled, and the text of a
failed verification is the one of the error. -/
def authenticate (verifier : Option (String → Except String Claims))
    (token : Option String) :
    Except CloseFrame (List String × Option String) :=
  match verifier with
  | none => .ok (["*"], none)
  | some verify =>
      match token with
      | none => .error ⟨wsCloseAuthFailed, "auth failed"⟩
      | some text =>
          if text.isEmpty then
            .error ⟨wsCloseAuthFailed, "auth failed"⟩
          else
            match verify text with
            | .ok claims => .ok (claims.allowedStreams, some claims.sub)
            | .error reason =>
                .error ⟨wsCloseAuthFailed, reason.replace "auth failed: " ""⟩

/-! ## Runs of `handle_socket` -/

/-- Where a run stands: before `try_acquire`, sending the close frame of the
limit, before authentication, sending the close frame of a failed one, in
`inbound_loop`, before the two accesses of `release`, or at its end. -/
inductive SocketPc where
  | arriving
  | turningAway (frame : CloseFrame)
  | admitted
  | refusing (frame : CloseFrame)
  | serving (allowedStreams : List String) (userId : Option String)
  | releasing
  | removing
  | returned
  deriving DecidableEq, Repr

structure SocketRun (ι : Type u) where
  ip : ι
  token : Option String
  pc : SocketPc
  acquired : Nat
  released : Nat

/-- The run has a slot and has not given it back. -/
def SocketRun.holds {ι : Type u} (run : SocketRun ι) : Bool :=
  run.released < run.acquired

structure Admissions (ι : Type u) where
  limiter : ConnectionLimiter ι
  runs : List (SocketRun ι)

inductive AdmissionAction (ι : Type u) where
  | connect (ip : ι) (token : Option String)
  | advance (index : Nat)

namespace Admissions

variable {ι : Type u} [DecidableEq ι]

def initial (maxPerIp : Nat) : Admissions ι where
  limiter := .new maxPerIp
  runs := []

/-- The next step of a run, with the limiter it finds. -/
def advance (verifier : Option (String → Except String Claims))
    (limiter : ConnectionLimiter ι) (run : SocketRun ι) :
    Option (ConnectionLimiter ι × SocketRun ι) :=
  match run.pc with
  | .arriving =>
      let (counted, granted) := limiter.tryAcquire run.ip
      some (counted,
        if granted then
          { run with pc := .admitted, acquired := run.acquired + 1 }
        else
          { run with pc := .turningAway limitClose })
  | .turningAway _ => some (limiter, { run with pc := .returned })
  | .admitted =>
      some (limiter,
        match authenticate verifier run.token with
        | .ok (allowedStreams, userId) =>
            { run with pc := .serving allowedStreams userId }
        | .error frame => { run with pc := .refusing frame })
  | .refusing _ => some (limiter, { run with pc := .releasing })
  | .serving _ _ => some (limiter, { run with pc := .releasing })
  | .releasing =>
      let (counted, shouldRemove) := limiter.decrement run.ip
      some (counted,
        { run with
          pc := if shouldRemove then .removing else .returned
          released := run.released + 1 })
  | .removing =>
      some (limiter.removeIfZero run.ip, { run with pc := .returned })
  | .returned => none

def step (verifier : Option (String → Except String Claims))
    (admissions : Admissions ι) :
    AdmissionAction ι → Option (Admissions ι)
  | .connect ip token =>
      some { admissions with
        runs := admissions.runs ++ [⟨ip, token, .arriving, 0, 0⟩] }
  | .advance index =>
      match admissions.runs[index]? with
      | none => none
      | some run =>
          (advance verifier admissions.limiter run).map
            (fun (limiter, moved) =>
              { limiter := limiter, runs := admissions.runs.set index moved })

/-- The runs from an address that hold a slot. -/
def holders (admissions : Admissions ι) (ip : ι) : Nat :=
  admissions.runs.countP (fun run => run.ip = ip && run.holds)

end Admissions

/-! ## Slots are paired -/

/-- What the program point says about the two counters. -/
def SocketRun.Paired {ι : Type u} (run : SocketRun ι) : Prop :=
  match run.pc with
  | .arriving => run.acquired = 0 ∧ run.released = 0
  | .turningAway _ => run.acquired = 0 ∧ run.released = 0
  | .admitted => run.acquired = 1 ∧ run.released = 0
  | .refusing _ => run.acquired = 1 ∧ run.released = 0
  | .serving _ _ => run.acquired = 1 ∧ run.released = 0
  | .releasing => run.acquired = 1 ∧ run.released = 0
  | .removing => run.acquired = 1 ∧ run.released = 1
  | .returned => run.acquired ≤ 1 ∧ run.released = run.acquired

/-- A run is granted at most one slot and gives back what it was granted. -/
theorem SocketRun.Paired.balanced {ι : Type u} {run : SocketRun ι}
    (paired : run.Paired) :
    run.acquired ≤ 1 ∧ run.released ≤ run.acquired ∧
      (run.pc = .returned → run.released = run.acquired) := by
  obtain ⟨ip, token, pc, acquired, released⟩ := run
  cases pc <;> obtain ⟨isAcquired, isReleased⟩ := paired <;>
    simp_all

/-- The change of a count list in additions only. -/
theorem countP_set_add {α : Type u} (test : α → Bool) {items : List α}
    {index : Nat} {old : α} (present : items[index]? = some old) (new : α) :
    (items.set index new).countP test + (if test old then 1 else 0) =
      items.countP test + if test new then 1 else 0 := by
  obtain ⟨inRange, isOld⟩ := List.getElem?_eq_some_iff.mp present
  rw [List.countP_set inRange, isOld]
  split
  · rename_i holdsOld
    have counted : 0 < items.countP test :=
      List.countP_pos_iff.mpr ⟨old, List.mem_of_getElem? present, holdsOld⟩
    omega
  · omega

namespace Admissions

variable {ι : Type u} [DecidableEq ι]
variable {verifier : Option (String → Except String Claims)}
variable {limiter counted : ConnectionLimiter ι} {run moved : SocketRun ι}
variable {admissions next : Admissions ι} {action : AdmissionAction ι}

/-- What a step of one run does: it stays paired, the limit stays, and the count
of its address changes with the slot it holds. -/
structure Advances (limiter : ConnectionLimiter ι) (run : SocketRun ι)
    (counted : ConnectionLimiter ι) (moved : SocketRun ι) : Prop where
  sameIp : moved.ip = run.ip
  sameMax : counted.maxPerIp = limiter.maxPerIp
  paired : moved.Paired
  other : ∀ ip, ip ≠ run.ip → counted.countFor ip = limiter.countFor ip
  own :
    counted.countFor run.ip + (if run.holds then 1 else 0) =
      limiter.countFor run.ip + if moved.holds then 1 else 0
  bounded :
    limiter.countFor run.ip ≤ limiter.maxPerIp →
      counted.countFor run.ip ≤ limiter.maxPerIp

/-- A step that leaves the limiter alone and the slot where it is. -/
theorem Advances.of_kept (sameIp : moved.ip = run.ip) (paired : moved.Paired)
    (sameHolds : moved.holds = run.holds) :
    Advances limiter run limiter moved where
  sameIp := sameIp
  sameMax := rfl
  paired := paired
  other := fun _ _ => rfl
  own := by rw [sameHolds]
  bounded := id

private theorem advances_acquire {token : Option String} {ip : ι} :
    Advances limiter ⟨ip, token, .arriving, 0, 0⟩ (limiter.tryAcquire ip).1
      (if (limiter.tryAcquire ip).2 then ⟨ip, token, .admitted, 1, 0⟩
      else ⟨ip, token, .turningAway limitClose, 0, 0⟩) where
  sameIp := by split <;> rfl
  sameMax := limiter.tryAcquire_maxPerIp ip
  paired := by split <;> exact ⟨rfl, rfl⟩
  other := by
    intro other different
    have elsewhere : other ≠ ip := different
    rw [limiter.countFor_tryAcquire]
    simp [elsewhere]
  own := by
    rw [limiter.countFor_tryAcquire]
    split <;> simp_all [SocketRun.holds]
  bounded := by
    intro bound
    rw [limiter.countFor_tryAcquire]
    split
    · rename_i granted
      exact (limiter.tryAcquire_snd ip).mp granted.1
    · exact bound

private theorem advances_decrement {token : Option String} {ip : ι}
    (counts : 0 < limiter.countFor ip) (shouldRemove : Bool) :
    Advances limiter ⟨ip, token, .releasing, 1, 0⟩ (limiter.decrement ip).1
      ⟨ip, token, if shouldRemove then .removing else .returned, 1, 1⟩ where
  sameIp := rfl
  sameMax := limiter.decrement_maxPerIp ip
  paired := by
    cases shouldRemove with
    | true => exact ⟨rfl, rfl⟩
    | false => exact ⟨Nat.le_refl 1, rfl⟩
  other := by
    intro other different
    have elsewhere : other ≠ ip := different
    rw [limiter.countFor_decrement]
    simp [elsewhere]
  own := by
    rw [limiter.countFor_decrement]
    simp only [SocketRun.holds, if_true]
    simp
    omega
  bounded := by
    intro bound
    rw [limiter.countFor_decrement]
    exact Nat.le_trans (Nat.sub_le _ _) bound

theorem advances_of_advance (paired : run.Paired)
    (counts : run.holds = true → 0 < limiter.countFor run.ip)
    (stepped : advance verifier limiter run = some (counted, moved)) :
    Advances limiter run counted moved := by
  obtain ⟨ip, token, pc, acquired, released⟩ := run
  cases pc with
  | arriving =>
      obtain ⟨rfl, rfl⟩ : acquired = 0 ∧ released = 0 := paired
      cases stepped
      exact advances_acquire
  | turningAway frame =>
      obtain ⟨rfl, rfl⟩ : acquired = 0 ∧ released = 0 := paired
      cases stepped
      exact .of_kept rfl ⟨Nat.zero_le 1, rfl⟩ rfl
  | admitted =>
      obtain ⟨rfl, rfl⟩ : acquired = 1 ∧ released = 0 := paired
      cases stepped
      cases authenticate verifier token with
      | ok granted | error frame => exact .of_kept rfl ⟨rfl, rfl⟩ rfl
  | refusing frame | serving allowedStreams userId =>
      cases stepped
      exact .of_kept rfl paired rfl
  | releasing =>
      obtain ⟨rfl, rfl⟩ : acquired = 1 ∧ released = 0 := paired
      cases stepped
      exact advances_decrement (counts rfl) _
  | removing =>
      obtain ⟨rfl, rfl⟩ : acquired = 1 ∧ released = 1 := paired
      cases stepped
      exact
        { sameIp := rfl
          sameMax := limiter.removeIfZero_maxPerIp ip
          paired := ⟨Nat.le_refl 1, rfl⟩
          other := fun other _ => limiter.countFor_removeIfZero ip other
          own := by rw [limiter.countFor_removeIfZero]; rfl
          bounded := by
            intro bound
            rw [limiter.countFor_removeIfZero]
            exact bound }
  | returned => cases stepped

/-! ## The invariant -/

structure Exact (maxPerIp : Nat) (admissions : Admissions ι) : Prop where
  isMax : admissions.limiter.maxPerIp = maxPerIp
  paired : ∀ run, run ∈ admissions.runs → run.Paired
  counted :
    ∀ ip, admissions.limiter.countFor ip = admissions.holders ip
  bounded : ∀ ip, admissions.limiter.countFor ip ≤ maxPerIp

theorem exact_initial (maxPerIp : Nat) :
    (initial maxPerIp : Admissions ι).Exact maxPerIp where
  isMax := rfl
  paired := by
    intro run member
    cases member
  counted := by
    intro ip
    rw [initial, ConnectionLimiter.countFor_new]
    rfl
  bounded := by
    intro ip
    rw [initial, ConnectionLimiter.countFor_new]
    exact Nat.zero_le _

private theorem exact_connect {maxPerIp : Nat}
    (isExact : admissions.Exact maxPerIp) (ip : ι) (token : Option String) :
    ({ admissions with
        runs := admissions.runs ++ [⟨ip, token, .arriving, 0, 0⟩] } :
      Admissions ι).Exact maxPerIp where
  isMax := isExact.isMax
  paired := by
    intro run member
    rcases List.mem_append.mp member with before | isNew
    · exact isExact.paired run before
    · rw [List.mem_singleton.mp isNew]
      exact ⟨rfl, rfl⟩
  counted := by
    intro tested
    rw [isExact.counted, holders, holders, List.countP_append]
    simp [SocketRun.holds]
  bounded := isExact.bounded

/-- A run that holds a slot is counted. -/
private theorem Exact.positive {maxPerIp : Nat}
    (isExact : admissions.Exact maxPerIp) (member : run ∈ admissions.runs)
    (holds : run.holds = true) :
    0 < admissions.limiter.countFor run.ip := by
  rw [isExact.counted]
  exact List.countP_pos_iff.mpr ⟨run, member, by simp [holds]⟩

private theorem exact_advance {maxPerIp index : Nat}
    (isExact : admissions.Exact maxPerIp)
    (present : admissions.runs[index]? = some run)
    (advances : Advances admissions.limiter run counted moved) :
    ({ limiter := counted, runs := admissions.runs.set index moved } :
      Admissions ι).Exact maxPerIp where
  isMax := advances.sameMax.trans isExact.isMax
  paired := by
    intro other member
    rcases List.mem_or_eq_of_mem_set member with before | rfl
    · exact isExact.paired other before
    · exact advances.paired
  counted := by
    intro ip
    have changed :=
      countP_set_add (fun run : SocketRun ι => run.ip = ip && run.holds)
        present moved
    have before := isExact.counted ip
    unfold holders at before ⊢
    by_cases same : ip = run.ip
    · have own := advances.own
      rw [← same] at own
      simp only [advances.sameIp, ← same, decide_true, Bool.true_and]
        at changed
      simp only
      omega
    · have other := advances.other ip same
      have elsewhere : run.ip ≠ ip := Ne.symm same
      simp only [advances.sameIp, elsewhere, decide_false, Bool.false_and,
        Bool.false_eq_true, if_false] at changed
      simp only
      omega
  bounded := by
    intro ip
    by_cases same : ip = run.ip
    · have bound := advances.bounded
      rw [isExact.isMax] at bound
      rw [same]
      exact bound (isExact.bounded run.ip)
    · rw [advances.other ip same]
      exact isExact.bounded ip

theorem Exact.step {maxPerIp : Nat} (isExact : admissions.Exact maxPerIp)
    (stepped : step verifier admissions action = some next) :
    next.Exact maxPerIp := by
  cases action with
  | connect ip token =>
      cases stepped
      exact exact_connect isExact ip token
  | advance index =>
      simp only [Admissions.step] at stepped
      split at stepped
      · cases stepped
      · rename_i run present
        obtain ⟨⟨counted, moved⟩, advanced, rfl⟩ :=
          Option.map_eq_some_iff.mp stepped
        have member := List.mem_of_getElem? present
        exact exact_advance isExact present
          (advances_of_advance (isExact.paired run member)
            (isExact.positive member) advanced)

theorem exact_of_reaches {maxPerIp : Nat}
    {allowed : Admissions ι → AdmissionAction ι → Prop}
    (run : Reaches (step verifier) allowed (initial maxPerIp) admissions) :
    admissions.Exact maxPerIp :=
  run.invariant (fun _ _ _ _ stepped isExact => isExact.step stepped)
    (exact_initial maxPerIp)

/-- In every state the stored counts are the numbers of runs that hold a slot,
within the limit.  `try_acquire` refuses exactly at the limit, and a run gives
back what it was granted. -/
theorem slots_exact {maxPerIp : Nat}
    {allowed : Admissions ι → AdmissionAction ι → Prop}
    (reached :
      Reaches (step verifier) allowed (initial maxPerIp) admissions) :
    (∀ ip,
        admissions.limiter.countFor ip = admissions.holders ip ∧
          admissions.limiter.countFor ip ≤ maxPerIp ∧
          ((admissions.limiter.tryAcquire ip).2 = false ↔
            admissions.holders ip = maxPerIp)) ∧
      (∀ run, run ∈ admissions.runs →
        run.acquired ≤ 1 ∧ run.released ≤ run.acquired ∧
          (run.pc = .returned → run.released = run.acquired)) ∧
      ((∀ run, run ∈ admissions.runs → run.pc = .returned) →
        ∀ ip, admissions.limiter.countFor ip = 0) := by
  have isExact := exact_of_reaches reached
  refine ⟨fun ip => ⟨isExact.counted ip, isExact.bounded ip, ?_⟩,
    fun run member => (isExact.paired run member).balanced, ?_⟩
  · have bound := isExact.bounded ip
    rw [← Bool.not_eq_true, ConnectionLimiter.tryAcquire_snd,
      isExact.isMax, ← isExact.counted]
    omega
  · intro allReturned ip
    rw [isExact.counted, holders, List.countP_eq_zero]
    intro run member
    have balanced :=
      (isExact.paired run member).balanced.2.2 (allReturned run member)
    simp [SocketRun.holds, balanced]

/-- Two connections from one address that has one slot. -/
def crowded : Admissions Nat :=
  (execute (step none) (fun _ _ => True) (initial 1)
    [.connect 7 none, .advance 0, .connect 7 none, .advance 1]).get
    (by decide)

theorem slots_exact_crowded :
    crowded.runs.map SocketRun.pc =
        [.admitted, .turningAway limitClose] ∧
      crowded.limiter.countFor 7 = crowded.holders 7 ∧
      crowded.limiter.countFor 7 ≤ 1 := by
  have slots := (@slots_exact Nat _ none crowded 1 _ (reaches_execute_get _)).1 7
  exact ⟨by decide, slots.1, slots.2.1⟩

end Admissions

end TurbocableServer.Connection
