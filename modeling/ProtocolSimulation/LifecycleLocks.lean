import ProtocolSimulation.RefCounts
import ProtocolSimulation.Service

/-!
# The locks of the instances

`InstanceLifecycleLocks` keeps a weak pointer to one mutex for each instance that is
being worked on. A call first takes its mutex from the registry, which forgets the
mutexes that nobody uses, and then waits for it.
-/
namespace ProtocolSimulation.Service

open ProtocolSimulation.Texts ProtocolSimulation.RefCounts ProtocolSimulation.Programs
open ProtocolSimulation.JsonValues

/-- The map from instances to their mutexes, and the mutexes that were made. -/
structure InstanceLifecycleLocks where
  locks : Text → Option ℕ
  mutexes : Arcs

namespace InstanceLifecycleLocks

/-- The entries whose mutex is not in use are dropped. -/
def retain (r : InstanceLifecycleLocks) : InstanceLifecycleLocks :=
  { r with locks := fun id => (r.locks id).filter fun a => 0 < r.mutexes.strong a }

/-- What `lock` does while it holds the registry. -/
def lock (r : InstanceLifecycleLocks) (instanceId : Text) : ℕ × InstanceLifecycleLocks :=
  let r := r.retain
  match (r.locks instanceId).bind r.mutexes.upgrade with
  | some (a, mutexes) => (a, { r with mutexes := mutexes })
  | none =>
    let (a, mutexes) := r.mutexes.new
    (a, ⟨Function.update r.locks instanceId (some a), mutexes⟩)

theorem retain_eq_some {r : InstanceLifecycleLocks} {id : Text} {a : ℕ} :
    r.retain.locks id = some a ↔ r.locks id = some a ∧ 0 < r.mutexes.strong a := by
  simp [retain, Option.filter_eq_some_iff]

/-- The caller shares the mutex of the instance while it is in use, and gets a new one otherwise. -/
theorem lock_cases (r : InstanceLifecycleLocks) (id : Text) :
    (∃ a, r.locks id = some a ∧ 0 < r.mutexes.strong a ∧
      r.lock id = (a, ⟨r.retain.locks, r.mutexes.clone a⟩)) ∨
    ((∀ a, r.locks id = some a → r.mutexes.strong a = 0) ∧ r.lock id = (r.mutexes.next,
      ⟨Function.update r.retain.locks id (some r.mutexes.next), r.mutexes.new.2⟩)) := by
  cases hget : r.retain.locks id with
  | some a =>
    obtain ⟨hmap, halive⟩ := retain_eq_some.mp hget
    refine .inl ⟨a, hmap, halive, ?_⟩
    simp [lock, hget, Arcs.upgrade, show r.retain.mutexes = r.mutexes from rfl, halive]
  | none =>
    refine .inr ⟨fun a hmap => ?_, ?_⟩
    · by_contra hne
      have hsome := retain_eq_some.mpr ⟨hmap, Nat.pos_of_ne_zero hne⟩
      rw [hget] at hsome
      exact absurd hsome (by simp)
    · simp [lock, hget, Arcs.new, show r.retain.mutexes = r.mutexes from rfl]

end InstanceLifecycleLocks

/-- How far a call has come: it waits for the registry, it waits for its mutex, or it has
the guard. -/
inductive LockCall where
  | queued (instanceId : Text)
  | waiting (instanceId : Text) (mutex : ℕ)
  | guard (instanceId : Text) (mutex : ℕ)
deriving DecidableEq

def LockCall.mutex : LockCall → Option ℕ
  | queued _ => none
  | waiting _ a | guard _ a => some a

/-- The registry, which call has each mutex locked, and the calls that are not over. -/
structure LockState where
  registry : InstanceLifecycleLocks
  holder : ℕ → Option ℕ
  calls : ℕ → Option LockCall

namespace LockState

def start : LockState := ⟨⟨fun _ => none, .empty⟩, fun _ => none, fun _ => none⟩

inductive Action where
  | call (n : ℕ) (instanceId : Text)
  | register (n : ℕ)
  | acquire (n : ℕ)
  | cancel (n : ℕ)
  | drop (n : ℕ)

/-- The pointer to a mutex is given back, and the call is over. -/
def leave (s : LockState) (n mutex : ℕ) : LockState :=
  { s with
    registry := { s.registry with mutexes := s.registry.mutexes.drop mutex }
    calls := Function.update s.calls n none }

/-- What the calls and the runtime can do. A call can be cancelled while it waits. -/
def step (s : LockState) : Action → Option LockState
  | .call n id =>
    if s.calls n = none then some { s with calls := Function.update s.calls n (some (.queued id)) }
    else none
  | .register n =>
    match s.calls n with
    | some (.queued id) =>
      let (a, registry) := s.registry.lock id
      some { s with
        registry := registry
        calls := Function.update s.calls n (some (.waiting id a)) }
    | _ => none
  | .acquire n =>
    match s.calls n with
    | some (.waiting id a) =>
      if s.holder a = none then some { s with
        holder := Function.update s.holder a (some n)
        calls := Function.update s.calls n (some (.guard id a)) }
      else none
    | _ => none
  | .cancel n =>
    match s.calls n with
    | some (.queued _) => some { s with calls := Function.update s.calls n none }
    | some (.waiting _ a) => some (s.leave n a)
    | _ => none
  | .drop n =>
    match s.calls n with
    | some (.guard _ a) => some ({ s with holder := Function.update s.holder a none }.leave n a)
    | _ => none

/-- The call holds the mutex or waits for it. -/
def Uses (s : LockState) (n : ℕ) (id : Text) (a : ℕ) : Prop :=
  s.calls n = some (.waiting id a) ∨ s.calls n = some (.guard id a)

/-- The mutex that a call points to. -/
def points (s : LockState) (n : ℕ) : Option ℕ := (s.calls n).bind LockCall.mutex

/-- The counts of the mutexes are right, and every call that uses a mutex has it from the map. -/
structure Inv (s : LockState) : Prop where
  counts : s.registry.mutexes.Counts s.points
  mapped : ∀ n id a, s.Uses n id a → s.registry.locks id = some a
  holder : ∀ n a, s.holder a = some n ↔ ∃ id, s.calls n = some (.guard id a)
  apart : ∀ id id' a, s.registry.locks id = some a → s.registry.locks id' = some a → id = id'
  allocated : ∀ id a, s.registry.locks id = some a → a < s.registry.mutexes.next

section Step

variable {s : LockState} {n m : ℕ} {id : Text} {a : ℕ}

theorem points_eq_some : s.points n = some a ↔ ∃ id, s.Uses n id a := by
  rcases hcall : s.calls n with _ | (_ | _ | _) <;> simp [points, hcall, LockCall.mutex, Uses]

theorem points_update (registry : InstanceLifecycleLocks) (holder : ℕ → Option ℕ)
    (c : Option LockCall) : (⟨registry, holder, Function.update s.calls n c⟩ : LockState).points =
      Function.update s.points n (c.bind LockCall.mutex) := by
  funext m
  by_cases hm : m = n
  · subst hm
    simp [points]
  · simp [points, hm]

/-- The mutexes that calls use are alive. -/
theorem Inv.alive (h : s.Inv) (huses : s.Uses n id a) : 0 < s.registry.mutexes.strong a :=
  h.counts.alive_iff.mpr ⟨n, points_eq_some.mpr ⟨id, huses⟩⟩

theorem inv_start : start.Inv :=
  ⟨Arcs.counts_empty, by simp [Uses, start], by simp [start], by simp [start], by simp [start]⟩

theorem uses_of_ne {registry : InstanceLifecycleLocks} {holder : ℕ → Option ℕ} {c : Option LockCall}
    (hm : m ≠ n) :
    Uses ⟨registry, holder, Function.update s.calls n c⟩ m id a ↔ s.Uses m id a := by
  simp [Uses, hm]

/-- A call that uses no mutex goes on without one, or is over. -/
theorem Inv.idle (h : s.Inv) (hn : s.points n = none) {c : Option LockCall}
    (hc : c.bind LockCall.mutex = none) : Inv { s with calls := Function.update s.calls n c } := by
  have hcalls : ∀ m id a, Uses { s with calls := Function.update s.calls n c } m id a →
      s.Uses m id a := by
    intro m id a huses
    by_cases hm : m = n
    · subst hm
      have hpoints := points_eq_some.mpr ⟨id, huses⟩
      rw [points_update, Function.update_self, hc] at hpoints
      exact absurd hpoints (by simp)
    · exact (uses_of_ne hm).mp huses
  refine ⟨?_, fun m id a huses => h.mapped m id a (hcalls m id a huses), fun m a => ?_, h.apart,
    h.allocated⟩
  · rw [points_update, hc, ← hn, Function.update_eq_self]
    exact h.counts
  · rw [h.holder m a]
    by_cases hm : m = n
    · subst hm
      constructor
      · rintro ⟨id, hguard⟩
        have hpoints := points_eq_some.mpr ⟨id, .inr hguard⟩
        exact absurd (hn.symm.trans hpoints) (by simp)
      · rintro ⟨id, hguard⟩
        have huses := hcalls m id a (.inr hguard)
        exact absurd (hn.symm.trans (points_eq_some.mpr ⟨id, huses⟩)) (by simp)
    · simp [hm]

/-- A call gives back its pointer, and its guard if it has one. -/
theorem Inv.leave (h : s.Inv) (hpoints : s.points n = some a) {holder : ℕ → Option ℕ}
    (hother : ∀ m b, m ≠ n → (holder b = some m ↔ s.holder b = some m))
    (hn : ∀ b, holder b ≠ some n) : (LockState.leave { s with holder := holder } n a).Inv := by
  have hcalls : ∀ m id b, (LockState.leave { s with holder := holder } n a).Uses m id b →
    s.Uses m id b := by
    intro m id b huses
    have hm : m ≠ n := by
      rintro rfl
      simp [Uses, LockState.leave] at huses
    exact (uses_of_ne hm).mp huses
  refine ⟨?_, fun m id b huses => h.mapped m id b (hcalls m id b huses), fun m b => ?_, h.apart,
    h.allocated⟩
  · rw [LockState.leave, points_update]
    exact h.counts.drop hpoints
  · show holder b = some m ↔ _
    by_cases hm : m = n
    · subst hm
      simp [LockState.leave, hn b]
    · rw [hother m b hm, h.holder m b]
      simp [LockState.leave, hm]

/-- The mutexes that calls use are kept in the map. -/
theorem Inv.retained (h : s.Inv) (huses : s.Uses n id a) :
    s.registry.retain.locks id = some a :=
  InstanceLifecycleLocks.retain_eq_some.mpr ⟨h.mapped n id a huses, h.alive huses⟩

theorem points_queued (hn : s.calls n = some (.queued id)) : s.points n = none := by
  simp [points, hn, LockCall.mutex]

/-- A call that starts to wait holds no mutex. -/
theorem Inv.holder_waiting (h : s.Inv) (hn : s.calls n = some (.queued id)) (mutex m b : ℕ) :
    s.holder b = some m ↔
      ∃ id', Function.update s.calls n (some (.waiting id mutex)) m = some (.guard id' b) := by
  rw [h.holder m b]
  by_cases hm : m = n
  · subst hm
    simp [hn]
  · simp [hm]

/-- A call shares the mutex of its instance while that is in use. -/
theorem Inv.share (h : s.Inv) (hn : s.calls n = some (.queued id))
    (hmap : s.registry.locks id = some a) (halive : 0 < s.registry.mutexes.strong a) :
    Inv { s with
      registry := ⟨s.registry.retain.locks, s.registry.mutexes.clone a⟩
      calls := Function.update s.calls n (some (.waiting id a)) } := by
  refine ⟨?_, fun m id' b huses => ?_, fun m b => h.holder_waiting hn a m b, ?_, ?_⟩
  · rw [points_update]
    exact h.counts.clone (points_queued hn) (h.allocated id a hmap)
  · by_cases hm : m = n
    · subst hm
      obtain ⟨rfl, rfl⟩ : id = id' ∧ a = b := by simpa [Uses] using huses
      exact InstanceLifecycleLocks.retain_eq_some.mpr ⟨hmap, halive⟩
    · exact h.retained ((uses_of_ne hm).mp huses)
  · intro i j b hi hj
    exact h.apart i j b (InstanceLifecycleLocks.retain_eq_some.mp hi).1
      (InstanceLifecycleLocks.retain_eq_some.mp hj).1
  · intro i b hi
    exact h.allocated i b (InstanceLifecycleLocks.retain_eq_some.mp hi).1

/-- A call gets a new mutex if the one of its instance is not in use. -/
theorem Inv.create (h : s.Inv) (hn : s.calls n = some (.queued id))
    (hdead : ∀ a, s.registry.locks id = some a → s.registry.mutexes.strong a = 0) :
    Inv { s with
      registry := ⟨Function.update s.registry.retain.locks id (some s.registry.mutexes.next),
        s.registry.mutexes.new.2⟩
      calls := Function.update s.calls n (some (.waiting id s.registry.mutexes.next)) } := by
  have hold : ∀ i b, s.registry.retain.locks i = some b → b < s.registry.mutexes.next :=
    fun i b hi => h.allocated i b (InstanceLifecycleLocks.retain_eq_some.mp hi).1
  have hcases : ∀ i b, Function.update s.registry.retain.locks id (some s.registry.mutexes.next) i =
      some b → (i = id ∧ b = s.registry.mutexes.next) ∨ s.registry.retain.locks i = some b := by
    intro i b hi
    by_cases hid : i = id
    · subst hid
      rw [Function.update_self] at hi
      exact .inl ⟨rfl, (Option.some.inj hi).symm⟩
    · rw [Function.update_of_ne hid] at hi
      exact .inr hi
  refine ⟨?_, fun m id' b huses => ?_, fun m b => h.holder_waiting hn _ m b, ?_, ?_⟩
  · rw [points_update]
    exact h.counts.new (points_queued hn)
  · by_cases hm : m = n
    · subst hm
      obtain ⟨rfl, rfl⟩ : id = id' ∧ s.registry.mutexes.next = b := by simpa [Uses] using huses
      exact Function.update_self ..
    · have huses' := (uses_of_ne hm).mp huses
      have hid : id' ≠ id := by
        rintro rfl
        exact absurd (hdead b (h.mapped m id' b huses')) (h.alive huses').ne'
      show Function.update s.registry.retain.locks id _ id' = some b
      rw [Function.update_of_ne hid]
      exact h.retained huses'
  · intro i j b hi hj
    rcases hcases i b hi with ⟨hi, hb⟩ | hi' <;> rcases hcases j b hj with ⟨hj, hb'⟩ | hj'
    · rw [hi, hj]
    · exact absurd (hold j b hj') (hb ▸ lt_irrefl _)
    · exact absurd (hold i b hi') (hb' ▸ lt_irrefl _)
    · exact h.apart i j b (InstanceLifecycleLocks.retain_eq_some.mp hi').1
        (InstanceLifecycleLocks.retain_eq_some.mp hj').1
  · intro i b hi
    rcases hcases i b hi with ⟨-, rfl⟩ | hi
    · exact Nat.lt_succ_self _
    · exact (hold i b hi).trans (Nat.lt_succ_self _)

theorem Inv.register (h : s.Inv) (hn : s.calls n = some (.queued id)) :
    Inv { s with
      registry := (s.registry.lock id).2
      calls := Function.update s.calls n (some (.waiting id (s.registry.lock id).1)) } := by
  rcases s.registry.lock_cases id with ⟨a, hmap, halive, heq⟩ | ⟨hdead, heq⟩
  · rw [heq]
    exact h.share hn hmap halive
  · rw [heq]
    exact h.create hn hdead

theorem Inv.acquire (h : s.Inv) (hn : s.calls n = some (.waiting id a)) (ha : s.holder a = none) :
    Inv { s with
      holder := Function.update s.holder a (some n)
      calls := Function.update s.calls n (some (.guard id a)) } := by
  have hcalls : ∀ m id' b, Uses { s with
      holder := Function.update s.holder a (some n)
      calls := Function.update s.calls n (some (.guard id a)) } m id' b → s.Uses m id' b := by
    intro m id' b huses
    by_cases hm : m = n
    · subst hm
      obtain ⟨rfl, rfl⟩ : id = id' ∧ a = b := by simpa [Uses] using huses
      exact .inl hn
    · exact (uses_of_ne hm).mp huses
  refine ⟨?_, fun m id' b huses => h.mapped m id' b (hcalls m id' b huses), fun m b => ?_, h.apart,
    h.allocated⟩
  · have hpoints : s.points n = some a := by simp [points, hn, LockCall.mutex]
    rw [points_update, show (some (LockCall.guard id a)).bind LockCall.mutex =
      some a from rfl, ← hpoints,
      Function.update_eq_self]
    exact h.counts
  · have hnone : ∀ id', s.calls m ≠ some (.guard id' a) := by
      intro id' hguard
      exact absurd (ha.symm.trans ((h.holder m a).mpr ⟨id', hguard⟩)) (by simp)
    by_cases hm : m = n <;> by_cases hb : b = a
    · subst hm hb
      simp
    · subst hm
      simp only [Function.update_of_ne hb, h.holder, hn, Function.update_self]
      simp [Ne.symm hb]
    · subst hb
      simp only [Function.update_self, Function.update_of_ne hm]
      simp [Ne.symm hm, hnone]
    · simp only [Function.update_of_ne hb, Function.update_of_ne hm, h.holder]

theorem Inv.drop (h : s.Inv) (hn : s.calls n = some (.guard id a)) :
    (LockState.leave { s with holder := Function.update s.holder a none } n a).Inv := by
  have hholder : s.holder a = some n := (h.holder n a).mpr ⟨id, hn⟩
  refine h.leave (by simp [points, hn, LockCall.mutex]) (fun m b hm => ?_) fun b => ?_
  · by_cases hb : b = a
    · subst hb
      simp [hholder, Ne.symm hm]
    · rw [Function.update_of_ne hb]
  · by_cases hb : b = a
    · subst hb
      simp
    · rw [Function.update_of_ne hb]
      intro hholds
      obtain ⟨id', hguard⟩ := (h.holder n b).mp hholds
      rw [hn] at hguard
      simp [Ne.symm hb] at hguard

theorem step_call {s' : LockState} : s.step (.call n id) = some s' ↔ s.calls n = none ∧
    s' = { s with calls := Function.update s.calls n (some (.queued id)) } := by
  simp [LockState.step, eq_comm]

theorem step_register {s' : LockState} : s.step (.register n) = some s' ↔
    ∃ id, s.calls n = some (.queued id) ∧ s' = { s with
      registry := (s.registry.lock id).2
      calls := Function.update s.calls n (some (.waiting id (s.registry.lock id).1)) } := by
  rcases hn : s.calls n with _ | (id | _ | _) <;> simp [LockState.step, hn, eq_comm]

theorem step_acquire {s' : LockState} : s.step (.acquire n) = some s' ↔
    ∃ id a, s.calls n = some (.waiting id a) ∧ s.holder a = none ∧ s' = { s with
      holder := Function.update s.holder a (some n)
      calls := Function.update s.calls n (some (.guard id a)) } := by
  rcases hn : s.calls n with _ | (_ | ⟨id, a⟩ | _) <;> simp [LockState.step, hn, eq_comm]

theorem step_cancel {s' : LockState} : s.step (.cancel n) = some s' ↔
    (∃ id, s.calls n = some (.queued id) ∧ s' =
      { s with calls := Function.update s.calls n none }) ∨
    ∃ id a, s.calls n = some (.waiting id a) ∧ s' = s.leave n a := by
  rcases hn : s.calls n with _ | (_ | ⟨id, a⟩ | _) <;> simp [LockState.step, hn, eq_comm]

theorem step_drop {s' : LockState} : s.step (.drop n) = some s' ↔
    ∃ id a, s.calls n = some (.guard id a) ∧
      s' = LockState.leave { s with holder := Function.update s.holder a none } n a := by
  rcases hn : s.calls n with _ | (_ | _ | ⟨id, a⟩) <;> simp [LockState.step, hn, eq_comm]

/-- Whatever a call or the runtime does, the registry stays consistent. -/
theorem Inv.step (h : s.Inv) {action : Action} {s' : LockState} (hstep : s.step action = some s') :
    s'.Inv := by
  cases action with
  | call n id =>
    obtain ⟨hn, rfl⟩ := step_call.mp hstep
    exact h.idle (by simp [points, hn]) rfl
  | register n =>
    obtain ⟨id, hn, rfl⟩ := step_register.mp hstep
    exact h.register hn
  | acquire n =>
    obtain ⟨id, a, hn, ha, rfl⟩ := step_acquire.mp hstep
    exact h.acquire hn ha
  | cancel n =>
    rcases step_cancel.mp hstep with ⟨id, hn, rfl⟩ | ⟨id, a, hn, rfl⟩
    · exact h.idle (by simp [points, hn, LockCall.mutex]) rfl
    · refine h.leave (by simp [points, hn, LockCall.mutex])
        (fun _ _ _ => Iff.rfl) fun b hholds => ?_
      obtain ⟨id', hguard⟩ := (h.holder n b).mp hholds
      simp [hn] at hguard
  | drop n =>
    obtain ⟨id, a, hn, rfl⟩ := step_drop.mp hstep
    exact h.drop hn

/-! ## What the handlers rely on -/

/-- The instances that are locked. -/
def held (s : LockState) : Set Text := {id | ∃ n a, s.calls n = some (.guard id a)}

theorem Inv.exclusive (h : s.Inv) {b : ℕ} (hn : s.calls n = some (.guard id a))
    (hm : s.calls m = some (.guard id b)) : n = m := by
  have hab : a = b := Option.some.inj
    ((h.mapped n id a (.inr hn)).symm.trans (h.mapped m id b (.inr hm)))
  subst hab
  exact Option.some.inj (((h.holder n a).mpr ⟨id, hn⟩).symm.trans ((h.holder m a).mpr ⟨id, hm⟩))

/-- A call that cannot take its mutex yet waits for a guard of the same instance. -/
theorem Inv.excluded (h : s.Inv) (hn : s.calls n = some (.waiting id a))
    (hstep : s.step (.acquire n) = none) : ∃ m, s.calls m = some (.guard id a) := by
  cases hholder : s.holder a with
  | none => simp [LockState.step, hn, hholder] at hstep
  | some m =>
    obtain ⟨id', hm⟩ := (h.holder m a).mp hholder
    obtain rfl := h.apart id id' a (h.mapped n id a (.inl hn)) (h.mapped m id' a (.inr hm))
    exact ⟨m, hm⟩

theorem held_acquire {holder : ℕ → Option ℕ} (hn : s.calls n = some (.waiting id a)) :
    held ⟨s.registry, holder, Function.update s.calls n (some (.guard id a))⟩ =
      insert id s.held := by
  ext i
  constructor
  · rintro ⟨m, b, hm⟩
    by_cases heq : m = n
    · subst heq
      simp only [Function.update_self, Option.some.injEq, LockCall.guard.injEq] at hm
      exact .inl hm.1.symm
    · exact .inr ⟨m, b, by simpa [heq] using hm⟩
  · rintro (rfl | ⟨m, b, hm⟩)
    · exact ⟨n, a, by simp⟩
    · have hne : m ≠ n := by
        rintro rfl
        simp [hn] at hm
      exact ⟨m, b, by simpa [hne] using hm⟩

theorem Inv.held_drop (h : s.Inv) (hn : s.calls n = some (.guard id a)) {holder : ℕ → Option ℕ} :
    (LockState.leave { s with holder := holder } n a).held = s.held \ {id} := by
  ext i
  constructor
  · rintro ⟨m, b, hm⟩
    have hne : m ≠ n := by
      rintro rfl
      simp [LockState.leave] at hm
    have hold : s.calls m = some (.guard i b) := by simpa [LockState.leave, hne] using hm
    refine ⟨⟨m, b, hold⟩, ?_⟩
    rintro rfl
    exact hne (h.exclusive hold hn)
  · rintro ⟨⟨m, b, hm⟩, hi⟩
    have hne : m ≠ n := by
      rintro rfl
      rw [hn] at hm
      simp only [Option.some.injEq, LockCall.guard.injEq] at hm
      exact hi hm.1.symm
    exact ⟨m, b, by simpa [LockState.leave, hne] using hm⟩

/-- The registry does to the locked instances what the handlers say with `lock` and `unlock`. -/
theorem Inv.refines (h : s.Inv) {action : Action} {s' : LockState} (hstep : s.step action = some s')
    (json : JsonCodec) (f : Faults) {t : System} (ht : t.locks = s.held) :
    match action with
    | .acquire _ => ∃ id, act json f t (.lock id) () { t with locks := s'.held }
    | .drop _ => ∃ id, act json f t (.unlock id) () { t with locks := s'.held }
    | _ => s'.held = s.held := by
  have hsame : ∀ {registry : InstanceLifecycleLocks} {c : Option LockCall} {n : ℕ},
      (∀ id a, s.calls n ≠ some (.guard id a)) → (∀ id a, c ≠ some (.guard id a)) →
      held ⟨registry, s.holder, Function.update s.calls n c⟩ = s.held := by
    intro registry c n hn hc
    ext id
    refine exists_congr fun m => exists_congr fun a => ?_
    by_cases hm : m = n
    · subst hm
      simp [hn, hc]
    · simp [hm]
  cases action with
  | call n id =>
    obtain ⟨hn, rfl⟩ := step_call.mp hstep
    exact hsame (by simp [hn]) (by simp)
  | register n =>
    obtain ⟨id, hn, rfl⟩ := step_register.mp hstep
    exact hsame (by simp [hn]) (by simp)
  | cancel n =>
    rcases step_cancel.mp hstep with ⟨id, hn, rfl⟩ | ⟨id, a, hn, rfl⟩
    · exact hsame (by simp [hn]) (by simp)
    · exact hsame (by simp [hn]) (by simp)
  | acquire n =>
    obtain ⟨id, a, hn, ha, rfl⟩ := step_acquire.mp hstep
    have hfree : id ∉ s.held := by
      rintro ⟨m, b, hm⟩
      obtain rfl := Option.some.inj
        ((h.mapped n id a (.inl hn)).symm.trans (h.mapped m id b (.inr hm)))
      exact absurd (ha.symm.trans ((h.holder m a).mpr ⟨id, hm⟩)) (by simp)
    refine ⟨id, ht ▸ hfree, ?_⟩
    rw [ht, held_acquire hn]
  | drop n =>
    obtain ⟨id, a, hn, rfl⟩ := step_drop.mp hstep
    refine ⟨id, ?_⟩
    rw [h.held_drop hn, ← ht]
    rfl

/-! ## Every interleaving -/

/-- What holds after a step of the calls or the runtime. -/
structure RegistryCorrect (s : LockState) (action : Action) (s' : LockState) : Prop where
  -- at most one guard is held for each instance
  exclusive : ∀ n m id a b, s'.calls n = some (.guard id a) → s'.calls m =
    some (.guard id b) → n = m
  -- a call that has to wait is excluded by a guard of its own instance, and mutexes are not shared
  excluded : ∀ n id a, s'.calls n = some (.waiting id a) → s'.step (.acquire n) = none →
    ∃ m, s'.calls m = some (.guard id a)
  separate : ∀ n m id id' a, s'.Uses n id a → s'.Uses m id' a → id = id'
  -- guards and waiters have the mutex that is in the map, and it is alive
  mapped : ∀ n id a, s'.Uses n id a → s'.registry.locks id = some a ∧ 0 <
    s'.registry.mutexes.strong a
  -- what is left in the map was in use, but for the mutex that the call has just made
  pruned : ∀ n, action = .register n → ∀ id a, s'.registry.locks id = some a →
    (∃ m, s.Uses m id a) ∨ (s'.calls n = some (.waiting id a) ∧ a = s.registry.mutexes.next)

theorem Inv.pruned (h : s.Inv) {s' : LockState} (hstep : s.step (.register n) = some s')
    {i : Text} {b : ℕ} (hi : s'.registry.locks i = some b) :
    (∃ m, s.Uses m i b) ∨ (s'.calls n = some (.waiting i b) ∧ b = s.registry.mutexes.next) := by
  have hused : s.registry.retain.locks i = some b → ∃ m, s.Uses m i b := by
    intro hretained
    obtain ⟨hmap, halive⟩ := InstanceLifecycleLocks.retain_eq_some.mp hretained
    obtain ⟨m, hm⟩ := h.counts.alive_iff.mp halive
    obtain ⟨j, huses⟩ := points_eq_some.mp hm
    obtain rfl := h.apart i j b hmap (h.mapped m j b huses)
    exact ⟨m, huses⟩
  obtain ⟨id, hn, rfl⟩ := step_register.mp hstep
  rcases s.registry.lock_cases id with ⟨a, -, -, heq⟩ | ⟨-, heq⟩
  · rw [heq] at hi
    exact .inl (hused hi)
  · rw [heq] at hi ⊢
    change Function.update s.registry.retain.locks id (some s.registry.mutexes.next)
      i = some b at hi
    by_cases hid : i = id
    · subst hid
      rw [Function.update_self] at hi
      obtain rfl := Option.some.inj hi
      exact .inr ⟨Function.update_self .., rfl⟩
    · rw [Function.update_of_ne hid] at hi
      exact .inl (hused hi)

theorem Inv.correct (h : s.Inv) {action : Action} {s' : LockState}
    (hstep : s.step action = some s') : RegistryCorrect s action s' := by
  have h' := h.step hstep
  refine ⟨fun _ _ _ _ _ hn hm => h'.exclusive hn hm, fun _ _ _ hn hnone => h'.excluded hn hnone, ?_,
    fun n id a huses => ⟨h'.mapped n id a huses, h'.alive huses⟩, ?_⟩
  · intro n m id id' a hn hm
    exact h'.apart id id' a (h'.mapped n id a hn) (h'.mapped m id' a hm)
  · rintro n rfl id a hmap
    exact h.pruned hstep hmap

end Step

/-- In every interleaving of calls, acquisitions, cancellations and dropped guards, the registry
gives out one live mutex for each instance, and one guard of it at a time. -/
theorem registryCorrect_of_path {run : List (Action × LockState)}
    (h : Path (fun s action s' => s.step action = some s') start run) :
    EveryStep RegistryCorrect start run := by
  have hstep : ∀ s action s', s.Inv → s.step action = some s' → s'.Inv ∧
      RegistryCorrect s action s' :=
    fun _ _ _ hinv hstep => ⟨hinv.step hstep, hinv.correct hstep⟩
  exact h.everyStep hstep inv_start

/-- One call has the guard of an instance and another waits for it. -/
theorem registryCorrect_waiting :
    ∃ run, Path (fun s action s' => s.step action = some s') start run ∧
    run.map Prod.fst = [.call 0 "sim-1", .register 0, .acquire 0, .call 1 "sim-1", .register 1] ∧
    EveryStep RegistryCorrect start run := by
  have hrun : Path (fun s action s' => s.step action = some s') start _ :=
    .cons (l := .call 0 "sim-1") (step_call.mpr ⟨rfl, rfl⟩)
      (.cons (l := .register 0) (step_register.mpr ⟨"sim-1", rfl, rfl⟩)
      (.cons (l := .acquire 0) (step_acquire.mpr ⟨"sim-1", 0, rfl, rfl, rfl⟩)
      (.cons (l := .call 1 "sim-1") (step_call.mpr ⟨rfl, rfl⟩)
      (.cons (l := .register 1) (step_register.mpr ⟨"sim-1", rfl, rfl⟩) .nil))))
  exact ⟨_, hrun, rfl, registryCorrect_of_path hrun⟩

end LockState

end ProtocolSimulation.Service
