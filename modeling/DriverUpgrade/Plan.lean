import DriverUpgrade.Basic

/-! Plans: a pass as the straight-line list of steps it takes when every call succeeds, and
`execute`, which runs such a list against the collaborators' answers. `Realizes x p v` says the
`Pass` program `x` behaves as `execute` on `p` and returns `v`; the processors of `Manager` are
shown to realize their plans, so everything about faults is proved once, here, on lists. -/
namespace DriverUpgrade

inductive Step where
  /-- A call whose error ends the pass. -/
  | call (c : Call)
  /-- A call whose error is dropped. -/
  | ignore (c : Call)
  /-- The pass returns an error found without a call. -/
  | fail (err : Error)
  | setDrainSpec (d : DrainSpec)
  deriving DecidableEq, Repr

def execute (φ : Faults) : List Step → Effects → Option Error × Effects
  | [], e => (none, e)
  | .call c :: rest, e =>
    match φ e.log.length with
    | none => execute φ rest (e.record c none)
    | some err => (some err, e.record c (some err))
  | .ignore c :: rest, e => execute φ rest (e.record c (φ e.log.length))
  | .fail err :: _, e => (some err, e)
  | .setDrainSpec d :: rest, e => execute φ rest { e with drainSpec := some d }

/-- The calls of a plan when every call succeeds: those before its first `fail`. -/
def planCalls : List Step → List Call
  | [] => []
  | .call c :: rest | .ignore c :: rest => c :: planCalls rest
  | .fail _ :: _ => []
  | .setDrainSpec _ :: rest => planCalls rest

/-- The error a plan ends with when every call succeeds. -/
def planResult : List Step → Option Error
  | [] => none
  | .call _ :: rest | .ignore _ :: rest | .setDrainSpec _ :: rest => planResult rest
  | .fail err :: _ => some err

def liftOutcome (v : α) : Option Error × Effects → Except Error α × Effects
  | (none, e) => (.ok v, e)
  | (some err, e) => (.error err, e)

@[simp] theorem liftOutcome_snd (v : α) (r : Option Error × Effects) :
    (liftOutcome v r).2 = r.2 := by
  rcases r with ⟨_ | _, _⟩ <;> rfl

theorem liftOutcome_fst (v : α) (r : Option Error × Effects) :
    (liftOutcome v r).1 = match r.1 with
      | none => .ok v
      | some err => .error err := by
  rcases r with ⟨_ | _, _⟩ <;> rfl

def Realizes (x : Pass α) (p : List Step) (v : α) : Prop :=
  ∀ φ e, x φ e = liftOutcome v (execute φ p e)

theorem execute_append (φ : Faults) (p q : List Step) (e : Effects) :
    execute φ (p ++ q) e = match execute φ p e with
      | (none, e') => execute φ q e'
      | r => r := by
  induction p generalizing e with
  | nil => rfl
  | cons s p ih =>
    cases s with
    | call c => cases h : φ e.log.length <;> simp [execute, h, ih]
    | ignore c => simp [execute, ih]
    | fail err => rfl
    | setDrainSpec d => simp [execute, ih]

@[simp] theorem noFaults_apply (i : Nat) : noFaults i = none := rfl

/-- When every call succeeds a plan issues `planCalls` and ends with `planResult`. -/
theorem execute_noFaults (p : List Step) (e : Effects) :
    (execute noFaults p e).1 = planResult p ∧
      (execute noFaults p e).2.log = e.log ++ (planCalls p).map (·, none) := by
  induction p generalizing e with
  | nil => simp [execute, planCalls, planResult]
  | cons s p ih =>
    cases s with
    | call c | ignore c => simp [execute, planCalls, planResult, ih]
    | fail err => simp [execute, planCalls, planResult]
    | setDrainSpec d => simp [execute, planCalls, planResult, ih]

/-- `dropped` tells exactly the calls whose errors the plan drops. -/
def TaggedBy (dropped : Call → Bool) (p : List Step) : Prop :=
  ∀ s ∈ p, match s with
    | .call c => dropped c = false
    | .ignore c => dropped c = true
    | _ => True

theorem TaggedBy.tail {dropped : Call → Bool} {s : Step} {p : List Step}
    (h : TaggedBy dropped (s :: p)) : TaggedBy dropped p :=
  fun t ht => h t (List.mem_cons_of_mem s ht)

/-- The index and the error of the first call of `calls`, the first numbered `i`, that `φ`
fails and whose error is not dropped. -/
def firstAbort (dropped : Call → Bool) (φ : Faults) : List Call → Nat → Option (Nat × Error)
  | [], _ => none
  | c :: rest, i =>
    match φ i with
    | some err => if dropped c then firstAbort dropped φ rest (i + 1) else some (i, err)
    | none => firstAbort dropped φ rest (i + 1)

theorem firstAbort_ge {dropped : Call → Bool} {φ : Faults} {calls : List Call} {i j : Nat}
    {err : Error} (h : firstAbort dropped φ calls i = some (j, err)) : i ≤ j := by
  induction calls generalizing i with
  | nil => simp [firstAbort] at h
  | cons c rest ih =>
    simp only [firstAbort] at h
    split at h
    · split at h
      · exact Nat.le_of_succ_le (ih h)
      · cases h; exact le_rfl
    · exact Nat.le_of_succ_le (ih h)

/-- A run against `φ` in which no call with an error that is not dropped fails issues every
fault-free call and ends as the fault-free run does. -/
theorem execute_of_firstAbort_none {dropped : Call → Bool} {p : List Step}
    (hp : TaggedBy dropped p) {φ : Faults} {e : Effects}
    (h : firstAbort dropped φ (planCalls p) e.log.length = none) :
    (execute φ p e).1 = planResult p ∧
      (execute φ p e).2.log.map Prod.fst = e.log.map Prod.fst ++ planCalls p := by
  induction p generalizing e with
  | nil => simp [planCalls, execute, planResult]
  | cons s p ih =>
    have hs := hp s (List.mem_cons_self s p)
    cases s with
    | call c =>
      simp only at hs
      simp only [planCalls, firstAbort] at h
      cases hφ : φ e.log.length with
      | none =>
        rw [hφ] at h
        have := ih hp.tail (e := e.record c none) (by simpa using h)
        simpa [execute, hφ, planResult] using this
      | some err => simp [hφ, hs] at h
    | ignore c =>
      simp only at hs
      simp only [planCalls, firstAbort] at h
      have h' : firstAbort dropped φ (planCalls p) (e.log.length + 1) = none := by
        cases hφ : φ e.log.length <;> simpa [hφ, hs] using h
      have := ih hp.tail (e := e.record c (φ e.log.length)) (by simpa using h')
      simpa [execute, planResult] using this
    | fail err => simp [planCalls, execute, planResult]
    | setDrainSpec d =>
      simpa [execute, planResult, planCalls] using
        ih hp.tail (e := { e with drainSpec := some d }) h

/-- A run against `φ` issues the fault-free calls up to and including the first failing call
whose error is not dropped, and returns that error. -/
theorem execute_of_firstAbort_some {dropped : Call → Bool} {p : List Step}
    (hp : TaggedBy dropped p) {φ : Faults} {e : Effects} {i : Nat} {err : Error}
    (h : firstAbort dropped φ (planCalls p) e.log.length = some (i, err)) :
    (execute φ p e).1 = some err ∧ (execute φ p e).2.log.map Prod.fst =
      e.log.map Prod.fst ++ (planCalls p).take (i + 1 - e.log.length) := by
  induction p generalizing e with
  | nil => simp [planCalls, firstAbort] at h
  | cons s p ih =>
    have hs := hp s (List.mem_cons_self s p)
    /- after a call that does not abort, the rest of the plan runs from one index further -/
    have next : ∀ c r, firstAbort dropped φ (planCalls p) (e.log.length + 1) = some (i, err) →
        (execute φ p (e.record c r)).1 = some err ∧
          (execute φ p (e.record c r)).2.log.map Prod.fst =
          e.log.map Prod.fst ++ (c :: planCalls p).take (i + 1 - e.log.length) := by
      intro c r hr
      have hge := firstAbort_ge hr
      have hk : i + 1 - e.log.length = (i + 1 - (e.log.length + 1)) + 1 := by omega
      have := ih hp.tail (e := e.record c r) (by simpa using hr)
      simpa [hk] using this
    cases s with
    | call c =>
      simp only at hs
      simp only [planCalls, firstAbort] at h ⊢
      cases hφ : φ e.log.length with
      | none => rw [hφ] at h; simpa [execute, hφ] using next c none h
      | some err' => simp [hφ, hs] at h; obtain ⟨rfl, rfl⟩ := h; simp [execute, hφ]
    | ignore c =>
      simp only at hs
      simp only [planCalls, firstAbort] at h ⊢
      have h' : firstAbort dropped φ (planCalls p) (e.log.length + 1) = some (i, err) := by
        cases hφ : φ e.log.length <;> simpa [hφ, hs] using h
      simpa [execute] using next c _ h'
    | fail err => simp [planCalls, firstAbort] at h
    | setDrainSpec d =>
      simpa [execute, planCalls] using ih hp.tail (e := { e with drainSpec := some d }) h

/-- The log of a run against `φ`: fault-free calls, each answered with success or with an error
that is dropped, except possibly the last. -/
theorem execute_log {dropped : Call → Bool} {p : List Step} (hp : TaggedBy dropped p)
    (φ : Faults) (e : Effects) :
    ∃ A B, (execute φ p e).2.log = e.log ++ (A ++ B) ∧
      (A ++ B).map Prod.fst <+: planCalls p ∧
      B.length ≤ 1 ∧ ∀ x ∈ A, x.2 = none ∨ dropped x.1 = true := by
  induction p generalizing e with
  | nil => exact ⟨[], [], by simp [execute], by simp, by simp, by simp⟩
  | cons s p ih =>
    have hs := hp s (List.mem_cons_self s p)
    cases s with
    | call c =>
      cases hφ : φ e.log.length with
      | none =>
        obtain ⟨A, B, hlog, hpre, hB, hA⟩ := ih hp.tail (e.record c none)
        refine ⟨(c, none) :: A, B, by simp [execute, hφ, hlog], ?_, hB, ?_⟩
        · simpa [planCalls] using hpre
        · simpa using hA
      | some err =>
        exact ⟨[], [(c, some err)], by simp [execute, hφ], by simp [planCalls], by simp,
          by simp⟩
    | ignore c =>
      obtain ⟨A, B, hlog, hpre, hB, hA⟩ := ih hp.tail (e.record c (φ e.log.length))
      refine ⟨(c, φ e.log.length) :: A, B, by simp [execute, hlog], ?_, hB, ?_⟩
      · simpa [planCalls] using hpre
      · simpa [hs] using hA
    | fail err => exact ⟨[], [], by simp [execute], by simp, by simp, by simp⟩
    | setDrainSpec d =>
      obtain ⟨A, B, hlog, hpre, hB, hA⟩ := ih hp.tail { e with drainSpec := some d }
      exact ⟨A, B, by simpa [execute] using hlog, by simpa [planCalls] using hpre, hB, hA⟩

@[simp] theorem planCalls_map_call (l : List α) (f : α → Call) :
    planCalls (l.map fun x => .call (f x)) = l.map f := by
  induction l with
  | nil => rfl
  | cons x l ih => simp [planCalls, ih]

@[simp] theorem planResult_map_call (l : List α) (f : α → Call) :
    planResult (l.map fun x => .call (f x)) = none := by
  induction l with
  | nil => rfl
  | cons x l ih => simp [planResult, ih]

theorem planCalls_append {p : List Step} (h : planResult p = none) (q : List Step) :
    planCalls (p ++ q) = planCalls p ++ planCalls q := by
  induction p with
  | nil => rfl
  | cons s p ih => cases s <;> simp_all [planCalls, planResult]

theorem planResult_append {p : List Step} (h : planResult p = none) (q : List Step) :
    planResult (p ++ q) = planResult q := by
  induction p with
  | nil => rfl
  | cons s p ih => cases s <;> simp_all [planResult]

theorem planCalls_flatMap {l : List α} {f : α → List Step}
    (h : ∀ x ∈ l, planResult (f x) = none) :
    planCalls (l.flatMap f) = l.flatMap (fun x => planCalls (f x)) ∧
      planResult (l.flatMap f) = none := by
  induction l with
  | nil => simp [planCalls, planResult]
  | cons x l ih =>
    have hx := h x (List.mem_cons_self x l)
    obtain ⟨ih1, ih2⟩ := ih fun y hy => h y (List.mem_cons_of_mem x hy)
    simp [List.flatMap_cons, planCalls_append hx, planResult_append hx, ih1, ih2]

/-- The calls of a run are a prefix of the plan's fault-free calls. -/
theorem execute_calls_prefix (φ : Faults) (p : List Step) (e : Effects) :
    ∃ l, l <+: planCalls p ∧ (execute φ p e).2.log.map Prod.fst = e.log.map Prod.fst ++ l := by
  induction p generalizing e with
  | nil => exact ⟨[], by simp, by simp [execute]⟩
  | cons s p ih =>
    cases s with
    | call c =>
      cases hφ : φ e.log.length with
      | none =>
        obtain ⟨l, hl, he⟩ := ih (e.record c none)
        exact ⟨c :: l, by simpa [planCalls] using hl, by simp [execute, hφ, he]⟩
      | some err => exact ⟨[c], by simp [planCalls], by simp [execute, hφ]⟩
    | ignore c =>
      obtain ⟨l, hl, he⟩ := ih (e.record c (φ e.log.length))
      exact ⟨c :: l, by simpa [planCalls] using hl, by simp [execute, he]⟩
    | fail err => exact ⟨[], by simp, by simp [execute]⟩
    | setDrainSpec d =>
      obtain ⟨l, hl, he⟩ := ih { e with drainSpec := some d }
      exact ⟨l, by simpa [planCalls] using hl, by simpa [execute] using he⟩

namespace Realizes

variable {x : Pass α} {p q : List Step} {v : α}

theorem pure (v : α) : Realizes (Pure.pure v : Pass α) [] v := fun _ _ => rfl

theorem fail (err : Error) (q : List Step) :
    Realizes (Pass.fail err : Pass α) (.fail err :: q) v :=
  fun _ _ => rfl

theorem bind {f : α → Pass β} {w : β} (hx : Realizes x p v) (hf : Realizes (f v) q w) :
    Realizes (x >>= f) (p ++ q) w := by
  intro φ e
  rw [Pass.bind_apply, hx, execute_append]
  rcases execute φ p e with ⟨_ | err, e'⟩
  · exact hf φ e'
  · rfl

theorem invoke_bind {f : Unit → Pass β} {w : β} (c : Call) (hf : Realizes (f ()) q w) :
    Realizes (invoke c >>= f) (.call c :: q) w := by
  intro φ e
  cases h : φ e.log.length
  · simp [invoke, Pass.bind_apply, check, execute, h, hf φ _]
  · simp [invoke, Pass.bind_apply, check, execute, h]
    rfl

theorem invoke (c : Call) : Realizes (DriverUpgrade.invoke c) [.call c] () := by
  intro φ e
  cases h : φ e.log.length <;>
    simp [DriverUpgrade.invoke, Pass.bind_apply, check, execute, h] <;> rfl

theorem discard_bind {f : Unit → Pass β} {w : β} (c : Call) (hf : Realizes (f ()) q w) :
    Realizes (discard c >>= f) (.ignore c :: q) w := by
  intro φ e
  simp [discard, Pass.bind_apply, execute, hf φ _]

/-- The shape `err := call(); if err == nil { ... } else { return err }`. -/
theorem attempt_match {k : Pass β} {w : β} (c : Call) (hk : Realizes k q w) :
    Realizes (attempt c >>= fun r => match r with
      | none => k
      | some err => Pass.fail err) (.call c :: q) w := by
  intro φ e
  cases h : φ e.log.length
  · simp [Pass.bind_apply, execute, h, hk φ _]
  · simp [Pass.bind_apply, execute, h]
    rfl

theorem writeDrainSpec_bind {f : Unit → Pass β} {w : β} (d : DrainSpec)
    (hf : Realizes (f ()) q w) : Realizes (writeDrainSpec d >>= f) (.setDrainSpec d :: q) w := by
  intro φ e
  simp [Pass.bind_apply, execute, hf φ _]

theorem pure_bind {f : Unit → Pass β} {w : β} (hf : Realizes (f ()) q w) :
    Realizes ((Pure.pure () : Pass Unit) >>= f) q w := hf

theorem noFaults_log (h : Realizes x p v) (e : Effects) :
    (x noFaults e).2.log = e.log ++ (planCalls p).map (·, none) := by
  rw [h, liftOutcome_snd, (execute_noFaults p e).2]

theorem noFaults_result (h : Realizes x p v) (hp : planResult p = none) (e : Effects) :
    (x noFaults e).1 = .ok v := by
  rw [h, liftOutcome_fst, (execute_noFaults p e).1, hp]

theorem calls_prefix (h : Realizes x p v) (φ : Faults) (e : Effects) :
    ∃ l, l <+: planCalls p ∧ (x φ e).2.log.map Prod.fst = e.log.map Prod.fst ++ l := by
  rw [h, liftOutcome_snd]
  exact execute_calls_prefix φ p e

end Realizes

end DriverUpgrade
