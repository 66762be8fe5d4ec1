import RpiHealth.Library.Machine

/-! Two machines of different detail, and how long a machine can keep going. A step
of the detailed one is matched by any number of steps of the other, from the states
that are reached only. -/
namespace Machines

variable {S : Type u} {I : Type v} {O : Type w} {T : Type a} {K : Type b} {E : Type c}

namespace Machine

theorem runFrom_one (m : Machine S I O) (s : S) (i : I) (emitted : List O) (t : S)
    (taken : m.step s i = some (emitted, t)) : m.runFrom s [i] = some (emitted, t) := by
  simp [runFrom, taken]

theorem runFrom_append (m : Machine S I O) (s t : S) (first second : List I) (emitted : List O)
    (ran : m.runFrom s first = some (emitted, t)) :
    m.runFrom s (first ++ second) =
      (m.runFrom t second).map (fun r => (emitted ++ r.1, r.2)) := by
  induction first generalizing s emitted with
  | nil =>
    simp only [runFrom, Option.some.injEq, Prod.mk.injEq] at ran
    obtain ⟨rfl, rfl⟩ := ran
    simp
  | cons i rest ih =>
    obtain ⟨one, middle, later, taken, tail, rfl⟩ := runFrom_cons m s i rest emitted t ran
    simp only [List.cons_append, runFrom, taken, ih middle later tail, Option.map_map]
    congr 1
    funext r
    simp

/-- What holds of every input in every state holds along a run of such inputs. -/
theorem along_of_mem (m : Machine S I O) (ok : I → Prop) (inputs : List I)
    (each : ∀ i ∈ inputs, ok i) (s : S) : m.Along (fun _ i => ok i) s inputs := by
  induction inputs generalizing s with
  | nil => exact True.intro
  | cons i rest ih =>
    exact ⟨each i (by simp), fun _ t _ => ih (fun j member => each j (by simp [member])) t⟩

/-- What no step emits from where the invariant holds, no run from there emits. -/
theorem runFrom_emits (m : Machine S I O) (Inv : S → Prop) (P : O → Prop)
    (keeps : ∀ s i emitted t, Inv s → m.step s i = some (emitted, t) →
      Inv t ∧ ∀ o ∈ emitted, P o)
    (inputs : List I) (s t : S) (trace : List O) (inv : Inv s)
    (ran : m.runFrom s inputs = some (trace, t)) : Inv t ∧ ∀ o ∈ trace, P o := by
  induction inputs generalizing s trace with
  | nil =>
    simp only [runFrom, Option.some.injEq, Prod.mk.injEq] at ran
    obtain ⟨rfl, rfl⟩ := ran
    exact ⟨inv, by simp⟩
  | cons i rest ih =>
    obtain ⟨emitted, middle, later, taken, tail, rfl⟩ := runFrom_cons m s i rest trace t ran
    obtain ⟨kept, first⟩ := keeps s i emitted middle inv taken
    obtain ⟨still, others⟩ := ih middle later kept tail
    exact ⟨still, fun o member => (List.mem_append.mp member).elim (first o) (others o)⟩

/-- What every step pays for out of its state and of what it gains, a run pays for out of
its first state and of all that it gains. -/
theorem runFrom_spends (m : Machine S I O) (Inv : S → Prop) (credit : S → Nat)
    (spends gains : O → Bool)
    (steps : ∀ s i emitted t, Inv s → m.step s i = some (emitted, t) →
      Inv t ∧ emitted.countP spends + credit t ≤ credit s + emitted.countP gains)
    (inputs : List I) (s t : S) (trace : List O) (inv : Inv s)
    (ran : m.runFrom s inputs = some (trace, t)) :
    Inv t ∧ trace.countP spends + credit t ≤ credit s + trace.countP gains := by
  induction inputs generalizing s trace with
  | nil =>
    simp only [runFrom, Option.some.injEq, Prod.mk.injEq] at ran
    obtain ⟨rfl, rfl⟩ := ran
    exact ⟨inv, by simp⟩
  | cons i rest ih =>
    obtain ⟨emitted, middle, later, taken, tail, rfl⟩ := runFrom_cons m s i rest trace t ran
    obtain ⟨kept, first⟩ := steps s i emitted middle inv taken
    obtain ⟨still, others⟩ := ih middle later kept tail
    refine ⟨still, ?_⟩
    rw [List.countP_append, List.countP_append]
    omega

/-- The steps of the detailed machine are runs of the plain one, seen through the
map of the states and the part of the trace that both show. -/
structure Refines (m : Machine S I O) (plain : Machine T K E) (Inv : List O → S → Prop)
    (map : S → T) (shown : O → Option E) : Prop where
  start : map m.initial = plain.initial
  holds : Inv [] m.initial
  keeps : ∀ trace s i emitted t, Inv trace s → m.step s i = some (emitted, t) →
    Inv (trace ++ emitted) t
  matched : ∀ trace s i emitted t, Inv trace s → m.step s i = some (emitted, t) →
    ∃ inputs, plain.runFrom (map s) inputs = some (emitted.filterMap shown, map t)

theorem Refines.run {m : Machine S I O} {plain : Machine T K E} {Inv : List O → S → Prop}
    {map : S → T} {shown : O → Option E} (refines : Refines m plain Inv map shown)
    (inputs : List I) (trace : List O) (s : S) (ran : m.run inputs = some (trace, s)) :
    ∃ plainInputs, plain.run plainInputs = some (trace.filterMap shown, map s) := by
  have joint := m.invariant
    (fun trace s => Inv trace s ∧
      ∃ plainInputs, plain.run plainInputs = some (trace.filterMap shown, map s))
    ⟨refines.holds, [], by simp [Machine.run, runFrom, refines.start]⟩
    ?_ inputs trace s ran
  · exact joint.2
  · rintro trace s i emitted t ⟨inv, before, ranBefore⟩ taken
    obtain ⟨next, ranNext⟩ := refines.matched trace s i emitted t inv taken
    refine ⟨refines.keeps trace s i emitted t inv taken, before ++ next, ?_⟩
    rw [Machine.run, runFrom_append plain _ _ before next _ ranBefore, ranNext]
    simp

/-- A rank that the machine's own inputs lower and no other input raises. -/
structure Ranked (m : Machine S I O) (Inv : S → Prop) (own : I → Bool) (rank : S → Nat) :
    Prop where
  keeps : ∀ s i emitted t, Inv s → m.step s i = some (emitted, t) → Inv t
  lowers : ∀ s i emitted t, Inv s → m.step s i = some (emitted, t) → own i = true →
    rank t < rank s
  others : ∀ s i emitted t, Inv s → m.step s i = some (emitted, t) → own i = false →
    rank t ≤ rank s

namespace Ranked

variable {m : Machine S I O} {Inv : S → Prop} {own : I → Bool} {rank : S → Nat}

theorem step (ranked : Ranked m Inv own rank) (s t : S) (i : I) (emitted : List O)
    (inv : Inv s) (taken : m.step s i = some (emitted, t)) :
    (if own i then 1 else 0) + rank t ≤ rank s := by
  cases mine : own i with
  | true =>
    have := ranked.lowers s i emitted t inv taken mine
    simp only [if_true]
    omega
  | false =>
    have := ranked.others s i emitted t inv taken mine
    simpa using this

/-- Under every interleaving the own inputs are no more than the rank allows. -/
theorem bounded (ranked : Ranked m Inv own rank) (inputs : List I) (s t : S) (trace : List O)
    (inv : Inv s) (ran : m.runFrom s inputs = some (trace, t)) :
    Inv t ∧ inputs.countP own + rank t ≤ rank s := by
  induction inputs generalizing s trace with
  | nil =>
    simp only [runFrom, Option.some.injEq, Prod.mk.injEq] at ran
    obtain ⟨rfl, rfl⟩ := ran
    exact ⟨inv, by simp⟩
  | cons i rest ih =>
    obtain ⟨emitted, middle, later, taken, tail, rfl⟩ := runFrom_cons m s i rest trace t ran
    have first := ranked.step s middle i emitted inv taken
    obtain ⟨kept, second⟩ := ih middle later (ranked.keeps s i emitted middle inv taken) tail
    refine ⟨kept, ?_⟩
    rw [List.countP_cons]
    omega

/-- Where an own input is possible as long as the rank is not zero, own inputs alone
bring it to zero. -/
theorem settles (ranked : Ranked m Inv own rank)
    (possible : ∀ s, Inv s → rank s ≠ 0 → ∃ i, own i = true ∧ (m.step s i).isSome = true)
    (s : S) (inv : Inv s) : ∃ inputs trace t, m.runFrom s inputs = some (trace, t) ∧
      (∀ i ∈ inputs, own i = true) ∧ rank t = 0 := by
  induction bound : rank s using Nat.strongRecOn generalizing s with
  | ind n ih =>
    subst bound
    by_cases settled : rank s = 0
    · exact ⟨[], [], s, rfl, by simp, settled⟩
    · obtain ⟨i, mine, enabled⟩ := possible s inv settled
      obtain ⟨⟨emitted, middle⟩, taken⟩ := Option.isSome_iff_exists.mp enabled
      obtain ⟨rest, later, t, tail, allOwn, zero⟩ := ih (rank middle)
        (ranked.lowers s i emitted middle inv taken mine) middle
        (ranked.keeps s i emitted middle inv taken) rfl
      refine ⟨i :: rest, emitted ++ later, t, ?_, ?_, zero⟩
      · simp [runFrom, taken, tail]
      · intro j member
        rcases List.mem_cons.mp member with rfl | member
        · exact mine
        · exact allOwn j member

end Ranked

end Machine

end Machines
