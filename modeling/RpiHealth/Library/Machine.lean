import Mathlib.Algebra.Order.Ring.Nat
import Mathlib.Data.List.DropRight
import Mathlib.Data.List.Basic

/-! Partial machines driven by input lists. An input that cannot happen in a
state is refused, so the input lists a machine accepts are its interleavings.
Runs emit observations; invariants may read everything emitted so far. -/
namespace Machines

structure Machine (S : Type u) (I : Type v) (O : Type w) where
  initial : S
  step : S → I → Option (List O × S)

/-- A partner hears every observation of a machine, may refuse it, and acts on
its own in between, looking at the machine's state. -/
structure Partner (S : Type u) (O : Type w) (T : Type a) (K : Type b) (E : Type c) where
  initial : T
  hear : T → O → Option T
  act : S → T → K → Option (List E × T)

variable {S : Type u} {I : Type v} {O : Type w} {T : Type a} {K : Type b} {E : Type c}

namespace Machine

def runFrom (m : Machine S I O) (s : S) : List I → Option (List O × S)
  | [] => some ([], s)
  | i :: rest =>
    match m.step s i with
    | none => none
    | some (emitted, t) => (m.runFrom t rest).map (fun r => (emitted ++ r.1, r.2))

def run (m : Machine S I O) (inputs : List I) : Option (List O × S) :=
  m.runFrom m.initial inputs

/-- Every step taken along the inputs starts where the condition allows it. -/
def Along (m : Machine S I O) (ok : S → I → Prop) (s : S) : List I → Prop
  | [] => True
  | i :: rest => ok s i ∧ ∀ emitted t, m.step s i = some (emitted, t) → m.Along ok t rest

instance decidableAlong (m : Machine S I O) (ok : S → I → Prop) [∀ s i, Decidable (ok s i)]
    (s : S) : (inputs : List I) → Decidable (m.Along ok s inputs)
  | [] => .isTrue True.intro
  | i :: rest =>
    match taken : m.step s i with
    | none => decidable_of_iff (ok s i) (by simp [Along, taken])
    | some (emitted, t) =>
      have := m.decidableAlong ok t rest
      decidable_of_iff (ok s i ∧ m.Along ok t rest) (by simp [Along, taken])

theorem along_of_forall (m : Machine S I O) (ok : S → I → Prop) (always : ∀ s i, ok s i)
    (inputs : List I) (s : S) : m.Along ok s inputs := by
  induction inputs generalizing s with
  | nil => exact True.intro
  | cons i rest ih => exact ⟨always s i, fun _ t _ => ih t⟩

theorem runFrom_cons (m : Machine S I O) (s : S) (i : I) (rest : List I) (trace : List O) (t : S)
    (ran : m.runFrom s (i :: rest) = some (trace, t)) :
    ∃ emitted middle later, m.step s i = some (emitted, middle) ∧
      m.runFrom middle rest = some (later, t) ∧ trace = emitted ++ later := by
  simp only [runFrom] at ran
  split at ran
  · contradiction
  · rename_i emitted middle taken
    simp only [Option.map_eq_some_iff, Prod.exists, Prod.mk.injEq] at ran
    obtain ⟨later, last, tail, rfl, rfl⟩ := ran
    exact ⟨emitted, middle, later, taken, tail, rfl⟩

/-- A run seen from its last step. -/
theorem runFrom_concat (m : Machine S I O) (s : S) (inputs : List I) (i : I) (trace : List O)
    (t : S) : m.runFrom s (inputs ++ [i]) = some (trace, t) ↔
      ∃ before middle emitted, m.runFrom s inputs = some (before, middle) ∧
        m.step middle i = some (emitted, t) ∧ trace = before ++ emitted := by
  induction inputs generalizing s trace with
  | nil =>
    cases taken : m.step s i with
    | none => simp [runFrom, taken]
    | some made => simp [runFrom, taken, Prod.ext_iff, and_comm, eq_comm]
  | cons j rest ih =>
    cases taken : m.step s j with
    | none => simp [runFrom, taken]
    | some made =>
      simp only [List.cons_append, runFrom, taken, Option.map_eq_some_iff, Prod.exists,
        Prod.mk.injEq]
      constructor
      · rintro ⟨later, last, ran, rfl, rfl⟩
        obtain ⟨before, middle, emitted, first, final, rfl⟩ := (ih made.2 later).mp ran
        exact ⟨made.1 ++ before, middle, emitted, ⟨before, middle, first, rfl, rfl⟩, final,
          (List.append_assoc _ _ _).symm⟩
      · rintro ⟨_, middle, emitted, ⟨before, _, ran, rfl, rfl⟩, final, rfl⟩
        exact ⟨before ++ emitted, t, (ih made.2 _).mpr ⟨before, _, emitted, ran, final, rfl⟩,
          (List.append_assoc _ _ _).symm, rfl⟩

/-- The run rule: an invariant of state and trace, kept by every allowed step,
holds where an allowed run ends. -/
theorem invariant_along (m : Machine S I O) (ok : S → I → Prop) (Inv : List O → S → Prop)
    (start : Inv [] m.initial)
    (keeps : ∀ trace s i emitted t, Inv trace s → ok s i → m.step s i = some (emitted, t) →
      Inv (trace ++ emitted) t)
    (inputs : List I) (trace : List O) (s : S) (allowed : m.Along ok m.initial inputs)
    (ran : m.run inputs = some (trace, s)) : Inv trace s := by
  suffices general : ∀ (inputs : List I) (before after : List O) (s t : S), Inv before s →
      m.Along ok s inputs → m.runFrom s inputs = some (after, t) → Inv (before ++ after) t by
    simpa using general inputs [] trace m.initial s start allowed ran
  intro inputs
  induction inputs with
  | nil =>
    intro before after s t inv _ ran
    simp only [runFrom, Option.some.injEq, Prod.mk.injEq] at ran
    obtain ⟨rfl, rfl⟩ := ran
    simpa using inv
  | cons i rest ih =>
    intro before after s t inv allowed ran
    obtain ⟨emitted, middle, later, taken, tail, rfl⟩ := runFrom_cons m s i rest after t ran
    rw [← List.append_assoc]
    exact ih _ later middle t (keeps before s i emitted middle inv allowed.1 taken)
      (allowed.2 emitted middle taken) tail

theorem invariant (m : Machine S I O) (Inv : List O → S → Prop) (start : Inv [] m.initial)
    (keeps : ∀ trace s i emitted t, Inv trace s → m.step s i = some (emitted, t) →
      Inv (trace ++ emitted) t)
    (inputs : List I) (trace : List O) (s : S) (ran : m.run inputs = some (trace, s)) :
    Inv trace s :=
  m.invariant_along (fun _ _ => True) Inv start
    (fun trace s i emitted t inv _ taken => keeps trace s i emitted t inv taken)
    inputs trace s (m.along_of_forall _ (fun _ _ => True.intro) inputs m.initial) ran

end Machine

def Partner.hearAll (p : Partner S O T K E) (t : T) : List O → Option T
  | [] => some t
  | o :: rest => (p.hear t o).bind (fun heard => p.hearAll heard rest)

/-- The machine and its partner side by side, under every interleaving. -/
def Machine.beside (m : Machine S I O) (p : Partner S O T K E) :
    Machine (S × T) (I ⊕ K) (O ⊕ E) where
  initial := (m.initial, p.initial)
  step
    | (s, t), .inl i =>
      (m.step s i).bind (fun taken =>
        (p.hearAll t taken.1).map (fun heard => (taken.1.map .inl, (taken.2, heard))))
    | (s, t), .inr k => (p.act s t k).map (fun acted => (acted.1.map .inr, (s, acted.2)))

/-- The machine's own part of a joint trace. -/
def own (trace : List (O ⊕ E)) : List O :=
  trace.filterMap Sum.getLeft?

@[simp] theorem own_nil : own ([] : List (O ⊕ E)) = [] := rfl

@[simp] theorem own_append (first second : List (O ⊕ E)) :
    own (first ++ second) = own first ++ own second := by
  simp [own]

@[simp] theorem own_inl (emitted : List O) : own (emitted.map Sum.inl : List (O ⊕ E)) = emitted := by
  induction emitted with
  | nil => rfl
  | cons o rest ih => simpa [own] using ih

@[simp] theorem own_inr (emitted : List E) : own (emitted.map Sum.inr : List (O ⊕ E)) = [] := by
  simp [own]

/-- The run rule for a joint run: what the machine keeps alone it keeps beside a
partner, and may be used for the invariant that ties the two together. -/
theorem beside_invariant (m : Machine S I O) (p : Partner S O T K E)
    (Inv : List O → S → Prop) (Tie : List (O ⊕ E) → S → T → Prop)
    (start : Inv [] m.initial) (tied : Tie [] m.initial p.initial)
    (keeps : ∀ trace s i emitted s', Inv trace s → m.step s i = some (emitted, s') →
      Inv (trace ++ emitted) s')
    (moves : ∀ trace s t i emitted s' t', Inv (own trace) s → Tie trace s t →
      m.step s i = some (emitted, s') → p.hearAll t emitted = some t' →
      Tie (trace ++ emitted.map .inl) s' t')
    (acts : ∀ trace s t k emitted t', Inv (own trace) s → Tie trace s t →
      p.act s t k = some (emitted, t') → Tie (trace ++ emitted.map .inr) s t')
    (inputs : List (I ⊕ K)) (trace : List (O ⊕ E)) (s : S) (t : T)
    (ran : (m.beside p).run inputs = some (trace, (s, t))) :
    Inv (own trace) s ∧ Tie trace s t := by
  refine (m.beside p).invariant (fun trace st => Inv (own trace) st.1 ∧ Tie trace st.1 st.2)
    ⟨start, tied⟩ ?_ inputs trace (s, t) ran
  rintro trace ⟨s, t⟩ i emitted ⟨s', t'⟩ ⟨inv, tie⟩ taken
  cases i with
  | inl i =>
    simp only [Machine.beside, Option.bind_eq_some_iff, Option.map_eq_some_iff, Prod.exists,
      Prod.mk.injEq] at taken
    obtain ⟨heardOf, next, moved, heard, hears, rfl, rfl, rfl⟩ := taken
    refine ⟨?_, moves trace s t i heardOf next heard inv tie moved hears⟩
    rw [own_append, own_inl]
    exact keeps _ s i heardOf next inv moved
  | inr k =>
    simp only [Machine.beside, Option.map_eq_some_iff, Prod.exists, Prod.mk.injEq] at taken
    obtain ⟨acted, next, moved, rfl, rfl, rfl⟩ := taken
    refine ⟨?_, acts trace s t k acted next inv tie moved⟩
    rw [own_append, own_inr, List.append_nil]
    exact inv

/-- Several moves in a row, with all that they emit. -/
inductive Moves (move : S → List O → S → Prop) : S → List O → S → Prop where
  | none (s : S) : Moves move s [] s
  | next {s t u : S} {first later : List O} (taken : move s first t)
      (rest : Moves move t later u) : Moves move s (first ++ later) u

namespace Moves

variable {move : S → List O → S → Prop}

theorem one {s t : S} {emitted : List O} (taken : move s emitted t) : Moves move s emitted t := by
  simpa using Moves.next taken (Moves.none t)

theorem append {s t u : S} {first later : List O} (start : Moves move s first t)
    (rest : Moves move t later u) : Moves move s (first ++ later) u := by
  induction start with
  | none s => exact rest
  | next taken _ ih =>
    rw [List.append_assoc]
    exact .next taken (ih rest)

/-- What one move keeps, several moves keep. -/
theorem keep (Inv : List O → S → Prop)
    (keeps : ∀ trace s emitted t, Inv trace s → move s emitted t → Inv (trace ++ emitted) t)
    {s t : S} {emitted : List O} (moved : Moves move s emitted t) (trace : List O)
    (inv : Inv trace s) : Inv (trace ++ emitted) t := by
  induction moved generalizing trace with
  | none s => simpa using inv
  | next taken _ ih =>
    rw [← List.append_assoc]
    exact ih _ (keeps trace _ _ _ inv taken)

/-- What no single move emits, several moves do not emit. -/
theorem silent (P : O → Prop) (quiet : ∀ s emitted t, move s emitted t → ∀ o ∈ emitted, P o)
    {s t : S} {emitted : List O} (moved : Moves move s emitted t) : ∀ o ∈ emitted, P o := by
  induction moved with
  | none s => simp
  | next taken _ ih =>
    intro o member
    rcases List.mem_append.mp member with early | late
    · exact quiet _ _ _ taken o early
    · exact ih o late

end Moves

/-- Every observation of a trace meets the demand made on what came before it. -/
def Guarded (demand : List O → O → Prop) (trace : List O) : Prop :=
  ∀ before o after, trace = before ++ o :: after → demand before o

theorem guarded_nil (demand : List O → O → Prop) : Guarded demand [] := by
  intro before o after same
  simp at same

theorem guarded_snoc (demand : List O → O → Prop) (trace : List O) (o : O) :
    Guarded demand (trace ++ [o]) ↔ Guarded demand trace ∧ demand trace o := by
  constructor
  · intro h
    refine ⟨fun before a after same => h before a (after ++ [o]) ?_, h trace o [] rfl⟩
    simp [same]
  · rintro ⟨earlier, last⟩ before a after same
    rcases List.eq_nil_or_concat after with rfl | ⟨front, b, rfl⟩
    · obtain ⟨rfl, last_eq⟩ := List.append_inj' same rfl
      exact (List.cons.inj last_eq).1 ▸ last
    · have split : trace ++ [o] = (before ++ a :: front) ++ [b] := by simpa using same
      exact earlier before a front (List.append_inj' split rfl).1

/-- The demand on a trace's end, one emitted observation after the other. -/
def Meets (demand : List O → O → Prop) : List O → List O → Prop
  | _, [] => True
  | before, o :: rest => demand before o ∧ Meets demand (before ++ [o]) rest

theorem guarded_append (demand : List O → O → Prop) (trace emitted : List O) :
    Guarded demand (trace ++ emitted) ↔ Guarded demand trace ∧ Meets demand trace emitted := by
  induction emitted generalizing trace with
  | nil => simp [Meets]
  | cons o rest ih =>
    have shift : trace ++ o :: rest = (trace ++ [o]) ++ rest := by simp
    rw [shift, ih, guarded_snoc, Meets, and_assoc]

instance decidableMeets (demand : List O → O → Prop) [∀ before o, Decidable (demand before o)] :
    (before emitted : List O) → Decidable (Meets demand before emitted)
  | _, [] => .isTrue True.intro
  | before, o :: rest =>
    have := decidableMeets demand (before ++ [o]) rest
    inferInstanceAs (Decidable (demand before o ∧ Meets demand (before ++ [o]) rest))

theorem guarded_iff_meets (demand : List O → O → Prop) (trace : List O) :
    Guarded demand trace ↔ Meets demand [] trace := by
  simpa [guarded_nil] using guarded_append demand [] trace

instance decidableGuarded (demand : List O → O → Prop) [∀ before o, Decidable (demand before o)]
    (trace : List O) : Decidable (Guarded demand trace) :=
  decidable_of_iff _ (guarded_iff_meets demand trace).symm

/-- What was emitted since the last observation that the mark selects. -/
def since (mark : O → Bool) (trace : List O) : List O :=
  trace.rtakeWhile (fun o => !mark o)

@[simp] theorem since_nil (mark : O → Bool) : since mark [] = [] := rfl

theorem since_snoc (mark : O → Bool) (trace : List O) (o : O) :
    since mark (trace ++ [o]) = if mark o then [] else since mark trace ++ [o] := by
  unfold since
  rw [List.rtakeWhile_concat]
  cases mark o <;> simp

theorem since_append (mark : O → Bool) (trace emitted : List O)
    (unmarked : ∀ o ∈ emitted, mark o = false) :
    since mark (trace ++ emitted) = since mark trace ++ emitted := by
  induction emitted generalizing trace with
  | nil => simp
  | cons o rest ih =>
    have shift : trace ++ o :: rest = (trace ++ [o]) ++ rest := by simp
    have first : mark o = false := unmarked o (by simp)
    rw [shift, ih _ (fun a member => unmarked a (by simp [member])), since_snoc, first]
    simp

theorem since_append_marked (mark : O → Bool) (trace emitted : List O) (o : O)
    (marked : mark o = true) (unmarked : ∀ a ∈ emitted, mark a = false) :
    since mark (trace ++ o :: emitted) = emitted := by
  have shift : trace ++ o :: emitted = (trace ++ [o]) ++ emitted := by simp
  rw [shift, since_append mark _ _ unmarked, since_snoc, marked]
  rfl

/-- A demand on what came since the mark, met by unmarked observations. -/
theorem meets_since (mark : O → Bool) (demand : List O → O → Prop) (trace emitted : List O)
    (unmarked : ∀ o ∈ emitted, mark o = false) (meets : Meets demand (since mark trace) emitted) :
    Meets (fun before o => demand (since mark before) o) trace emitted := by
  induction emitted generalizing trace with
  | nil => exact True.intro
  | cons o rest ih =>
    have first : mark o = false := unmarked o (by simp)
    refine ⟨meets.1, ih _ (fun a member => unmarked a (by simp [member])) ?_⟩
    rw [since_snoc, first]
    exact meets.2

theorem meets_append (demand : List O → O → Prop) (trace first second : List O) :
    Meets demand trace (first ++ second) ↔
      Meets demand trace first ∧ Meets demand (trace ++ first) second := by
  induction first generalizing trace with
  | nil => simp [Meets]
  | cons o rest ih => simp [Meets, ih, and_assoc]

/-- A demand on what came since the mark is a demand on what came since it. -/
theorem guarded_since (mark : O → Bool) (demand : List O → O → Prop) (trace : List O)
    (guarded : Guarded (fun before o => demand (since mark before) o) trace) :
    Guarded demand (since mark trace) := by
  induction trace using List.reverseRecOn with
  | nil => exact guarded_nil demand
  | append_singleton trace o ih =>
    obtain ⟨earlier, last⟩ := (guarded_snoc _ trace o).mp guarded
    rw [since_snoc]
    split
    · exact guarded_nil demand
    · exact (guarded_snoc _ _ o).mpr ⟨ih earlier, last⟩

theorem guarded_initial (demand : List O → O → Prop) (first trace : List O)
    (isPrefix : first <+: trace) (guarded : Guarded demand trace) : Guarded demand first := by
  obtain ⟨rest, rfl⟩ := isPrefix
  exact ((guarded_append demand first rest).mp guarded).1

end Machines
