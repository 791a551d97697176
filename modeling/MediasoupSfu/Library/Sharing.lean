import MediasoupSfu.Library.Run
import Mathlib.Data.List.Forall2

/-!
# A resource that is handed around

Users `ι` with states `σ` of their own work on one resource `P`, one after the other. Each of them
changes it, and some of what a user writes is still there when the next one gets it; there is also
a world `ω` that all of them share. A *message* `M` is what the resource has to say to a user.

If every user leaves a resource that still says the same message, nobody notices the others: in
`pass_spec` each user ends up with the state and the outputs that he has `alone`, while the world
goes through all outputs. `run_alone` says the same of a whole run, in which the users also have
events of their own between two resources.
-/

namespace Sharing

variable {ι ε η σ ω P O α M Ω φ : Type} [DecidableEq ι]

/-- What belongs to one user. -/
def of {β : Type} (i : ι) (l : List (ι × β)) : List β := (l.filter fun x ↦ x.1 = i).map Prod.snd

theorem of_nil {β : Type} (i : ι) : of i ([] : List (ι × β)) = [] := rfl

theorem of_cons_self {β : Type} (i : ι) (b : β) (l : List (ι × β)) :
    of i ((i, b) :: l) = b :: of i l := by
  simp [of]

theorem of_cons_of_ne {β : Type} {i j : ι} (h : j ≠ i) (b : β) (l : List (ι × β)) :
    of i ((j, b) :: l) = of i l := by
  simp [of, h]

theorem of_append {β : Type} (i : ι) (l l' : List (ι × β)) :
    of i (l ++ l') = of i l ++ of i l' := by
  rw [of, List.filter_append, List.map_append]
  rfl

/-- The users use the resource in the given order. -/
def pass (use : ι → η → σ → ω → P → Except φ (O × σ × ω × P)) :
    List (ι × η) → (ι → σ) → ω → P → Except φ (List (ι × O) × (ι → σ) × ω × P)
  | [], s, w, p => .ok ([], s, w, p)
  | (i, e) :: order, s, w, p => do
    let (o, t, w, p) ← use i e (s i) w p
    let (os, s, w, p) ← pass use order (Function.update s i t) w p
    return ((i, o) :: os, s, w, p)

/-- What one user makes of a message. -/
def alone (spec : η → α → M → Ω × α) (m : M) : List η → α → List Ω × α
  | [], a => ([], a)
  | e :: es, a =>
    let (o, a) := spec e a m
    let (os, a) := alone spec m es a
    (o :: os, a)

/-- What can happen. -/
inductive Event (ι ε η P : Type) where
  /-- Something of which just one user knows. -/
  | own (i : ι) (e : ε)
  /-- A resource is handed around. -/
  | pass (p : P) (order : List (ι × η))

/-- One event: the resource afterwards and the outputs, and the states and the world afterwards. -/
def step (own : ε → σ → Except φ σ) (use : ι → η → σ → ω → P → Except φ (O × σ × ω × P))
    (s : (ι → σ) × ω) : Event ι ε η P → Except φ ((Option P × List (ι × O)) × ((ι → σ) × ω))
  | .own i e => do
    let t ← own e (s.1 i)
    return ((none, []), (Function.update s.1 i t, s.2))
  | .pass p order => do
    let (os, t, w, p) ← pass use order s.1 s.2 p
    return ((some p, os), (t, w))

/-- The outputs of one user in a run without the others. -/
def aloneRun (ownSpec : ε → α → α) (spec : ι → η → α → M → Ω × α) (message : P → M) (i : ι) :
    List (Event ι ε η P) → α → List Ω
  | [], _ => []
  | .own j e :: es, a => aloneRun ownSpec spec message i es (if j = i then ownSpec e a else a)
  | .pass p order :: es, a =>
    let (os, a) := alone (spec i) (message p) (of i order) a
    os ++ aloneRun ownSpec spec message i es a

/-- The world goes from `w` to `w'` through the outputs, in order. -/
def Through (T : ι → ω → O → ω → Prop) : ω → List (ι × O) → ω → Prop
  | w, [], w' => w = w'
  | w, (i, o) :: os, w' => ∃ w₁, T i w o w₁ ∧ Through T w₁ os w'

omit [DecidableEq ι] in
theorem Through.append {T : ι → ω → O → ω → Prop} {os os' : List (ι × O)} {w w₁ w' : ω}
    (h : Through T w os w₁) (h' : Through T w₁ os' w') : Through T w (os ++ os') w' := by
  induction os generalizing w with
  | nil =>
    subst h
    exact h'
  | cons first os ih =>
    obtain ⟨w₂, hfirst, hrest⟩ := h
    exact ⟨w₂, hfirst, ih hrest⟩

section

variable {own : ε → σ → Except φ σ} {use : ι → η → σ → ω → P → Except φ (O × σ × ω × P)}
  {ownSpec : ε → α → α} {spec : ι → η → α → M → Ω × α} {view : σ → α} {message : P → M}
  {Good : ι → σ → Prop} {Says : M → P → Prop} {Out : Ω → O → Prop}
  {T : ι → ω → O → ω → Prop}

/-- **Sharing rule.** If every user leaves a resource that says the same, a user gets from all of
them together what he gets alone. -/
theorem pass_spec
    (huse : ∀ i e s w p m, Good i s → Says m p → ∃ o t w' p', use i e s w p = .ok (o, t, w', p') ∧
      Good i t ∧ Says m p' ∧ T i w o w' ∧ Out (spec i e (view s) m).1 o ∧
      view t = (spec i e (view s) m).2)
    {m : M} (order : List (ι × η)) : ∀ {s : ι → σ} {w : ω} {p : P}, (∀ i, Good i (s i)) →
      Says m p → ∃ os s' w' p', pass use order s w p = .ok (os, s', w', p') ∧
        (∀ i, Good i (s' i)) ∧ Says m p' ∧ Through T w os w' ∧
        ∀ i, List.Forall₂ Out (alone (spec i) m (of i order) (view (s i))).1 (of i os) ∧
          view (s' i) = (alone (spec i) m (of i order) (view (s i))).2 := by
  induction order with
  | nil => exact fun hs hp ↦ ⟨[], _, _, _, rfl, hs, hp, rfl, fun _ ↦ ⟨.nil, rfl⟩⟩
  | cons first order ih =>
    obtain ⟨j, e⟩ := first
    intro s w p hs hp
    obtain ⟨o, t, w₁, p₁, hfirst, ht, hp₁, hworld, ho, hview⟩ := huse j e (s j) w p m (hs j) hp
    have hupdate : ∀ i, Good i (Function.update s j t i) :=
      (Function.forall_update_iff s Good).mpr ⟨ht, fun i _ ↦ hs i⟩
    obtain ⟨os, s', w', p', hrest, hs', hp', hthrough, halone⟩ := ih hupdate hp₁
    refine ⟨(j, o) :: os, s', w', p', ?_, hs', hp', ⟨w₁, hworld, hthrough⟩, fun i ↦ ?_⟩
    · rw [pass, hfirst]
      change (pass use order (Function.update s j t) w₁ p₁ >>= fun _ ↦ _) = _
      rw [hrest]
      rfl
    · obtain ⟨hout, hlast⟩ := halone i
      by_cases hij : j = i
      · subst hij
        rw [Function.update_self, hview] at hout hlast
        rw [of_cons_self, of_cons_self]
        exact ⟨.cons ho hout, hlast⟩
      · rw [Function.update_of_ne (Ne.symm hij)] at hout hlast
        rw [of_cons_of_ne hij, of_cons_of_ne hij]
        exact ⟨hout, hlast⟩

/-- **Nobody notices the others.** In every run the resources still say their messages when all
users have had them, and the outputs of each user are those of the run without the others. -/
theorem run_alone
    (hown : ∀ i e s, Good i s → ∃ t, own e s = .ok t ∧ Good i t ∧ view t = ownSpec e (view s))
    (huse : ∀ i e s w p m, Good i s → Says m p → ∃ o t w' p', use i e s w p = .ok (o, t, w', p') ∧
      Good i t ∧ Says m p' ∧ T i w o w' ∧ Out (spec i e (view s) m).1 o ∧
      view t = (spec i e (view s) m).2)
    (events : List (Event ι ε η P)) : ∀ {s : (ι → σ) × ω}, (∀ i, Good i (s.1 i)) →
      (∀ p order, Event.pass p order ∈ events → Says (message p) p) →
      ∃ records, Run.trace (step own use) s events = .ok records ∧
        (∀ r ∈ records, ∀ p order, r.event = .pass p order →
          ∃ p', r.output.1 = some p' ∧ Says (message p) p') ∧
        (∃ w', Through T s.2 (records.flatMap fun r ↦ r.output.2) w') ∧
        ∀ i, List.Forall₂ Out (aloneRun ownSpec spec message i events (view (s.1 i)))
          (of i (records.flatMap fun r ↦ r.output.2)) := by
  induction events with
  | nil => exact fun _ _ ↦ ⟨[], rfl, fun _ hr ↦ absurd hr List.not_mem_nil, ⟨_, rfl⟩,
      fun _ ↦ .nil⟩
  | cons event events ih =>
    intro s hs hstill
    have hrest : ∀ p order, Event.pass p order ∈ events → Says (message p) p :=
      fun p order hp ↦ hstill p order (List.mem_cons_of_mem _ hp)
    cases event with
    | own j e =>
      obtain ⟨t, hstep, ht, hview⟩ := hown j e (s.1 j) (hs j)
      have hupdate : ∀ i, Good i (Function.update s.1 j t i) :=
        (Function.forall_update_iff s.1 Good).mpr ⟨ht, fun i _ ↦ hs i⟩
      obtain ⟨records, htrace, hafter, hthrough, halone⟩ :=
        ih (s := (Function.update s.1 j t, s.2)) hupdate hrest
      dsimp only at halone
      have hok : step own use s (.own j e) = .ok ((none, []), (Function.update s.1 j t, s.2)) := by
        rw [step, hstep]
        rfl
      refine ⟨_, Run.trace_cons_ok hok htrace, fun r hr p order hevent ↦ ?_, hthrough, fun i ↦ ?_⟩
      · rcases List.mem_cons.mp hr with rfl | hr
        · cases hevent
        · exact hafter r hr p order hevent
      · rw [List.flatMap_cons, List.nil_append, aloneRun]
        by_cases hij : j = i
        · subst hij
          have hj := halone j
          rw [Function.update_self, hview] at hj
          rwa [if_pos rfl]
        · have hi := halone i
          rw [Function.update_of_ne (Ne.symm hij)] at hi
          rwa [if_neg hij]
    | pass p order =>
      obtain ⟨os, s', w', p', hpass, hs', hp', hworld, hfirst⟩ := pass_spec huse order (w := s.2) hs
        (hstill p order List.mem_cons_self)
      obtain ⟨records, htrace, hafter, ⟨w'', hthrough⟩, halone⟩ := ih (s := (s', w')) hs' hrest
      have hok : step own use s (.pass p order) = .ok ((some p', os), (s', w')) := by
        rw [step, hpass]
        rfl
      refine ⟨_, Run.trace_cons_ok hok htrace, fun r hr q order' hevent ↦ ?_,
        ⟨w'', hworld.append hthrough⟩, fun i ↦ ?_⟩
      · rcases List.mem_cons.mp hr with rfl | hr
        · cases hevent
          exact ⟨p', rfl, hp'⟩
        · exact hafter r hr q order' hevent
      · obtain ⟨hout, hview⟩ := hfirst i
        rw [List.flatMap_cons, of_append, aloneRun]
        refine List.rel_append hout ?_
        have hi := halone i
        rwa [hview] at hi

end

end Sharing
