import Mathlib.Tactic.Common

/-!
# Runs of a transition function

A system is a step function `step : σ → ε → σ` on states `σ` driven by events `ε`; a *run* is the
left fold of the step over a list of events. When a step can abort, the step function returns in
`Except φ` and the run stops at the first fault.

Two rules package the inductions once. `invariant` is for total steps, `foldlM_invariant` for
steps that may abort: from "an invariant state never aborts and steps to an invariant state" it
concludes that a whole run never aborts. In both the invariant may depend on the events processed
so far, and the events may be restricted by a predicate on that history.

Where what happened in a step matters later on, the run is kept as a `trace` of records, and
`trace_invariant` is the rule for it. Where a simpler step function says what comes out, the two
are related by `trace_simulates`.
-/

namespace Run

variable {σ ε φ : Type*}

/-- Every step of the run, from `s` on, satisfies `P` in the state in which it is taken. -/
def All (step : σ → ε → σ) (P : σ → ε → Prop) : σ → List ε → Prop
  | _, [] => True
  | s, e :: es => P s e ∧ All step P (step s e) es

instance decidableAll (step : σ → ε → σ) (P : σ → ε → Prop) [∀ s e, Decidable (P s e)] :
    ∀ (s : σ) (es : List ε), Decidable (All step P s es)
  | _, [] => isTrue trivial
  | s, e :: es =>
    haveI := decidableAll step P (step s e) es
    inferInstanceAs (Decidable (P s e ∧ All step P (step s e) es))

/-- A step of a run and those before it satisfy what the whole run does. -/
theorem All.split {step : σ → ε → σ} {P : σ → ε → Prop} {pre post : List ε} {e : ε} :
    ∀ {s : σ}, All step P s (pre ++ e :: post) → All step P s pre ∧ P (pre.foldl step s) e := by
  induction pre with
  | nil => exact fun h ↦ ⟨trivial, h.1⟩
  | cons e' pre ih =>
    rintro s ⟨he, hes⟩
    obtain ⟨hpre, hlast⟩ := ih hes
    exact ⟨⟨he, hpre⟩, hlast⟩

/-- A run in two parts. -/
theorem All.append_iff {step : σ → ε → σ} {P : σ → ε → Prop} {pre post : List ε} {s : σ} :
    All step P s (pre ++ post) ↔ All step P s pre ∧ All step P (pre.foldl step s) post := by
  induction pre generalizing s with
  | nil => exact ⟨fun h ↦ ⟨trivial, h⟩, And.right⟩
  | cons e pre ih =>
    rw [List.cons_append, List.foldl_cons]
    exact (and_congr_right fun _ ↦ ih).trans and_assoc.symm

/-- **Invariant rule.** An invariant indexed by the history of the run is preserved by the run. -/
theorem invariant {step : σ → ε → σ} {P : σ → ε → Prop} {Inv : List ε → σ → Prop}
    (hstep : ∀ h s e, Inv h s → P s e → Inv (h ++ [e]) (step s e)) :
    ∀ (es : List ε) (h : List ε) (s : σ), Inv h s → All step P s es →
      Inv (h ++ es) (es.foldl step s) := by
  intro es
  induction es with
  | nil => intro h s hs _; simpa using hs
  | cons e es ih =>
    rintro h s hs ⟨he, hes⟩
    have := ih (h ++ [e]) (step s e) (hstep h s e hs he) hes
    simpa using this

theorem All.of_prefix {step : σ → ε → σ} {P : σ → ε → Prop} {pre es : List ε} {s : σ}
    (h : All step P s es) (hpre : pre <+: es) : All step P s pre := by
  obtain ⟨post, rfl⟩ := hpre
  exact (append_iff.mp h).1

/-- **Exactness rule.** If a step from a good state ends in one exactly when it satisfies `Q`, then
a run from a good state never leaves them exactly when all its steps do. -/
theorem All.forall_prefix_iff {step : σ → ε → σ} {P Q : σ → ε → Prop} (Good : σ → Prop)
    (hstep : ∀ s e, Good s → P s e → (Good (step s e) ↔ Q s e)) {es : List ε} {s : σ} (hs : Good s)
    (h : All step P s es) :
    (∀ pre, pre <+: es → Good (pre.foldl step s)) ↔ All step Q s es := by
  induction es generalizing s with
  | nil =>
    refine iff_of_true (fun pre hpre ↦ ?_) trivial
    rwa [List.prefix_nil.mp hpre]
  | cons e es ih =>
    obtain ⟨he, hes⟩ := h
    constructor
    · intro hall
      have ht : Good (step s e) := hall [e] ⟨es, rfl⟩
      refine ⟨(hstep s e hs he).mp ht, (ih ht hes).mp fun pre hpre ↦ ?_⟩
      exact hall (e :: pre) (List.cons_prefix_cons.mpr ⟨rfl, hpre⟩)
    · rintro ⟨hq, hrest⟩ pre hpre
      cases pre with
      | nil => exact hs
      | cons e' pre =>
        obtain ⟨rfl, htail⟩ := List.cons_prefix_cons.mp hpre
        exact (ih ((hstep s e' hs he).mpr hq) hes).mpr hrest pre htail

/-- **Congruence rule.** Two properties of the steps that say the same in a good state, and that
lead to good states, hold of all steps of the same runs. -/
theorem All.congr {step : σ → ε → σ} {P Q R : σ → ε → Prop} (Good : σ → Prop)
    (hiff : ∀ s e, Good s → P s e → (Q s e ↔ R s e))
    (hstep : ∀ s e, Good s → P s e → R s e → Good (step s e)) {es : List ε} {s : σ} (hs : Good s)
    (h : All step P s es) : All step Q s es ↔ All step R s es := by
  induction es generalizing s with
  | nil => rfl
  | cons e es ih =>
    obtain ⟨he, hes⟩ := h
    rw [All, All, hiff s e hs he]
    exact and_congr_right fun hr ↦ ih (hstep s e hs he hr) hes

/-- The invariant rule where the history does not matter. -/
theorem All.preserves {step : σ → ε → σ} {P : σ → ε → Prop} (Inv : σ → Prop)
    (hstep : ∀ s e, Inv s → P s e → Inv (step s e)) {es : List ε} {s : σ} (hs : Inv s)
    (h : All step P s es) : Inv (es.foldl step s) :=
  have hinv := @invariant σ ε step P (fun _ ↦ Inv) (fun _ ↦ hstep)
  hinv es [] s hs h

/-- **Consequence rule.** What an invariant guarantees of every step holds of every step of the
run. -/
theorem All.of_invariant {step : σ → ε → σ} {P Q : σ → ε → Prop} (Inv : σ → Prop)
    (hstep : ∀ s e, Inv s → P s e → Inv (step s e)) (hsafe : ∀ s e, Inv s → P s e → Q s e) :
    ∀ {es : List ε} {s : σ}, Inv s → All step P s es → All step Q s es := by
  intro es
  induction es with
  | nil => exact fun _ _ ↦ trivial
  | cons e es ih => exact fun hs ⟨he, hes⟩ ↦ ⟨hsafe _ e hs he, ih (hstep _ e hs he) hes⟩

theorem All.imp {step : σ → ε → σ} {P Q : σ → ε → Prop} (h : ∀ s e, P s e → Q s e)
    {es : List ε} {s : σ} (hall : All step P s es) : All step Q s es :=
  All.of_invariant (fun _ ↦ True) (fun _ _ _ _ ↦ trivial) (fun s e _ ↦ h s e) trivial hall

/-- **Safety rule.** If an invariant state takes every legal event without a fault and into an
invariant state, no legal run faults. -/
theorem foldlM_invariant {step : σ → ε → Except φ σ} {Legal : List ε → ε → Prop}
    {Inv : List ε → σ → Prop}
    (hstep : ∀ h s e, Inv h s → Legal h e → ∃ t, step s e = .ok t ∧ Inv (h ++ [e]) t) :
    ∀ (es : List ε) (h : List ε) (s : σ), Inv h s →
      (∀ pre e post, es = pre ++ e :: post → Legal (h ++ pre) e) →
      ∃ t, es.foldlM step s = .ok t ∧ Inv (h ++ es) t := by
  intro es
  induction es with
  | nil => intro h s hs _; exact ⟨s, rfl, by simpa using hs⟩
  | cons e es ih =>
    intro h s hs hlegal
    have he : Legal h e := by simpa using hlegal [] e es rfl
    obtain ⟨t, ht, hinv⟩ := hstep h s e hs he
    have hrest : ∀ pre e' post, es = pre ++ e' :: post → Legal (h ++ [e] ++ pre) e' := by
      intro pre e' post heq
      have := hlegal (e :: pre) e' post (by rw [heq]; rfl)
      simpa using this
    obtain ⟨u, hu, hinvu⟩ := ih (h ++ [e]) t hinv hrest
    refine ⟨u, ?_, by simpa using hinvu⟩
    rw [List.foldlM_cons, ht]
    exact hu

/-- **Partial rule.** What every step that returns preserves, a run that returns preserves. -/
theorem foldlM_preserves {step : σ → ε → Except φ σ} {P : σ → Prop}
    (hstep : ∀ s e t, P s → step s e = .ok t → P t) {es : List ε} {s t : σ} (hs : P s)
    (h : es.foldlM step s = .ok t) : P t := by
  induction es generalizing s with
  | nil =>
    obtain rfl : s = t := Except.ok.inj h
    exact hs
  | cons e es ih =>
    rw [List.foldlM_cons] at h
    cases he : step s e with
    | error f =>
      rw [he] at h
      cases h
    | ok u =>
      rw [he] at h
      exact ih (hstep s e u hs he) h

/-- **Loop rule.** A loop over distinct elements, where a step deals with one element and leaves the
others to be dealt with. `R s l t` says what there is in `t` after the elements of `l`. -/
theorem foldlM_distinct {step : σ → ε → Except φ σ} {Inv : σ → Prop} {Live : σ → ε → Prop}
    {R : σ → List ε → σ → Prop} (hnil : ∀ s, Inv s → R s [] s)
    (hcons : ∀ s t u e l, R s [e] t → R t l u → R s (e :: l) u)
    (hstep : ∀ s e, Inv s → Live s e → ∃ t, step s e = .ok t ∧ R s [e] t ∧ Inv t ∧
      ∀ e', e' ≠ e → Live s e' → Live t e') (l : List ε) :
    ∀ {s : σ}, Inv s → l.Nodup → (∀ e ∈ l, Live s e) →
      ∃ t, l.foldlM step s = .ok t ∧ R s l t ∧ Inv t := by
  induction l with
  | nil => exact fun hs _ _ ↦ ⟨_, rfl, hnil _ hs, hs⟩
  | cons e l ih =>
    intro s hs hnodup hlive
    obtain ⟨he, hnodup⟩ := List.nodup_cons.mp hnodup
    obtain ⟨t, hok, hdone, ht, hkeep⟩ := hstep s e hs (hlive e List.mem_cons_self)
    have hlive' : ∀ e' ∈ l, Live t e' := fun e' he' ↦
      hkeep e' (ne_of_mem_of_not_mem he' he) (hlive e' (List.mem_cons_of_mem e he'))
    obtain ⟨u, hrest, hdone', hu⟩ := ih ht hnodup hlive'
    refine ⟨u, ?_, hcons s t u e l hdone hdone', hu⟩
    rw [List.foldlM_cons, hok]
    exact hrest

/-! ## Traces -/

section Traces

variable {σ ε φ α : Type}

/-- One step of a run with its output and the states around it. -/
structure Record (σ ε α : Type) where
  before : σ
  event : ε
  output : α
  after : σ

/-- The records of a run. -/
def trace (step : σ → ε → Except φ (α × σ)) : σ → List ε → Except φ (List (Record σ ε α))
  | _, [] => .ok []
  | s, e :: es => do
    let (a, t) ← step s e
    let records ← trace step t es
    return ⟨s, e, a, t⟩ :: records

/-- Every step of a run, as far as it gets, is legal in the state in which it is taken. -/
def Obeys (step : σ → ε → Except φ (α × σ)) (Legal : σ → ε → Prop) : σ → List ε → Prop
  | _, [] => True
  | s, e :: es => Legal s e ∧ ∀ a t, step s e = .ok (a, t) → Obeys step Legal t es

theorem Obeys.cons {step : σ → ε → Except φ (α × σ)} {Legal : σ → ε → Prop} {s t : σ} {e : ε}
    {es : List ε} {a : α} (hlegal : Legal s e) (hok : step s e = .ok (a, t))
    (hrest : Obeys step Legal t es) : Obeys step Legal s (e :: es) := by
  refine ⟨hlegal, fun b u hu ↦ ?_⟩
  obtain ⟨-, rfl⟩ := Prod.mk.inj (Except.ok.inj (hok.symm.trans hu))
  exact hrest

/-- On a given run it can be computed whether every step is legal. -/
instance decidableObeys {step : σ → ε → Except φ (α × σ)} {Legal : σ → ε → Prop}
    [∀ s e, Decidable (Legal s e)] : ∀ s es, Decidable (Obeys step Legal s es)
  | _, [] => isTrue trivial
  | s, e :: es =>
    match hstep : step s e with
    | .error _ => decidable_of_iff (Legal s e)
        ⟨fun hlegal ↦ ⟨hlegal, fun _ _ hok ↦ by rw [hstep] at hok; cases hok⟩, And.left⟩
    | .ok (a, t) =>
      have : Decidable (Obeys step Legal t es) := decidableObeys t es
      decidable_of_iff (Legal s e ∧ Obeys step Legal t es)
        ⟨fun h ↦ Obeys.cons h.1 hstep h.2, fun h ↦ ⟨h.1, h.2 a t hstep⟩⟩

/-- A trace that returns starts with a step that returns. -/
theorem trace_cons {step : σ → ε → Except φ (α × σ)} {s : σ} {e : ε} {es : List ε}
    {records : List (Record σ ε α)} (h : trace step s (e :: es) = .ok records) :
    ∃ a t rest, step s e = .ok (a, t) ∧ trace step t es = .ok rest ∧
      records = ⟨s, e, a, t⟩ :: rest := by
  rw [trace] at h
  cases hstep : step s e with
  | error f =>
    rw [hstep] at h
    cases h
  | ok at' =>
    rw [hstep] at h
    change (trace step at'.2 es >>= fun records ↦ Except.ok (⟨s, e, at'.1, at'.2⟩ :: records)) =
      _ at h
    cases hrest : trace step at'.2 es with
    | error f =>
      rw [hrest] at h
      cases h
    | ok rest =>
      rw [hrest] at h
      exact ⟨at'.1, at'.2, rest, rfl, hrest, (Except.ok.inj h).symm⟩

/-- The trace of a step that returns and of the rest of the run. -/
theorem trace_cons_ok {step : σ → ε → Except φ (α × σ)} {s t : σ} {e : ε} {es : List ε} {a : α}
    {rest : List (Record σ ε α)} (hstep : step s e = .ok (a, t))
    (hrest : trace step t es = .ok rest) :
    trace step s (e :: es) = .ok (⟨s, e, a, t⟩ :: rest) := by
  rw [trace, hstep]
  change (trace step t es >>= fun records ↦ Except.ok (⟨s, e, a, t⟩ :: records)) = _
  rw [hrest]
  rfl

/-- The records of a run are those of its events. -/
theorem trace_events {step : σ → ε → Except φ (α × σ)} {s : σ} {es : List ε}
    {records : List (Record σ ε α)} (h : trace step s es = .ok records) :
    records.map Record.event = es := by
  induction es generalizing s records with
  | nil =>
    obtain rfl : [] = records := Except.ok.inj h
    rfl
  | cons e es ih =>
    obtain ⟨a, t, rest, -, hrest, rfl⟩ := trace_cons h
    rw [List.map_cons, ih hrest]

/-- **Trace rule.** An invariant of state and past records holds before every step of a trace. -/
theorem trace_invariant {step : σ → ε → Except φ (α × σ)} {Inv : List (Record σ ε α) → σ → Prop}
    (hstep : ∀ h r, Inv h r.before → step r.before r.event = .ok (r.output, r.after) →
      Inv (h ++ [r]) r.after) :
    ∀ (es : List ε) (h : List (Record σ ε α)) (s : σ) (records : List (Record σ ε α)), Inv h s →
      trace step s es = .ok records → ∀ pre r post, records = pre ++ r :: post →
      Inv (h ++ pre) r.before ∧ step r.before r.event = .ok (r.output, r.after) := by
  intro es
  induction es with
  | nil =>
    intro h s records _ htrace pre r post hsplit
    obtain rfl : [] = records := Except.ok.inj htrace
    simp at hsplit
  | cons e es ih =>
    intro h s records hs htrace pre r post hsplit
    obtain ⟨a, t, rest, he, hrest, rfl⟩ := trace_cons htrace
    cases pre with
    | nil =>
      obtain ⟨rfl, -⟩ := List.cons.inj hsplit
      rw [List.append_nil]
      exact ⟨hs, he⟩
    | cons r' pre =>
      obtain ⟨rfl, htail⟩ := List.cons.inj hsplit
      have hinv := ih _ t rest (hstep h ⟨s, e, a, t⟩ hs he) hrest pre r post htail
      rwa [List.append_assoc] at hinv

/-- The invariant holds after every step, too. -/
theorem trace_invariant_after {step : σ → ε → Except φ (α × σ)}
    {Inv : List (Record σ ε α) → σ → Prop}
    (hstep : ∀ h r, Inv h r.before → step r.before r.event = .ok (r.output, r.after) →
      Inv (h ++ [r]) r.after) {es : List ε} {s : σ} {records : List (Record σ ε α)} (hs : Inv [] s)
    (htrace : trace step s es = .ok records) {pre post : List (Record σ ε α)} {r : Record σ ε α}
    (hsplit : records = pre ++ r :: post) :
    Inv pre r.before ∧ step r.before r.event = .ok (r.output, r.after) ∧
      Inv (pre ++ [r]) r.after := by
  obtain ⟨hinv, hr⟩ := trace_invariant hstep es [] s records hs htrace pre r post hsplit
  rw [List.nil_append] at hinv
  exact ⟨hinv, hr, hstep pre r hinv hr⟩

/-- **Trace safety.** If an invariant state takes every event into an invariant state or stops with
an allowed fault, then so does a whole run. -/
theorem trace_safe {step : σ → ε → Except φ (α × σ)} {Inv : σ → Prop} {Allowed : φ → Prop}
    (hstep : ∀ s e, Inv s → (∃ f, step s e = .error f ∧ Allowed f) ∨
      ∃ a t, step s e = .ok (a, t) ∧ Inv t) (es : List ε) (s : σ) (hs : Inv s) :
    match trace step s es with
    | .ok records => ∀ r ∈ records, Inv r.before ∧ Inv r.after
    | .error f => Allowed f := by
  induction es generalizing s with
  | nil => exact fun _ h ↦ absurd h List.not_mem_nil
  | cons e es ih =>
    rw [trace]
    rcases hstep s e hs with ⟨f, herror, hallowed⟩ | ⟨a, t, hok, ht⟩
    · rw [herror]
      exact hallowed
    · rw [hok]
      have hrest := ih t ht
      change match (trace step t es >>= fun records ↦ Except.ok (⟨s, e, a, t⟩ :: records)) with
        | .ok records => ∀ r ∈ records, Inv r.before ∧ Inv r.after
        | .error f => Allowed f
      cases htrace : trace step t es with
      | error f =>
        rw [htrace] at hrest
        exact hrest
      | ok records =>
        rw [htrace] at hrest
        intro r hr
        rcases List.mem_cons.mp hr with rfl | hr
        · exact ⟨hs, ht⟩
        · exact hrest r hr

/-- **Total runs.** If an invariant state takes every event into an invariant state, no run
stops. -/
theorem trace_total {step : σ → ε → Except φ (α × σ)} {Inv : σ → Prop}
    (hstep : ∀ s e, Inv s → ∃ a t, step s e = .ok (a, t) ∧ Inv t) (es : List ε) (s : σ)
    (hs : Inv s) : ∃ records, trace step s es = .ok records := by
  have hsafe : match trace step s es with
      | .ok records => ∀ r ∈ records, Inv r.before ∧ Inv r.after
      | .error _ => False := trace_safe (fun s e hs ↦ Or.inr (hstep s e hs)) es s hs
  cases htrace : trace step s es with
  | error f =>
    rw [htrace] at hsafe
    exact hsafe.elim
  | ok records => exact ⟨records, rfl⟩

/-- What holds after the first step of a run and after those that follow holds after every step. -/
theorem forall_split_cons {P : List (Record σ ε α) → σ → Prop} {h : List (Record σ ε α)}
    {first : Record σ ε α} {records : List (Record σ ε α)} (hfirst : P (h ++ [first]) first.after)
    (hrest : ∀ pre r post, records = pre ++ r :: post →
      P (h ++ [first] ++ (pre ++ [r])) r.after) :
    ∀ pre r post, first :: records = pre ++ r :: post → P (h ++ (pre ++ [r])) r.after := by
  intro pre r post hsplit
  cases pre with
  | nil =>
    obtain ⟨rfl, -⟩ := List.cons.inj hsplit
    exact hfirst
  | cons r' pre =>
    obtain ⟨rfl, htail⟩ := List.cons.inj hsplit
    have hafter := hrest pre r post htail
    rwa [List.append_assoc] at hafter

/-- **Legal runs.** If an invariant state takes every legal event without a fault, and the invariant
of state and records is kept, no legal run stops, and it holds after every step. -/
theorem Obeys.trace {step : σ → ε → Except φ (α × σ)} {Legal : σ → ε → Prop} (Allowed : ε → Prop)
    (Inv : List (Record σ ε α) → σ → Prop)
    (hstep : ∀ h s e, Inv h s → Allowed e → Legal s e →
      ∃ a t, step s e = .ok (a, t) ∧ Inv (h ++ [⟨s, e, a, t⟩]) t) :
    ∀ (es : List ε) (h : List (Record σ ε α)) (s : σ), Inv h s → (∀ e ∈ es, Allowed e) →
      Obeys step Legal s es → ∃ records, Run.trace step s es = .ok records ∧
        (∃ t, Inv (h ++ records) t) ∧
        ∀ pre r post, records = pre ++ r :: post → Inv (h ++ (pre ++ [r])) r.after := by
  intro es
  induction es with
  | nil =>
    intro h s hs _ _
    refine ⟨[], rfl, ⟨s, by rwa [List.append_nil]⟩, fun pre r post hsplit ↦ ?_⟩
    simp at hsplit
  | cons e es ih =>
    intro h s hs hes hlegal
    obtain ⟨a, t, hok, ht⟩ := hstep h s e hs (hes e List.mem_cons_self) hlegal.1
    obtain ⟨records, hrecords, ⟨u, hu⟩, hafter⟩ :=
      ih _ t ht (fun e' he' ↦ hes e' (List.mem_cons_of_mem e he')) (hlegal.2 a t hok)
    exact ⟨_, trace_cons_ok hok hrecords, ⟨u, by simpa using hu⟩, forall_split_cons ht hafter⟩

/-- **History rule.** If every event that is legal after what happened before is taken without a
fault, and the invariant is kept, a run of such events does not stop, and it holds after every
step. -/
theorem trace_history {step : σ → ε → Except φ (α × σ)} {Legal : List ε → ε → Prop}
    {Inv : List (Record σ ε α) → σ → Prop}
    (hstep : ∀ h s e, Inv h s → Legal (h.map Record.event) e →
      ∃ a t, step s e = .ok (a, t) ∧ Inv (h ++ [⟨s, e, a, t⟩]) t) :
    ∀ (es : List ε) (h : List (Record σ ε α)) (s : σ), Inv h s →
      (∀ pre e post, es = pre ++ e :: post → Legal (h.map Record.event ++ pre) e) →
      ∃ records, trace step s es = .ok records ∧
        ∀ pre r post, records = pre ++ r :: post → Inv (h ++ (pre ++ [r])) r.after := by
  intro es
  induction es with
  | nil =>
    intro h s _ _
    refine ⟨[], rfl, fun pre r post hsplit ↦ ?_⟩
    simp at hsplit
  | cons e es ih =>
    intro h s hs hlegal
    have he : Legal (h.map Record.event) e := by simpa using hlegal [] e es rfl
    obtain ⟨a, t, hok, ht⟩ := hstep h s e hs he
    have hrest : ∀ pre e' post, es = pre ++ e' :: post →
        Legal ((h ++ [(⟨s, e, a, t⟩ : Record σ ε α)]).map Record.event ++ pre) e' := by
      intro pre e' post heq
      have := hlegal (e :: pre) e' post (by rw [heq]; rfl)
      simpa using this
    obtain ⟨records, hrecords, hafter⟩ := ih (h ++ [⟨s, e, a, t⟩]) t ht hrest
    exact ⟨⟨s, e, a, t⟩ :: records, trace_cons_ok hok hrecords, forall_split_cons ht hafter⟩

/-! ### What has happened -/

/-- In some step it happened, given the records up to then, and the records since are like this. -/
def Since (Happened : List (Record σ ε α) → Record σ ε α → Prop) (Kept : Record σ ε α → Prop)
    (history : List (Record σ ε α)) : Prop :=
  ∃ pre r post, history = pre ++ r :: post ∧ Happened pre r ∧ ∀ q ∈ post, Kept q

theorem Since.now {Happened : List (Record σ ε α) → Record σ ε α → Prop}
    {Kept : Record σ ε α → Prop} {history : List (Record σ ε α)} {r : Record σ ε α}
    (h : Happened history r) : Since Happened Kept (history ++ [r]) :=
  ⟨history, r, [], rfl, h, fun _ hq ↦ absurd hq List.not_mem_nil⟩

theorem Since.later {Happened : List (Record σ ε α) → Record σ ε α → Prop}
    {Kept : Record σ ε α → Prop} {history : List (Record σ ε α)} {r : Record σ ε α}
    (h : Since Happened Kept history) (hr : Kept r) : Since Happened Kept (history ++ [r]) := by
  obtain ⟨pre, first, post, rfl, hfirst, hpost⟩ := h
  refine ⟨pre, first, post ++ [r], List.append_assoc _ _ _, hfirst, fun q hq ↦ ?_⟩
  rcases List.mem_append.mp hq with hq | hq
  · exact hpost q hq
  · rw [List.mem_singleton.mp hq]
    exact hr

/-! ### Simulation -/

/-- What a run of a step that cannot stop puts out. -/
def emits {τ : Type} (next : τ → ε → α × τ) : τ → List ε → List α
  | _, [] => []
  | t, e :: es => (next t e).1 :: emits next (next t e).2 es

theorem emits_append {τ : Type} (next : τ → ε → α × τ) (t : τ) (es es' : List ε) :
    emits next t (es ++ es') =
      emits next t es ++ emits next (es.foldl (fun t e ↦ (next t e).2) t) es' := by
  induction es generalizing t with
  | nil => rfl
  | cons e es ih => rw [List.cons_append, emits, emits, ih, List.foldl_cons, List.cons_append]

/-- **Simulation rule.** If a step from a state that is related to an abstract one puts out what the
abstract step does and ends in related states, the run puts out what the abstract run does. -/
theorem trace_simulates {τ : Type} {step : σ → ε → Except φ (α × σ)} {next : τ → ε → α × τ}
    {R : σ → τ → Prop}
    (hstep : ∀ s t e, R s t → ∃ s', step s e = .ok ((next t e).1, s') ∧ R s' (next t e).2)
    (es : List ε) {s : σ} {t : τ} (h : R s t) :
    ∃ records, trace step s es = .ok records ∧ records.map Record.output = emits next t es ∧
      ∀ r ∈ records, ∃ t', R r.after t' := by
  induction es generalizing s t with
  | nil => exact ⟨[], rfl, rfl, fun _ hr ↦ absurd hr List.not_mem_nil⟩
  | cons e es ih =>
    obtain ⟨s', hok, hrelated⟩ := hstep s t e h
    obtain ⟨records, hrecords, houtputs, hafter⟩ := ih hrelated
    refine ⟨_, trace_cons_ok hok hrecords, ?_, fun r hr ↦ ?_⟩
    · rw [List.map_cons, houtputs, emits]
    · rcases List.mem_cons.mp hr with rfl | hr
      · exact ⟨_, hrelated⟩
      · exact hafter r hr

/-! ### Two runs -/

/-- What a run puts out. -/
def outputs (step : σ → ε → Except φ (α × σ)) : σ → List ε → Except φ (List α)
  | _, [] => .ok []
  | s, e :: es => do
    let (a, t) ← step s e
    let rest ← outputs step t es
    return a :: rest

/-- A run that returns starts with a step that returns. -/
theorem outputs_cons_eq_ok {step : σ → ε → Except φ (α × σ)} {s : σ} {e : ε} {es : List ε}
    {out : List α} :
    outputs step s (e :: es) = .ok out ↔
      ∃ a t rest, step s e = .ok (a, t) ∧ outputs step t es = .ok rest ∧ out = a :: rest := by
  rw [outputs]
  cases step s e with
  | error f =>
    constructor
    · intro h
      cases h
    · rintro ⟨a, t, rest, h, -⟩
      cases h
  | ok at' =>
    change (outputs step at'.2 es >>= fun rest ↦ Except.ok (at'.1 :: rest)) = _ ↔ _
    constructor
    · intro h
      cases hrest : outputs step at'.2 es with
      | error f =>
        rw [hrest] at h
        cases h
      | ok rest =>
        rw [hrest] at h
        exact ⟨at'.1, at'.2, rest, rfl, hrest, (Except.ok.inj h).symm⟩
    · rintro ⟨a, t, rest, h, hrest, rfl⟩
      obtain rfl := Except.ok.inj h
      rw [hrest]
      rfl

/-- Two steps put out the same and end in related states, or stop with the same fault. -/
inductive Alike (R : σ → σ → Prop) : Except φ (α × σ) → Except φ (α × σ) → Prop where
  | ok {a : α} {s t : σ} (h : R s t) : Alike R (.ok (a, s)) (.ok (a, t))
  | error (f : φ) : Alike R (.error f) (.error f)

/-- **Two runs in step.** If allowed events take related states alike, two runs from related states
put out the same. -/
theorem outputs_eq {step : σ → ε → Except φ (α × σ)} {R : σ → σ → Prop} {Allowed : ε → Prop}
    (hstep : ∀ s t e, R s t → Allowed e → Alike R (step s e) (step t e)) {es : List ε}
    (hes : ∀ e ∈ es, Allowed e) {s t : σ} (h : R s t) : outputs step s es = outputs step t es := by
  induction es generalizing s t with
  | nil => rfl
  | cons e es ih =>
    have halike := hstep s t e h (hes e List.mem_cons_self)
    rw [outputs, outputs]
    generalize step s e = x at halike
    generalize step t e = y at halike
    cases halike with
    | error f => rfl
    | ok hst =>
      change (outputs step _ es >>= _) = (outputs step _ es >>= _)
      rw [ih (fun e' he' ↦ hes e' (List.mem_cons_of_mem e he')) hst]

end Traces

/-! ## Reachable states -/

section Reachable

variable {σ ε φ α : Type}

/-- The states that a step function reaches from `start` when every event is legal in the state in
which it happens. -/
inductive Reachable (step : σ → ε → Except φ (α × σ)) (Legal : σ → ε → Prop) (start : σ) :
    σ → Prop where
  | start : Reachable step Legal start start
  | step {s t : σ} {e : ε} {a : α} : Reachable step Legal start s → Legal s e →
    step s e = .ok (a, t) → Reachable step Legal start t

/-- **Invariant rule.** What the legal steps keep holds of every reachable state. -/
theorem Reachable.invariant {step : σ → ε → Except φ (α × σ)} {Legal : σ → ε → Prop} {start s : σ}
    {P : σ → Prop} (h : Reachable step Legal start s) (hstart : P start)
    (hstep : ∀ s e a t, P s → Legal s e → step s e = .ok (a, t) → P t) : P s := by
  induction h with
  | start => exact hstart
  | step _ hlegal hok ih => exact hstep _ _ _ _ ih hlegal hok

/-- **Reachability rule.** If an invariant state takes every legal event without a fault and into an
invariant state, every reachable state is one, and no legal event faults there. -/
theorem Reachable.safe {step : σ → ε → Except φ (α × σ)} {Legal : σ → ε → Prop} {start s : σ}
    {P : σ → Prop} (h : Reachable step Legal start s) (hstart : P start)
    (hstep : ∀ s e, P s → Legal s e → ∃ a t, step s e = .ok (a, t) ∧ P t) :
    P s ∧ ∀ e, Legal s e → ∃ a t, step s e = .ok (a, t) := by
  have hinv : P s := by
    refine h.invariant hstart fun s e a t hs hlegal hok ↦ ?_
    obtain ⟨a', t', hok', ht⟩ := hstep s e hs hlegal
    cases hok.symm.trans hok'
    exact ht
  refine ⟨hinv, fun e hlegal ↦ ?_⟩
  obtain ⟨a, t, hok, -⟩ := hstep s e hinv hlegal
  exact ⟨a, t, hok⟩

/-- The end of a run of events that are always legal is reachable. -/
theorem Reachable.of_foldlM {step : σ → ε → Except φ (α × σ)} {Legal : σ → ε → Prop} {start : σ}
    {es : List ε} (hlegal : ∀ e ∈ es, ∀ s, Legal s e) {s t : σ} (hs : Reachable step Legal start s)
    (hrun : es.foldlM (fun s e ↦ (step s e).map Prod.snd) s = .ok t) :
    Reachable step Legal start t := by
  induction es generalizing s with
  | nil =>
    obtain rfl : s = t := Except.ok.inj hrun
    exact hs
  | cons e es ih =>
    rw [List.foldlM_cons] at hrun
    cases hstep : step s e with
    | error f =>
      rw [hstep] at hrun
      cases hrun
    | ok result =>
      obtain ⟨a, u⟩ := result
      rw [hstep] at hrun
      have hu : Reachable step Legal start u := .step hs (hlegal e List.mem_cons_self s) hstep
      exact ih (fun e' he' ↦ hlegal e' (List.mem_cons_of_mem e he')) hu hrun

end Reachable

/-! ## Epochs

An *epoch* of a history is the part from the last event with a property on. -/

/-- The last event with a property is unique. -/
theorem epoch_unique {P : ε → Prop} {pre pre' mid mid' : List ε} {a a' : ε}
    (h : pre ++ a :: mid = pre' ++ a' :: mid') (ha : P a) (ha' : P a') (hmid : ∀ b ∈ mid, ¬P b)
    (hmid' : ∀ b ∈ mid', ¬P b) : a :: mid = a' :: mid' := by
  rcases List.append_eq_append_iff.mp h with ⟨xs, -, hxs⟩ | ⟨xs, -, hxs⟩
  · cases xs with
    | nil => exact hxs
    | cons x xs =>
      rw [List.cons_append, List.cons.injEq] at hxs
      exact absurd ha' (hmid a' (by rw [hxs.2]; simp))
  · cases xs with
    | nil => exact hxs.symm
    | cons x xs =>
      rw [List.cons_append, List.cons.injEq] at hxs
      exact absurd ha (hmid' a (by rw [hxs.2]; simp))

/-- What happened up to an event is part of the history. -/
theorem mem_of_split {hist pre post : List ε} {r e : ε} (h : hist = pre ++ r :: post)
    (he : e ∈ pre ++ [r]) : e ∈ hist := by
  rw [h, ← List.singleton_append, ← List.append_assoc]
  exact List.mem_append_left _ he

/-- An event of an extended history is an old one or the new one. -/
theorem split_concat {hist pre post : List ε} {r e : ε} (h : hist ++ [r] = pre ++ e :: post) :
    (hist = pre ∧ r = e ∧ post = []) ∨ ∃ post', hist = pre ++ e :: post' ∧ post = post' ++ [r] := by
  rcases List.eq_nil_or_concat post with rfl | ⟨post', last, rfl⟩
  · have hconcat := List.append_inj' h rfl
    exact Or.inl ⟨hconcat.1, (List.cons.inj hconcat.2).1, rfl⟩
  · rw [List.concat_eq_append] at h
    have hassoc : pre ++ e :: (post' ++ [last]) = pre ++ e :: post' ++ [last] := by simp
    rw [hassoc] at h
    have hconcat := List.append_inj' h rfl
    obtain rfl : r = last := (List.cons.inj hconcat.2).1
    exact Or.inr ⟨post', hconcat.1, by rw [List.concat_eq_append]⟩

end Run
