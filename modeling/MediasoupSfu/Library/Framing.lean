import Mathlib.Data.List.Basic
import MediasoupSfu.Library.Run

/-!
# Framed streams

A stream is made of messages, each written as a frame, and arrives in pieces that have nothing to do
with the frames. A receiver keeps the cells that belong to an unfinished frame.

After each piece, what the receiver holds splits into the frames that are complete and the front
part of the next one (`received_split`). So whatever the pieces are, a receiver that takes the
complete frames from its buffer and keeps the rest has the messages in order: `receives` is the
induction over the pieces.
-/

namespace Framing

variable {μ β : Type} {encode : μ → List β} {messages : List μ} {buffer rest : List β}

/-- The front part of the frame of the next message, but not all of it. -/
def Partial (encode : μ → List β) (messages : List μ) (tail : List β) : Prop :=
  tail = [] ∨ ∃ m ∈ messages.head?, tail <+: encode m ∧ tail.length < (encode m).length

/-- **What has been received**, and is the front part of a stream, consists of frames and the front
part of the next one. -/
theorem received_split (h : buffer ++ rest = messages.flatMap encode) :
    ∃ complete left tail, messages = complete ++ left ∧
      buffer = complete.flatMap encode ++ tail ∧ tail ++ rest = left.flatMap encode ∧
      Partial encode left tail := by
  induction messages generalizing buffer with
  | nil =>
    obtain ⟨hbuffer, -⟩ := List.append_eq_nil_iff.mp h
    exact ⟨[], [], [], rfl, hbuffer, by simpa [hbuffer] using h, Or.inl rfl⟩
  | cons m messages ih =>
    rw [List.flatMap_cons] at h
    rcases List.append_eq_append_iff.mp h with ⟨cells, hframe, hrest⟩ | ⟨cells, hbuffer, hcells⟩
    · by_cases hcells : cells = []
      · -- the buffer is exactly one frame
        rw [hcells, List.append_nil] at hframe
        rw [hcells, List.nil_append] at hrest
        exact ⟨[m], messages, [], rfl, by simp [hframe], hrest, Or.inl rfl⟩
      · refine ⟨[], m :: messages, buffer, rfl, rfl, by rw [h, List.flatMap_cons],
          Or.inr ⟨m, rfl, ⟨cells, hframe.symm⟩, ?_⟩⟩
        have hpos := List.length_pos_iff.mpr hcells
        rw [hframe, List.length_append]
        omega
    · obtain ⟨complete, left, tail, hmessages, hsplit, htail, hincomplete⟩ := ih hcells.symm
      refine ⟨m :: complete, left, tail, by rw [hmessages, List.cons_append], ?_, htail,
        hincomplete⟩
      rw [hbuffer, hsplit, List.flatMap_cons, List.append_assoc]

/-- Nothing is left when the stream has ended. -/
theorem Partial.eq_nil (hne : ∀ m, encode m ≠ []) (h : Partial encode messages buffer)
    (hend : buffer = messages.flatMap encode) : messages = [] := by
  cases messages with
  | nil => rfl
  | cons m messages =>
    rw [List.flatMap_cons] at hend
    have hlength := congrArg List.length hend
    rw [List.length_append] at hlength
    rcases h with rfl | ⟨m', hm', -, hlt⟩
    · exact absurd (List.append_eq_nil_iff.mp hend.symm).1 (hne m)
    · obtain rfl : m = m' := Option.some.inj hm'
      omega

/-- No frame is complete in the front part of one. -/
theorem Partial.split_unique (hne : ∀ m, encode m ≠ []) {more : List μ} {tail : List β}
    (h : Partial encode (more ++ messages) buffer)
    (hsplit : buffer = more.flatMap encode ++ tail) : more = [] ∧ tail = buffer := by
  cases more with
  | nil => exact ⟨rfl, hsplit.symm⟩
  | cons m more =>
    rw [List.flatMap_cons, List.append_assoc] at hsplit
    have hlength := congrArg List.length hsplit
    rw [List.length_append] at hlength
    rcases h with rfl | ⟨m', hm', -, hlt⟩
    · exact absurd (List.append_eq_nil_iff.mp hsplit.symm).1 (hne m)
    · obtain rfl : m = m' := Option.some.inj hm'
      omega

/-- More messages do not complete a frame. -/
theorem Partial.append (h : Partial encode messages buffer) (more : List μ) :
    Partial encode (messages ++ more) buffer := by
  rcases h with hnil | ⟨m, hm, hprefix, hlt⟩
  · exact Or.inl hnil
  · refine Or.inr ⟨m, ?_, hprefix, hlt⟩
    cases messages with
    | nil => cases hm
    | cons first messages => exact hm

variable {σ α φ : Type}

/-- **The induction over the pieces.** If each legal piece of a stream is received without a fault,
and the invariant follows the messages that are complete and the part of a frame behind them, then
the whole stream is received. -/
theorem receives {step : σ → List β → Except φ (α × σ)} {Legal : σ → List β → Prop}
    (Inv : List (Run.Record σ (List β) α) → List μ → List β → σ → Prop)
    (hne : ∀ m, encode m ≠ [])
    (hstep : ∀ hist complete tail s piece more left tail', Inv hist complete tail s →
      Legal s piece → messages = complete ++ more ++ left → Partial encode (more ++ left) tail →
      tail ++ piece = more.flatMap encode ++ tail' → Partial encode left tail' →
      ∃ a t, step s piece = .ok (a, t) ∧
        Inv (hist ++ [⟨s, piece, a, t⟩]) (complete ++ more) tail' t)
    {pieces : List (List β)} {s : σ} (hstart : Inv [] [] [] s)
    (hstream : pieces.flatten = messages.flatMap encode) (hlegal : Run.Obeys step Legal s pieces) :
    ∃ records t, Run.trace step s pieces = .ok records ∧ Inv records messages [] t := by
  -- The induction starts in the middle of a stream.
  have hmiddle : ∀ (pieces : List (List β)) hist complete left tail s, Inv hist complete tail s →
      messages = complete ++ left → Partial encode left tail →
      tail ++ pieces.flatten = left.flatMap encode → Run.Obeys step Legal s pieces →
      ∃ records t, Run.trace step s pieces = .ok records ∧ Inv (hist ++ records) messages [] t := by
    intro pieces
    induction pieces with
    | nil =>
      intro hist complete left tail s hinv hmessages hincomplete hrest _
      rw [List.flatten_nil, List.append_nil] at hrest
      obtain rfl := hincomplete.eq_nil hne hrest
      rw [List.append_nil] at hmessages
      rw [List.flatMap_nil] at hrest
      subst hmessages hrest
      exact ⟨[], s, rfl, by rwa [List.append_nil]⟩
    | cons piece pieces ih =>
      intro hist complete left tail s hinv hmessages hincomplete hrest hlegal
      rw [List.flatten_cons, ← List.append_assoc] at hrest
      obtain ⟨more, left, tail', rfl, hsplit, hrest', hincomplete'⟩ := received_split hrest
      rw [← List.append_assoc] at hmessages
      obtain ⟨a, t, hok, hinv'⟩ := hstep hist complete tail s piece more left tail' hinv hlegal.1
        hmessages hincomplete hsplit hincomplete'
      obtain ⟨records, u, htrace, hfinal⟩ :=
        ih _ _ left tail' t hinv' hmessages hincomplete' hrest' (hlegal.2 a t hok)
      refine ⟨_, u, Run.trace_cons_ok hok htrace, ?_⟩
      rwa [List.append_assoc] at hfinal
  have hrun := hmiddle pieces [] [] messages [] s hstart rfl (Or.inl rfl) hstream hlegal
  simpa only [List.nil_append] using hrun

end Framing
