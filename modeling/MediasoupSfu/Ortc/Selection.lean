import MediasoupSfu.Ortc.Consume

/-!
# Which matched codecs a consumer keeps

The list of matched codecs is sanitized from its end: an RTX codec is removed if no codec in the
list has its `apt` as payload type at that time. What comes before it in the list is still there
then, and what comes after it has been sanitized already. `Anchored` says this of a position in the
list of matched codecs, without the list that changes.

There is a media codec for the consumer if the first codec that remains is one. It is not if an RTX
codec that keeps its place is before the first media codec.

## Main results

* `removeOrphans_eq` : the codecs that remain are those that are anchored.
* `selectCodecs_eq` : what the selection makes of the matched codecs.
-/

namespace MediasoupSfu

namespace Ortc

open Json (Failure)

/-! ## Anchored codecs -/

/-- **A position whose codec keeps its place**: that of a media codec, or of an RTX codec whose
`apt` is the payload type of a codec up to itself, or of one after it that keeps its place. -/
inductive Anchored (codecs : List RtpCodecParameters) : ℕ → Prop
  | media {i : ℕ} {codec : RtpCodecParameters} (h : codecs[i]? = some codec)
      (hmedia : isRtxMimeType codec.mimeType = false) : Anchored codecs i
  | before {i j : ℕ} {codec associated : RtpCodecParameters} (h : codecs[i]? = some codec)
      (hj : j ≤ i)
      (hassociated : codecs[j]? = some associated)
      (hapt : aptOf codec.parameters = .ok associated.payloadType) : Anchored codecs i
  | after {i j : ℕ} {codec associated : RtpCodecParameters} (h : codecs[i]? = some codec)
      (hj : i < j)
      (hanchored : Anchored codecs j) (hassociated : codecs[j]? = some associated)
      (hapt : aptOf codec.parameters = .ok associated.payloadType) : Anchored codecs i

open Classical in
/-- The anchored codecs from a position on. -/
noncomputable def anchoredFrom (codecs : List RtpCodecParameters) (k : ℕ) :
    List RtpCodecParameters :=
  ((codecs.zipIdx.drop k).filter fun entry ↦ Anchored codecs entry.2).map Prod.fst

theorem drop_zipIdx {codecs : List RtpCodecParameters} {k : ℕ} {codec : RtpCodecParameters}
    (h : codecs[k]? = some codec) :
    codecs.zipIdx.drop k = (codec, k) :: codecs.zipIdx.drop (k + 1) := by
  obtain ⟨hk, rfl⟩ := List.getElem?_eq_some_iff.mp h
  rw [List.drop_eq_getElem_cons (by simpa using hk)]
  simp

theorem anchoredFrom_of_anchored {codecs : List RtpCodecParameters} {k : ℕ}
    {codec : RtpCodecParameters}
    (h : codecs[k]? = some codec) (hanchored : Anchored codecs k) :
    anchoredFrom codecs k = codec :: anchoredFrom codecs (k + 1) := by
  simp [anchoredFrom, drop_zipIdx h, hanchored]

theorem anchoredFrom_of_not_anchored {codecs : List RtpCodecParameters} {k : ℕ}
    {codec : RtpCodecParameters} (h : codecs[k]? = some codec) (hanchored : ¬ Anchored codecs k) :
    anchoredFrom codecs k = anchoredFrom codecs (k + 1) := by
  simp [anchoredFrom, drop_zipIdx h, hanchored]

theorem anchoredFrom_length (codecs : List RtpCodecParameters) :
    anchoredFrom codecs codecs.length = [] := by
  rw [anchoredFrom, List.drop_eq_nil_of_le (by simp)]
  rfl

theorem mem_anchoredFrom {codecs : List RtpCodecParameters} {k : ℕ} {codec : RtpCodecParameters} :
    codec ∈ anchoredFrom codecs k ↔ ∃ j, k ≤ j ∧ codecs[j]? = some codec ∧ Anchored codecs j := by
  simp only [anchoredFrom, List.mem_map, List.mem_filter, decide_eq_true_eq]
  constructor
  · rintro ⟨⟨c, j⟩, ⟨hmem, hanchored⟩, rfl⟩
    obtain ⟨n, hn⟩ := List.mem_iff_getElem?.mp hmem
    rw [List.getElem?_drop, List.getElem?_zipIdx] at hn
    obtain ⟨c', hc', heq⟩ := Option.map_eq_some_iff.mp hn
    cases heq
    exact ⟨_, by omega, by simpa using hc', hanchored⟩
  · rintro ⟨j, hj, hcodec, hanchored⟩
    refine ⟨(codec, j), ⟨?_, hanchored⟩, rfl⟩
    refine List.mem_iff_getElem?.mpr ⟨j - k, ?_⟩
    rw [List.getElem?_drop, List.getElem?_zipIdx, show k + (j - k) = j by omega, hcodec]
    simp

/-- An RTX codec is anchored if the list that it is looked up in has the codec it belongs to. -/
theorem anchored_iff {codecs : List RtpCodecParameters} {k : ℕ} {codec : RtpCodecParameters}
    {apt : ℤ}
    (h : codecs[k]? = some codec) (hrtx : isRtxMimeType codec.mimeType = true)
    (hapt : aptOf codec.parameters = .ok apt) :
    Anchored codecs k ↔
      ∃ associated ∈ codecs.take (k + 1) ++ anchoredFrom codecs (k + 1), associated.payloadType =
        apt := by
  constructor
  · intro hanchored
    cases hanchored with
    | media h' hmedia =>
      cases h.symm.trans h'
      rw [hrtx] at hmedia
      cases hmedia
    | @before _ j _ associated h' hj hassociated hapt' =>
      cases h.symm.trans h'
      cases hapt.symm.trans hapt'
      refine ⟨associated, List.mem_append_left _ (List.mem_iff_getElem?.mpr ⟨j, ?_⟩), rfl⟩
      rw [List.getElem?_take_of_lt (Nat.lt_succ_of_le hj)]
      exact hassociated
    | after h' hj hanchored' hassociated hapt' =>
      cases h.symm.trans h'
      cases hapt.symm.trans hapt'
      exact ⟨_, List.mem_append_right _ (mem_anchoredFrom.mpr ⟨_, hj, hassociated, hanchored'⟩),
        rfl⟩
  · rintro ⟨associated, hmem, rfl⟩
    rcases List.mem_append.mp hmem with hmem | hmem
    · obtain ⟨j, hj⟩ := List.mem_iff_getElem?.mp hmem
      obtain ⟨hlt, -⟩ := List.getElem?_eq_some_iff.mp hj
      have hlt' : j < k + 1 := by
        rw [List.length_take] at hlt
        omega
      rw [List.getElem?_take_of_lt hlt'] at hj
      exact .before h (Nat.le_of_lt_succ hlt') hj hapt
    · obtain ⟨j, hj, hassociated, hanchored⟩ := mem_anchoredFrom.mp hmem
      exact .after h hj hanchored hassociated hapt

/-! ## What is removed -/

/-- The `apt` of every RTX codec can be read. -/
def AptsReadable (codecs : List RtpCodecParameters) : Prop :=
  ∀ codec ∈ codecs, isRtxMimeType codec.mimeType = true → ∃ apt, aptOf codec.parameters = .ok apt

/-- **The codecs that remain are those that are anchored.** -/
theorem removeOrphans_eq {codecs : List RtpCodecParameters}
    (hmime : ∀ codec ∈ codecs, codec.mimeType ≠ "")
    (hapts : AptsReadable codecs) {k : ℕ} (hk : k ≤ codecs.length) (rtxSupported : Bool) :
    ∃ rtxSupported', removeOrphans k (codecs.take k ++ anchoredFrom codecs k) rtxSupported =
        .ok (anchoredFrom codecs 0, rtxSupported') ∧
      (rtxSupported' = true ↔ rtxSupported = true ∨ ∃ j < k, ∃ codec, codecs[j]? = some codec ∧
        isRtxMimeType codec.mimeType = true ∧ Anchored codecs j) := by
  induction k generalizing rtxSupported with
  | zero => exact ⟨rtxSupported, by simp [removeOrphans], by simp⟩
  | succ k ih =>
    have h : codecs[k]? = some codecs[k] := List.getElem?_eq_getElem hk
    generalize hcodec : codecs[k] = codec at h
    have hmem : codec ∈ codecs := List.mem_of_getElem? h
    have htake : codecs.take (k + 1) = codecs.take k ++ [codec] := by
      rw [List.take_succ_eq_append_getElem hk, hcodec]
    have hget : (codecs.take (k + 1) ++ anchoredFrom codecs (k + 1))[k]? = some codec := by
      rw [htake, List.append_assoc, List.getElem?_append_right (by simp)]
      simp [Nat.min_eq_left (Nat.le_of_succ_le hk)]
    have hstep : ∀ P : ℕ → Prop, (∃ j < k + 1, P j) ↔ P k ∨ ∃ j < k, P j := by
      intro P
      constructor
      · rintro ⟨j, hj, hP⟩
        rcases Nat.lt_succ_iff_lt_or_eq.mp hj with hj | rfl
        · exact .inr ⟨j, hj, hP⟩
        · exact .inl hP
      · rintro (hP | ⟨j, hj, hP⟩)
        · exact ⟨k, Nat.lt_succ_self k, hP⟩
        · exact ⟨j, Nat.lt_succ_of_lt hj, hP⟩
    simp only [removeOrphans, hget, isRtxCodec_toJson, if_neg (hmime codec hmem), bind, Except.bind,
      hstep]
    cases hrtx : isRtxMimeType codec.mimeType with
    | false =>
      -- A media codec stays.
      rw [htake, List.append_assoc, List.singleton_append,
        ← anchoredFrom_of_anchored h (.media h hrtx)]
      obtain ⟨rtxSupported', hresult, hiff⟩ := ih (Nat.le_of_succ_le hk) rtxSupported
      exact ⟨rtxSupported', by simpa using hresult, by simp [hiff, h, hrtx]⟩
    | true =>
      obtain ⟨apt, hapt⟩ := hapts codec hmem hrtx
      have hany : ((codecs.take (k + 1) ++ anchoredFrom codecs (k + 1)).any
          fun mediaCodec ↦ mediaCodec.payloadType == apt) = true ↔ Anchored codecs k := by
        simp only [anchored_iff h hrtx hapt, List.any_eq_true, beq_iff_eq]
      simp only [hapt, if_true]
      by_cases hanchored : Anchored codecs k
      · rw [if_pos (hany.mpr hanchored), htake, List.append_assoc, List.singleton_append,
          ← anchoredFrom_of_anchored h hanchored]
        obtain ⟨rtxSupported', hresult, hiff'⟩ := ih (Nat.le_of_succ_le hk) true
        exact ⟨rtxSupported', hresult, by simp [hiff', h, hrtx, hanchored]⟩
      · rw [if_neg (mt hany.mp hanchored)]
        have herase : (codecs.take (k + 1) ++ anchoredFrom codecs (k + 1)).eraseIdx k =
            codecs.take k ++ anchoredFrom codecs k := by
          rw [anchoredFrom_of_not_anchored h hanchored, htake, List.append_assoc,
            List.eraseIdx_append_of_length_le (by simp)]
          simp [Nat.min_eq_left (Nat.le_of_succ_le hk)]
        rw [herase]
        obtain ⟨rtxSupported', hresult, hiff'⟩ := ih (Nat.le_of_succ_le hk) rtxSupported
        exact ⟨rtxSupported', hresult, by simp [hiff', h, hanchored]⟩

/-- An `apt` that cannot be read is no number. -/
theorem aptOf_error {parameters : List (String × Json)} {e : Failure}
    (h : aptOf parameters = .error e) :
    e = .exception 302 := by
  unfold aptOf at h
  split at h
  · cases h
  · next apt _ => cases apt <;> cases h <;> rfl

/-- An RTX codec whose `apt` cannot be read is come to, as nothing before it is removed earlier. -/
theorem removeOrphans_unreadable {codecs list : List RtpCodecParameters}
    (hmime : ∀ codec ∈ codecs, codec.mimeType ≠ "") {k : ℕ} (hk : k ≤ codecs.length)
    (hlist : list.take k = codecs.take k) {j : ℕ} (hj : j < k) {codec : RtpCodecParameters}
    (hcodec : codecs[j]? = some codec) (hrtx : isRtxMimeType codec.mimeType = true)
    (hapt : ∀ apt, aptOf codec.parameters ≠ .ok apt) (rtxSupported : Bool) :
    removeOrphans k list rtxSupported = .error (.exception 302) := by
  induction k generalizing list rtxSupported with
  | zero => omega
  | succ k ih =>
    have hget : list[k]? = codecs[k]? := by
      rw [← List.getElem?_take_of_lt (Nat.lt_succ_self k), hlist,
        List.getElem?_take_of_lt (Nat.lt_succ_self k)]
    have htake : list.take k = codecs.take k := by
      have := congrArg (List.take k) hlist
      simpa [List.take_take] using this
    have hlast : codecs[k]? = some codecs[k] := List.getElem?_eq_getElem hk
    generalize codecs[k] = last at hlast
    simp only [removeOrphans, hget, hlast, isRtxCodec_toJson,
      if_neg (hmime last (List.mem_of_getElem? hlast)), bind, Except.bind]
    rcases Nat.lt_succ_iff_lt_or_eq.mp hj with hj | rfl
    · have hnext := fun {l : List RtpCodecParameters} (hl : l.take k = codecs.take k) ↦
        ih (Nat.le_of_succ_le hk) hl hj
      split
      · cases haptLast : aptOf last.parameters with
        | error e => rw [aptOf_error haptLast]
        | ok apt =>
          dsimp only
          split
          · exact hnext htake true
          · exact hnext (by rw [List.take_eraseIdx_eq_take_of_le _ _ _ le_rfl, htake]) rtxSupported
      · exact hnext htake rtxSupported
    · cases hlast.symm.trans hcodec
      rw [if_pos hrtx]
      cases haptLast : aptOf codec.parameters with
      | error e => rw [aptOf_error haptLast]
      | ok apt => exact absurd haptLast (hapt apt)

/-! ## The first codec that remains -/

theorem anchoredFrom_eq_of_not_anchored {codecs : List RtpCodecParameters} {i : ℕ}
    (hi : i ≤ codecs.length)
    (h : ∀ j < i, ¬ Anchored codecs j) : anchoredFrom codecs 0 = anchoredFrom codecs i := by
  induction i with
  | zero => rfl
  | succ i ih =>
    rw [ih (Nat.le_of_succ_le hi) fun j hj ↦ h j (Nat.lt_succ_of_lt hj)]
    exact anchoredFrom_of_not_anchored (List.getElem?_eq_getElem hi) (h i (Nat.lt_succ_self i))

/-- **No media codec is left at the front**: there is none, or an RTX codec that keeps its place is
before it. -/
def Blocked (codecs : List RtpCodecParameters) : Prop :=
  ∀ i codec, codecs[i]? = some codec → isRtxMimeType codec.mimeType = false →
    ∃ j < i, Anchored codecs j

theorem anchoredFrom_of_not_blocked {codecs : List RtpCodecParameters} (h : ¬ Blocked codecs) :
    ∃ codec rest, anchoredFrom codecs 0 = codec :: rest ∧ codec ∈ codecs ∧
      isRtxMimeType codec.mimeType = false := by
  simp only [Blocked, not_forall, not_exists, not_and] at h
  obtain ⟨i, codec, hcodec, hmedia, hnone⟩ := h
  obtain ⟨hi, -⟩ := List.getElem?_eq_some_iff.mp hcodec
  refine ⟨codec, anchoredFrom codecs (i + 1), ?_, List.mem_of_getElem? hcodec, hmedia⟩
  rw [anchoredFrom_eq_of_not_anchored hi.le hnone,
    anchoredFrom_of_anchored hcodec (.media hcodec hmedia)]

theorem Anchored.lt_length {codecs : List RtpCodecParameters} {i : ℕ} (h : Anchored codecs i) :
    i < codecs.length := by
  cases h with
  | media h => exact (List.getElem?_eq_some_iff.mp h).1
  | before h => exact (List.getElem?_eq_some_iff.mp h).1
  | after h => exact (List.getElem?_eq_some_iff.mp h).1

open Classical in
theorem anchoredFrom_of_blocked {codecs : List RtpCodecParameters} (h : Blocked codecs) :
    anchoredFrom codecs 0 = [] ∨ ∃ codec rest, anchoredFrom codecs 0 = codec :: rest ∧
      codec ∈ codecs ∧ isRtxMimeType codec.mimeType = true := by
  by_cases hany : ∃ i, Anchored codecs i
  · right
    -- The first position that is anchored is not that of a media codec.
    have hanchored := Nat.find_spec hany
    have hfirst : ∀ j < Nat.find hany, ¬ Anchored codecs j := fun j hj ↦ Nat.find_min hany hj
    generalize Nat.find hany = i at hanchored hfirst
    have hi := hanchored.lt_length
    have hcodec : codecs[i]? = some codecs[i] := List.getElem?_eq_getElem hi
    refine ⟨codecs[i], anchoredFrom codecs (i + 1), ?_, List.getElem_mem hi, ?_⟩
    · rw [anchoredFrom_eq_of_not_anchored hi.le hfirst, anchoredFrom_of_anchored hcodec hanchored]
    · by_contra hmedia
      obtain ⟨j, hj, hanchored'⟩ := h i _ hcodec (by simpa using hmedia)
      exact hfirst j hj hanchored'
  · left
    refine List.eq_nil_iff_forall_not_mem.mpr fun codec hmem ↦ ?_
    obtain ⟨j, -, -, hanchored⟩ := mem_anchoredFrom.mp hmem
    exact hany ⟨j, hanchored⟩

/-! ## The selection -/

theorem silent_findCapCodec (codec : RtpCodecParameters) (capCodecs : List RtpCodecCapability) :
    Silent (findCapCodec codec capCodecs) := by
  induction capCodecs with
  | nil => exact .ok _
  | cons capCodec rest ih =>
    refine (silent_matchCodecs _ _ _ _).bind fun ⟨matched, _⟩ ↦ ?_
    dsimp only
    split
    · exact .ok _
    · exact ih

theorem silent_matchingCodecs (caps : RtpCapabilities) (codecs : List RtpCodecParameters) :
    Silent (matchingCodecs caps codecs) := by
  induction codecs with
  | nil => exact .ok _
  | cons codec rest ih =>
    refine (silent_findCapCodec _ _).bind fun found ↦ ?_
    split
    · exact ih
    · exact ih.bind fun _ ↦ .ok _

theorem findCapCodec_returns {codec : RtpCodecParameters} {capCodecs : List RtpCodecCapability}
    {capCodec : RtpCodecCapability} (h : findCapCodec codec capCodecs = .ok (some capCodec)) :
    codec.mimeType ≠ "" := by
  induction capCodecs with
  | nil => cases h
  | cons c rest ih =>
    obtain ⟨⟨matched, j⟩, hmatched, h⟩ := bind_eq_ok.mp h
    dsimp only at h
    split at h
    · next htrue =>
      subst htrue
      obtain ⟨-, bMimeType, -, -, hb, -⟩ := matchCodecs_of_returns hmatched
      simp only [RtpCodecParameters.find?_mimeType_toJson, setString_eq_some] at hb
      exact hb.1
    · exact ih h

/-- A codec that is matched has a MIME type. -/
theorem matchingCodecs_returns {caps : RtpCapabilities} {codecs : List RtpCodecParameters}
    {matched : List (RtpCodecParameters × RtpCodecCapability)}
    (h : matchingCodecs caps codecs = .ok matched) : ∀ pair ∈ matched, pair.1.mimeType ≠ "" := by
  induction codecs generalizing matched with
  | nil =>
    cases h
    simp
  | cons codec rest ih =>
    obtain ⟨found, hfound, h⟩ := bind_eq_ok.mp h
    cases found with
    | none => exact ih h
    | some capCodec =>
      obtain ⟨pairs, hpairs, h⟩ := bind_eq_ok.mp h
      cases h
      intro pair hpair
      rcases List.mem_cons.mp hpair with rfl | hpair
      · exact findCapCodec_returns hfound
      · exact ih hpairs pair hpair

theorem mimeType_of_matched {caps : RtpCapabilities} {codecs : List RtpCodecParameters}
    {matched : List (RtpCodecParameters × RtpCodecCapability)}
    (h : matchingCodecs caps codecs = .ok matched) :
    ∀ codec ∈ matched.map withFeedback, codec.mimeType ≠ "" := by
  intro codec hcodec
  obtain ⟨pair, hpair, rfl⟩ := List.mem_map.mp hcodec
  exact matchingCodecs_returns h pair hpair

/-- **What the selection makes of the matched codecs.** -/
theorem selectCodecs_eq {consumableParams : RtpParameters} {caps : RtpCapabilities}
    {matched : List (RtpCodecParameters × RtpCodecCapability)}
    (h : matchingCodecs caps consumableParams.codecs = .ok matched)
    (hapts : AptsReadable (matched.map withFeedback)) :
    (Blocked (matched.map withFeedback) → selectCodecs consumableParams caps =
      .error (.thrown noCompatibleMediaCodecs)) ∧
    (¬ Blocked (matched.map withFeedback) → ∃ rtxSupported, selectCodecs consumableParams caps =
        .ok (anchoredFrom (matched.map withFeedback) 0, rtxSupported) ∧
      (rtxSupported = true ↔ ∃ codec ∈ anchoredFrom (matched.map withFeedback) 0,
        isRtxMimeType codec.mimeType = true)) := by
  have hmime := mimeType_of_matched h
  generalize hcodecs : matched.map withFeedback = codecs at hapts hmime
  obtain ⟨rtxSupported, hresult, hiff⟩ := removeOrphans_eq hmime hapts le_rfl false
  rw [List.take_length, anchoredFrom_length, List.append_nil] at hresult
  have hrtx : ∀ codec ∈ codecs,
      isRtxCodec codec.toJson = .ok (isRtxMimeType codec.mimeType) := by
    intro codec hcodec
    rw [isRtxCodec_toJson, if_neg (hmime codec hcodec)]
  simp only [selectCodecs, h, hcodecs, hresult, bind, Except.bind]
  constructor
  · intro hblocked
    rcases anchoredFrom_of_blocked hblocked with hnil | ⟨codec, rest, hcons, hmem, htrue⟩
    · rw [hnil]
    · simp only [hcons, hrtx codec hmem, htrue, if_true]
  · intro hfree
    obtain ⟨codec, rest, hcons, hmem, hfalse⟩ := anchoredFrom_of_not_blocked hfree
    refine ⟨rtxSupported, ?_, ?_⟩
    · simp only [hcons, hrtx codec hmem, hfalse]
      rfl
    · rw [hiff]
      constructor
      · rintro (hfalse | ⟨j, -, c, hc, hr, hanchored⟩)
        · cases hfalse
        · exact ⟨c, mem_anchoredFrom.mpr ⟨j, Nat.zero_le j, hc, hanchored⟩, hr⟩
      · rintro ⟨c, hc, hr⟩
        obtain ⟨j, -, hj, hanchored⟩ := mem_anchoredFrom.mp hc
        exact .inr ⟨j, hanchored.lt_length, c, hj, hr, hanchored⟩

/-- Where an `apt` cannot be read, the selection fails with the error of the conversion. -/
theorem selectCodecs_unreadable {consumableParams : RtpParameters} {caps : RtpCapabilities}
    {matched : List (RtpCodecParameters × RtpCodecCapability)}
    (h : matchingCodecs caps consumableParams.codecs = .ok matched)
    (hapts : ¬ AptsReadable (matched.map withFeedback)) :
    selectCodecs consumableParams caps = .error (.exception 302) := by
  have hmime := mimeType_of_matched h
  simp only [AptsReadable, not_forall, not_exists] at hapts
  obtain ⟨codec, hmem, hrtx, hapt⟩ := hapts
  obtain ⟨j, hj⟩ := List.mem_iff_getElem?.mp hmem
  obtain ⟨hlt, -⟩ := List.getElem?_eq_some_iff.mp hj
  simp only [selectCodecs, h, removeOrphans_unreadable hmime le_rfl rfl hlt hj hrtx hapt, bind,
    Except.bind]

end Ortc

end MediasoupSfu
