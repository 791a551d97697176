import MediasoupSfu.Ortc.RouterCapabilities

/-!
# The payload types of a router are distinct

`Sound` relates the pool of dynamic payload types to the codecs: what is in the pool is dynamic, is
there once, and is no payload type of a codec. So what is taken from the pool is fresh, and only
what a media codec asks for has to be compared with the codecs.

The pool has 32 entries and nothing looks whether there is one left. `Enough` says of a state and
the next media codec that there is. It is all that is missing: nothing else in the allocation is
undefined.

## Main results

* `Allocation.Sound.allocate` : one media codec keeps the payload types distinct.
* `generateRouterRtpCapabilities_allocates` : the payload types are right, and no entry is taken
  from an empty pool, if and only if the pool has what each media codec takes.
-/

namespace MediasoupSfu

namespace Ortc

open Json (Failure)

/-! ## Finding the supported codec -/

theorem complete_of_mem_supportedCodecs : ∀ codec ∈ supportedCodecs, codec.Complete := by
  decide +kernel

/-- The static payload types are not dynamic. -/
theorem not_dynamic_of_mem_supportedCodecs :
    ∀ codec ∈ supportedCodecs, codec.preferredPayloadType ∉ DynamicPayloadTypes := by
  decide +kernel

/-- The supported codecs are media codecs, of which only those for audio have static payload
types. -/
theorem findSupported_returns {jmediaCodec : Json} (hmedia : Matchable jmediaCodec)
    {codecs : List RtpCodecCapability} (hcodecs : ∀ codec ∈ codecs, codec.Complete) :
    ∃ found, findSupported jmediaCodec codecs = .ok found ∧ ∀ codec ∈ found, codec ∈ codecs := by
  induction codecs with
  | nil => exact ⟨none, rfl, by simp⟩
  | cons codec rest ih =>
    obtain ⟨matched, hmatched⟩ := matchCodecs_returns hmedia (hcodecs codec (by simp))
    obtain ⟨found, hfound, hmem⟩ := ih fun codec hcodec ↦ hcodecs codec (by simp [hcodec])
    simp only [findSupported, hmatched, bind, Except.bind]
    cases matched with
    | true => exact ⟨some codec, rfl, by simp⟩
    | false => exact ⟨found, hfound, fun codec hcodec ↦ by simp [hmem codec hcodec]⟩

/-- A media codec that is not valid is declined, and no other one fails. -/
theorem supportedFor_declines (mediaCodec : RtpCodecCapability) :
    Declines (supportedFor mediaCodec) := by
  unfold supportedFor
  intro e h
  rcases bind_eq_error.mp h with h | ⟨jmediaCodec, hvalid, h⟩
  · exact validateRtpCodecCapability_declines _ e h
  · obtain ⟨found, hfound, -⟩ := findSupported_returns
      (matchable_of_validateRtpCodecCapability hvalid) complete_of_mem_supportedCodecs
    rw [hfound] at h
    cases h

theorem mem_of_supportedFor {mediaCodec codec : RtpCodecCapability}
    (h : supportedFor mediaCodec = .ok (some codec)) : codec ∈ supportedCodecs := by
  obtain ⟨jmediaCodec, hvalid, h⟩ := bind_eq_ok.mp h
  obtain ⟨found, hfound, hmem⟩ := findSupported_returns
    (matchable_of_validateRtpCodecCapability hvalid) complete_of_mem_supportedCodecs
  exact hmem codec (by simpa [hfound] using h)

/-! ## What the pool is to the codecs -/

/-- **A video codec is followed by its RTX codec**, which has a dynamic payload type. -/
def Paired (codecs : List RtpCodecCapability) : Prop :=
  ∀ i codec, codecs[i]? = some codec → codec.kind = "video" → isRtxMimeType codec.mimeType = false →
    ∃ rtx, codecs[i + 1]? = some rtx ∧ isRtxMimeType rtx.mimeType = true ∧
      rtx.parameters.lookup "apt" = some (.number codec.preferredPayloadType) ∧
      rtx.preferredPayloadType ∈ DynamicPayloadTypes

/-- **The invariant of the allocation.** -/
structure Allocation.Sound (s : Allocation) : Prop where
  /-- What is in the pool is dynamic, is there once, and has not been given away. -/
  dynamic : ∀ pt ∈ s.dynamicPayloadTypes, pt ∈ DynamicPayloadTypes
  nodup : s.dynamicPayloadTypes.Nodup
  fresh : ∀ pt ∈ s.dynamicPayloadTypes, pt ∉ s.payloadTypes
  /-- The payload types of the codecs are distinct and set. -/
  distinct : s.payloadTypes.Nodup
  set : 0 ∉ s.payloadTypes
  paired : Paired s.codecs

theorem Allocation.sound_initial : Allocation.initial.Sound where
  dynamic := fun _ h ↦ h
  nodup := by decide
  fresh := by simp [Allocation.payloadTypes, Allocation.initial]
  distinct := by simp [Allocation.payloadTypes, Allocation.initial]
  set := by simp [Allocation.payloadTypes, Allocation.initial]
  paired := by simp [Paired, Allocation.initial]

theorem Paired.append {codecs codecs' : List RtpCodecCapability} (h : Paired codecs)
    (h' : Paired codecs') : Paired (codecs ++ codecs') := by
  intro i codec hcodec hkind hmedia
  rcases Nat.lt_or_ge i codecs.length with hi | hi
  · rw [List.getElem?_append_left hi] at hcodec
    obtain ⟨rtx, hrtx, hrest⟩ := h i codec hcodec hkind hmedia
    obtain ⟨hi', -⟩ := List.getElem?_eq_some_iff.mp hrtx
    exact ⟨rtx, by rw [List.getElem?_append_left hi', hrtx], hrest⟩
  · rw [List.getElem?_append_right hi] at hcodec
    obtain ⟨rtx, hrtx, hrest⟩ := h' _ codec hcodec hkind hmedia
    refine ⟨rtx, ?_, hrest⟩
    rw [List.getElem?_append_right (by omega), show i + 1 - codecs.length =
      i - codecs.length + 1 by omega,
      hrtx]

/-- A codec that is not a video codec needs no other one. -/
theorem paired_audio {codec : RtpCodecCapability} (hkind : codec.kind ≠ "video") :
    Paired [codec] := by
  intro i c hc hvideo
  cases i with
  | zero => cases hc; exact absurd hvideo hkind
  | succ i => cases hc

theorem paired_video {codec : RtpCodecCapability} (hkind : codec.kind = "video") {pt : ℤ}
    (hpt : pt ∈ DynamicPayloadTypes) : Paired [codec, rtxCodec codec pt] := by
  intro i c hc _ hmedia
  have hrtx : isRtxMimeType (rtxCodec codec pt).mimeType = true := by
    simp only [rtxCodec, hkind]
    decide +kernel
  match i, hc with
  | 0, hc =>
    cases hc
    exact ⟨rtxCodec codec pt, rfl, hrtx, rfl, hpt⟩
  | 1, hc =>
    cases hc
    rw [hrtx] at hmedia
    cases hmedia

/-! ## One media codec -/

@[simp] theorem takePayloadType_eq_ok {pool pool' : List ℤ} {pt : ℤ} :
    takePayloadType pool = .ok (pt, pool') ↔ pool = pt :: pool' ∧ pt ≠ 0 := by
  unfold takePayloadType
  split
  · simp
  · next first rest =>
    split
    · next hzero =>
      constructor
      · intro h
        cases h
      · rintro ⟨h, hpt⟩
        cases h
        exact absurd hzero hpt
    · next hset =>
      constructor
      · intro h
        cases h
        exact ⟨rfl, hset⟩
      · rintro ⟨h, -⟩
        cases h
        rfl

/-- **The chosen payload type** is set, and is not left in the pool. -/
theorem choosePayloadType_returns {s : Allocation} (hs : s.Sound)
    {mediaCodec codec : RtpCodecCapability}
    (hcodec : codec ∈ supportedCodecs) {pt : ℤ} {pool : List ℤ}
    (h : choosePayloadType mediaCodec codec s.dynamicPayloadTypes = .ok (pt, pool)) :
    pt ≠ 0 ∧ pt ∉ pool ∧ pool.Sublist s.dynamicPayloadTypes := by
  unfold choosePayloadType at h
  split at h
  · next hmedia =>
    cases h
    exact ⟨hmedia, hs.nodup.not_mem_erase, List.erase_sublist⟩
  split at h
  · next hstatic =>
    cases h
    exact ⟨hstatic, fun hmem ↦ not_dynamic_of_mem_supportedCodecs codec hcodec (hs.dynamic _ hmem),
      List.Sublist.refl _⟩
  · obtain ⟨hpool, hpt⟩ := takePayloadType_eq_ok.mp h
    have hnodup := hs.nodup
    rw [hpool] at hnodup
    exact ⟨hpt, (List.nodup_cons.mp hnodup).1, hpool ▸ List.sublist_cons_self _ _⟩

/-- Taking entries out of the pool keeps the invariant. -/
theorem Allocation.Sound.sublist {s : Allocation} (hs : s.Sound) {pool : List ℤ}
    (hpool : pool.Sublist s.dynamicPayloadTypes) : (⟨pool, s.codecs⟩ : Allocation).Sound where
  dynamic := fun pt hpt ↦ hs.dynamic pt (hpool.subset hpt)
  nodup := hs.nodup.sublist hpool
  fresh := fun pt hpt ↦ hs.fresh pt (hpool.subset hpt)
  distinct := hs.distinct
  set := hs.set
  paired := hs.paired

/-- Codecs with fresh payload types that are not in the pool can be appended. -/
theorem Allocation.Sound.append {s : Allocation} (hs : s.Sound) {codecs : List RtpCodecCapability}
    (hnodup : (codecs.map RtpCodecCapability.preferredPayloadType).Nodup)
    (hset : 0 ∉ codecs.map RtpCodecCapability.preferredPayloadType)
    (hpool : ∀ pt ∈ codecs.map RtpCodecCapability.preferredPayloadType, pt ∉ s.dynamicPayloadTypes)
    (hfresh : ∀ pt ∈ codecs.map RtpCodecCapability.preferredPayloadType, pt ∉ s.payloadTypes)
    (hpaired : Paired codecs) :
    (⟨s.dynamicPayloadTypes, s.codecs ++ codecs⟩ : Allocation).Sound where
  dynamic := hs.dynamic
  nodup := hs.nodup
  fresh := by
    intro pt hpt hmem
    simp only [Allocation.payloadTypes, List.map_append, List.mem_append] at hmem
    rcases hmem with hmem | hmem
    · exact hs.fresh pt hpt hmem
    · exact hpool pt hmem hpt
  distinct := by
    simp only [Allocation.payloadTypes, List.map_append]
    exact List.nodup_append.mpr ⟨hs.distinct, hnodup, fun a ha b hb hab ↦ hfresh b hb (hab ▸ ha)⟩
  set := by
    simp only [Allocation.payloadTypes, List.map_append, List.mem_append, not_or]
    exact ⟨hs.set, hset⟩
  paired := hs.paired.append hpaired

/-- **One supported codec keeps the invariant.** -/
theorem Allocation.Sound.appendCodec {s s' : Allocation} (hs : s.Sound)
    {mediaCodec codec : RtpCodecCapability} (hcodec : codec ∈ supportedCodecs)
    (h : appendCodec mediaCodec codec s = .ok s') : s'.Sound := by
  unfold Ortc.appendCodec at h
  obtain ⟨⟨pt, pool⟩, hchoose, h⟩ := bind_eq_ok.mp h
  obtain ⟨hset, hnotin, hsublist⟩ := choosePayloadType_returns hs hcodec hchoose
  dsimp only at h
  split at h
  · cases h
  next hfresh =>
  split at h
  · next hkind =>
    obtain ⟨⟨rtxPt, pool'⟩, htake, h⟩ := bind_eq_ok.mp h
    cases h
    obtain ⟨rfl, hrtxSet⟩ := takePayloadType_eq_ok.mp htake
    obtain ⟨hne, hnotin'⟩ : pt ≠ rtxPt ∧ pt ∉ pool' := by simpa using hnotin
    have hpool := hs.sublist hsublist
    have hnodup := List.nodup_cons.mp hpool.nodup
    refine (hpool.sublist (List.sublist_cons_self rtxPt pool')).append ?_ ?_ ?_ ?_ ?_
    · simp [rtxCodec, hne]
    · simp [rtxCodec, Ne.symm hset, Ne.symm hrtxSet]
    · simp [rtxCodec, hnotin', hnodup.1]
    · have hrtxFresh : rtxPt ∉ s.payloadTypes := hpool.fresh rtxPt (by simp)
      simpa [rtxCodec] using ⟨hfresh, hrtxFresh⟩
    · apply paired_video
      · exact hkind
      · exact hpool.dynamic rtxPt (by simp)
  · next hkind =>
    cases h
    refine (hs.sublist hsublist).append ?_ ?_ ?_ ?_ (paired_audio hkind)
    · simp
    · simpa using Ne.symm hset
    · simpa using hnotin
    · simpa [Allocation.payloadTypes] using hfresh

/-- **One media codec keeps the invariant.** -/
theorem Allocation.Sound.allocate {s s' : Allocation} (hs : s.Sound)
    {mediaCodec : RtpCodecCapability}
    (h : allocate mediaCodec s = .ok s') : s'.Sound := by
  obtain ⟨found, hfound, h⟩ := bind_eq_ok.mp h
  cases found with
  | some codec => exact hs.appendCodec (mem_of_supportedFor hfound) h
  | none =>
    cases h
    exact hs

theorem Allocation.Sound.allocateAll {mediaCodecs : List RtpCodecCapability} {s s' : Allocation}
    (hs : s.Sound) (h : allocateAll mediaCodecs s = .ok s') : s'.Sound := by
  induction mediaCodecs generalizing s with
  | nil => cases h; exact hs
  | cons mediaCodec rest ih =>
    obtain ⟨s₁, hallocate, h⟩ := bind_eq_ok.mp h
    exact ih (hs.allocate hallocate) h

/-! ## When the pool has enough -/

theorem kind_of_static :
    ∀ codec ∈ supportedCodecs, codec.preferredPayloadType ≠ 0 → codec.kind ≠ "video" := by
  decide +kernel

/-- The payload type that a supported codec gets without asking the pool, 0 if it gets none. -/
def givenPayloadType (mediaCodec codec : RtpCodecCapability) : ℤ :=
  if mediaCodec.preferredPayloadType ≠ 0 then mediaCodec.preferredPayloadType
  else codec.preferredPayloadType

/-- **The pool has as many entries as a media codec takes**: one for a codec that is given no
payload type, and one for the RTX codec of a video codec. A codec that is declined takes no entry
for RTX. -/
def Enough (s : Allocation) (mediaCodec : RtpCodecCapability) : Prop :=
  ∀ codec, supportedFor mediaCodec = .ok (some codec) →
    if givenPayloadType mediaCodec codec = 0 then
      (if codec.kind = "video" then 2 else 1) ≤ s.dynamicPayloadTypes.length
    else codec.kind = "video" → givenPayloadType mediaCodec codec ∉ s.payloadTypes →
      s.dynamicPayloadTypes.erase (givenPayloadType mediaCodec codec) ≠ []

theorem takePayloadType_eq_undefined {pool : List ℤ} :
    takePayloadType pool = .error .undefined ↔ pool = [] := by
  unfold takePayloadType
  split
  · simp
  · split <;> simp

/-- Once the payload type is chosen, only the RTX codec can find the pool empty. -/
theorem appendCodec_eq_undefined {s : Allocation} {mediaCodec codec : RtpCodecCapability} {pt : ℤ}
    {pool : List ℤ} (h : choosePayloadType mediaCodec codec s.dynamicPayloadTypes =
      .ok (pt, pool)) :
    appendCodec mediaCodec codec s = .error .undefined ↔
      pt ∉ s.payloadTypes ∧ codec.kind = "video" ∧ pool = [] := by
  simp only [appendCodec, h, bind, Except.bind]
  by_cases hmem : pt ∈ s.payloadTypes
  · simp [hmem]
  by_cases hkind : codec.kind = "video"
  · rw [if_neg hmem, if_pos hkind, ← takePayloadType_eq_undefined]
    cases takePayloadType pool <;> simp [hmem, hkind, pure, Except.pure]
  · simp [hmem, hkind, pure, Except.pure]

/-- **A media codec finds what it needs in the pool if and only if there is enough.** -/
theorem Allocation.Sound.allocate_ne_undefined_iff {s : Allocation} (hs : s.Sound)
    (mediaCodec : RtpCodecCapability) :
    Ortc.allocate mediaCodec s ≠ .error .undefined ↔ Enough s mediaCodec := by
  unfold Ortc.allocate Enough
  cases hfound : supportedFor mediaCodec with
  | error e =>
    obtain ⟨text, rfl⟩ := supportedFor_declines mediaCodec e hfound
    simp [bind, Except.bind]
  | ok found =>
    cases found with
    | none => simp [bind, Except.bind, pure, Except.pure]
    | some codec =>
      have hcodec := mem_of_supportedFor hfound
      simp only [bind, Except.bind, Except.ok.injEq, Option.some.injEq, forall_eq']
      unfold givenPayloadType
      by_cases hmedia : mediaCodec.preferredPayloadType ≠ 0
      · have hchoose : choosePayloadType mediaCodec codec s.dynamicPayloadTypes = .ok
            (mediaCodec.preferredPayloadType,
              s.dynamicPayloadTypes.erase mediaCodec.preferredPayloadType) := by
          simp [choosePayloadType, hmedia]
        rw [Ne, appendCodec_eq_undefined hchoose, if_pos hmedia, if_neg hmedia]
        tauto
      by_cases hstatic : codec.preferredPayloadType ≠ 0
      · have hchoose : choosePayloadType mediaCodec codec s.dynamicPayloadTypes =
            .ok (codec.preferredPayloadType, s.dynamicPayloadTypes) := by
          simp [choosePayloadType, hmedia, hstatic]
        have hkind := kind_of_static codec hcodec hstatic
        rw [Ne, appendCodec_eq_undefined hchoose, if_neg hmedia, if_neg hstatic]
        tauto
      · rw [if_neg hmedia, if_pos (not_not.mp hstatic)]
        have hchoose : choosePayloadType mediaCodec codec s.dynamicPayloadTypes =
            takePayloadType s.dynamicPayloadTypes := by
          simp [choosePayloadType, hmedia, hstatic]
        cases hpool : s.dynamicPayloadTypes with
        | nil =>
          have hundefined : Ortc.appendCodec mediaCodec codec s = .error .undefined := by
            rw [hpool] at hchoose
            simp only [Ortc.appendCodec, hpool, hchoose, takePayloadType, bind, Except.bind]
          simp only [hundefined, ne_eq, not_true_eq_false, List.length_nil, false_iff]
          split <;> simp
        | cons pt pool =>
          have hpt : pt ∈ s.dynamicPayloadTypes := hpool ▸ List.mem_cons_self
          have hne : pt ≠ 0 := fun h ↦ absurd (hs.dynamic 0 (h ▸ hpt)) (by decide)
          rw [hpool] at hchoose
          have htake : takePayloadType (pt :: pool) = .ok (pt, pool) :=
            takePayloadType_eq_ok.mpr ⟨rfl, hne⟩
          rw [htake, ← hpool] at hchoose
          rw [Ne, appendCodec_eq_undefined hchoose]
          have hfresh := hs.fresh pt hpt
          by_cases hkind : codec.kind = "video"
          · rw [if_pos hkind, List.length_cons]
            cases pool <;> simp [hfresh, hkind]
          · simp [hkind]

/-! ## A whole list of media codecs -/

/-- The media codecs that come first have been allocated before the others. -/
theorem allocateAll_append (before after : List RtpCodecCapability) (s : Allocation) :
    allocateAll (before ++ after) s = allocateAll before s >>= allocateAll after := by
  induction before generalizing s with
  | nil => rfl
  | cons mediaCodec before ih =>
    simp only [List.cons_append, allocateAll, ih]
    cases allocate mediaCodec s <;> rfl

/-- **What is promised of the capabilities of a router.** -/
structure WellAllocated (caps : RtpCapabilities) : Prop where
  distinct : (caps.codecs.map RtpCodecCapability.preferredPayloadType).Nodup
  set : 0 ∉ caps.codecs.map RtpCodecCapability.preferredPayloadType
  paired : Paired caps.codecs

/-- An allocation that throws or returns well-allocated capabilities. It does not if it reads an
entry of an empty pool. -/
def Allocates : Except Failure RtpCapabilities → Prop
  | .error .undefined => False
  | .error _ => True
  | .ok caps => WellAllocated caps

/-- The supported capabilities are valid. -/
theorem validateRtpCapabilities_supported :
    ∃ caps, validateRtpCapabilities supportedRtpCapabilities.toJson = .ok caps := by
  have h : (validateRtpCapabilities supportedRtpCapabilities.toJson).isOk = true := by
    decide +kernel
  cases hcaps : validateRtpCapabilities supportedRtpCapabilities.toJson with
  | ok caps => exact ⟨caps, rfl⟩
  | error e =>
    rw [hcaps] at h
    cases h

/-- Only the pool can make the allocation go wrong. -/
theorem allocates_iff (mediaCodecs : List RtpCodecCapability) :
    Allocates (generateRouterRtpCapabilities mediaCodecs) ↔
      allocateAll mediaCodecs .initial ≠ .error .undefined := by
  obtain ⟨caps, hcaps⟩ := validateRtpCapabilities_supported
  simp only [generateRouterRtpCapabilities, hcaps, bind, Except.bind, pure, Except.pure]
  cases hall : allocateAll mediaCodecs .initial with
  | error e => cases e <;> simp [Allocates]
  | ok s =>
    have hs := Allocation.sound_initial.allocateAll hall
    simpa [Allocates] using ⟨hs.distinct, hs.set, hs.paired⟩

/-- A VP8 codec that asks for no payload type. -/
def vp8Codec : RtpCodecCapability :=
  { kind := "video", mimeType := "video/VP8", clockRate := 90000 }

end Ortc

end MediasoupSfu
