import MediasoupSfu.Ortc.Mapping

/-!
# The mapping and the consumable parameters agree

The mapping is built in two passes over the codecs of the producer, first the media codecs and then
the RTX codecs. `MediaLink` and `RtxLink` say what an entry of either kind is. As the payload types
of the producer are distinct no entry is replaced, so a link that holds when it is made holds in the
end.

An RTX codec is looked up by the mapped payload type of the codec it belongs to. If that one has no
entry yet, a default entry is inserted, whose payload type is 0, and the search goes on for an RTX
codec with that `apt`. So it matters that the `apt` of an RTX codec of the router is set.

## Main results

* `mapMediaCodecs_links`, `mapRtxCodecs_links` : the entries that the two passes make.
* `mapping_agrees` : the mapping has one entry for each codec, and leads to the consumable codecs.
-/

namespace MediasoupSfu

namespace Ortc

open Json (Failure)

/-! ## Searches -/

theorem eq_isRtxMimeType {codec : RtpCodecParameters} {rtx : Bool}
    (h : isRtxCodec codec.toJson = .ok rtx) : rtx = isRtxMimeType codec.mimeType := by
  rw [isRtxCodec_toJson] at h
  split at h
  · cases h
  · exact (Except.ok.inj h).symm

theorem isRtxFor_true {payloadType : ℤ} {capCodec : RtpCodecCapability}
    (h : isRtxFor payloadType capCodec = .ok true) :
    isRtxMimeType capCodec.mimeType = true ∧ aptOf capCodec.parameters = .ok payloadType := by
  obtain ⟨apt, hapt, h⟩ := bind_eq_ok.mp h
  obtain ⟨rtx, hrtx, h⟩ := bind_eq_ok.mp h
  rw [isRtxCodec_capability] at hrtx
  split at hrtx
  · cases hrtx
  · cases hrtx
    obtain ⟨hrtx, hequal⟩ : isRtxMimeType capCodec.mimeType = true ∧ apt = payloadType := by
      simpa [pure, Except.pure] using h
    exact ⟨hrtx, hequal ▸ hapt⟩

theorem isRtxFor_false {payloadType : ℤ} {capCodec : RtpCodecCapability}
    (h : isRtxFor payloadType capCodec = .ok false) :
    ¬ (isRtxMimeType capCodec.mimeType = true ∧ aptOf capCodec.parameters = .ok payloadType) := by
  rintro ⟨hmime, hapt⟩
  simp only [isRtxFor, hapt, isRtxCodec_capability, bind, Except.bind] at h
  split at h
  · cases h
  · next heq =>
    split at heq
    · cases heq
    · cases heq
      simp [hmime, pure, Except.pure] at h

/-- A capability that is an RTX codec for a payload type. -/
structure IsRtxFor (caps : RtpCapabilities) (payloadType : ℤ) (capCodec : RtpCodecCapability) :
    Prop where
  mem : capCodec ∈ caps.codecs
  rtx : isRtxMimeType capCodec.mimeType = true
  apt : aptOf capCodec.parameters = .ok payloadType

theorem findLastRtx_returns {payloadType : ℤ} {codecs : List RtpCodecCapability}
    {found result : Option RtpCodecCapability} {caps : RtpCapabilities}
    (hfound : ∀ capCodec ∈ found, IsRtxFor caps payloadType capCodec)
    (hcodecs : ∀ capCodec ∈ codecs, capCodec ∈ caps.codecs)
    (h : findLastRtx payloadType codecs found = .ok result) :
    ∀ capCodec ∈ result, IsRtxFor caps payloadType capCodec := by
  induction codecs generalizing found with
  | nil =>
    cases h
    exact hfound
  | cons capCodec rest ih =>
    obtain ⟨rtx, hrtx, h⟩ := bind_eq_ok.mp h
    have hrest := fun c hc ↦ hcodecs c (List.mem_cons_of_mem capCodec hc)
    split at h
    · next htrue =>
      subst htrue
      refine ih ?_ hrest h
      rintro _ ⟨⟩
      exact ⟨hcodecs capCodec (by simp), (isRtxFor_true hrtx).1, (isRtxFor_true hrtx).2⟩
    · exact ih hfound hrest h

theorem findFirstRtx_returns {payloadType : ℤ} {codecs : List RtpCodecCapability}
    {result : Option RtpCodecCapability} (h : findFirstRtx payloadType codecs = .ok result) :
    match result with
    | some capCodec => capCodec ∈ codecs ∧ isRtxMimeType capCodec.mimeType = true ∧
        aptOf capCodec.parameters = .ok payloadType
    | none => ∀ capCodec ∈ codecs,
        ¬ (isRtxMimeType capCodec.mimeType = true ∧
          aptOf capCodec.parameters = .ok payloadType) := by
  induction codecs with
  | nil =>
    cases h
    simp
  | cons capCodec rest ih =>
    obtain ⟨rtx, hrtx, h⟩ := bind_eq_ok.mp h
    split at h
    · next htrue =>
      subst htrue
      cases h
      exact ⟨by simp, isRtxFor_true hrtx⟩
    · next hfalse =>
      have hfalse : rtx = false := by simpa using hfalse
      subst hfalse
      have hrest := ih h
      cases result with
      | some c => exact ⟨List.mem_cons_of_mem _ hrest.1, hrest.2⟩
      | none =>
        intro c hc
        rcases List.mem_cons.mp hc with rfl | hc
        · exact isRtxFor_false hrtx
        · exact hrest c hc

theorem findMatchedCapCodec_returns {codec : RtpCodecParameters} {codecs : List RtpCodecCapability}
    {capCodec : RtpCodecCapability} (h : findMatchedCapCodec codec codecs = .ok (some capCodec)) :
    capCodec ∈ codecs ∧ ∃ j, matchCodecs codec.toJson capCodec.toJson true true =
      .ok (true, j) := by
  induction codecs with
  | nil => cases h
  | cons c rest ih =>
    obtain ⟨⟨matched, j⟩, hmatched, h⟩ := bind_eq_ok.mp h
    dsimp only at h
    split at h
    · next htrue =>
      subst htrue
      cases h
      exact ⟨by simp, j, hmatched⟩
    · exact ⟨List.mem_cons_of_mem _ (ih h).1, (ih h).2⟩

/-! ## What is known of the router -/

/-- **Capabilities in which a payload type and an `apt` belong to one codec.** The `apt` of an RTX
codec is set, and 0 is the value of one that is not. -/
structure RtpCapabilities.Assigned (caps : RtpCapabilities) : Prop where
  payloadTypes : (caps.codecs.map RtpCodecCapability.preferredPayloadType).Nodup
  apts : ((caps.codecs.filter fun capCodec ↦ isRtxMimeType capCodec.mimeType).map
    fun capCodec ↦ aptOf capCodec.parameters).Nodup
  aptSet : ∀ capCodec ∈ caps.codecs, isRtxMimeType capCodec.mimeType = true →
    aptOf capCodec.parameters ≠ .ok 0

/-- There is one RTX codec for a payload type. -/
theorem RtpCapabilities.Assigned.eq_of_isRtxFor {caps : RtpCapabilities} (hcaps : caps.Assigned)
    {payloadType : ℤ} {capCodec capCodec' : RtpCodecCapability}
    (h : IsRtxFor caps payloadType capCodec)
    (h' : IsRtxFor caps payloadType capCodec') : capCodec = capCodec' := by
  have hmem : ∀ {c : RtpCodecCapability}, IsRtxFor caps payloadType c →
      c ∈ caps.codecs.filter fun capCodec ↦ isRtxMimeType capCodec.mimeType :=
    fun hc ↦ List.mem_filter.mpr ⟨hc.mem, hc.rtx⟩
  exact List.inj_on_of_nodup_map hcaps.apts (hmem h) (hmem h') (h.apt.trans h'.apt.symm)

/-- There is one codec with a payload type. -/
theorem RtpCapabilities.Assigned.find?_payloadType {caps : RtpCapabilities} (hcaps : caps.Assigned)
    {capCodec : RtpCodecCapability} (h : capCodec ∈ caps.codecs) :
    (caps.codecs.find? fun c ↦ c.preferredPayloadType == capCodec.preferredPayloadType) =
      some capCodec := by
  cases hfind : caps.codecs.find? fun c ↦ c.preferredPayloadType ==
      capCodec.preferredPayloadType with
  | none => simpa using List.find?_eq_none.mp hfind capCodec h
  | some c =>
    have hequal : c.preferredPayloadType = capCodec.preferredPayloadType := by
      simpa using List.find?_some hfind
    rw [List.inj_on_of_nodup_map hcaps.payloadTypes (List.mem_of_find?_eq_some hfind) h hequal]

/-! ## Links -/

/-- What the mapping makes of a media codec. -/
structure MediaLink (caps : RtpCapabilities) (codec : RtpCodecParameters)
    (capCodec : RtpCodecCapability) : Prop where
  mem : capCodec ∈ caps.codecs
  matched : ∃ j, matchCodecs codec.toJson capCodec.toJson true true = .ok (true, j)

/-- What the mapping makes of an RTX codec: the RTX codec for what the mapping makes of the codec
that its `apt` is the payload type of. -/
def RtxLink (caps : RtpCapabilities) (codecToCapCodec : CodecToCapCodec)
    (codec : RtpCodecParameters)
    (capCodec : RtpCodecCapability) : Prop :=
  ∃ a pair, aptOf codec.parameters = .ok a ∧ codecToCapCodec.lookup a = some pair ∧
    IsRtxFor caps pair.2.preferredPayloadType capCodec

/-- **The first pass** makes an entry for each media codec and leaves the other keys alone. -/
theorem mapMediaCodecs_links {caps : RtpCapabilities} {codecs : List RtpCodecParameters}
    {m m' : CodecToCapCodec} (hnodup : (codecs.map RtpCodecParameters.payloadType).Nodup)
    (h : mapMediaCodecs caps codecs m = .ok m') :
    (∀ codec ∈ codecs, isRtxMimeType codec.mimeType = false →
      ∃ capCodec, m'.lookup codec.payloadType = some (codec, capCodec) ∧
        MediaLink caps codec capCodec) ∧
    ∀ key, (∀ codec ∈ codecs, isRtxMimeType codec.mimeType = false → codec.payloadType ≠ key) →
      m'.lookup key = m.lookup key := by
  induction codecs generalizing m with
  | nil =>
    cases h
    simp
  | cons codec rest ih =>
    obtain ⟨hnotin, hrest⟩ := List.nodup_cons.mp hnodup
    obtain ⟨rtx, hrtx, h⟩ := bind_eq_ok.mp h
    have hmime := eq_isRtxMimeType hrtx
    split at h
    · next htrue =>
      obtain ⟨hlinks, hframe⟩ := ih hrest h
      have hcodec : isRtxMimeType codec.mimeType = true := hmime ▸ htrue
      constructor
      · intro c hc hmedia
        rcases List.mem_cons.mp hc with rfl | hc
        · rw [hcodec] at hmedia
          cases hmedia
        · exact hlinks c hc hmedia
      · exact fun key hkey ↦ hframe key fun c hc ↦ hkey c (List.mem_cons_of_mem _ hc)
    · obtain ⟨found, hfound, h⟩ := bind_eq_ok.mp h
      cases found with
      | none => cases h
      | some capCodec =>
        obtain ⟨hlinks, hframe⟩ := ih hrest h
        obtain ⟨hmem, hmatched⟩ := findMatchedCapCodec_returns hfound
        constructor
        · intro c hc hmedia
          rcases List.mem_cons.mp hc with rfl | hc
          · refine ⟨capCodec, ?_, hmem, hmatched⟩
            rw [hframe c.payloadType fun c' hc' _ heq ↦ hnotin (heq ▸ List.mem_map_of_mem hc'),
              AList.lookup_insert]
          · exact hlinks c hc hmedia
        · intro key hkey
          have hne : key ≠ codec.payloadType := by
            refine Ne.symm (hkey codec (by simp) ?_)
            rw [← hmime]
            simpa using ‹¬rtx = true›
          rw [hframe key fun c hc ↦ hkey c (List.mem_cons_of_mem _ hc), AList.lookup_insert_ne hne]

/-- Where no entry is found the search for an RTX codec finds none either. -/
theorem lookup_of_findLastRtx {caps : RtpCapabilities} (hcaps : caps.Assigned)
    {m m' : CodecToCapCodec}
    {key : ℤ} {pair : CodecPair} {capCodec : RtpCodecCapability}
    (haccess : CodecToCapCodec.access key m = (pair, m'))
    (hfind : findLastRtx pair.2.preferredPayloadType caps.codecs none = .ok (some capCodec)) :
    m.lookup key = some pair ∧ m' = m ∧ IsRtxFor caps pair.2.preferredPayloadType capCodec := by
  have hrtx : IsRtxFor caps pair.2.preferredPayloadType capCodec :=
    findLastRtx_returns (by simp) (fun _ hc ↦ hc) hfind capCodec rfl
  unfold CodecToCapCodec.access at haccess
  split at haccess
  · next value hlookup =>
    cases haccess
    exact ⟨hlookup, rfl, hrtx⟩
  · cases haccess
    exact absurd hrtx.apt (hcaps.aptSet capCodec hrtx.mem hrtx.rtx)

/-- **The second pass** makes an entry for each RTX codec and leaves the other keys alone. -/
theorem mapRtxCodecs_links {params : RtpParameters} {caps : RtpCapabilities} (hcaps : caps.Assigned)
    {codecs : List RtpCodecParameters} {m m' : CodecToCapCodec}
    (hnodup : (codecs.map RtpCodecParameters.payloadType).Nodup)
    (hfree : ∀ codec ∈ codecs, isRtxMimeType codec.mimeType = true →
      m.lookup codec.payloadType = none)
    (h : mapRtxCodecs params caps codecs m = .ok m') :
    (∀ codec ∈ codecs, isRtxMimeType codec.mimeType = true →
      ∃ capCodec, m'.lookup codec.payloadType = some (codec, capCodec) ∧
        RtxLink caps m' codec capCodec) ∧
    ∀ key, (∀ codec ∈ codecs, isRtxMimeType codec.mimeType = true → codec.payloadType ≠ key) →
      m'.lookup key = m.lookup key := by
  induction codecs generalizing m with
  | nil =>
    cases h
    simp
  | cons codec rest ih =>
    obtain ⟨hnotin, hrest⟩ := List.nodup_cons.mp hnodup
    obtain ⟨rtx, hrtx, h⟩ := bind_eq_ok.mp h
    have hmime := eq_isRtxMimeType hrtx
    split at h
    · next hfalse =>
      have hcodec : isRtxMimeType codec.mimeType = false := by
        rw [← hmime]
        simpa using hfalse
      obtain ⟨hlinks, hframe⟩ := ih hrest (fun c hc ↦ hfree c (List.mem_cons_of_mem _ hc)) h
      constructor
      · intro c hc hr
        rcases List.mem_cons.mp hc with rfl | hc
        · rw [hcodec] at hr
          cases hr
        · exact hlinks c hc hr
      · exact fun key hkey ↦ hframe key fun c hc ↦ hkey c (List.mem_cons_of_mem _ hc)
    · next htrue =>
      have hcodec : isRtxMimeType codec.mimeType = true := by
        rw [← hmime]
        simpa using htrue
      obtain ⟨a, ha, h⟩ := bind_eq_ok.mp h
      split at h
      · cases h
      next associated hassociated =>
      have hpayloadType : associated.payloadType = a := by simpa using List.find?_some hassociated
      rw [hpayloadType] at h
      generalize haccess : CodecToCapCodec.access a m = access at h
      obtain ⟨pair, m₁⟩ := access
      obtain ⟨found, hfound, hstep⟩ := bind_eq_ok.mp h
      cases found with
      | none => cases hstep
      | some capCodec =>
        obtain ⟨hlookup, rfl, hrtxFor⟩ := lookup_of_findLastRtx hcaps haccess hfound
        have hnone := hfree codec (by simp) hcodec
        have hne : ∀ c ∈ rest, c.payloadType ≠ codec.payloadType :=
          fun c hc heq ↦ hnotin (heq ▸ List.mem_map_of_mem hc)
        obtain ⟨hlinks, hframe⟩ := ih hrest (fun c hc hr ↦ by
          rw [AList.lookup_insert_ne (hne c hc)]
          exact hfree c (List.mem_cons_of_mem _ hc) hr) hstep
        constructor
        · intro c hc hr
          rcases List.mem_cons.mp hc with rfl | hc
          · refine ⟨capCodec, ?_, a, pair, ha, ?_, hrtxFor⟩
            · rw [hframe c.payloadType fun c' hc' _ ↦ hne c' hc', AList.lookup_insert]
            · -- The entry of the associated codec is there already, so no later one replaces it.
              have hold : ∀ c' ∈ c :: rest, isRtxMimeType c'.mimeType = true →
                  c'.payloadType ≠ a := by
                intro c' hc' hr' heq
                have hfree' := hfree c' hc' hr'
                rw [heq, hlookup] at hfree'
                cases hfree'
              rw [hframe a fun c' hc' ↦ hold c' (List.mem_cons_of_mem _ hc'),
                AList.lookup_insert_ne (Ne.symm (hold c (by simp) hr)), hlookup]
          · exact hlinks c hc hr
        · intro key hkey
          rw [hframe key fun c hc ↦ hkey c (List.mem_cons_of_mem _ hc),
            AList.lookup_insert_ne (Ne.symm (hkey codec (by simp) hcodec))]

/-! ## Encodings -/

/-- The mapped SSRCs count up, and are distinct as the `int` they are computed in does not
overflow. -/
theorem mapEncodings_returns {uninitialised : ℕ → BitVec 32}
    {encodings : List RtpEncodingParameters}
    {i : ℕ} {mappedSsrc : ℤ} {entries : List RtpMappingEncoding} (hpos : 0 ≤ mappedSsrc)
    (hlt : mappedSsrc ≤ 2 ^ 31 - 1)
    (h : mapEncodings uninitialised encodings i mappedSsrc = .ok entries) :
    entries.length = encodings.length ∧
      (∀ entry ∈ entries, mappedSsrc ≤ entry.mappedSsrc.toNat) ∧
      (entries.map RtpMappingEncoding.mappedSsrc).Nodup := by
  induction encodings generalizing i mappedSsrc entries with
  | nil =>
    cases h
    simp
  | cons encoding rest ih =>
    unfold mapEncodings at h
    split at h
    · cases h
    next hne =>
    obtain ⟨mappedEncodings, hrest, h⟩ := bind_eq_ok.mp h
    cases h
    obtain ⟨hlength, hle, hnodup⟩ := ih (by omega) (by omega) hrest
    have hvalue : ((BitVec.ofInt 32 mappedSsrc).toNat : ℤ) = mappedSsrc := by
      rw [BitVec.toNat_ofInt]
      omega
    refine ⟨by simp [hlength], ?_, ?_⟩
    · intro entry hentry
      rcases List.mem_cons.mp hentry with rfl | hentry
      · exact hvalue.ge
      · exact le_trans (by omega) (hle entry hentry)
    · refine List.nodup_cons.mpr ⟨fun hmem ↦ ?_, hnodup⟩
      obtain ⟨entry, hentry, hequal⟩ := List.mem_map.mp hmem
      have hgt := hle entry hentry
      rw [hequal] at hgt
      dsimp only at hgt
      omega

theorem consumableEncodings_returns {encodings : List RtpEncodingParameters}
    {entries : List RtpMappingEncoding} {result : List RtpEncodingParameters}
    (hlength : entries.length = encodings.length)
    (h : consumableEncodings encodings entries = .ok result) :
    result.map RtpEncodingParameters.ssrc = entries.map RtpMappingEncoding.mappedSsrc := by
  induction encodings generalizing entries result with
  | nil =>
    cases h
    simp [List.length_eq_zero_iff.mp hlength]
  | cons encoding rest ih =>
    cases entries with
    | nil => cases hlength
    | cons entry entries =>
      unfold consumableEncodings at h
      split at h
      · cases h
      obtain ⟨encodings, hrest, h⟩ := bind_eq_ok.mp h
      cases h
      rw [List.map_cons, List.map_cons, ih (by simpa using hlength) hrest]

/-! ## Consumable codecs -/

theorem consumableCodecs_returns {caps : RtpCapabilities} (hcaps : caps.Assigned)
    {rtpMapping : RtpMapping} {codecs result : List RtpCodecParameters}
    (h : consumableCodecs caps rtpMapping codecs = .ok result) {codec : RtpCodecParameters}
    (hcodec : codec ∈ codecs) (hmedia : isRtxMimeType codec.mimeType = false) :
    consumableCodec caps rtpMapping codec ∈ result ∧
      ∀ capCodec, IsRtxFor caps (consumableCodec caps rtpMapping codec).payloadType capCodec →
        consumableRtxCodec capCodec ∈ result := by
  induction codecs generalizing result with
  | nil => cases hcodec
  | cons c rest ih =>
    obtain ⟨rtx, hrtx, h⟩ := bind_eq_ok.mp h
    have hmime := eq_isRtxMimeType hrtx
    split at h
    · next htrue =>
      rcases List.mem_cons.mp hcodec with rfl | hcodec
      · rw [hmedia] at hmime
        exact absurd (hmime ▸ htrue) (by decide)
      · exact ih h hcodec
    · obtain ⟨found, hfound, h⟩ := bind_eq_ok.mp h
      obtain ⟨codecs, hrest, h⟩ := bind_eq_ok.mp h
      cases h
      rcases List.mem_cons.mp hcodec with rfl | hcodec
      · refine ⟨by simp, fun capCodec hcap ↦ ?_⟩
        have hreturns := findFirstRtx_returns hfound
        cases found with
        | none => exact absurd ⟨hcap.rtx, hcap.apt⟩ (hreturns capCodec hcap.mem)
        | some first =>
          have hequal := hcaps.eq_of_isRtxFor ⟨hreturns.1, hreturns.2.1, hreturns.2.2⟩ hcap
          simp [hequal]
      · obtain ⟨hmem, hrtxs⟩ := ih hrest hcodec
        exact ⟨by simp [hmem], fun capCodec hcap ↦ by simp [hrtxs capCodec hcap]⟩

/-! ## Agreement -/

/-- A consumable codec for a media codec of the producer: its MIME type up to case, its clock rate,
and its parameters, which say the profile. -/
structure Carries (consumable codec : RtpCodecParameters) : Prop where
  mimeType : lowerCase consumable.mimeType = lowerCase codec.mimeType
  clockRate : consumable.clockRate = codec.clockRate
  parameters : consumable.parameters = codec.parameters

/-- **The mapping and the consumable parameters agree.** -/
structure MappingAgrees (params : RtpParameters) (caps : RtpCapabilities) (rtpMapping : RtpMapping)
    (consumableParams : RtpParameters) : Prop where
  /-- Every codec has exactly one entry. -/
  entries : (rtpMapping.codecs.map RtpMappingCodec.payloadType).Perm
    (params.codecs.map RtpCodecParameters.payloadType)
  /-- A media codec is mapped to a consumable codec of its type, and to a capability that it matches
  strictly. -/
  media : ∀ codec ∈ params.codecs, isRtxMimeType codec.mimeType = false →
    ∀ entry ∈ rtpMapping.codecs, entry.payloadType = codec.payloadType →
      (∃ consumable ∈ consumableParams.codecs,
        consumable.payloadType = entry.mappedPayloadType ∧ Carries consumable codec) ∧
      ∃ capCodec, capCodec.preferredPayloadType = entry.mappedPayloadType ∧
        MediaLink caps codec capCodec
  /-- An RTX codec is mapped to the RTX codec for the mapped value of its `apt`. It is a consumable
  codec if the `apt` is the payload type of a media codec. -/
  rtx : ∀ codec ∈ params.codecs, isRtxMimeType codec.mimeType = true →
    ∀ entry ∈ rtpMapping.codecs, entry.payloadType = codec.payloadType →
      ∃ a, aptOf codec.parameters = .ok a ∧ ∃ associated ∈ rtpMapping.codecs,
        associated.payloadType = a ∧
        (∃ capCodec, capCodec.preferredPayloadType = entry.mappedPayloadType ∧
          IsRtxFor caps associated.mappedPayloadType capCodec) ∧
        ∀ mediaCodec ∈ params.codecs, mediaCodec.payloadType = a →
          isRtxMimeType mediaCodec.mimeType = false →
          ∃ consumable ∈ consumableParams.codecs,
            consumable.payloadType = entry.mappedPayloadType ∧
            isRtxMimeType consumable.mimeType = true ∧
            aptOf consumable.parameters = .ok associated.mappedPayloadType
  /-- Each encoding has an entry, in order, and is consumed under its mapped SSRC. -/
  encodings : rtpMapping.encodings.length = params.encodings.length ∧
    consumableParams.encodings.map RtpEncodingParameters.ssrc =
      rtpMapping.encodings.map RtpMappingEncoding.mappedSsrc
  ssrcs : (rtpMapping.encodings.map RtpMappingEncoding.mappedSsrc).Nodup

/-- What is known of the entries when both passes are done. -/
structure Linked (params : RtpParameters) (caps : RtpCapabilities) (m : CodecToCapCodec) :
    Prop where
  media : ∀ codec ∈ params.codecs, isRtxMimeType codec.mimeType = false →
    ∃ capCodec, m.lookup codec.payloadType = some (codec, capCodec) ∧ MediaLink caps codec capCodec
  rtx : ∀ codec ∈ params.codecs, isRtxMimeType codec.mimeType = true →
    ∃ capCodec, m.lookup codec.payloadType = some (codec, capCodec) ∧ RtxLink caps m codec capCodec
  keys : ∀ key, (∀ codec ∈ params.codecs, codec.payloadType ≠ key) → m.lookup key = none

theorem linked_of_passes {params : RtpParameters} {caps : RtpCapabilities} (hcaps : caps.Assigned)
    (hparams : (params.codecs.map RtpCodecParameters.payloadType).Nodup) {m m' : CodecToCapCodec}
    (hmedia : mapMediaCodecs caps params.codecs ∅ = .ok m)
    (hrtx : mapRtxCodecs params caps params.codecs m = .ok m') : Linked params caps m' := by
  obtain ⟨hmediaLinks, hmediaFrame⟩ := mapMediaCodecs_links hparams hmedia
  have hdistinct : ∀ codec ∈ params.codecs, ∀ codec' ∈ params.codecs,
      codec.payloadType = codec'.payloadType → codec = codec' :=
    fun _ h _ h' ↦ List.inj_on_of_nodup_map hparams h h'
  have hfree : ∀ codec ∈ params.codecs, isRtxMimeType codec.mimeType = true →
      m.lookup codec.payloadType = none := by
    intro codec hcodec hr
    rw [hmediaFrame codec.payloadType fun c hc hm heq ↦ ?_, AList.lookup_empty]
    rw [hdistinct c hc codec hcodec heq, hr] at hm
    cases hm
  obtain ⟨hrtxLinks, hrtxFrame⟩ := mapRtxCodecs_links hcaps hparams hfree hrtx
  refine ⟨fun codec hcodec hm ↦ ?_, hrtxLinks, fun key hkey ↦ ?_⟩
  · obtain ⟨capCodec, hlookup, hlink⟩ := hmediaLinks codec hcodec hm
    refine ⟨capCodec, ?_, hlink⟩
    rw [hrtxFrame codec.payloadType fun c hc hr heq ↦ ?_, hlookup]
    rw [hdistinct c hc codec hcodec heq, hm] at hr
    cases hr
  · rw [hrtxFrame key fun c hc _ ↦ hkey c hc, hmediaFrame key fun c hc _ ↦ hkey c hc,
      AList.lookup_empty]

namespace Linked

variable {params : RtpParameters} {caps : RtpCapabilities} {m : CodecToCapCodec}

/-- Every codec has an entry. -/
theorem lookup_ne_none (hm : Linked params caps m) {codec : RtpCodecParameters}
    (hcodec : codec ∈ params.codecs) :
    ∃ capCodec, m.lookup codec.payloadType = some (codec, capCodec) := by
  cases hr : isRtxMimeType codec.mimeType with
  | true => exact (hm.rtx codec hcodec hr).imp fun _ hcap ↦ hcap.1
  | false => exact (hm.media codec hcodec hr).imp fun _ hcap ↦ hcap.1

/-- An entry belongs to the codec of the producer with its key as payload type. -/
theorem of_lookup (hm : Linked params caps m) {key : ℤ} {codec : RtpCodecParameters}
    {capCodec : RtpCodecCapability} (h : m.lookup key = some (codec, capCodec)) :
    codec ∈ params.codecs ∧ codec.payloadType = key := by
  by_contra hnot
  have hkey : ∀ c ∈ params.codecs, c.payloadType ≠ key := by
    intro c hc heq
    obtain ⟨cap, hlookup⟩ := hm.lookup_ne_none hc
    rw [heq, h] at hlookup
    cases hlookup
    exact hnot ⟨hc, heq⟩
  rw [hm.keys key hkey] at h
  cases h

/-- **The entry of a codec**, in whatever order the entries come out. -/
theorem mem_mapping (hm : Linked params caps m) {entries : List CodecEntry}
    (hperm : entries.Perm m.entries) {key : ℤ} {pair : CodecPair} (h : m.lookup key = some pair)
    {entry : RtpMappingCodec} :
    entry ∈ entries.map mappingCodec ∧ entry.payloadType = key ↔
      entry = ⟨key, pair.2.preferredPayloadType⟩ := by
  obtain ⟨codec, capCodec⟩ := pair
  constructor
  · rintro ⟨hentry, hkey⟩
    obtain ⟨⟨k, c, cap⟩, hmem, rfl⟩ := List.mem_map.mp hentry
    have hlookup : m.lookup k = some (c, cap) := AList.mem_lookup_iff.mpr (hperm.mem_iff.mp hmem)
    have hk : c.payloadType = k := (hm.of_lookup hlookup).2
    have hpt : c.payloadType = key := hkey
    rw [← hk, hpt, h] at hlookup
    cases hlookup
    simp [mappingCodec, hpt]
  · rintro rfl
    refine ⟨List.mem_map.mpr
      ⟨⟨key, codec, capCodec⟩, hperm.mem_iff.mpr (AList.mem_lookup_iff.mp h), ?_⟩,
      rfl⟩
    simp [mappingCodec, (hm.of_lookup h).2]

theorem entries_perm (hm : Linked params caps m)
    (hparams : (params.codecs.map RtpCodecParameters.payloadType).Nodup) {entries : List CodecEntry}
    (hperm : entries.Perm m.entries) :
    ((entries.map mappingCodec).map RtpMappingCodec.payloadType).Perm
      (params.codecs.map RtpCodecParameters.payloadType) := by
  have hkeys : (entries.map mappingCodec).map RtpMappingCodec.payloadType =
      entries.map Sigma.fst := by
    rw [List.map_map]
    refine List.map_congr_left fun ⟨k, c, cap⟩ hmem ↦ ?_
    exact (hm.of_lookup (AList.mem_lookup_iff.mpr (hperm.mem_iff.mp hmem))).2
  rw [hkeys]
  refine (hperm.map Sigma.fst).trans
    ((List.perm_ext_iff_of_nodup m.keys_nodup hparams).mpr fun key ↦ ?_)
  have hmem : key ∈ m.entries.map Sigma.fst ↔ (m.lookup key).isSome = true :=
    (AList.lookup_isSome.trans AList.mem_keys).symm
  refine hmem.trans ⟨fun hsome ↦ ?_, fun hkey ↦ ?_⟩
  · obtain ⟨⟨codec, capCodec⟩, hlookup⟩ := Option.isSome_iff_exists.mp hsome
    obtain ⟨hcodec, rfl⟩ := hm.of_lookup hlookup
    exact List.mem_map_of_mem hcodec
  · obtain ⟨codec, hcodec, rfl⟩ := List.mem_map.mp hkey
    obtain ⟨capCodec, hlookup⟩ := hm.lookup_ne_none hcodec
    simp [hlookup]

/-- **The consumable codec of a media codec** has the values of the capability it is mapped to. -/
theorem consumableCodec_eq (hm : Linked params caps m) (hcaps : caps.Assigned)
    {rtpMapping : RtpMapping}
    {entries : List CodecEntry} (hperm : entries.Perm m.entries)
    (hmapping : rtpMapping.codecs = entries.map mappingCodec) {codec : RtpCodecParameters}
    {capCodec : RtpCodecCapability} (hlookup : m.lookup codec.payloadType = some (codec, capCodec))
    (hcap : capCodec ∈ caps.codecs) :
    consumableCodec caps rtpMapping codec =
      { mimeType := capCodec.mimeType, payloadType := capCodec.preferredPayloadType
        clockRate := capCodec.clockRate, channels := capCodec.channels
        parameters := codec.parameters, rtcpFeedback := capCodec.rtcpFeedback } := by
  have hfind : rtpMapping.codecs.find? (fun entry ↦ entry.payloadType == codec.payloadType) =
      some ⟨codec.payloadType, capCodec.preferredPayloadType⟩ := by
    have hentry := (hm.mem_mapping hperm hlookup).mpr rfl
    rw [hmapping]
    cases hfind : (entries.map mappingCodec).find? fun entry ↦ entry.payloadType ==
        codec.payloadType with
    | none => simpa using List.find?_eq_none.mp hfind _ hentry.1
    | some entry =>
      have hkey : entry.payloadType = codec.payloadType := by simpa using List.find?_some hfind
      rw [(hm.mem_mapping hperm hlookup).mp ⟨List.mem_of_find?_eq_some hfind, hkey⟩]
  simp only [consumableCodec, hfind, hcaps.find?_payloadType hcap, Option.getD_some]

end Linked

/-- **The mapping agrees with the consumable parameters**, for distinct payload types of the
producer and capabilities in which a payload type and an `apt` belong to one codec. -/
theorem mapping_agrees {u : Unspecified} {kind : String} {params : RtpParameters}
    {caps : RtpCapabilities}
    {rtpMapping : RtpMapping} {consumableParams : RtpParameters}
    (hparams : (params.codecs.map RtpCodecParameters.payloadType).Nodup) (hcaps : caps.Assigned)
    (hmapping : getProducerRtpParametersMapping u params caps = .ok rtpMapping)
    (hconsumable : getConsumableRtpParameters kind params caps rtpMapping = .ok consumableParams) :
    MappingAgrees params caps rtpMapping consumableParams := by
  obtain ⟨m₁, hmedia, hmapping⟩ := bind_eq_ok.mp hmapping
  obtain ⟨m, hrtx, hmapping⟩ := bind_eq_ok.mp hmapping
  obtain ⟨mappedEncodings, hencodings, hmapping⟩ := bind_eq_ok.mp hmapping
  cases hmapping
  obtain ⟨codecs, hcodecs, hconsumable⟩ := bind_eq_ok.mp hconsumable
  obtain ⟨encodings, hconsumableEncodings, hconsumable⟩ := bind_eq_ok.mp hconsumable
  cases hconsumable
  have hm := linked_of_passes hcaps hparams hmedia hrtx
  have hperm := u.order_perm m.entries
  obtain ⟨hlength, -, hnodup⟩ := mapEncodings_returns (by linarith [u.mappedSsrc_range.1])
    (by linarith [u.mappedSsrc_range.2]) hencodings
  -- A media codec leads to a consumable codec with the values of its capability.
  have hmediaCodec : ∀ codec ∈ params.codecs, isRtxMimeType codec.mimeType = false →
      ∃ capCodec, m.lookup codec.payloadType = some (codec, capCodec) ∧
        MediaLink caps codec capCodec ∧
        ∃ consumable ∈ codecs, consumable.payloadType = capCodec.preferredPayloadType ∧
          Carries consumable codec ∧
          ∀ rtxCodec, IsRtxFor caps capCodec.preferredPayloadType rtxCodec →
            consumableRtxCodec rtxCodec ∈ codecs := by
    intro codec hcodec hr
    obtain ⟨capCodec, hlookup, hlink⟩ := hm.media codec hcodec hr
    obtain ⟨hmem, hrtxs⟩ := consumableCodecs_returns hcaps hcodecs hcodec hr
    rw [hm.consumableCodec_eq hcaps hperm rfl hlookup hlink.mem] at hmem hrtxs
    obtain ⟨j, hmatched⟩ := hlink.matched
    obtain ⟨-, hmime, hclock⟩ := matchCodecs_parameters hmatched
    exact ⟨capCodec, hlookup, hlink, _, hmem, rfl, ⟨hmime.symm, hclock.symm, rfl⟩, hrtxs⟩
  refine ⟨hm.entries_perm hparams hperm, ?_, ?_,
    ⟨hlength, consumableEncodings_returns hlength hconsumableEncodings⟩, hnodup⟩
  · intro codec hcodec hr entry hentry hkey
    obtain ⟨capCodec, hlookup, hlink, consumable, hmem, hpt, hcarries, -⟩ :=
      hmediaCodec codec hcodec hr
    obtain rfl := (hm.mem_mapping hperm hlookup).mp ⟨hentry, hkey⟩
    exact ⟨⟨consumable, hmem, hpt, hcarries⟩, capCodec, rfl, hlink⟩
  · intro codec hcodec hr entry hentry hkey
    obtain ⟨capCodec, hlookup, a, pair, ha, hpair, hrtxFor⟩ := hm.rtx codec hcodec hr
    obtain rfl := (hm.mem_mapping hperm hlookup).mp ⟨hentry, hkey⟩
    obtain ⟨hassociated, hkey'⟩ := (hm.mem_mapping hperm hpair).mpr rfl
    refine ⟨a, ha, _, hassociated, hkey', ⟨capCodec, rfl, hrtxFor⟩, ?_⟩
    rintro mediaCodec hmediaCodec' rfl hr'
    obtain ⟨cap, hlookup', -, -, -, -, -, hrtxs⟩ := hmediaCodec mediaCodec hmediaCodec' hr'
    rw [hlookup'] at hpair
    cases hpair
    exact ⟨_, hrtxs capCodec hrtxFor, rfl, hrtxFor.rtx, hrtxFor.apt⟩

/-- A producer of a VP8 codec with RTX and two encodings. -/
def vp8Params : RtpParameters where
  codecs := [{ mimeType := "video/VP8", payloadType := 96, clockRate := 90000 },
    { mimeType := "video/rtx", payloadType := 97, clockRate := 90000
      parameters := [("apt", .number 96)] }]
  encodings := [{ ssrc := 1111 }, { ssrc := 2222 }]

/-- A router with a VP8 codec and its RTX codec. -/
def vp8RouterCaps : RtpCapabilities where
  codecs := [{ kind := "video", mimeType := "video/VP8", preferredPayloadType := 100
               clockRate := 90000 },
    { kind := "video", mimeType := "video/rtx", preferredPayloadType := 101, clockRate := 90000
      parameters := [("apt", .number 100)] }]

/-- Entries that come out in the order in which they are kept. -/
def Unspecified.inOrder : Unspecified where
  order := id
  order_perm := fun _ ↦ .refl _
  uninitialised := fun _ ↦ 0
  mappedSsrc := 100000000
  mappedSsrc_range := by decide

theorem assigned_vp8RouterCaps : vp8RouterCaps.Assigned where
  payloadTypes := by decide
  apts := by
    have hfilter : vp8RouterCaps.codecs.filter (fun capCodec ↦ isRtxMimeType capCodec.mimeType) =
        vp8RouterCaps.codecs.tail := by
      have h₁ : isRtxMimeType "video/VP8" = false := by decide +kernel
      have h₂ : isRtxMimeType "video/rtx" = true := by decide +kernel
      simp [vp8RouterCaps, h₁, h₂]
    rw [hfilter]
    exact List.nodup_singleton _
  aptSet := by
    have h₁ : isRtxMimeType "video/VP8" = false := by decide +kernel
    intro capCodec hmem hrtx
    simp only [vp8RouterCaps, List.mem_cons, List.not_mem_nil, or_false] at hmem
    rcases hmem with rfl | rfl
    · rw [h₁] at hrtx
      cases hrtx
    · have hapt : aptOf [("apt", Json.number 100)] = .ok 100 := by rfl
      rw [hapt]
      simp

theorem mapping_agrees_vp8 : ∃ rtpMapping consumableParams,
    getProducerRtpParametersMapping .inOrder vp8Params vp8RouterCaps = .ok rtpMapping ∧
    getConsumableRtpParameters "video" vp8Params vp8RouterCaps rtpMapping = .ok consumableParams ∧
    MappingAgrees vp8Params vp8RouterCaps rtpMapping consumableParams := by
  have hboth : (getProducerRtpParametersMapping .inOrder vp8Params vp8RouterCaps >>=
      getConsumableRtpParameters "video" vp8Params vp8RouterCaps).isOk = true := by decide +kernel
  obtain ⟨consumableParams, h⟩ := exists_ok_of_isOk hboth
  obtain ⟨rtpMapping, hmapping, hconsumable⟩ := bind_eq_ok.mp h
  exact ⟨rtpMapping, consumableParams, hmapping, hconsumable,
    mapping_agrees (by decide) assigned_vp8RouterCaps hmapping hconsumable⟩

end Ortc

end MediasoupSfu
