import MediasoupSfu.Ortc.ValidateParameters

/-!
# The case of a MIME type

The validators accept a MIME type whatever the case of its letters, and `matchCodecs` compares MIME
types in lower case. But the kind is the part before the slash as it is spelled. The validator of
capabilities stores it, and both compare it with "audio" to decide about the channels. So
"Audio/opus" is accepted as a codec that is not audio: its channels are erased.

A codec that is spelled differently after the slash only is validated alike, and it matches the same
codecs (`matchCodecs_congr`).

## Main results

* `validated_alike_iff` : a codec and another spelling of it are validated alike exactly if the kind
  is spelled the same, or, for the parameters of a codec, if it is "audio" in both or in neither.
-/

namespace MediasoupSfu

namespace Ortc

open Json (Failure find?_set_of_ne find?_set_self find?_erase find?_erase_self isObject_set
  found_of_find? access_of_find? index_of_find? SameBut)

/-! ## Spellings -/

/-- A character that is no letter is in lower case only if it was there. -/
theorem eq_of_toLower_eq {c d : Char} (h : c.toLower = d) (hd : ¬('a' ≤ d ∧ d ≤ 'z')) : c = d := by
  unfold Char.toLower at h
  split at h
  · next hupper =>
    -- A capital letter becomes a letter.
    subst h
    refine absurd ?_ hd
    obtain ⟨hlow, hhigh⟩ := hupper
    have hstep : ('a'.val - 'A'.val).toNat = 32 := rfl
    simp only [Char.le_def, UInt32.le_iff_toNat_le, UInt32.toNat_add, hstep]
    change 65 ≤ c.val.toNat at hlow
    change c.val.toNat ≤ 90 at hhigh
    change 97 ≤ _ ∧ _ ≤ 122
    omega
  · exact h

/-- Whether a character that is no letter is the same one can be seen in lower case. -/
theorem eq_iff_of_toLower_eq {c c' d : Char} (h : c'.toLower = c.toLower) (hlower : d.toLower = d)
    (hd : ¬('a' ≤ d ∧ d ≤ 'z')) : c' = d ↔ c = d := by
  constructor
  · rintro rfl
    exact eq_of_toLower_eq (h.symm.trans hlower) hd
  · rintro rfl
    exact eq_of_toLower_eq (h.trans hlower) hd

/-- Another spelling has the same characters in lower case. -/
theorem toList_of_lowerCase_eq {s s' : String} (h : lowerCase s' = lowerCase s) :
    s'.toList.map Char.toLower = s.toList.map Char.toLower :=
  String.ofList_injective h

/-- **Another spelling of a MIME type is accepted**, with another spelling of the kind. -/
theorem mimeTypeKind?_of_lowerCase {mimeType mimeType' kind : String}
    (hcase : lowerCase mimeType' = lowerCase mimeType)
    (hkind : mimeTypeKind? mimeType = some kind) :
    ∃ kind', mimeTypeKind? mimeType' = some kind' ∧ lowerCase kind' = lowerCase kind := by
  have hlist := toList_of_lowerCase_eq hcase
  unfold mimeTypeKind? at hkind ⊢
  dsimp only at hkind ⊢
  generalize mimeType.toList = chars at hlist hkind
  generalize mimeType'.toList = chars' at hlist ⊢
  have hlower : lowerCase (String.ofList (chars'.take 5)) =
      lowerCase (String.ofList (chars.take 5)) := by
    rw [lowerCase, lowerCase, String.toList_ofList, String.toList_ofList, List.map_take,
      List.map_take, hlist]
  have hslash : chars'[5]? = some '/' ↔ chars[5]? = some '/' := by
    have hget : chars'[5]?.map Char.toLower = chars[5]?.map Char.toLower := by
      rw [← List.getElem?_map, ← List.getElem?_map, hlist]
    cases h' : chars'[5]? with
    | none =>
      rw [h'] at hget
      rw [Option.map_eq_none_iff.mp hget.symm]
    | some c' =>
      rw [h'] at hget
      obtain ⟨c, hc, hcc'⟩ := Option.map_eq_some_iff.mp hget.symm
      rw [hc, Option.some.injEq, Option.some.injEq]
      exact eq_iff_of_toLower_eq hcc'.symm (by decide) (by decide)
  have hdrop : (chars'.drop 6).map Char.toLower = (chars.drop 6).map Char.toLower := by
    rw [List.map_drop, List.map_drop, hlist]
  have hnil : chars'.drop 6 ≠ [] ↔ chars.drop 6 ≠ [] := by
    rw [ne_eq, ne_eq, ← List.map_eq_nil_iff (f := Char.toLower), hdrop, List.map_eq_nil_iff]
  have hbreak (rest : List Char) : (rest.all fun c ↦ c ≠ '\n' ∧ c ≠ '\r') =
      (rest.map Char.toLower).all fun c ↦ c ≠ '\n' ∧ c ≠ '\r' := by
    rw [List.all_map]
    refine congrArg rest.all (funext fun c ↦ ?_)
    have hnewline : c.toLower = '\n' ↔ c = '\n' :=
      ⟨fun h ↦ eq_of_toLower_eq h (by decide), fun h ↦ by rw [h]; rfl⟩
    have hreturn : c.toLower = '\r' ↔ c = '\r' :=
      ⟨fun h ↦ eq_of_toLower_eq h (by decide), fun h ↦ by rw [h]; rfl⟩
    simp only [Function.comp_apply, ne_eq, hnewline, hreturn]
  split at hkind
  · next hvalid =>
    obtain ⟨hmedia, hchar, hrest, hline⟩ := hvalid
    obtain rfl := Option.some.inj hkind
    rw [← hlower] at hmedia
    rw [hbreak, ← hdrop, ← hbreak] at hline
    exact ⟨_, if_pos ⟨hmedia, hslash.mpr hchar, hnil.mpr hrest, hline⟩, hlower⟩
  · cases hkind

/-! ## Validating alike -/

theorem ok_bind {α β : Type} (a : α) (f : α → Except Failure β) : (.ok a >>= f) = f a := rfl

variable {codec codec' : Json}

theorem fillIn_sameBut {key : String} (h : SameBut key codec codec') {k : String} (hk : k ≠ key)
    (isValid : Json → Bool) (value : Json) :
    SameBut key (fillIn k isValid value codec) (fillIn k isValid value codec') := by
  unfold fillIn
  rw [h.find?_eq k hk]
  split
  · exact h
  · exact h.set k value

theorem validateChannels_sameBut (h : SameBut "mimeType" codec codec') (kind : String) :
    SameBut "mimeType" (validateChannels kind codec) (validateChannels kind codec') := by
  unfold validateChannels
  split
  · exact fillIn_sameBut h (by decide) _ _
  · exact h.erase "channels"

theorem validateCodecParameters_sameBut {result : Json} (h : SameBut "mimeType" codec codec')
    (hok : validateCodecParameters codec = .ok result) :
    ∃ result', validateCodecParameters codec' = .ok result' ∧
      SameBut "mimeType" result result' := by
  unfold validateCodecParameters at hok ⊢
  rw [h.find?_eq "parameters" (by decide)]
  split at hok
  · obtain ⟨u, hvalid, hok⟩ := bind_eq_ok.mp hok
    obtain rfl : codec = result := Except.ok.inj hok
    exact ⟨codec', bind_eq_ok.mpr ⟨u, hvalid, rfl⟩, h⟩
  · obtain rfl := Except.ok.inj hok
    exact ⟨_, rfl, h.set "parameters" (.object [])⟩

theorem validateRtcpFeedbacks_sameBut {result : Json} (h : SameBut "mimeType" codec codec')
    (hok : validateRtcpFeedbacks codec = .ok result) :
    ∃ result', validateRtcpFeedbacks codec' = .ok result' ∧ SameBut "mimeType" result result' := by
  unfold validateRtcpFeedbacks at hok ⊢
  rw [h.find?_eq "rtcpFeedback" (by decide)]
  split at hok
  · obtain ⟨valid, hvalid, hok⟩ := bind_eq_ok.mp hok
    obtain rfl := Except.ok.inj hok
    exact ⟨_, bind_eq_ok.mpr ⟨valid, hvalid, rfl⟩, h.set "rtcpFeedback" (.array valid)⟩
  · obtain rfl := Except.ok.inj hok
    exact ⟨_, rfl, h.set "rtcpFeedback" (.array [])⟩

/-- **The rest of the validation** does not look at the MIME type. -/
theorem validateRest_sameBut {kind : String} {result : Json} (h : SameBut "mimeType" codec codec')
    (hok : validateRest kind codec = .ok result) :
    ∃ result', validateRest kind codec' = .ok result' ∧ SameBut "mimeType" result result' := by
  obtain ⟨middle, hparameters, hfeedback⟩ := bind_eq_ok.mp hok
  obtain ⟨middle', hparameters', hmiddle⟩ :=
    validateCodecParameters_sameBut (validateChannels_sameBut h kind) hparameters
  obtain ⟨result', hfeedback', hresult⟩ := validateRtcpFeedbacks_sameBut hmiddle hfeedback
  exact ⟨result', bind_eq_ok.mpr ⟨middle', hparameters', hfeedback'⟩, hresult⟩

/-- After the validation a codec has channels exactly if its kind is "audio". -/
theorem contains_channels_of_validateRest {kind : String} {result : Json}
    (hobject : codec.isObject = true) (hok : validateRest kind codec = .ok result) :
    result.contains "channels" = true ↔ kind = "audio" := by
  obtain ⟨-, -, hkeep⟩ := validateRest_returns hobject hok
  rw [Json.contains, hkeep "channels" (by decide) (by decide)]
  unfold validateChannels
  split
  · next haudio =>
    refine ⟨fun _ ↦ haudio, fun _ ↦ ?_⟩
    unfold fillIn
    split
    · next hvalid =>
      cases hfind : codec.find? "channels" with
      | none =>
        rw [hfind] at hvalid
        cases hvalid
      | some channels => rfl
    · rw [find?_set_self hobject]
      rfl
  · next hother =>
    rw [find?_erase_self]
    exact ⟨fun h ↦ absurd h Bool.false_ne_true, fun h ↦ absurd h hother⟩

/-! ## Matching alike -/

/-- **Two codecs that differ only in the spelling of the MIME type.** -/
structure Respelled (codec codec' : Json) : Prop where
  sameBut : SameBut "mimeType" codec codec'
  spelling : ∃ mimeType mimeType', codec.find? "mimeType" = some (.string mimeType) ∧
    codec'.find? "mimeType" = some (.string mimeType') ∧ lowerCase mimeType' = lowerCase mimeType

theorem Respelled.refl {mimeType : String} (hobject : codec.isObject = true)
    (hmimeType : codec.find? "mimeType" = some (.string mimeType)) : Respelled codec codec :=
  ⟨⟨hobject, hobject, fun _ _ ↦ rfl⟩, mimeType, mimeType, hmimeType, hmimeType, rfl⟩

/-- A codec stays matchable. -/
theorem Respelled.matchable (h : Respelled codec codec') (hmatchable : Matchable codec) :
    Matchable codec' := by
  obtain ⟨-, mimeType', -, hmimeType', -⟩ := h.spelling
  obtain ⟨-, ⟨clockRate, hclockRate⟩, parameters, hparameters⟩ := hmatchable
  refine ⟨⟨mimeType', hmimeType'⟩, ⟨clockRate, ?_⟩, parameters, ?_⟩
  · rw [h.sameBut.find?_eq "clockRate" (by decide), hclockRate]
  · rw [h.sameBut.find?_eq "parameters" (by decide), hparameters]

section Matching

variable {a a' b b' : Json}

theorem getH264Integer_congr (h : SameBut "mimeType" a a') (key : String) :
    getH264Integer key a' = getH264Integer key a := by
  rw [getH264Integer, getH264Integer, h.index_eq (by decide)]

theorem getTextParameter_congr (h : SameBut "mimeType" a a') (key default : String) :
    getTextParameter key default a' = getTextParameter key default a := by
  rw [getTextParameter, getTextParameter, h.index_eq (by decide)]

theorem h264Parameters_congr (h : SameBut "mimeType" a a') (packetizationMode : ℕ) :
    h264Parameters a' packetizationMode = h264Parameters a packetizationMode := by
  rw [h264Parameters, h264Parameters, getH264LevelAssimetryAllowed, getH264ProfileLevelId,
    getH264Integer_congr h, getTextParameter_congr h]

theorem matchChannels_congr (ha : SameBut "mimeType" a a') (hb : SameBut "mimeType" b b')
    (mimeType : String) : matchChannels mimeType a' b' = matchChannels mimeType a b := by
  rw [matchChannels, matchChannels, ha.contains_eq (by decide), hb.contains_eq (by decide),
    ha.index_eq (by decide), hb.index_eq (by decide)]

/-- Taking over the profile never fails where there are parameters. -/
theorem setProfileLevelId_returns {parameters : Json}
    (h : a.find? "parameters" = some parameters) (newParameters : H264.CodecParameterMap) :
    ∃ codec, setProfileLevelId a newParameters = .ok codec := by
  rw [setProfileLevelId, access_of_find? h, ok_bind]
  cases hlookup : newParameters.lookup "profile-level-id" with
  | none => exact ⟨_, rfl⟩
  | some value => exact ⟨_, rfl⟩

theorem matchH264_congr (ha : SameBut "mimeType" a a') (hb : SameBut "mimeType" b b')
    {parameters : Json} (hparameters : a.find? "parameters" = some parameters)
    (strict modify : Bool) :
    Prod.fst <$> matchH264 a' b' strict modify = Prod.fst <$> matchH264 a b strict modify := by
  have hparameters' : a'.find? "parameters" = some parameters := by
    rw [ha.find?_eq "parameters" (by decide), hparameters]
  unfold matchH264 getH264PacketizationMode
  rw [getH264Integer_congr ha, getH264Integer_congr hb]
  simp only [map_bind, h264Parameters_congr ha, h264Parameters_congr hb]
  refine bind_congr fun aMode ↦ bind_congr fun bMode ↦ ?_
  split
  · rfl
  split
  · rfl
  simp only [map_bind]
  refine bind_congr fun aParameters ↦ bind_congr fun bParameters ↦ ?_
  split
  · rfl
  simp only [map_bind]
  refine bind_congr fun newParameters ↦ ?_
  split
  · obtain ⟨c, hc⟩ := setProfileLevelId_returns hparameters newParameters
    obtain ⟨c', hc'⟩ := setProfileLevelId_returns hparameters' newParameters
    rw [hc, hc']
    rfl
  · rfl

/-- **Codecs that are spelled differently match alike.** -/
theorem matchCodecs_congr (ha : Respelled a a') (hb : Respelled b b') (hamatchable : Matchable a)
    (hbmatchable : Matchable b) (strict modify : Bool) :
    Prod.fst <$> matchCodecs a' b' strict modify = Prod.fst <$> matchCodecs a b strict modify := by
  obtain ⟨aMimeType, aMimeType', haMimeType, haMimeType', halower⟩ := ha.spelling
  obtain ⟨bMimeType, bMimeType', hbMimeType, hbMimeType', hblower⟩ := hb.spelling
  obtain ⟨-, ⟨aClockRate, haClockRate⟩, aParameters, haParameters⟩ := hamatchable
  obtain ⟨-, ⟨bClockRate, hbClockRate⟩, -⟩ := hbmatchable
  have haClockRate' : a'.find? "clockRate" = some aClockRate := by
    rw [ha.sameBut.find?_eq "clockRate" (by decide), haClockRate]
  have hbClockRate' : b'.find? "clockRate" = some bClockRate := by
    rw [hb.sameBut.find?_eq "clockRate" (by decide), hbClockRate]
  unfold matchCodecs
  simp only [found_of_find? haMimeType, found_of_find? haMimeType', found_of_find? hbMimeType,
    found_of_find? hbMimeType', access_of_find? haClockRate, access_of_find? haClockRate',
    index_of_find? hbClockRate, index_of_find? hbClockRate', Json.getString, ok_bind, halower,
    hblower, matchChannels_congr ha.sameBut hb.sameBut, getVP9ProfileId,
    getTextParameter_congr ha.sameBut, getTextParameter_congr hb.sameBut]
  split
  · rfl
  split
  · rfl
  simp only [map_bind]
  refine bind_congr fun same ↦ ?_
  split
  · rfl
  split
  · exact matchH264_congr ha.sameBut hb.sameBut haParameters strict modify
  split
  · simp only [map_bind]
    exact bind_congr fun aProfileId ↦ bind_congr fun bProfileId ↦ rfl
  · rfl

end Matching

/-! ## What is promised -/

/-- A codec that one of the validators returns. -/
def Validated (codec : Json) : Prop :=
  ∃ given,
    validateRtpCodecCapability given = .ok codec ∨ validateRtpCodecParameters given = .ok codec

/-- **What is promised of the codecs that two spellings become**: they differ only in the spelling
of the MIME type, and they match the same codecs. -/
structure ValidatedAlike (codec codec' : Json) : Prop where
  respelled : Respelled codec codec'
  kind : codec'.find? "kind" = codec.find? "kind"
  channels : codec'.find? "channels" = codec.find? "channels"
  matchesAlike : ∀ other, Validated other → ∀ strict modify : Bool,
    Prod.fst <$> matchCodecs codec' other strict modify =
        Prod.fst <$> matchCodecs codec other strict modify ∧
      Prod.fst <$> matchCodecs other codec' strict modify =
        Prod.fst <$> matchCodecs other codec strict modify

/-- A validator makes the same of a codec with its MIME type spelled in another way. -/
def CaseInsensitive (validate : Json → Except Failure Json) (given codec : Json)
    (mimeType' : String) : Prop :=
  ∃ codec', validate (given.set "mimeType" (.string mimeType')) = .ok codec' ∧
    ValidatedAlike codec codec'

/-! ## When it is kept -/

variable {given : Json} {kind kind' mimeType mimeType' : String}

theorem matchable_of_validateRtpCodecParameters
    (h : validateRtpCodecParameters given = .ok codec) : Matchable codec := by
  obtain ⟨mimeType, kind, hobject, hmimeType, -, -, hclockRate, hok⟩ :=
    validateRtpCodecParameters_eq_ok_iff.mp h
  exact matchable_of_validateRest hobject hmimeType hclockRate hok

/-- A validated codec can be matched. -/
theorem Validated.matchable (h : Validated codec) : Matchable codec := by
  obtain ⟨given, h | h⟩ := h
  · exact matchable_of_validateRtpCodecCapability h
  · exact matchable_of_validateRtpCodecParameters h

/-- Only whether the kind is "audio" counts for the rest of the validation. -/
theorem validateRest_congr_kind (h : kind = "audio" ↔ kind' = "audio") (codec : Json) :
    validateRest kind codec = validateRest kind' codec := by
  have hchannels : validateChannels kind codec = validateChannels kind' codec := by
    rw [validateChannels, validateChannels]
    exact if_congr h rfl rfl
  rw [validateRest, validateRest, hchannels]

/-- The rest of the validation keeps the spellings. -/
theorem validateRest_respelled {given' : Json} (h : Respelled given given')
    (hok : validateRest kind given = .ok codec) :
    ∃ codec', validateRest kind given' = .ok codec' ∧ Respelled codec codec' := by
  obtain ⟨codec', hok', hsame⟩ := validateRest_sameBut h.sameBut hok
  obtain ⟨mimeType, mimeType', hmimeType, hmimeType', hlower⟩ := h.spelling
  refine ⟨codec', hok', hsame, mimeType, mimeType', ?_, ?_, hlower⟩
  · rw [find?_of_validateRest h.sameBut.isObject_left hok (by decide) (by decide) (by decide),
      hmimeType]
  · rw [find?_of_validateRest h.sameBut.isObject_right hok' (by decide) (by decide) (by decide),
      hmimeType']

/-- Codecs that differ only in the spelling are alike in everything else. -/
theorem Respelled.validatedAlike {codec codec' : Json} (h : Respelled codec codec')
    (hmatchable : Matchable codec) : ValidatedAlike codec codec' where
  respelled := h
  kind := h.sameBut.find?_eq "kind" (by decide)
  channels := h.sameBut.find?_eq "channels" (by decide)
  matchesAlike other hother strict modify := by
    have hm := hother.matchable
    obtain ⟨mimeType, hmimeType⟩ := hm.mimeType
    have hobject : other.isObject = true := by
      cases other with
      | object fields => rfl
      | _ => cases hmimeType
    have hrefl := Respelled.refl hobject hmimeType
    exact ⟨matchCodecs_congr h hrefl hmatchable hm strict modify,
      matchCodecs_congr hrefl h hm hmatchable strict modify⟩

/-- **Capabilities**: the kind that is stored has to be spelled the same. -/
theorem capability_caseInsensitive_iff (hok : validateRtpCodecCapability given = .ok codec)
    (hmimeType : given.find? "mimeType" = some (.string mimeType))
    (hcase : lowerCase mimeType' = lowerCase mimeType) :
    CaseInsensitive validateRtpCodecCapability given codec mimeType' ↔
      mimeTypeKind? mimeType' = mimeTypeKind? mimeType := by
  obtain ⟨m, kind, hobject, hm, hkind, hpayloadType, hclockRate, hrest⟩ :=
    validateRtpCodecCapability_eq_ok_iff.mp hok
  obtain rfl : mimeType = m := Json.string.inj (Option.some.inj (hmimeType.symm.trans hm))
  obtain ⟨kind', hkind', -⟩ := mimeTypeKind?_of_lowerCase hcase hkind
  have hset (key value : String) : (given.set key (.string value)).isObject = true :=
    (isObject_set _ _ _).trans hobject
  have hobject' : ((given.set "mimeType" (.string mimeType')).set "kind"
      (.string kind')).isObject = true := (isObject_set _ _ _).trans (hset _ _)
  rw [hkind, hkind']
  constructor
  · rintro ⟨codec', hok', halike⟩
    obtain ⟨m', kind'', -, hm', hkind'', -, -, hrest'⟩ :=
      validateRtpCodecCapability_eq_ok_iff.mp hok'
    rw [find?_set_self hobject, Option.some.injEq, Json.string.injEq] at hm'
    subst hm'
    obtain rfl : kind' = kind'' := Option.some.inj (hkind'.symm.trans hkind'')
    have hfound : codec.find? "kind" = some (.string kind) := by
      rw [find?_of_validateRest (hset _ _) hrest (by decide) (by decide) (by decide),
        find?_set_self hobject]
    have hfound' : codec'.find? "kind" = some (.string kind') := by
      rw [find?_of_validateRest hobject' hrest' (by decide) (by decide) (by decide),
        find?_set_self (hset _ _)]
    have hsame := halike.kind
    rw [hfound, hfound', Option.some.injEq, Json.string.injEq] at hsame
    rw [hsame]
  · intro hsame
    obtain rfl : kind' = kind := Option.some.inj hsame
    have hrespelled : Respelled (given.set "kind" (.string kind'))
        ((given.set "mimeType" (.string mimeType')).set "kind" (.string kind')) := by
      refine ⟨(SameBut.of_set hobject "mimeType" _).set "kind" _, mimeType, mimeType', ?_, ?_,
        hcase⟩
      · rw [find?_set_of_ne hobject (by decide), hmimeType]
      · rw [find?_set_of_ne (hset _ _) (by decide), find?_set_self hobject]
    obtain ⟨codec', hrest', hresult⟩ := validateRest_respelled hrespelled hrest
    refine ⟨codec', ?_,
      hresult.validatedAlike (matchable_of_validateRtpCodecCapability hok)⟩
    refine validateRtpCodecCapability_eq_ok_iff.mpr
      ⟨mimeType', kind', hset _ _, find?_set_self hobject _ _, hkind', ?_, ?_, hrest'⟩
    · rw [find?_set_of_ne hobject (by decide), hpayloadType]
    · rw [find?_set_of_ne hobject (by decide), hclockRate]

/-- **Parameters of codecs**: only whether the kind is "audio" counts. -/
theorem parameters_caseInsensitive_iff (hok : validateRtpCodecParameters given = .ok codec)
    (hmimeType : given.find? "mimeType" = some (.string mimeType))
    (hcase : lowerCase mimeType' = lowerCase mimeType) :
    CaseInsensitive validateRtpCodecParameters given codec mimeType' ↔
      (mimeTypeKind? mimeType = some "audio" ↔ mimeTypeKind? mimeType' = some "audio") := by
  obtain ⟨m, kind, hobject, hm, hkind, hpayloadType, hclockRate, hrest⟩ :=
    validateRtpCodecParameters_eq_ok_iff.mp hok
  obtain rfl : mimeType = m := Json.string.inj (Option.some.inj (hmimeType.symm.trans hm))
  obtain ⟨kind', hkind', -⟩ := mimeTypeKind?_of_lowerCase hcase hkind
  have hobject' : (given.set "mimeType" (.string mimeType')).isObject = true :=
    (isObject_set _ _ _).trans hobject
  rw [hkind, hkind', Option.some.injEq, Option.some.injEq]
  constructor
  · rintro ⟨codec', hok', halike⟩
    obtain ⟨m', kind'', -, hm', hkind'', -, -, hrest'⟩ :=
      validateRtpCodecParameters_eq_ok_iff.mp hok'
    rw [find?_set_self hobject, Option.some.injEq, Json.string.injEq] at hm'
    subst hm'
    obtain rfl : kind' = kind'' := Option.some.inj (hkind'.symm.trans hkind'')
    rw [← contains_channels_of_validateRest hobject hrest,
      ← contains_channels_of_validateRest hobject' hrest', Json.contains, Json.contains,
      halike.channels]
  · intro hsame
    have hrespelled : Respelled given (given.set "mimeType" (.string mimeType')) :=
      ⟨SameBut.of_set hobject "mimeType" _, mimeType, mimeType', hmimeType,
        find?_set_self hobject _ _, hcase⟩
    obtain ⟨codec', hrest', hresult⟩ := validateRest_respelled hrespelled hrest
    refine ⟨codec', ?_, hresult.validatedAlike (matchable_of_validateRtpCodecParameters hok)⟩
    refine validateRtpCodecParameters_eq_ok_iff.mpr
      ⟨mimeType', kind', hobject', find?_set_self hobject _ _, hkind', ?_, ?_, ?_⟩
    · rw [find?_set_of_ne hobject (by decide), hpayloadType]
    · rw [find?_set_of_ne hobject (by decide), hclockRate]
    · rw [← validateRest_congr_kind hsame, hrest']

/-- **Two spellings of a codec are validated alike** exactly if, for a capability, the kind is
spelled the same in both, and, for the parameters of a codec, if it is "audio" in both or in
neither. -/
theorem validated_alike_iff (hmimeType : given.find? "mimeType" = some (.string mimeType))
    (hcase : lowerCase mimeType' = lowerCase mimeType) :
    (validateRtpCodecCapability given = .ok codec →
      (CaseInsensitive validateRtpCodecCapability given codec mimeType' ↔
        mimeTypeKind? mimeType' = mimeTypeKind? mimeType)) ∧
    (validateRtpCodecParameters given = .ok codec →
      (CaseInsensitive validateRtpCodecParameters given codec mimeType' ↔
        (mimeTypeKind? mimeType = some "audio" ↔ mimeTypeKind? mimeType' = some "audio"))) :=
  ⟨fun hok ↦ capability_caseInsensitive_iff hok hmimeType hcase,
    fun hok ↦ parameters_caseInsensitive_iff hok hmimeType hcase⟩

/-- Opus, as a capability and as the parameters of a codec. -/
def opusCodec (mimeType : String) : Json :=
  .object [("channels", .number 2), ("clockRate", .number 48000), ("mimeType", .string mimeType),
    ("payloadType", .number 100)]

/-- Spelled in another way after the slash, Opus is validated alike. -/
theorem validated_alike_opus : ∃ codec, validateRtpCodecCapability (opusCodec "audio/opus") =
    .ok codec ∧
      (CaseInsensitive validateRtpCodecCapability (opusCodec "audio/opus") codec "audio/OPUS" ↔
        mimeTypeKind? "audio/OPUS" = mimeTypeKind? "audio/opus") := by
  have hok : (validateRtpCodecCapability (opusCodec "audio/opus")).isOk = true := by decide +kernel
  obtain ⟨codec, hcodec⟩ := exists_ok_of_isOk hok
  have hmimeType : (opusCodec "audio/opus").find? "mimeType" = some (.string "audio/opus") := rfl
  have hcase : lowerCase "audio/OPUS" = lowerCase "audio/opus" := by decide +kernel
  exact ⟨codec, hcodec, (validated_alike_iff hmimeType hcase).1 hcodec⟩

/-- **"Audio/opus" is not audio**: it loses its channels. -/
theorem not_validated_alike :
    ¬∀ (given codec : Json) (mimeType mimeType' : String),
      validateRtpCodecCapability given = .ok codec →
      given.find? "mimeType" = some (.string mimeType) →
      lowerCase mimeType' = lowerCase mimeType →
      CaseInsensitive validateRtpCodecCapability given codec mimeType' := by
  intro hclaim
  have hok : (validateRtpCodecCapability (opusCodec "audio/opus")).isOk = true := by decide +kernel
  obtain ⟨codec, hcodec⟩ := exists_ok_of_isOk hok
  have hmimeType : (opusCodec "audio/opus").find? "mimeType" = some (.string "audio/opus") := rfl
  have hcase : lowerCase "Audio/opus" = lowerCase "audio/opus" := by decide +kernel
  have hkind := (capability_caseInsensitive_iff hcodec hmimeType hcase).mp
    (hclaim _ _ _ _ hcodec hmimeType hcase)
  exact absurd hkind (by decide +kernel)

end Ortc

end MediasoupSfu
