import IotMedia.Daemon.VideoControl

namespace IotMedia.Daemon

open IotMedia.Framework IntType LawfulControlMetadata

namespace VideoControl

/-- The tags of the entries that the case of a control looks at. -/
def tags : VideoControl → List ControlTag
  | UMD_VIDEO_CTRL_BRIGHTNESS => [.ANDROID_CONTROL_AE_EXPOSURE_COMPENSATION]
  | UMD_VIDEO_CTRL_CONTRAST => [.vendor "org.codeaurora.qcamera3.contrast" "level"]
  | UMD_VIDEO_CTRL_SATURATION => [.vendor "org.codeaurora.qcamera3.saturation" "use_saturation"]
  | UMD_VIDEO_CTRL_SHARPNESS => [.vendor "org.codeaurora.qcamera3.sharpness" "strength"]
  | UMD_VIDEO_CTRL_BACKLIGHT_COMPENSATION => [.vendor "org.codeaurora.qcamera3.adrc" "disable"]
  | UMD_VIDEO_CTRL_ANTIBANDING => [.ANDROID_CONTROL_AE_ANTIBANDING_MODE]
  | UMD_VIDEO_CTRL_GAIN => [.vendor "org.codeaurora.qcamera3.iso_exp_priority" "select_priority",
      .vendor "org.codeaurora.qcamera3.iso_exp_priority" "use_iso_value"]
  | UMD_VIDEO_CTRL_WB_TEMPERTURE =>
    [.vendor "org.codeaurora.qcamera3.manualWB" "color_temperature"]
  | UMD_VIDEO_CTRL_WB_MODE => [.vendor "org.codeaurora.qcamera3.manualWB" "partial_mwb_mode"]
  | UMD_VIDEO_CTRL_EXPOSURE_TIME => [.ANDROID_SENSOR_EXPOSURE_TIME]
  | UMD_VIDEO_CTRL_EXPOSURE_MODE => [.ANDROID_CONTROL_AE_MODE]
  | UMD_VIDEO_CTRL_FOCUS_MODE => [.ANDROID_CONTROL_AF_MODE]
  | UMD_VIDEO_CTRL_ZOOM | UMD_VIDEO_CTRL_PANTILT => [.ANDROID_SCALER_CROP_REGION]
  | UMD_VIDEO_CTRL_EXPOSURE_PRIORITY | unknown => []

/-- The controls with both handlers, without exposure time, zoom and pan/tilt. -/
def stored : List VideoControl := [UMD_VIDEO_CTRL_BRIGHTNESS,UMD_VIDEO_CTRL_CONTRAST,
  UMD_VIDEO_CTRL_SATURATION,UMD_VIDEO_CTRL_SHARPNESS,UMD_VIDEO_CTRL_BACKLIGHT_COMPENSATION,
  UMD_VIDEO_CTRL_ANTIBANDING,UMD_VIDEO_CTRL_GAIN,UMD_VIDEO_CTRL_WB_TEMPERTURE,
  UMD_VIDEO_CTRL_WB_MODE,UMD_VIDEO_CTRL_EXPOSURE_MODE,UMD_VIDEO_CTRL_FOCUS_MODE]

/-- The type that a stored control's case casts payload to. -/
def payloadType : VideoControl → IntType
  | UMD_VIDEO_CTRL_BRIGHTNESS => i16
  | UMD_VIDEO_CTRL_ANTIBANDING | UMD_VIDEO_CTRL_WB_MODE | UMD_VIDEO_CTRL_EXPOSURE_MODE
  | UMD_VIDEO_CTRL_FOCUS_MODE => u8
  | _ => u16

/-- The setter takes the value; those of a mode refuse what is no case of their switch. -/
def Accepts (v : ControlValues) (id : VideoControl) (value : Int) : Prop :=
  match id with
  | UMD_VIDEO_CTRL_ANTIBANDING => ∃ mode,v.antibanding.modeOf value=some mode
  | UMD_VIDEO_CTRL_WB_MODE => ∃ mode,v.wbMode.modeOf value=some mode
  | UMD_VIDEO_CTRL_EXPOSURE_MODE => ∃ mode,v.exposureMode.modeOf value=some mode
  | UMD_VIDEO_CTRL_FOCUS_MODE => ∃ mode,v.focusMode.modeOf value=some mode
  | _ => True

/-- What a GET answers after a SET of the value. -/
def returned (id : VideoControl) (value : Int) : Int :=
  match id with
  | UMD_VIDEO_CTRL_CONTRAST => u16.cast (value+50)
  | UMD_VIDEO_CTRL_BACKLIGHT_COMPENSATION => u8.cast value
  | _ => value

/-- The value comes back but for contrast, and but for a backlight compensation that no byte
holds. -/
theorem returned_eq_iff {id : VideoControl} {value : Int} (held : id.payloadType.Holds value) :
    id.returned value=value ↔ id≠UMD_VIDEO_CTRL_CONTRAST ∧
      (id=UMD_VIDEO_CTRL_BACKLIGHT_COMPENSATION → value<256) := by
  cases id with
  | UMD_VIDEO_CTRL_CONTRAST =>
    have range := u16_holds.mp held
    simp only [returned,u16_cast,ne_eq,not_true,false_and,iff_false]
    omega
  | UMD_VIDEO_CTRL_BACKLIGHT_COMPENSATION =>
    have range := u16_holds.mp held
    simp only [returned,u8_cast,ne_eq,reduceCtorEq,not_false_iff,true_and,true_implies]
    omega
  | _ => simp [returned]

theorem tags_disjoint {a b : VideoControl} (ha : a∈stored) (hab : b≠a) :
    ∀ tag∈a.tags,tag∉b.tags := by
  simp only [stored,List.mem_cons,List.not_mem_nil,or_false] at ha
  rcases ha with rfl|rfl|rfl|rfl|rfl|rfl|rfl|rfl|rfl|rfl|rfl <;> cases b <;> simp_all [tags]

end VideoControl

section Cases

open ControlMetadata

variable {M : Type} [ControlMetadata M] [LawfulControlMetadata M] {env : ControlEnv M} {m m' : M}
  {w : ControlWork M} {tag own : ControlTag} {group name : String} {id : VideoControl}

theorem not_mem_some (h : tag∉[own]) : tag∉some own := by
  rintro ⟨⟩
  exact h List.mem_cons_self

omit [ControlMetadata M] [LawfulControlMetadata M] in
theorem not_mem_lookup (h : tag∉[ControlTag.vendor group name]) :
    tag∉GetVendorTagByName env group name := by
  rw [GetVendorTagByName]
  split_ifs
  · exact not_mem_some h
  · exact Option.not_mem_none tag

omit [LawfulControlMetadata M] in
theorem getLevel_congr (h : ∀ tag∈[own],find m tag=find m' tag) :
    getLevel m (some own)=getLevel m' (some own) := by
  simp only [getLevel,entry,Option.bind_some,h own List.mem_cons_self]

omit [LawfulControlMetadata M] in
theorem getLevel_lookup_congr (h : ∀ tag∈[ControlTag.vendor group name],find m tag=find m' tag) :
    getLevel m (GetVendorTagByName env group name)=
      getLevel m' (GetVendorTagByName env group name) := by
  rw [GetVendorTagByName]
  split_ifs
  · exact getLevel_congr h
  · rfl

section Level

variable {type : IntType} {set : M → Int → M} {get : M → Option Int} {request : ControlRequest}

omit [LawfulControlMetadata M] in
theorem levelCase_find (h : ∀ value,find (set w.metadata value) tag=find w.metadata tag) :
    find (levelCase type set get request w).metadata tag=find w.metadata tag := by
  cases request with
  | UMD_CTRL_SET_REQUEST => exact h _
  | UMD_CTRL_GET_REQUEST =>
    rw [levelCase]
    split <;> rfl
  | unknown => rfl

omit [LawfulControlMetadata M] in
theorem levelCase_get (form : controlCase env id=levelCase type set get) (h : get m=get m')
    (s : ZoomStatics) (p : Nat) : (controlCase env id .UMD_CTRL_GET_REQUEST ⟨m,s,p⟩).payload=
      (controlCase env id .UMD_CTRL_GET_REQUEST ⟨m',s,p⟩).payload := by
  simp only [form,levelCase,h]
  split <;> rfl

omit [ControlMetadata M] [LawfulControlMetadata M] in
theorem levelCase_statics : (levelCase type set get request w).statics=w.statics := by
  cases request with
  | UMD_CTRL_GET_REQUEST =>
    rw [levelCase]
    split <;> rfl
  | UMD_CTRL_SET_REQUEST | unknown => rfl

end Level

open VideoControl

/-- A control's case leaves the entries of the other tags alone. -/
theorem controlCase_find (request : ControlRequest) (h : tag∉id.tags) :
    find (controlCase env id request w).metadata tag=find w.metadata tag := by
  cases id with
  | UMD_VIDEO_CTRL_BRIGHTNESS => exact levelCase_find fun _ => find_setLevel_ne (not_mem_some h)
  | UMD_VIDEO_CTRL_CONTRAST | UMD_VIDEO_CTRL_SATURATION | UMD_VIDEO_CTRL_SHARPNESS
  | UMD_VIDEO_CTRL_BACKLIGHT_COMPENSATION | UMD_VIDEO_CTRL_WB_TEMPERTURE =>
    exact levelCase_find fun _ => find_setLevel_ne (not_mem_lookup h)
  | UMD_VIDEO_CTRL_ANTIBANDING | UMD_VIDEO_CTRL_EXPOSURE_MODE | UMD_VIDEO_CTRL_FOCUS_MODE =>
    exact levelCase_find fun _ => find_setMode_ne (not_mem_some h)
  | UMD_VIDEO_CTRL_GAIN =>
    obtain ⟨first,second⟩ := not_or.mp (mt List.mem_cons.mpr h)
    refine levelCase_find fun _ => ?_
    have before : tag∉[_] := mt List.mem_singleton.mp first
    exact (find_setLevel_ne (not_mem_lookup second)).trans (find_setLevel_ne (not_mem_lookup before))
  | UMD_VIDEO_CTRL_WB_MODE => exact levelCase_find fun _ => find_setMode_ne (not_mem_lookup h)
  | UMD_VIDEO_CTRL_EXPOSURE_TIME => exact levelCase_find fun _ => find_setLevel_ne (not_mem_some h)
  | UMD_VIDEO_CTRL_ZOOM | UMD_VIDEO_CTRL_PANTILT =>
    cases request with
    | UMD_CTRL_SET_REQUEST =>
      change find (SetZoom env w.metadata _ _ _) tag=_
      rw [SetZoom]
      split
      · exact find_update_ne _ _ _ tag (mt List.mem_singleton.mpr h)
      · rfl
    | UMD_CTRL_GET_REQUEST | unknown => rfl
  | UMD_VIDEO_CTRL_EXPOSURE_PRIORITY | unknown => rfl

omit [LawfulControlMetadata M] in
/-- What a GET of a control answers is told by the entries of its tags and the static variables. -/
theorem controlCase_get (h : ∀ tag∈id.tags,find m tag=find m' tag) (s : ZoomStatics) (p : Nat) :
    (controlCase env id .UMD_CTRL_GET_REQUEST ⟨m,s,p⟩).payload=
      (controlCase env id .UMD_CTRL_GET_REQUEST ⟨m',s,p⟩).payload := by
  cases id with
  | UMD_VIDEO_CTRL_BRIGHTNESS | UMD_VIDEO_CTRL_EXPOSURE_TIME =>
    refine levelCase_get rfl ?_ s p
    exact congrArg (Option.map _) (getLevel_congr h)
  | UMD_VIDEO_CTRL_CONTRAST | UMD_VIDEO_CTRL_SATURATION | UMD_VIDEO_CTRL_SHARPNESS
  | UMD_VIDEO_CTRL_BACKLIGHT_COMPENSATION | UMD_VIDEO_CTRL_WB_TEMPERTURE =>
    refine levelCase_get rfl ?_ s p
    exact congrArg (Option.map _) (getLevel_lookup_congr h)
  | UMD_VIDEO_CTRL_GAIN =>
    refine levelCase_get rfl ?_ s p
    exact congrArg (Option.map _) (getLevel_lookup_congr fun tag one => h tag (List.mem_cons_of_mem _ one))
  | UMD_VIDEO_CTRL_ANTIBANDING | UMD_VIDEO_CTRL_EXPOSURE_MODE | UMD_VIDEO_CTRL_FOCUS_MODE =>
    refine levelCase_get rfl ?_ s p
    exact congrArg (fun level => Option.bind level _) (getLevel_congr h)
  | UMD_VIDEO_CTRL_WB_MODE =>
    refine levelCase_get rfl ?_ s p
    exact congrArg (fun level => Option.bind level _) (getLevel_lookup_congr h)
  | UMD_VIDEO_CTRL_ZOOM | UMD_VIDEO_CTRL_PANTILT =>
    simp only [controlCase,zoomCase,GetZoom,h .ANDROID_SCALER_CROP_REGION List.mem_cons_self]
  | UMD_VIDEO_CTRL_EXPOSURE_PRIORITY | unknown => rfl

omit [LawfulControlMetadata M] in
/-- Only zoom and pan/tilt change the static variables. -/
theorem controlCase_statics (request : ControlRequest) (zoom : id≠UMD_VIDEO_CTRL_ZOOM)
    (pantilt : id≠UMD_VIDEO_CTRL_PANTILT) : (controlCase env id request w).statics=w.statics := by
  cases id with
  | UMD_VIDEO_CTRL_ZOOM => exact absurd rfl zoom
  | UMD_VIDEO_CTRL_PANTILT => exact absurd rfl pantilt
  | UMD_VIDEO_CTRL_EXPOSURE_PRIORITY | unknown => rfl
  | _ => exact levelCase_statics

omit [LawfulControlMetadata M] in
/-- What the getter makes of the level that the setter has stored is the GET's answer to the SET. -/
theorem level_round_trip {type : IntType} {set : M → Int → M} {get : M → Option Int}
    {c : ControlCamera M} {p : Nat} {value answer : Int}
    (form : controlCase env id=levelCase type set get) (load : type.load p=value)
    (h : (get (append cleared (append cleared (set (append cleared c.metadata) value)))).map
      type.cast=some answer) (q : Nat) :
    type.load (((c.handleVideoControl env id .UMD_CTRL_SET_REQUEST p).1.handleVideoControl
      env id .UMD_CTRL_GET_REQUEST q).2)=answer := by
  have kept : (c.handleVideoControl env id .UMD_CTRL_SET_REQUEST p).1.metadata=
      append cleared (set (append cleared c.metadata) value) := by
    rw [ControlCamera.set_metadata,form,← load]
    rfl
  obtain ⟨level,found,same⟩ := Option.map_eq_some_iff.mp h
  rw [ControlCamera.handleVideoControl,form]
  simp only [ControlCamera.GetCameraMetadata,kept,levelCase,found,load_store,same]

section Values

variable (present : ∀ group name,env.lookupTag group name=true)

include present

omit [ControlMetadata M] [LawfulControlMetadata M] in
theorem lookup_present (group name : String) :
    GetVendorTagByName env group name=some (.vendor group name) := if_pos (present group name)

theorem contrast_answer {value : Int} (held : u16.Holds value) :
    GetContrast env (append cleared (append cleared (SetContrast env m value)))=
      some (u16.cast (value+50)) := by
  have range := u16_holds.mp held
  have first : i32.cast (value*2-100)=value*2-100 := i32_holds (by omega) (by omega)
  have second : i32.cast (value*2-100+200)=(value+50)*2 :=
    (i32_holds (by omega) (by omega)).trans (by omega)
  simp only [GetContrast,SetContrast,contrastTag,lookup_present present,getLevel_copy,
    getLevel_setLevel,Option.map_some,first,second]
  rw [Int.mul_tdiv_cancel _ (by decide)]

omit present in
theorem mode_answer {table : ModeTable} {value : Int}
    (accepted : ∃ mode,table.modeOf value=some mode) :
    getMode table (append cleared (append cleared (setMode table m (some tag) value))) (some tag)=
      some value := by
  obtain ⟨mode,found⟩ := accepted
  rw [getMode_copy,getMode_copy,getMode_setMode found]

/-- A GET answers a SET with `returned`. -/
theorem set_get {c : ControlCamera M} {p : Nat} {value : Int} (hid : id∈stored)
    (held : id.payloadType.Holds value) (accepted : id.Accepts env.values value)
    (load : id.payloadType.load p=value) (q : Nat) :
    id.payloadType.load (((c.handleVideoControl env id .UMD_CTRL_SET_REQUEST p).1.handleVideoControl
      env id .UMD_CTRL_GET_REQUEST q).2)=id.returned value := by
  have lookup := lookup_present present
  cases id with
  | UMD_VIDEO_CTRL_BRIGHTNESS =>
    refine level_round_trip rfl load ?_ q
    simpa [GetExposureCompensation,SetExposureCompensation,payloadType,returned] using held.cast_eq
  | UMD_VIDEO_CTRL_CONTRAST =>
    refine level_round_trip rfl load ?_ q
    rw [contrast_answer present held]
    simp [payloadType,returned]
  | UMD_VIDEO_CTRL_SATURATION =>
    refine level_round_trip rfl load ?_ q
    simpa [GetSaturation,SetSaturation,saturationTag,lookup,payloadType,returned] using held.cast_eq
  | UMD_VIDEO_CTRL_SHARPNESS =>
    refine level_round_trip rfl load ?_ q
    simpa [GetSharpness,SetSharpness,sharpnessTag,lookup,payloadType,returned] using held.cast_eq
  | UMD_VIDEO_CTRL_BACKLIGHT_COMPENSATION =>
    refine level_round_trip rfl load ?_ q
    simp [GetADRC,SetADRC,adrcTag,lookup,payloadType,returned,cast_of_narrower]
  | UMD_VIDEO_CTRL_ANTIBANDING =>
    refine level_round_trip rfl load ?_ q
    rw [GetAntibanding,SetAntibanding,mode_answer accepted]
    exact congrArg some held
  | UMD_VIDEO_CTRL_GAIN =>
    refine level_round_trip rfl load ?_ q
    simpa [GetISO,SetISO,isoPriorityTag,isoValueTag,lookup,payloadType,returned] using held.cast_eq
  | UMD_VIDEO_CTRL_WB_TEMPERTURE =>
    refine level_round_trip rfl load ?_ q
    simpa [GetWbTemperature,SetWbTemperature,wbTemperatureTag,lookup,payloadType,returned]
      using held.cast_eq
  | UMD_VIDEO_CTRL_WB_MODE =>
    refine level_round_trip rfl load ?_ q
    rw [GetWbMode,SetWbMode,wbModeTag,lookup,mode_answer accepted]
    exact congrArg some held
  | UMD_VIDEO_CTRL_EXPOSURE_MODE =>
    refine level_round_trip rfl load ?_ q
    rw [GetExposureMode,SetExposureMode,mode_answer accepted]
    exact congrArg some held
  | UMD_VIDEO_CTRL_FOCUS_MODE =>
    refine level_round_trip rfl load ?_ q
    rw [GetFocusMode,SetFocusMode,mode_answer accepted]
    exact congrArg some held
  | UMD_VIDEO_CTRL_EXPOSURE_TIME | UMD_VIDEO_CTRL_EXPOSURE_PRIORITY | UMD_VIDEO_CTRL_ZOOM
  | UMD_VIDEO_CTRL_PANTILT | unknown => simp [stored] at hid

end Values

/-- After a SET with the value, a GET of the control answers with it. -/
def RoundTrips (env : ControlEnv M) (c : ControlCamera M) (id : VideoControl) (value : Int) : Prop :=
  ∀ p q,id.payloadType.load p=value →
    id.payloadType.load (((c.handleVideoControl env id .UMD_CTRL_SET_REQUEST p).1.handleVideoControl
      env id .UMD_CTRL_GET_REQUEST q).2)=value

/-- After a SET with the value, a GET of any other control answers as it did before. -/
def OthersKept (env : ControlEnv M) (c : ControlCamera M) (id : VideoControl) (value : Int) : Prop :=
  ∀ p,id.payloadType.load p=value → ∀ other,other≠id → ∀ q,
    ((c.handleVideoControl env id .UMD_CTRL_SET_REQUEST p).1.handleVideoControl env other
      .UMD_CTRL_GET_REQUEST q).2=(c.handleVideoControl env other .UMD_CTRL_GET_REQUEST q).2

theorem others_kept {c : ControlCamera M} {value : Int} (hid : id∈stored) :
    OthersKept env c id value := by
  intro p _ other apart q
  have statics : (c.handleVideoControl env id .UMD_CTRL_SET_REQUEST p).1.statics=c.statics :=
    ControlCamera.handleVideoControl_statics.trans (controlCase_statics _
      (by rintro rfl; simp [stored] at hid) (by rintro rfl; simp [stored] at hid))
  rw [ControlCamera.handleVideoControl,statics]
  refine controlCase_get ?_ c.statics q
  intro tag looked
  have foreign : tag∉id.tags := fun own => tags_disjoint hid apart tag own looked
  simp only [ControlCamera.GetCameraMetadata,ControlCamera.set_metadata,find_append_cleared,
    controlCase_find _ foreign]

/-- With every vendor tag present, controls with both handlers keep what is set and do not disturb
the others, but for contrast and for a backlight compensation from 256 on. -/
theorem control_round_trip {c : ControlCamera M} {value : Int}
    (present : ∀ group name,env.lookupTag group name=true) (hid : id∈stored)
    (held : id.payloadType.Holds value) (accepted : id.Accepts env.values value) :
    RoundTrips env c id value ∧ OthersKept env c id value ↔
      id≠.UMD_VIDEO_CTRL_CONTRAST ∧
        (id=.UMD_VIDEO_CTRL_BACKLIGHT_COMPENSATION → value<256) := by
  rw [and_iff_left (others_kept hid),← returned_eq_iff held]
  constructor
  · intro trips
    have load : id.payloadType.load (id.payloadType.store 0 value)=value :=
      (load_store 0).trans held
    rw [← set_get present hid held accepted load 0]
    exact trips _ 0 load
  · intro same p q load
    rw [set_get present hid held accepted load,same]

end Cases

/-- A sharpness of 1000 in the camera whose metadata is empty. -/
theorem control_round_trip_sharpness :
    RoundTrips smallEnv ⟨fun _ => none,[],{}⟩ .UMD_VIDEO_CTRL_SHARPNESS 1000 ∧
      OthersKept smallEnv ⟨fun _ => none,[],{}⟩ .UMD_VIDEO_CTRL_SHARPNESS 1000 := by
  refine (control_round_trip (fun _ _ => rfl) (by decide) (by decide) ?_).mpr (by decide)
  exact trivial

/-- A contrast of 50 is answered with 100. -/
theorem contrast_not_returned :
    ¬∀ id value,id∈VideoControl.stored → id.payloadType.Holds value →
      id.Accepts smallEnv.values value →
      RoundTrips smallEnv ⟨fun _ => none,[],{}⟩ id value ∧
        OthersKept smallEnv ⟨fun _ => none,[],{}⟩ id value := by
  intro supposed
  have trips := (supposed .UMD_VIDEO_CTRL_CONTRAST 50 (by decide) (by decide) trivial).1
  have answer := trips 50 0 (by decide)
  revert answer
  decide

end IotMedia.Daemon
