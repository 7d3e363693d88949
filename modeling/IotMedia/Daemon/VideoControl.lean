import IotMedia.Daemon.VideoBuffers
import IotMedia.Framework.MachineInt
import Mathlib.Algebra.Field.Rat
import Mathlib.Data.List.Basic
import Mathlib.Data.List.Nodup

namespace IotMedia.Daemon

open IotMedia.Framework IntType

/-- The tags that the controls go by; a vendor tag is known by the section and the name that it is
looked up with. -/
inductive ControlTag
  | ANDROID_CONTROL_AE_EXPOSURE_COMPENSATION
  | ANDROID_CONTROL_AE_ANTIBANDING_MODE
  | ANDROID_CONTROL_AE_MODE
  | ANDROID_CONTROL_AF_MODE
  | ANDROID_SENSOR_EXPOSURE_TIME
  | ANDROID_SCALER_CROP_REGION
  | ANDROID_SENSOR_INFO_ACTIVE_ARRAY_SIZE
  | vendor (group name : String)
  deriving DecidableEq

/-- The CameraMetadata class, which the tree does not contain, with the values of an entry. -/
class ControlMetadata (M : Type) where
  cleared : M
  append : M → M → M
  update : M → ControlTag → List Int → M
  find : M → ControlTag → Option (List Int)

/-- As documented: an update is found under its tag and leaves the other tags alone, and what is
appended to nothing is found again. -/
class LawfulControlMetadata (M : Type) [ControlMetadata M] : Prop where
  find_append_cleared : ∀ (m : M) tag,
    ControlMetadata.find (ControlMetadata.append ControlMetadata.cleared m) tag=
      ControlMetadata.find m tag
  find_update : ∀ (m : M) tag vs,
    ControlMetadata.find (ControlMetadata.update m tag vs) tag=some vs
  find_update_ne : ∀ (m : M) tag vs other,other≠tag →
    ControlMetadata.find (ControlMetadata.update m tag vs) other=ControlMetadata.find m other

/-- A lawful metadata: the entries as a function of the tag. -/
def EntryMap := ControlTag → Option (List Int)

instance : ControlMetadata EntryMap where
  cleared := fun _ => none
  append := fun m other tag => if (other tag).isSome then other tag else m tag
  update := fun m tag vs => Function.update m tag (some vs)
  find := fun m tag => m tag

instance : LawfulControlMetadata EntryMap where
  find_append_cleared := by
    intro m tag
    change (if (m tag).isSome then m tag else none)=m tag
    split_ifs with h
    · rfl
    · exact (Option.not_isSome_iff_eq_none.mp h).symm
  find_update := fun m tag vs => Function.update_self tag (some vs) m
  find_update_ne := fun m _ vs _ other => Function.update_of_ne other (some vs) m

/-- Values of a control with the modes that stand for them; the labels of a switch differ, and the
type of the metadata's entry holds the modes. -/
structure ModeTable where
  type : IntType
  entries : List (Int×Int)
  values : (entries.map Prod.fst).Nodup
  modes : (entries.map Prod.snd).Nodup
  fits : ∀ mode∈entries.map Prod.snd,type.Holds mode

namespace ModeTable

def modeOf (t : ModeTable) (value : Int) : Option Int := t.entries.lookup value

def valueOf (t : ModeTable) (mode : Int) : Option Int := (t.entries.map Prod.swap).lookup mode

theorem mem_of_lookup {k v : Int} {l : List (Int×Int)} (h : l.lookup k=some v) : (k,v)∈l := by
  obtain ⟨before,after,rfl,_⟩ := List.lookup_eq_some_iff.mp h
  exact List.mem_append_right _ List.mem_cons_self

theorem lookup_of_mem {k v : Int} {l : List (Int×Int)} (h : (k,v)∈l)
    (nodup : (l.map Prod.fst).Nodup) : l.lookup k=some v := by
  induction l with
  | nil => cases h
  | cons p l ih =>
    obtain ⟨fresh,later⟩ := List.nodup_cons.mp nodup
    rcases List.mem_cons.mp h with rfl|h
    · exact List.lookup_cons_self
    · have other : k≠p.1 := by
        rintro rfl
        exact fresh (List.mem_map.mpr ⟨_,h,rfl⟩)
      rw [List.lookup_cons,beq_false_of_ne other]
      exact ih h later

theorem mem_of_modeOf {t : ModeTable} {value mode : Int} (h : t.modeOf value=some mode) :
    (value,mode)∈t.entries := mem_of_lookup h

theorem holds_of_modeOf {t : ModeTable} {value mode : Int} (h : t.modeOf value=some mode) :
    t.type.Holds mode := t.fits mode (List.mem_map.mpr ⟨_,mem_of_modeOf h,rfl⟩)

/-- The mode that stands for a value stands for no other one. -/
theorem valueOf_modeOf {t : ModeTable} {value mode : Int} (h : t.modeOf value=some mode) :
    t.valueOf mode=some value := by
  refine lookup_of_mem (List.mem_map_of_mem (f := Prod.swap) (mem_of_modeOf h)) ?_
  rw [List.map_map]
  exact t.modes

end ModeTable

/-- What umd-gadget.h and camera_metadata_tags.h name, neither of them in the tree. Case labels of
one switch differ, so do the two AE modes, and each mode fits a byte. -/
structure ControlValues where
  UMD_VIDEO_ANTIBANDING_AUTO : Int
  UMD_VIDEO_ANTIBANDING_DISABLED : Int
  UMD_VIDEO_ANTIBANDING_60HZ : Int
  UMD_VIDEO_ANTIBANDING_50HZ : Int
  UMD_VIDEO_WB_MODE_AUTO : Int
  UMD_VIDEO_WB_MODE_MANUAL : Int
  UMD_VIDEO_EXPOSURE_MODE_AUTO : Int
  UMD_VIDEO_EXPOSURE_MODE_SHUTTER : Int
  UMD_VIDEO_FOCUS_MODE_AUTO : Int
  UMD_VIDEO_FOCUS_MODE_MANUAL : Int
  ANDROID_CONTROL_AE_ANTIBANDING_MODE_AUTO : Int
  ANDROID_CONTROL_AE_ANTIBANDING_MODE_OFF : Int
  ANDROID_CONTROL_AE_ANTIBANDING_MODE_60HZ : Int
  ANDROID_CONTROL_AE_ANTIBANDING_MODE_50HZ : Int
  ANDROID_CONTROL_AE_MODE_ON : Int
  ANDROID_CONTROL_AE_MODE_OFF : Int
  ANDROID_CONTROL_AF_MODE_AUTO : Int
  ANDROID_CONTROL_AF_MODE_OFF : Int
  antibanding_values : [UMD_VIDEO_ANTIBANDING_AUTO,UMD_VIDEO_ANTIBANDING_DISABLED,
    UMD_VIDEO_ANTIBANDING_60HZ,UMD_VIDEO_ANTIBANDING_50HZ].Nodup
  antibanding_modes : [ANDROID_CONTROL_AE_ANTIBANDING_MODE_AUTO,
    ANDROID_CONTROL_AE_ANTIBANDING_MODE_OFF,ANDROID_CONTROL_AE_ANTIBANDING_MODE_60HZ,
    ANDROID_CONTROL_AE_ANTIBANDING_MODE_50HZ].Nodup
  antibanding_bytes : ∀ mode∈[ANDROID_CONTROL_AE_ANTIBANDING_MODE_AUTO,
    ANDROID_CONTROL_AE_ANTIBANDING_MODE_OFF,ANDROID_CONTROL_AE_ANTIBANDING_MODE_60HZ,
    ANDROID_CONTROL_AE_ANTIBANDING_MODE_50HZ],u8.Holds mode
  wb_values : [UMD_VIDEO_WB_MODE_AUTO,UMD_VIDEO_WB_MODE_MANUAL].Nodup
  exposure_values : [UMD_VIDEO_EXPOSURE_MODE_AUTO,UMD_VIDEO_EXPOSURE_MODE_SHUTTER].Nodup
  exposure_modes : [ANDROID_CONTROL_AE_MODE_ON,ANDROID_CONTROL_AE_MODE_OFF].Nodup
  exposure_bytes : ∀ mode∈[ANDROID_CONTROL_AE_MODE_ON,ANDROID_CONTROL_AE_MODE_OFF],u8.Holds mode
  focus_values : [UMD_VIDEO_FOCUS_MODE_AUTO,UMD_VIDEO_FOCUS_MODE_MANUAL].Nodup
  focus_modes : [ANDROID_CONTROL_AF_MODE_AUTO,ANDROID_CONTROL_AF_MODE_OFF].Nodup
  focus_bytes : ∀ mode∈[ANDROID_CONTROL_AF_MODE_AUTO,ANDROID_CONTROL_AF_MODE_OFF],u8.Holds mode

namespace ControlValues

variable (v : ControlValues)

def antibanding : ModeTable where
  type := u8
  entries := [(v.UMD_VIDEO_ANTIBANDING_AUTO,v.ANDROID_CONTROL_AE_ANTIBANDING_MODE_AUTO),
    (v.UMD_VIDEO_ANTIBANDING_DISABLED,v.ANDROID_CONTROL_AE_ANTIBANDING_MODE_OFF),
    (v.UMD_VIDEO_ANTIBANDING_60HZ,v.ANDROID_CONTROL_AE_ANTIBANDING_MODE_60HZ),
    (v.UMD_VIDEO_ANTIBANDING_50HZ,v.ANDROID_CONTROL_AE_ANTIBANDING_MODE_50HZ)]
  values := v.antibanding_values
  modes := v.antibanding_modes
  fits := v.antibanding_bytes

def PARTIAL_MWB_MODE_DISABLE : Int := 0
def PARTIAL_MWB_MODE_CCT : Int := 1

def wbMode : ModeTable where
  type := i32
  entries := [(v.UMD_VIDEO_WB_MODE_AUTO,PARTIAL_MWB_MODE_DISABLE),
    (v.UMD_VIDEO_WB_MODE_MANUAL,PARTIAL_MWB_MODE_CCT)]
  values := v.wb_values
  modes := (by decide : [PARTIAL_MWB_MODE_DISABLE,PARTIAL_MWB_MODE_CCT].Nodup)
  fits := (by decide : ∀ mode∈[PARTIAL_MWB_MODE_DISABLE,PARTIAL_MWB_MODE_CCT],i32.Holds mode)

def exposureMode : ModeTable where
  type := u8
  entries := [(v.UMD_VIDEO_EXPOSURE_MODE_AUTO,v.ANDROID_CONTROL_AE_MODE_ON),
    (v.UMD_VIDEO_EXPOSURE_MODE_SHUTTER,v.ANDROID_CONTROL_AE_MODE_OFF)]
  values := v.exposure_values
  modes := v.exposure_modes
  fits := v.exposure_bytes

def focusMode : ModeTable where
  type := u8
  entries := [(v.UMD_VIDEO_FOCUS_MODE_AUTO,v.ANDROID_CONTROL_AF_MODE_AUTO),
    (v.UMD_VIDEO_FOCUS_MODE_MANUAL,v.ANDROID_CONTROL_AF_MODE_OFF)]
  values := v.focus_values
  modes := v.focus_modes
  fits := v.focus_bytes

end ControlValues

/-- What the calls rely on: the headers' values, the vendor tags that the global descriptor knows,
mStaticInfo, and what the conversion of a floating-point number gives where the language says
nothing. -/
structure ControlEnv (M : Type) where
  values : ControlValues
  lookupTag : String → String → Bool
  mStaticInfo : M
  unheld : Option ℚ → Int

/-- The static variables of handleVideoControl. -/
structure ZoomStatics where
  pan : Int := 0
  tilt : Int := 0
  magnification : Int := 100
  deriving DecidableEq

/-- The members of UmdCamera that control requests go by, with the static variables. -/
structure ControlCamera (M : Type) where
  metadata : M
  mMsg : List UmdCameraMessage := []
  statics : ZoomStatics := {}

inductive VideoControl
  | UMD_VIDEO_CTRL_BRIGHTNESS
  | UMD_VIDEO_CTRL_CONTRAST
  | UMD_VIDEO_CTRL_SATURATION
  | UMD_VIDEO_CTRL_SHARPNESS
  | UMD_VIDEO_CTRL_BACKLIGHT_COMPENSATION
  | UMD_VIDEO_CTRL_ANTIBANDING
  | UMD_VIDEO_CTRL_GAIN
  | UMD_VIDEO_CTRL_WB_TEMPERTURE
  | UMD_VIDEO_CTRL_WB_MODE
  | UMD_VIDEO_CTRL_EXPOSURE_TIME
  | UMD_VIDEO_CTRL_EXPOSURE_MODE
  | UMD_VIDEO_CTRL_EXPOSURE_PRIORITY
  | UMD_VIDEO_CTRL_FOCUS_MODE
  | UMD_VIDEO_CTRL_ZOOM
  | UMD_VIDEO_CTRL_PANTILT
  | unknown
  deriving DecidableEq

inductive ControlRequest
  | UMD_CTRL_SET_REQUEST
  | UMD_CTRL_GET_REQUEST
  | unknown
  deriving DecidableEq

section Accessors

variable {M : Type} [ControlMetadata M] (env : ControlEnv M)

/-- The first value of an entry; the code indexes it only after `exists`. -/
def entry (m : M) (tag : ControlTag) : Option Int :=
  (ControlMetadata.find m tag).map fun vs => vs.headD 0

def GetVendorTagByName (group name : String) : Option ControlTag :=
  if env.lookupTag group name then some (.vendor group name) else none

-- Setters and getters of one value. A getter answers with what it writes to *value.

def setLevel (m : M) (tag : Option ControlTag) (level : Int) : M :=
  match tag with
  | some tag => ControlMetadata.update m tag [level]
  | none => m

def getLevel (m : M) (tag : Option ControlTag) : Option Int := tag.bind fun tag => entry m tag

def setMode (t : ModeTable) (m : M) (tag : Option ControlTag) (value : Int) : M :=
  match t.modeOf value with
  | some mode => setLevel m tag (t.type.cast mode)
  | none => m

def getMode (t : ModeTable) (m : M) (tag : Option ControlTag) : Option Int :=
  (getLevel m tag).bind fun mode => t.valueOf (t.type.cast mode)

def SetExposureCompensation (m : M) (value : Int) : M :=
  setLevel m (some .ANDROID_CONTROL_AE_EXPOSURE_COMPENSATION) (i32.cast value)

def GetExposureCompensation (m : M) : Option Int :=
  (getLevel m (some .ANDROID_CONTROL_AE_EXPOSURE_COMPENSATION)).map i16.cast

def contrastTag : Option ControlTag :=
  GetVendorTagByName env "org.codeaurora.qcamera3.contrast" "level"

def SetContrast (m : M) (value : Int) : M := setLevel m (contrastTag env) (i32.cast (value*2-100))

def GetContrast (m : M) : Option Int :=
  (getLevel m (contrastTag env)).map fun contrast => u16.cast ((i32.cast (contrast+200)).tdiv 2)

def saturationTag : Option ControlTag :=
  GetVendorTagByName env "org.codeaurora.qcamera3.saturation" "use_saturation"

def SetSaturation (m : M) (value : Int) : M := setLevel m (saturationTag env) (i32.cast value)

def GetSaturation (m : M) : Option Int := (getLevel m (saturationTag env)).map i16.cast

def sharpnessTag : Option ControlTag :=
  GetVendorTagByName env "org.codeaurora.qcamera3.sharpness" "strength"

def SetSharpness (m : M) (value : Int) : M := setLevel m (sharpnessTag env) (i32.cast value)

def GetSharpness (m : M) : Option Int := (getLevel m (sharpnessTag env)).map u16.cast

def adrcTag : Option ControlTag :=
  GetVendorTagByName env "org.codeaurora.qcamera3.adrc" "disable"

def SetADRC (m : M) (value : Int) : M := setLevel m (adrcTag env) (u8.cast value)

def GetADRC (m : M) : Option Int := (getLevel m (adrcTag env)).map u8.cast

def SetAntibanding (m : M) (value : Int) : M :=
  setMode env.values.antibanding m (some .ANDROID_CONTROL_AE_ANTIBANDING_MODE) value

def GetAntibanding (m : M) : Option Int :=
  getMode env.values.antibanding m (some .ANDROID_CONTROL_AE_ANTIBANDING_MODE)

def isoPriorityTag : Option ControlTag :=
  GetVendorTagByName env "org.codeaurora.qcamera3.iso_exp_priority" "select_priority"

def isoValueTag : Option ControlTag :=
  GetVendorTagByName env "org.codeaurora.qcamera3.iso_exp_priority" "use_iso_value"

def SetISO (m : M) (value : Int) : M :=
  setLevel (setLevel m (isoPriorityTag env) 0) (isoValueTag env) (i32.cast value)

def GetISO (m : M) : Option Int := (getLevel m (isoValueTag env)).map u16.cast

def wbTemperatureTag : Option ControlTag :=
  GetVendorTagByName env "org.codeaurora.qcamera3.manualWB" "color_temperature"

def SetWbTemperature (m : M) (value : Int) : M := setLevel m (wbTemperatureTag env) (i32.cast value)

def GetWbTemperature (m : M) : Option Int := (getLevel m (wbTemperatureTag env)).map u16.cast

def wbModeTag : Option ControlTag :=
  GetVendorTagByName env "org.codeaurora.qcamera3.manualWB" "partial_mwb_mode"

def SetWbMode (m : M) (value : Int) : M := setMode env.values.wbMode m (wbModeTag env) value

def GetWbMode (m : M) : Option Int := getMode env.values.wbMode m (wbModeTag env)

def SetExposureTime (m : M) (exposure : Int) : M :=
  setLevel m (some .ANDROID_SENSOR_EXPOSURE_TIME) (i64.cast (u32.cast (exposure*100000)))

def GetExposureTime (m : M) : Option Int :=
  (getLevel m (some .ANDROID_SENSOR_EXPOSURE_TIME)).map fun time => u32.cast (time.tdiv 100000)

def SetExposureMode (m : M) (mode : Int) : M :=
  setMode env.values.exposureMode m (some .ANDROID_CONTROL_AE_MODE) mode

def GetExposureMode (m : M) : Option Int :=
  getMode env.values.exposureMode m (some .ANDROID_CONTROL_AE_MODE)

def SetFocusMode (m : M) (value : Int) : M :=
  setMode env.values.focusMode m (some .ANDROID_CONTROL_AF_MODE) value

def GetFocusMode (m : M) : Option Int :=
  getMode env.values.focusMode m (some .ANDROID_CONTROL_AF_MODE)

end Accessors

section Zoom

variable {M : Type} [ControlMetadata M] (env : ControlEnv M)

/-- A quotient of floating-point numbers; a division by zero gives no number. -/
def quotient (a b : ℚ) : Option ℚ := if b=0 then none else some (a/b)

/-- ANDROID_SENSOR_INFO_ACTIVE_ARRAY_SIZE: its four values. -/
structure ActiveArray where
  sensor_x : Int
  sensor_y : Int
  sensor_w : Int
  sensor_h : Int
  deriving DecidableEq

def activeArray (m : M) : Option ActiveArray :=
  (ControlMetadata.find m .ANDROID_SENSOR_INFO_ACTIVE_ARRAY_SIZE).map fun vs =>
    ⟨vs.getD 0 0,vs.getD 1 0,vs.getD 2 0,vs.getD 3 0⟩

/-- One of zoom_w and zoom_h. -/
def zoomSize (extent magnification : Int) : Int :=
  i32.ofRat env.unheld (quotient extent (magnification/100))

/-- One of zoom_x and zoom_y: half of what the size leaves, moved by pan or tilt. -/
def zoomOffset (extent size turn : Int) : Int :=
  let offset := (i32.cast (extent-size)).tdiv 2
  i32.ofRat env.unheld (some (offset+i32.cast (offset*turn)/360000))

/-- The crop of SetZoom. -/
def crop (array : ActiveArray) (magnification pan tilt : Int) : List Int :=
  let width := i32.cast (array.sensor_w-array.sensor_x)
  let height := i32.cast (array.sensor_h-array.sensor_y)
  let zoom_w := zoomSize env width magnification
  let zoom_h := zoomSize env height magnification
  [zoomOffset env width zoom_w pan,zoomOffset env height zoom_h tilt,zoom_w,zoom_h]

def SetZoom (m : M) (magnification pan tilt : Int) : M :=
  match activeArray env.mStaticInfo with
  | some array =>
    ControlMetadata.update m .ANDROID_SCALER_CROP_REGION (crop env array magnification pan tilt)
  | none => m

/-- The magnification that GetZoom works out, the average of the two quotients. -/
def magnificationOf (array : ActiveArray) (zoom_w zoom_h : Int) : Int :=
  let zoom_w := if zoom_w=0 then array.sensor_w else zoom_w
  let zoom_h := if zoom_h=0 then array.sensor_h else zoom_h
  u16.ofRat env.unheld ((quotient array.sensor_w zoom_w).bind fun across =>
    (quotient array.sensor_h zoom_h).map fun down => (across+down)/2*100)

def GetZoom (m : M) : Option Int :=
  (ControlMetadata.find m .ANDROID_SCALER_CROP_REGION).bind fun region =>
    (activeArray env.mStaticInfo).map fun array =>
      magnificationOf env array (region.getD 2 0) (region.getD 3 0)

end Zoom

/-- What the switch of handleVideoControl works on: the copy of the metadata, the static variables,
and the memory that payload leads to, as a little-endian number. -/
structure ControlWork (M : Type) where
  metadata : M
  statics : ZoomStatics
  payload : Nat

section Switch

variable {M : Type} [ControlMetadata M] (env : ControlEnv M)

/-- The case of a control that has a setter and a getter of one value. -/
def levelCase (type : IntType) (set : M → Int → M) (get : M → Option Int)
    (request : ControlRequest) (w : ControlWork M) : ControlWork M :=
  match request with
  | .UMD_CTRL_SET_REQUEST => { w with metadata := set w.metadata (type.load w.payload) }
  | .UMD_CTRL_GET_REQUEST =>
    match get w.metadata with
    | some value => { w with payload := type.store w.payload value }
    | none => w
  | .unknown => w

def byte (p i : Nat) : Nat := p/2^(8*i)%2^8

/-- Four bytes of the payload from the `i`-th on, put together as an int32_t. -/
def loadTurn (p i : Nat) : Int :=
  i32.cast (byte p i ||| byte p (i+1) <<< 8 ||| byte p (i+2) <<< 16 ||| byte p (i+3) <<< 24 : Nat)

def storeByte (p i : Nat) (b : Int) : Nat :=
  p/2^(8*(i+1))*2^(8*(i+1))+(b%256).toNat*2^(8*i)+p%2^(8*i)

def storeTurn (p i : Nat) (turn : Int) : Nat :=
  let p := storeByte p i turn
  let p := storeByte p (i+1) (turn >>> (8 : Nat))
  let p := storeByte p (i+2) (turn >>> (16 : Nat))
  storeByte p (i+3) (turn >>> (24 : Nat))

/-- The case that zoom and pan/tilt share. -/
def zoomCase (pantilt : Bool) (request : ControlRequest) (w : ControlWork M) : ControlWork M :=
  match request with
  | .UMD_CTRL_SET_REQUEST =>
    let statics := if pantilt then
        { w.statics with
          pan := loadTurn w.payload 0
          tilt := loadTurn w.payload 4 }
      else { w.statics with magnification := u16.load w.payload }
    { w with
      statics := statics
      metadata := SetZoom env w.metadata statics.magnification statics.pan statics.tilt }
  | .UMD_CTRL_GET_REQUEST =>
    let statics := { w.statics with
      magnification := (GetZoom env w.metadata).getD w.statics.magnification }
    { w with
      statics := statics
      payload := if pantilt then storeTurn (storeTurn w.payload 0 statics.pan) 4 statics.tilt
        else u16.store w.payload statics.magnification }
  | .unknown => w

/-- The switch of handleVideoControl. -/
def controlCase (id : VideoControl) : ControlRequest → ControlWork M → ControlWork M :=
  match id with
  | .UMD_VIDEO_CTRL_BRIGHTNESS => levelCase i16 SetExposureCompensation GetExposureCompensation
  | .UMD_VIDEO_CTRL_CONTRAST => levelCase u16 (SetContrast env) (GetContrast env)
  | .UMD_VIDEO_CTRL_SATURATION => levelCase u16 (SetSaturation env) (GetSaturation env)
  | .UMD_VIDEO_CTRL_SHARPNESS => levelCase u16 (SetSharpness env) (GetSharpness env)
  | .UMD_VIDEO_CTRL_BACKLIGHT_COMPENSATION => levelCase u16 (SetADRC env) (GetADRC env)
  | .UMD_VIDEO_CTRL_ANTIBANDING => levelCase u8 (SetAntibanding env) (GetAntibanding env)
  | .UMD_VIDEO_CTRL_GAIN => levelCase u16 (SetISO env) (GetISO env)
  | .UMD_VIDEO_CTRL_WB_TEMPERTURE => levelCase u16 (SetWbTemperature env) (GetWbTemperature env)
  | .UMD_VIDEO_CTRL_WB_MODE => levelCase u8 (SetWbMode env) (GetWbMode env)
  | .UMD_VIDEO_CTRL_EXPOSURE_TIME => levelCase u32 SetExposureTime GetExposureTime
  | .UMD_VIDEO_CTRL_EXPOSURE_MODE => levelCase u8 (SetExposureMode env) (GetExposureMode env)
  | .UMD_VIDEO_CTRL_EXPOSURE_PRIORITY => fun _ w => w
  | .UMD_VIDEO_CTRL_FOCUS_MODE => levelCase u8 (SetFocusMode env) (GetFocusMode env)
  | .UMD_VIDEO_CTRL_ZOOM => zoomCase env false
  | .UMD_VIDEO_CTRL_PANTILT => zoomCase env true
  | .unknown => fun _ w => w

namespace ControlCamera

variable (c : ControlCamera M)

def GetCameraMetadata : M := ControlMetadata.append ControlMetadata.cleared c.metadata

def SetCameraMetadata (m : M) : ControlCamera M :=
  { c with
    metadata := ControlMetadata.append ControlMetadata.cleared m
    mMsg := c.mMsg++[.CAMERA_SUBMIT_REQUEST] }

/-- The camera and the payload's memory after handleVideoControl, which returns true: neither
GetCameraMetadata nor SetCameraMetadata fails. -/
def handleVideoControl (id : VideoControl) (request : ControlRequest) (payload : Nat) :
    ControlCamera M×Nat :=
  let w := controlCase env id request ⟨c.GetCameraMetadata,c.statics,payload⟩
  let served := { c with statics := w.statics }
  (if request=.UMD_CTRL_SET_REQUEST then served.SetCameraMetadata w.metadata else served,w.payload)

variable {env c} {id : VideoControl} {p : Nat}

theorem set_metadata : (c.handleVideoControl env id .UMD_CTRL_SET_REQUEST p).1.metadata=
    ControlMetadata.append ControlMetadata.cleared (controlCase env id .UMD_CTRL_SET_REQUEST
      ⟨c.GetCameraMetadata,c.statics,p⟩).metadata := rfl

theorem handleVideoControl_metadata {request : ControlRequest} :
    (c.handleVideoControl env id request p).1.metadata=
      if request=.UMD_CTRL_SET_REQUEST then
        ControlMetadata.append ControlMetadata.cleared
          (controlCase env id request ⟨c.GetCameraMetadata,c.statics,p⟩).metadata
      else c.metadata := by
  rw [handleVideoControl]
  dsimp only
  split_ifs <;> rfl

theorem handleVideoControl_statics {request : ControlRequest} :
    (c.handleVideoControl env id request p).1.statics=
      (controlCase env id request ⟨c.GetCameraMetadata,c.statics,p⟩).statics := by
  rw [handleVideoControl]
  dsimp only
  split_ifs <;> rfl

end ControlCamera

end Switch

/-- The headers with small numbers, for evaluation. -/
def smallValues : ControlValues where
  UMD_VIDEO_ANTIBANDING_AUTO := 0
  UMD_VIDEO_ANTIBANDING_DISABLED := 1
  UMD_VIDEO_ANTIBANDING_60HZ := 2
  UMD_VIDEO_ANTIBANDING_50HZ := 3
  UMD_VIDEO_WB_MODE_AUTO := 0
  UMD_VIDEO_WB_MODE_MANUAL := 1
  UMD_VIDEO_EXPOSURE_MODE_AUTO := 0
  UMD_VIDEO_EXPOSURE_MODE_SHUTTER := 1
  UMD_VIDEO_FOCUS_MODE_AUTO := 0
  UMD_VIDEO_FOCUS_MODE_MANUAL := 1
  ANDROID_CONTROL_AE_ANTIBANDING_MODE_AUTO := 3
  ANDROID_CONTROL_AE_ANTIBANDING_MODE_OFF := 0
  ANDROID_CONTROL_AE_ANTIBANDING_MODE_60HZ := 2
  ANDROID_CONTROL_AE_ANTIBANDING_MODE_50HZ := 1
  ANDROID_CONTROL_AE_MODE_ON := 1
  ANDROID_CONTROL_AE_MODE_OFF := 0
  ANDROID_CONTROL_AF_MODE_AUTO := 1
  ANDROID_CONTROL_AF_MODE_OFF := 0
  antibanding_values := by decide
  antibanding_modes := by decide
  antibanding_bytes := by decide
  wb_values := by decide
  exposure_values := by decide
  exposure_modes := by decide
  exposure_bytes := by decide
  focus_values := by decide
  focus_modes := by decide
  focus_bytes := by decide

/-- Every vendor tag is present, and the active array is the one of a camera of 4000 by 3000. -/
def smallEnv : ControlEnv EntryMap where
  values := smallValues
  lookupTag := fun _ _ => true
  mStaticInfo := Function.update (fun _ => none) .ANDROID_SENSOR_INFO_ACTIVE_ARRAY_SIZE
    (some [0,0,4000,3000])
  unheld := fun _ => 0

section Entries

open LawfulControlMetadata

variable {M : Type} [ControlMetadata M] [LawfulControlMetadata M] {env : ControlEnv M} {m : M}
  {tag : ControlTag} {t : Option ControlTag} {level value mode : Int} {table : ModeTable}

@[simp] theorem entry_copy :
    entry (ControlMetadata.append ControlMetadata.cleared m) tag=entry m tag :=
  congrArg _ (find_append_cleared m tag)

@[simp] theorem getLevel_copy :
    getLevel (ControlMetadata.append ControlMetadata.cleared m) t=getLevel m t := by
  simp only [getLevel,entry_copy]

@[simp] theorem getMode_copy :
    getMode table (ControlMetadata.append ControlMetadata.cleared m) t=getMode table m t := by
  simp only [getMode,getLevel_copy]

@[simp] theorem getLevel_setLevel : getLevel (setLevel m (some tag) level) (some tag)=some level := by
  simp [getLevel,setLevel,entry,find_update]

theorem find_setLevel_ne (h : tag∉t) :
    ControlMetadata.find (setLevel m t level) tag=ControlMetadata.find m tag := by
  cases t with
  | none => rfl
  | some other =>
    refine find_update_ne m other [level] tag ?_
    rintro rfl
    exact h rfl

theorem find_setMode_ne (h : tag∉t) :
    ControlMetadata.find (setMode table m t value) tag=ControlMetadata.find m tag := by
  rw [setMode]
  split
  · exact find_setLevel_ne h
  · rfl

theorem getMode_setMode (h : table.modeOf value=some mode) :
    getMode table (setMode table m (some tag) value) (some tag)=some value := by
  have held := (ModeTable.holds_of_modeOf h).cast_eq
  simp only [getMode,setMode,h,getLevel_setLevel,Option.bind_some,held]
  exact ModeTable.valueOf_modeOf h

end Entries

end IotMedia.Daemon
