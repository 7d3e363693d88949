import IotMedia.Daemon.VideoControl

namespace IotMedia.Daemon

open IotMedia.Framework IntType LawfulControlMetadata

section Exposure

variable {M : Type} [ControlMetadata M]

/-- ANDROID_SENSOR_EXPOSURE_TIME once an exposure has been set. -/
def exposureTime (m : M) (exposure : Int) : Option Int :=
  entry (SetExposureTime m exposure) .ANDROID_SENSOR_EXPOSURE_TIME

/-- The time is exact, the times of shorter exposures are not above it, and it is read back. -/
structure ExposureKept (m : M) (exposure : Int) : Prop where
  stored : exposureTime m exposure=some (exposure*100000)
  monotone : ∀ shorter,u32.Holds shorter → shorter ≤ exposure →
    ∀ a∈exposureTime m shorter,∀ b∈exposureTime m exposure,a ≤ b
  read : GetExposureTime (SetExposureTime m exposure)=some exposure

variable [LawfulControlMetadata M] {m : M} {exposure : Int}

theorem exposureTime_eq (m : M) (exposure : Int) :
    exposureTime m exposure=some (i64.cast (u32.cast (exposure*100000))) :=
  getLevel_setLevel (m := m)

/-- The product in 32 bits, which int64_t holds. -/
theorem exposure_product (exposure : Int) :
    i64.cast (u32.cast (exposure*100000))=exposure*100000%4294967296 := by
  have product : u32.cast (exposure*100000)=exposure*100000%4294967296 := rfl
  rw [product]
  exact Int.bmod_eq_of_le (by simp; omega) (by simp; omega)

/-- All three hold of the exposures of which the product fits 32 bits, of 4.2949 seconds or less. -/
theorem exposure_kept_iff (m : M) (h : u32.Holds exposure) :
    ExposureKept m exposure ↔ exposure ≤ 42949 := by
  obtain ⟨low,high⟩ := u32_holds_iff.mp h
  constructor
  · intro kept
    have exact_time := kept.stored
    rw [exposureTime_eq,exposure_product,Option.some_inj] at exact_time
    omega
  · intro short
    have exact_time (e : Int) (he : 0 ≤ e) (short : e ≤ 42949) :
        exposureTime m e=some (e*100000) := by
      rw [exposureTime_eq,exposure_product,Int.emod_eq_of_lt (by omega) (by omega)]
    refine ⟨exact_time exposure low short,?_,?_⟩
    · intro shorter held le a ha b hb
      have least := (u32_holds_iff.mp held).1
      rw [exact_time shorter least (by omega),Option.mem_some_iff] at ha
      rw [exact_time exposure low short,Option.mem_some_iff] at hb
      omega
    · have time : getLevel (SetExposureTime m exposure) (some .ANDROID_SENSOR_EXPOSURE_TIME)=
          some (exposure*100000) := exact_time exposure low short
      rw [GetExposureTime,time,Option.map_some,Int.mul_tdiv_cancel _ (by decide),h.cast_eq]

theorem exposure_kept_iff_longest : ExposureKept (ControlMetadata.cleared : EntryMap) 42949 :=
  (exposure_kept_iff _ (by decide)).mpr (by decide)

/-- 4.295 seconds are stored as 32704 nanoseconds. -/
theorem exposure_wraps :
    ¬∀ (m : EntryMap) exposure,u32.Holds exposure → ExposureKept m exposure := by
  intro all
  have wrapped := (all ControlMetadata.cleared 42950 (by decide)).stored
  rw [exposureTime_eq,exposure_product] at wrapped
  revert wrapped
  decide

end Exposure

section Zoom

variable {M : Type}

-- SetZoom with the divisions by zero, overflows and conversions that the language does not define
-- as failures.

def checkedSize (extent magnification : Int) : Option Int :=
  (quotient extent (magnification/100)).bind i32.checkedRat

def checkedOffset (extent size turn : Int) : Option Int :=
  (i32.checked (extent-size)).bind fun left =>
    (i32.checked (left.tdiv 2*turn)).bind fun product =>
      i32.checkedRat (left.tdiv 2+product/360000)

def checkedCrop (array : ActiveArray) (magnification pan tilt : Int) : Option (List Int) :=
  (i32.checked (array.sensor_w-array.sensor_x)).bind fun width =>
    (i32.checked (array.sensor_h-array.sensor_y)).bind fun height =>
      (checkedSize width magnification).bind fun zoom_w =>
        (checkedSize height magnification).bind fun zoom_h =>
          (checkedOffset width zoom_w pan).bind fun zoom_x =>
            (checkedOffset height zoom_h tilt).map fun zoom_y => [zoom_x,zoom_y,zoom_w,zoom_h]

/-- The active arrays that a camera may have. -/
structure ActiveArray.Valid (array : ActiveArray) : Prop where
  left : 0 ≤ array.sensor_x
  top : 0 ≤ array.sensor_y
  width : array.sensor_x<array.sensor_w
  height : array.sensor_y<array.sensor_h
  held_w : i32.Holds array.sensor_w
  held_h : i32.Holds array.sensor_h

variable {extent magnification turn size offset : Int}

/-- The pixels that a magnification leaves out, both sides together. -/
def margin (extent magnification : Int) : Int := extent-100*extent/magnification

/-- What the code meets the bounds for in one direction: the field is no wider than the sensor and a
pixel at least, and half the margin times pan or tilt fits an int32 and moves the field over no
edge. -/
structure AxisFits (extent magnification turn : Int) : Prop where
  positive : 0 < magnification
  pixel : magnification ≤ 100*extent
  within : 100*extent < magnification*(extent+1)
  held : i32.Holds (margin extent magnification/2*turn)
  low : -360000*(margin extent magnification/2+1) < margin extent magnification/2*turn
  high : margin extent magnification/2*turn<
    360000*(margin extent magnification-margin extent magnification/2+1)

theorem checkedSize_eq_some (h : checkedSize extent magnification=some size) (env : ControlEnv M) :
    zoomSize env extent magnification=size := by
  obtain ⟨q,divided,converted⟩ := Option.bind_eq_some_iff.mp h
  rw [zoomSize,divided]
  exact ofRat_of_checked converted

theorem checkedOffset_eq_some (h : checkedOffset extent size turn=some offset)
    (env : ControlEnv M) : zoomOffset env extent size turn=offset := by
  obtain ⟨left,subtracted,h⟩ := Option.bind_eq_some_iff.mp h
  obtain ⟨product,multiplied,converted⟩ := Option.bind_eq_some_iff.mp h
  obtain ⟨held,rfl⟩ := checked_eq_some.mp subtracted
  obtain ⟨held',rfl⟩ := checked_eq_some.mp multiplied
  simp only [zoomOffset,held.cast_eq,held'.cast_eq]
  exact ofRat_of_checked converted

/-- Where nothing fails the crop is the one that SetZoom writes. -/
theorem checkedCrop_eq_some {array : ActiveArray} {pan tilt : Int} {region : List Int}
    (h : checkedCrop array magnification pan tilt=some region) (env : ControlEnv M) :
    crop env array magnification pan tilt=region := by
  obtain ⟨width,across,h⟩ := Option.bind_eq_some_iff.mp h
  obtain ⟨height,down,h⟩ := Option.bind_eq_some_iff.mp h
  obtain ⟨zoom_w,wide,h⟩ := Option.bind_eq_some_iff.mp h
  obtain ⟨zoom_h,high,h⟩ := Option.bind_eq_some_iff.mp h
  obtain ⟨zoom_x,panned,h⟩ := Option.bind_eq_some_iff.mp h
  obtain ⟨zoom_y,tilted,rfl⟩ := Option.map_eq_some_iff.mp h
  obtain ⟨held_w,rfl⟩ := checked_eq_some.mp across
  obtain ⟨held_h,rfl⟩ := checked_eq_some.mp down
  simp only [crop,held_w.cast_eq,held_h.cast_eq,checkedSize_eq_some wide,checkedSize_eq_some high,
    checkedOffset_eq_some panned,checkedOffset_eq_some tilted]

section Axis

/-- A field of so many hundredths, truncated. -/
theorem checkedSize_eq (he : 0 ≤ extent) (hm : 0 < magnification) :
    checkedSize extent magnification=i32.checked (100*extent/magnification) := by
  have positive : (0 : ℚ) < magnification := by exact_mod_cast hm
  have nonzero : (magnification/100 : ℚ)≠0 := by linarith
  have value : (extent : ℚ)/(magnification/100)=(100*extent : Int)/magnification := by
    push_cast
    rw [div_div_eq_mul_div,mul_comm]
  have floor : 0 ≤ 100*extent/magnification := Int.ediv_nonneg (by omega) hm.le
  have below (n : Int) (hn : 0 ≤ n) :
      ((100*extent : Int)/magnification : ℚ).num.tdiv
          ((100*extent : Int)/magnification : ℚ).den ≤ n ↔ 100*extent/magnification ≤ n := by
    rw [truncate_le_iff hn,div_lt_iff₀ positive,← Int.lt_add_one_iff,Int.ediv_lt_iff_lt_mul hm]
    exact_mod_cast Iff.rfl
  have nonneg : 0 ≤ ((100*extent : Int)/magnification : ℚ).num.tdiv
      ((100*extent : Int)/magnification : ℚ).den := by
    have quotient : (0 : ℚ) ≤ (100*extent : Int)/magnification :=
      div_nonneg (by exact_mod_cast (by omega : 0 ≤ 100*extent)) positive.le
    exact truncate_nonneg_iff.mpr (by linarith)
  have truncated := le_antisymm ((below _ floor).mpr le_rfl) ((below _ nonneg).mp le_rfl)
  rw [checkedSize,quotient,if_neg nonzero,value,Option.bind_some,IntType.checkedRat,truncated]

theorem checkedSize_zero (extent : Int) : checkedSize extent 0=none := by
  simp [checkedSize,quotient]

/-- The field is within the sensor and not empty. -/
theorem checkedSize_within_iff (he : 0<extent) (held : i32.Holds extent) (hm : 0 ≤ magnification) :
    (∃ size,checkedSize extent magnification=some size ∧ 0<size ∧ size ≤ extent) ↔
      0 < magnification ∧ magnification ≤ 100*extent ∧ 100*extent < magnification*(extent+1) := by
  rcases hm.eq_or_lt with rfl|positive
  · simp [checkedSize_zero]
  have pixel : 0<100*extent/magnification ↔ magnification ≤ 100*extent := by
    rw [← Int.add_one_le_iff,Int.le_ediv_iff_mul_le positive]
    omega
  have within : 100*extent/magnification ≤ extent ↔ 100*extent < magnification*(extent+1) := by
    rw [← Int.lt_add_one_iff,Int.ediv_lt_iff_lt_mul positive,mul_comm magnification]
  rw [checkedSize_eq he.le positive,← pixel,← within]
  constructor
  · rintro ⟨size,field,inside⟩
    obtain ⟨-,rfl⟩ := checked_eq_some.mp field
    exact ⟨positive,inside⟩
  · rintro ⟨-,inside⟩
    have bounds := i32_holds_iff.mp held
    exact ⟨_,checked_of_holds (i32_holds (by omega) (by omega)),inside⟩

variable (extent) in
/-- Where the field is within the sensor, half of what it leaves, moved, is so as well. -/
theorem checkedOffset_within_iff {left : Int} (hl : 0 ≤ left) (small : left<2147483648) :
    (∃ offset,checkedOffset extent (extent-left) turn=some offset ∧ 0 ≤ offset ∧ offset ≤ left) ↔
      i32.Holds (left/2*turn) ∧ -360000*(left/2+1)<left/2*turn ∧
        left/2*turn<360000*(left-left/2+1) := by
  have subtracted : extent-(extent-left)=left := by omega
  have half : left.tdiv 2=left/2 := Int.tdiv_eq_ediv_of_nonneg hl
  have held : i32.checked left=some left := checked_of_holds (i32_holds (by omega) small)
  have low : (-1 : ℚ)<(left/2 : Int)+(left/2*turn : Int)/360000 ↔
      -360000*(left/2+1)<left/2*turn := by
    have scaled : (-1 : ℚ)<(left/2 : Int)+(left/2*turn : Int)/360000 ↔
        -360000*((left/2 : Int)+1 : ℚ)<(left/2*turn : Int) := by
      constructor <;> intro h <;> linarith
    rw [scaled]
    exact_mod_cast Iff.rfl
  have high : ((left/2 : Int)+(left/2*turn : Int)/360000 : ℚ)<left+1 ↔
      left/2*turn<360000*(left-left/2+1) := by
    have scaled : ((left/2 : Int)+(left/2*turn : Int)/360000 : ℚ)<left+1 ↔
        ((left/2*turn : Int) : ℚ)<360000*(left-(left/2 : Int)+1) := by
      constructor <;> intro h <;> linarith
    rw [scaled]
    exact_mod_cast Iff.rfl
  rw [checkedOffset,subtracted,held,Option.bind_some,half,← low,← high,← truncate_nonneg_iff,
    ← truncate_le_iff hl]
  constructor
  · rintro ⟨offset,moved,inside⟩
    obtain ⟨product,multiplied,converted⟩ := Option.bind_eq_some_iff.mp moved
    obtain ⟨fits,rfl⟩ := checked_eq_some.mp multiplied
    obtain ⟨-,rfl⟩ := checked_eq_some.mp converted
    exact ⟨fits,inside⟩
  · rintro ⟨fits,inside⟩
    refine ⟨_,?_,inside⟩
    rw [checked_of_holds fits,Option.bind_some]
    exact checked_of_holds (i32_holds (by omega) (by omega))

/-- One direction of the crop. -/
theorem axis_fits_iff (he : 0<extent) (held : i32.Holds extent) (hm : 0 ≤ magnification) :
    (∃ size offset,checkedSize extent magnification=some size ∧
      checkedOffset extent size turn=some offset ∧ 0<size ∧ 0 ≤ offset ∧ offset+size ≤ extent) ↔
      AxisFits extent magnification turn := by
  have bounds := i32_holds_iff.mp held
  constructor
  · rintro ⟨size,offset,field,moved,some_pixel,inside,right⟩
    obtain ⟨positive,pixel,within⟩ := (checkedSize_within_iff he held hm).mp
      ⟨size,field,some_pixel,by omega⟩
    rw [checkedSize_eq he.le positive] at field
    obtain ⟨-,rfl⟩ := checked_eq_some.mp field
    have cut : extent-margin extent magnification=100*extent/magnification := by
      rw [margin]
      omega
    rw [← cut] at moved some_pixel right
    obtain ⟨fits,low,high⟩ := (checkedOffset_within_iff extent (by omega) (by omega)).mp
      ⟨offset,moved,inside,by omega⟩
    exact ⟨positive,pixel,within,fits,low,high⟩
  · rintro ⟨positive,pixel,within,fits,low,high⟩
    obtain ⟨size,field,some_pixel,inside⟩ := (checkedSize_within_iff he held hm).mpr
      ⟨positive,pixel,within⟩
    have cut := field
    rw [checkedSize_eq he.le positive] at cut
    obtain ⟨-,rfl⟩ := checked_eq_some.mp cut
    have left : margin extent magnification=extent-100*extent/magnification := rfl
    obtain ⟨offset,moved,nonneg,right⟩ := (checkedOffset_within_iff extent (by omega)
      (by omega)).mpr ⟨fits,low,high⟩
    rw [left,sub_sub_cancel] at moved
    exact ⟨_,offset,field,moved,some_pixel,nonneg,by omega⟩

end Axis

variable [ControlMetadata M]

/-- SetZoom computes the crop without a failure, writes it, and it lies on the sensor. -/
def OnSensor (env : ControlEnv M) (m : M) (array : ActiveArray) (magnification pan tilt : Int) :
    Prop :=
  ∃ x y w h,checkedCrop array magnification pan tilt=some [x,y,w,h] ∧
    ControlMetadata.find (SetZoom env m magnification pan tilt) .ANDROID_SCALER_CROP_REGION=
      some [x,y,w,h] ∧
    0 ≤ x ∧ 0 ≤ y ∧ 0<w ∧ 0<h ∧ x+w ≤ array.sensor_w-array.sensor_x ∧
      y+h ≤ array.sensor_h-array.sensor_y

variable [LawfulControlMetadata M]

/-- The crop lies on the sensor exactly for what fits in both directions. -/
theorem crop_on_sensor_iff (env : ControlEnv M) (m : M) {array : ActiveArray} {pan tilt : Int}
    (present : activeArray env.mStaticInfo=some array) (valid : array.Valid)
    (hm : u16.Holds magnification) :
    OnSensor env m array magnification pan tilt ↔
      AxisFits (array.sensor_w-array.sensor_x) magnification pan ∧
        AxisFits (array.sensor_h-array.sensor_y) magnification tilt := by
  have nonneg := (u16_holds.mp hm).1
  obtain ⟨left,top,width,height,held_w,held_h⟩ := valid
  have bounds_w := i32_holds_iff.mp held_w
  have bounds_h := i32_holds_iff.mp held_h
  have across : i32.Holds (array.sensor_w-array.sensor_x) := i32_holds (by omega) (by omega)
  have down : i32.Holds (array.sensor_h-array.sensor_y) := i32_holds (by omega) (by omega)
  rw [← axis_fits_iff (by omega) across nonneg,← axis_fits_iff (by omega) down nonneg]
  constructor
  · rintro ⟨x,y,w,h,computed,-,hx,hy,hw,hh,right,bottom⟩
    simp only [checkedCrop,checked_of_holds across,checked_of_holds down,
      Option.bind_some] at computed
    obtain ⟨zoom_w,wide,rest⟩ := Option.bind_eq_some_iff.mp computed
    obtain ⟨zoom_h,high,rest⟩ := Option.bind_eq_some_iff.mp rest
    obtain ⟨zoom_x,panned,rest⟩ := Option.bind_eq_some_iff.mp rest
    obtain ⟨zoom_y,tilted,same⟩ := Option.map_eq_some_iff.mp rest
    cases same
    exact ⟨⟨w,x,wide,panned,hw,hx,right⟩,⟨h,y,high,tilted,hh,hy,bottom⟩⟩
  · rintro ⟨⟨w,x,wide,panned,hw,hx,right⟩,⟨h,y,high,tilted,hh,hy,bottom⟩⟩
    have computed : checkedCrop array magnification pan tilt=some [x,y,w,h] := by
      simp [checkedCrop,checked_of_holds across,checked_of_holds down,wide,high,panned,tilted]
    refine ⟨x,y,w,h,computed,?_,hx,hy,hw,hh,right,bottom⟩
    rw [SetZoom,present,← checkedCrop_eq_some computed env]
    exact find_update m _ _

theorem crop_on_sensor_iff_turned :
    OnSensor smallEnv smallEnv.mStaticInfo ⟨0,0,4000,3000⟩ 200 3600 (-3600) :=
  (crop_on_sensor_iff smallEnv smallEnv.mStaticInfo rfl
    ⟨by decide,by decide,by decide,by decide,by decide,by decide⟩ (by decide)).mpr
    ⟨⟨by decide,by decide,by decide,by decide,by decide,by decide⟩,
      ⟨by decide,by decide,by decide,by decide,by decide,by decide⟩⟩

/-- A host may ask for a magnification of 0. -/
theorem zoom_divides_by_zero : ¬∀ (env : ControlEnv EntryMap) m array magnification pan tilt,
    activeArray env.mStaticInfo=some array → array.Valid → u16.Holds magnification →
    i32.Holds pan → i32.Holds tilt → OnSensor env m array magnification pan tilt := by
  intro all
  obtain ⟨x,y,w,h,computed,-⟩ := all smallEnv smallEnv.mStaticInfo ⟨0,0,4000,3000⟩ 0 0 0 rfl
    ⟨by decide,by decide,by decide,by decide,by decide,by decide⟩ (by decide) (by decide)
    (by decide)
  have across : i32.checked 4000=some 4000 := rfl
  have down : i32.checked 3000=some 3000 := rfl
  simp [checkedCrop,across,down,checkedSize_zero] at computed

end Zoom

end IotMedia.Daemon
