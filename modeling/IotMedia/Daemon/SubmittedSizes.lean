import IotMedia.Camera.PlaneLayout
import Mathlib.Data.Nat.Digits.Lemmas

namespace IotMedia.Daemon

open IotMedia.Framework IotMedia.Camera

/-- The bytes by their distance from the start of a mapped buffer; those before it and behind it are
none of its own. -/
abbrev Mapping := Int → UInt8

/-- A little-endian number of so many bytes. -/
def Mapping.load (m : Mapping) (bytes : Nat) (start : Int) : Nat :=
  Nat.ofDigits 256 ((List.range bytes).map fun i => (m (start+i)).toNat)

/-- camera3_jpeg_blob, which the camera HAL's headers define outside the tree: its size, where its two
fields begin, and the id. -/
structure JpegBlob where
  sizeof : Nat
  jpegBlobId : Nat
  jpegSize : Nat
  CAMERA3_JPEG_BLOB_ID : Nat
  idInside : jpegBlobId+2 ≤ sizeof
  sizeInside : jpegSize+4 ≤ sizeof

/-- What StreamCb calls; the sizes are those that the gadget's parameters get. -/
inductive StreamCbEffect
  | MapBuffer (width height : Nat)
  | submitBuffer (size maxsize : Int)
  | push (bufidx : BitVec 32)
  | UnmapBuffer
  | ReturnStreamBuffer
  deriving DecidableEq

/-- plane_info[0]; it is all zero where PopulateMetaInfo has failed. -/
def plane0 (info : CameraBufferMetaData) : PlaneInfo := info.planeInfo.headD ⟨0,0,0,0,0,0⟩

namespace JpegBlob

/-- Where GetBlobSize takes the footer to begin; `offset` is JPEG_BLOB_OFFSET. -/
def footer (b : JpegBlob) (offset size : Nat) : Option Int :=
  if b.sizeof<size then some (size-b.sizeof-offset) else none

def getBlobSize (b : JpegBlob) (offset : Nat) (buffer : Mapping) (size : Nat) : Nat :=
  match b.footer offset size with
  | some footer =>
    if buffer.load 2 (footer+b.jpegBlobId)=b.CAMERA3_JPEG_BLOB_ID then
      buffer.load 4 (footer+b.jpegSize)
    else size
  | none => size

/-- size and maxsize, both int, by the format; none where it is not supported. -/
def sizes (b : JpegBlob) (offset : Nat) (buffer : Mapping) (info : CameraBufferMetaData) :
    Option (Int × Int) :=
  match info.format with
  | .kBLOB => some (IntType.i32.cast (b.getBlobSize offset buffer (plane0 info).size),
      IntType.i32.cast (plane0 info).size)
  | .kYUY2 =>
    some (IntType.i32.cast (IntType.u32.cast ((plane0 info).stride*(plane0 info).height*2)),0)
  | _ => none

/-- StreamCb; `param` is the type of the gadget's parameters for the sizes. Its uint32_t bufidx is
never negative. -/
def streamCb (b : JpegBlob) (offset : Nat) (param : IntType) (mActive : Bool)
    (mapped : Option Mapping) (info : CameraBufferMetaData) (bufidx : BitVec 32) :
    List StreamCbEffect :=
  if mActive then
    .MapBuffer (plane0 info).width (plane0 info).height::
      match mapped with
      | none => [.ReturnStreamBuffer]
      | some buffer =>
        match b.sizes offset buffer info with
        | none => [.UnmapBuffer,.ReturnStreamBuffer]
        | some (size,maxsize) =>
          [.submitBuffer (param.cast size) (param.cast maxsize),.push bufidx]
  else [.UnmapBuffer,.ReturnStreamBuffer]

variable {b : JpegBlob} {offset : Nat} {param : IntType} {buffer : Mapping}

theorem load_lt (m : Mapping) (bytes : Nat) (start : Int) : m.load bytes start<256^bytes := by
  have digits := Nat.ofDigits_lt_base_pow_length (b := 256)
    (l := (List.range bytes).map fun i => (m (start+i)).toNat) (by decide) (by
      intro x hx
      obtain ⟨i,-,rfl⟩ := List.mem_map.mp hx
      exact (m (start+i)).toNat_lt)
  simpa [Mapping.load] using digits

section Param

/-! An int as the argument of a parameter that is at least as wide. -/

variable {v : Int}

theorem param_signed (wide : 32 ≤ param.bits) (signed : param.signed=true) (low : -2^31 ≤ v)
    (high : v<2^31) : param.cast v=v := by
  have range : 2^32 ≤ 2^param.bits := Nat.pow_le_pow_right (by decide) wide
  rw [IntType.cast,if_pos signed]
  apply Int.bmod_eq_of_le
  · omega
  · omega

theorem param_unsigned (unsigned : param.signed=false) :
    param.cast v=v%(2^param.bits : Nat) := by
  rw [IntType.cast,unsigned,if_neg Bool.false_ne_true]

theorem param_nonneg (wide : 32 ≤ param.bits) (low : 0 ≤ v) (high : v<2^31) : param.cast v=v := by
  cases signed : param.signed with
  | true => exact param_signed wide signed (by omega) high
  | false =>
    have range : 2^32 ≤ 2^param.bits := Nat.pow_le_pow_right (by decide) wide
    rw [param_unsigned signed]
    exact Int.emod_eq_of_lt low (by omega)

/-- A uint32_t that becomes an int and then the argument is within a size if it was, or if it has
become negative and stays so. -/
theorem passed_le_iff (wide : 32 ≤ param.bits) {n size : Nat} (held : n<2^32) (small : size<2^31) :
    param.cast (IntType.i32.cast n) ≤ size ↔ n ≤ size ∨ param.signed=true ∧ 2^31 ≤ n := by
  by_cases positive : n<2^31
  · rw [IntType.i32_holds (by omega) (by omega),param_nonneg wide (by omega) (by omega)]
    omega
  have negative : IntType.i32.cast n=n-2^32 := by
    simp only [IntType.cast,IntType.i32_signed,IntType.i32_bits,if_true,Int.bmod_def]
    omega
  rw [negative]
  cases signed : param.signed with
  | true =>
    rw [param_signed wide signed (by omega) (by omega)]
    exact iff_of_true (by omega) (Or.inr ⟨rfl,by omega⟩)
  | false =>
    have range : 2^32 ≤ 2^param.bits := Nat.pow_le_pow_right (by decide) wide
    have wrapped : ((n : Int)-2^32)%(2^param.bits : Nat)=n-2^32+(2^param.bits : Nat) := by
      rw [← Int.add_emod_right]
      exact Int.emod_eq_of_lt (by omega) (by omega)
    rw [param_unsigned signed,wrapped]
    refine iff_of_false (by omega) ?_
    rintro (within|⟨signed',-⟩)
    · omega
    · cases signed'

end Param

/-- The sizes that go to the gadget are within maxsize and within the plane. -/
def SizesWithin (effects : List StreamCbEffect) (info : CameraBufferMetaData) : Prop :=
  ∀ size maxsize : Int,.submitBuffer size maxsize∈effects → size ≤ maxsize ∧ size ≤ (plane0 info).size

/-- GetBlobSize looks for the footer inside the buffer. -/
def FooterInside (b : JpegBlob) (offset size : Nat) : Prop :=
  ∀ footer∈b.footer offset size,0 ≤ footer ∧ footer+b.sizeof ≤ size

/-- Whatever the index that the gadget answers, and whether or not the camera is active. -/
structure Safe (b : JpegBlob) (offset : Nat) (param : IntType) (buffer : Mapping)
    (info : CameraBufferMetaData) : Prop where
  sizes : ∀ mActive bufidx,
    SizesWithin (b.streamCb offset param mActive (some buffer) info bufidx) info
  footer : info.format=.kBLOB → FooterInside b offset (plane0 info).size

/-- The number that passes as a size through an int and the gadget's parameter. -/
def Passes (param : IntType) (n size : Nat) : Prop :=
  n ≤ size ∨ param.signed=true ∧ 2^31 ≤ n

/-- A blob is no larger than the footer, or the footer is inside and has another id or a size that
passes. -/
def FooterSound (b : JpegBlob) (offset : Nat) (param : IntType) (buffer : Mapping) (size : Nat) :
    Prop :=
  let footer : Int := size-b.sizeof-offset
  size ≤ b.sizeof ∨ offset+b.sizeof ≤ size ∧
    (buffer.load 2 (footer+b.jpegBlobId)=b.CAMERA3_JPEG_BLOB_ID →
      Passes param (buffer.load 4 (footer+b.jpegSize)) size)

theorem footerInside_iff (b : JpegBlob) (offset size : Nat) :
    FooterInside b offset size ↔ size ≤ b.sizeof ∨ offset+b.sizeof ≤ size := by
  unfold FooterInside footer
  by_cases large : b.sizeof<size
  · rw [if_pos large]
    simp only [Option.mem_def,Option.some.injEq,forall_eq']
    omega
  · rw [if_neg large]
    exact iff_of_true (by simp) (Or.inl (not_lt.mp large))

/-- StreamCb with a format that it supports. -/
theorem sizesWithin_iff {info : CameraBufferMetaData} {size maxsize : Int}
    (sized : b.sizes offset buffer info=some (size,maxsize)) :
    (∀ mActive bufidx,
        SizesWithin (b.streamCb offset param mActive (some buffer) info bufidx) info) ↔
      param.cast size ≤ param.cast maxsize ∧ param.cast size ≤ (plane0 info).size := by
  constructor
  · intro within
    refine within true 0 _ _ ?_
    simp [streamCb,sized]
  · intro within mActive bufidx n m submitted
    cases mActive with
    | false => simp [streamCb] at submitted
    | true =>
      simp only [streamCb,sized,if_true,List.mem_cons,reduceCtorEq,List.not_mem_nil,or_false,
        false_or,StreamCbEffect.submitBuffer.injEq] at submitted
      rw [submitted.1,submitted.2]
      exact within

theorem getBlobSize_lt (b : JpegBlob) (offset : Nat) (buffer : Mapping) {size : Nat}
    (small : size<2^31) : b.getBlobSize offset buffer size<2^32 := by
  have field (start : Int) : buffer.load 4 start<2^32 := load_lt buffer 4 start
  unfold getBlobSize
  split
  · split_ifs
    · exact field _
    · omega
  · omega

/-- The answer of GetBlobSize passes as a size, and the footer is inside. -/
theorem footerSound_iff (b : JpegBlob) (offset : Nat) (buffer : Mapping) (size : Nat) :
    b.FooterSound offset param buffer size ↔
      Passes param (b.getBlobSize offset buffer size) size ∧ b.FooterInside offset size := by
  have whole : Passes param size size := Or.inl le_rfl
  rw [footerInside_iff]
  unfold FooterSound getBlobSize footer
  by_cases large : b.sizeof<size
  · rw [or_iff_right (not_le.mpr large),or_iff_right (not_le.mpr large),if_pos large,and_comm]
    refine and_congr_left fun _ => ?_
    dsimp only
    split_ifs with id
    · exact ⟨fun passes => passes id,fun passes _ => passes⟩
    · exact iff_of_true (fun same => absurd same id) whole
  · rw [if_neg large]
    exact iff_of_true (Or.inl (not_lt.mp large)) ⟨whole,Or.inl (not_lt.mp large)⟩

theorem blob_safe_iff (wide : 32 ≤ param.bits) {info : CameraBufferMetaData}
    (format : info.format=.kBLOB) (small : (plane0 info).size<2^31) :
    Safe b offset param buffer info ↔ b.FooterSound offset param buffer (plane0 info).size := by
  have sized : b.sizes offset buffer info=
      some (IntType.i32.cast (b.getBlobSize offset buffer (plane0 info).size),
        IntType.i32.cast (plane0 info).size) := by
    rw [sizes,format]
  have maxsize : param.cast (IntType.i32.cast (plane0 info).size)=(plane0 info).size := by
    rw [IntType.i32_holds (by omega) (by omega)]
    exact param_nonneg wide (by omega) (by omega)
  have within : (∀ mActive bufidx,
      SizesWithin (b.streamCb offset param mActive (some buffer) info bufidx) info) ↔
        Passes param (b.getBlobSize offset buffer (plane0 info).size) (plane0 info).size := by
    rw [sizesWithin_iff sized,maxsize,and_self,
      passed_le_iff wide (getBlobSize_lt b offset buffer small) small]
    exact Iff.rfl
  rw [footerSound_iff,← within]
  exact ⟨fun safe => ⟨safe.sizes,safe.footer format⟩,fun h => ⟨h.1,fun _ => h.2⟩⟩

theorem yuyv_safe_iff (wide : 32 ≤ param.bits) {info : CameraBufferMetaData}
    (format : info.format=.kYUY2) (empty : (plane0 info).size=0) :
    Safe b offset param buffer info ↔
      Passes param ((plane0 info).stride*(plane0 info).height*2%2^32) 0 := by
  have wrapped : IntType.u32.cast ((plane0 info).stride*(plane0 info).height*2)=
      ((plane0 info).stride*(plane0 info).height*2%2^32 : Nat) := by
    simp only [IntType.cast,IntType.u32_signed,IntType.u32_bits]
    norm_cast
  have sized : b.sizes offset buffer info=
      some (IntType.i32.cast ((plane0 info).stride*(plane0 info).height*2%2^32 : Nat),0) := by
    rw [sizes,format,← wrapped]
  have zero : param.cast 0=0 := param_nonneg wide le_rfl (by decide)
  have within := @sizesWithin_iff b offset param buffer info _ _ sized
  rw [zero,empty,Nat.cast_zero,and_self,← Nat.cast_zero,
    passed_le_iff wide (Nat.mod_lt _ (by decide)) (by decide)] at within
  exact ⟨fun safe => within.mp safe.sizes,
    fun passes => ⟨within.mpr passes,fun blob => by simp [format] at blob⟩⟩

/-- Perform hands the stride on, and PopulateMetaInfo too. -/
theorem asUint32_i32 (stride : Nat) : asUint32 (IntType.i32.cast stride)=stride%2^32 := by
  rw [asUint32,IntType.cast_of_wider (by decide)]
  simp only [IntType.cast,IntType.u32_signed,IntType.u32_bits]
  norm_cast

section Buffer

variable {s : Camera3Stream} {handle : HidlAllocBuffer} {info : CameraBufferMetaData}

theorem described_blob
    (done : s.populateMetaInfo (HidlAllocBuffer.perform (some handle)) .BLOB=.ok info) :
    info.format=.kBLOB ∧ (plane0 info).size=s.maxSize := by
  cases done
  exact ⟨rfl,rfl⟩

theorem described_yuyv
    (done : s.populateMetaInfo (HidlAllocBuffer.perform (some handle)) .YCBCR_422_I=.ok info) :
    info.format=.kYUY2 ∧ (plane0 info).size=0 ∧
      (plane0 info).stride*(plane0 info).height*2%2^32=
        handle.stride*s.cameraStream.height*2%2^32 := by
  cases done
  refine ⟨rfl,?_,?_⟩
  · simp only [plane0,List.headD_cons,Camera3Stream.wholePlane,intProduct,Int.mul_zero]
    rfl
  · simp only [plane0,List.headD_cons,Camera3Stream.wholePlane]
    rw [asUint32_i32,Nat.mul_assoc,Nat.mul_assoc,Nat.mod_mul_mod]

/-- What StreamCb submits of a buffer that PopulateMetaInfo has described, by its two formats. -/
theorem submitted_sizes_iff (b : JpegBlob) (offset : Nat) (wide : 32 ≤ param.bits)
    (buffer : Mapping) (small : s.maxSize<2^31)
    (format : handle.format=.BLOB ∨ handle.format=.YCBCR_422_I)
    (done : s.populateMetaInfo (HidlAllocBuffer.perform (some handle)) handle.format=.ok info) :
    Safe b offset param buffer info ↔
      (handle.format=.BLOB → b.FooterSound offset param buffer s.maxSize) ∧
      (handle.format=.YCBCR_422_I →
        Passes param (handle.stride*s.cameraStream.height*2%2^32) 0) := by
  rcases format with format|format
  · rw [format] at done ⊢
    obtain ⟨blob,size⟩ := described_blob done
    rw [blob_safe_iff wide blob (by rw [size]; exact small),size]
    exact ⟨fun sound => ⟨fun _ => sound,(by cases ·)⟩,fun sound => sound.1 rfl⟩
  · rw [format] at done ⊢
    obtain ⟨yuyv,size,product⟩ := described_yuyv done
    rw [yuyv_safe_iff wide yuyv size,product]
    exact ⟨fun passes => ⟨(by cases ·),fun _ => passes⟩,fun passes => passes.2 rfl⟩

end Buffer

/-- An eight-byte footer with the id first. -/
def eightBytes : JpegBlob := ⟨8,0,4,0xFF,by decide,by decide⟩

def photoStream : Camera3Stream :=
  .construct .android 0 307200 ⟨640,480,.BLOB,⟨kHwCameraWrite⟩,2⟩ true

def photoBuffer : HidlAllocBuffer := ⟨.BLOB,307200,1,307200⟩

/-- A blob of 307200 bytes whose footer has the id and a size of so many times 65536. -/
def footerOf (high : UInt8) : Mapping := fun a =>
  if a=307192 then 0xFF else if a=307198 then high else 0

theorem submitted_sizes_photo : ∃ info,photoStream.populateMetaInfo
    (HidlAllocBuffer.perform (some photoBuffer)) .BLOB=.ok info ∧
      Safe eightBytes 0 IntType.u32 (footerOf 4) info := by
  refine ⟨_,rfl,(submitted_sizes_iff eightBytes 0 (le_refl 32) (footerOf 4) (s := photoStream)
    (by decide) (Or.inl rfl) (rfl : photoStream.populateMetaInfo
      (HidlAllocBuffer.perform (some photoBuffer)) photoBuffer.format=_)).mpr ?_⟩
  refine ⟨fun _ => Or.inr ⟨by decide,fun _ => Or.inl (by decide)⟩,fun other => ?_⟩
  cases other

theorem hostile_footer_submitted : ¬∀ (b : JpegBlob) (offset : Nat) (param : IntType)
    (buffer : Mapping) (s : Camera3Stream) (handle : HidlAllocBuffer) info,
    32 ≤ param.bits → s.maxSize<2^31 → handle.format=.BLOB ∨ handle.format=.YCBCR_422_I →
    s.populateMetaInfo (HidlAllocBuffer.perform (some handle)) handle.format=.ok info →
    Safe b offset param buffer info := by
  intro all
  have safe := all eightBytes 0 IntType.u32 (footerOf 5) photoStream photoBuffer _ le_rfl
    (by decide) (Or.inl rfl) rfl
  obtain ⟨within,-⟩ := safe.sizes true 0 327680 307200 (by decide)
  exact absurd within (by decide)

end JpegBlob
end IotMedia.Daemon
