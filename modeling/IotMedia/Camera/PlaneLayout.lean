import IotMedia.Camera.Stream
import IotMedia.Framework.MachineInt

namespace IotMedia.Camera

open IotMedia.Framework

def ENOENT : Int := 2

inductive BufferFormat
  | kRGB
  | kNV12
  | kNV12UBWC
  | kNV21
  | kNV16
  | kYUY2
  | kBLOB
  | kRAW8
  | kRAW10
  | kRAW12
  | kRAW16
  | kUnsupported
  deriving DecidableEq

structure PlaneInfo where
  stride : Nat
  scanline : Nat
  width : Nat
  height : Nat
  offset : Nat
  size : Nat
  deriving DecidableEq

/-- Of plane_info the first num_planes. -/
structure CameraBufferMetaData where
  format : BufferFormat
  planeInfo : List PlaneInfo
  deriving DecidableEq

inductive AllocDeviceAction
  | GetMetaFd
  | GetStride
  | GetHeight
  | GetAlignedWidth
  | GetAlignedHeight

structure HidlAllocBuffer where
  format : PixelFormat
  width : Nat
  height : Nat
  stride : Nat

/-- HidlAllocDevice::Perform, with the int32_t that it stores; none where it fails. The aligned height
is 0 whatever the buffer. -/
def HidlAllocBuffer.perform (handle : Option HidlAllocBuffer) (action : AllocDeviceAction) :
    Option Int :=
  handle.bind fun b =>
    match action with
    | .GetHeight => some (IntType.i32.cast b.height)
    | .GetStride => some (IntType.i32.cast b.stride)
    | .GetAlignedHeight => some 0
    | .GetAlignedWidth => some (IntType.i32.cast b.stride)
    | .GetMetaFd => none

/-- The conversion of an int to uint32_t. -/
def asUint32 (v : Int) : Nat := (IntType.u32.cast v).toNat

/-- The product of two int values as a uint32_t. -/
def intProduct (v w : Int) : Nat := asUint32 (IntType.i32.cast (v*w))

namespace Camera3Stream

/-- The plane of a format with one plane. -/
def wholePlane (s : Camera3Stream) (alignedW alignedH : Int) : PlaneInfo where
  stride := asUint32 alignedW
  scanline := asUint32 alignedH
  width := s.cameraStream.width
  height := s.cameraStream.height
  offset := 0
  size := intProduct alignedW alignedH

/-- The second plane of NV12, with half the lines. -/
def chromaPlane (s : Camera3Stream) (alignedW alignedH : Int) : PlaneInfo where
  stride := asUint32 alignedW
  scanline := asUint32 (alignedH.tdiv 2)
  width := s.cameraStream.width
  height := s.cameraStream.height/2
  offset := intProduct alignedW alignedH
  size := intProduct alignedW (alignedH.tdiv 2)

def populateMetaInfo (s : Camera3Stream) (perform : AllocDeviceAction → Option Int)
    (format : PixelFormat) : Except Int CameraBufferMetaData :=
  match perform .GetStride,perform .GetAlignedHeight with
  | some alignedW,some alignedH =>
    match format with
    | .BLOB => .ok ⟨.kBLOB,[{ s.wholePlane alignedW alignedH with size := s.maxSize }]⟩
    | .YCBCR_420_888 | .IMPLEMENTATION_DEFINED =>
      .ok ⟨.kNV12,[s.wholePlane alignedW alignedH,s.chromaPlane alignedW alignedH]⟩
    | .RAW10 => .ok ⟨.kRAW10,[s.wholePlane alignedW alignedH]⟩
    | .RAW12 => .ok ⟨.kRAW12,[s.wholePlane alignedW alignedH]⟩
    | .RAW16 => .ok ⟨.kRAW16,[s.wholePlane alignedW alignedH]⟩
    | .YCBCR_422_I => .ok ⟨.kYUY2,[s.wholePlane alignedW alignedH]⟩
    | .other _ => .error (-ENOENT)
  | _,_ => .error (-EINVAL)

end Camera3Stream

/-- The plane has room for its lines. -/
def PlaneInfo.Fits (p : PlaneInfo) : Prop :=
  p.height ≤ p.scanline ∧ p.stride*p.height ≤ p.size

/-- Every plane begins where the one before it ends, and has room for its lines. -/
structure LaidOut (planes : List PlaneInfo) : Prop where
  consecutive : planes.IsChain fun p q => q.offset=p.offset+p.size
  fits : ∀ p∈planes,p.Fits

theorem LaidOut.disjoint {planes : List PlaneInfo} (h : LaidOut planes) :
    planes.Pairwise fun p q => p.offset+p.size ≤ q.offset := by
  have trans : IsTrans PlaneInfo fun p q => p.offset+p.size ≤ q.offset :=
    ⟨fun p q r first second => first.trans ((Nat.le_add_right _ _).trans second)⟩
  exact (h.consecutive.imp fun p q next => le_of_eq next.symm).pairwise

namespace Camera3Stream

variable {s : Camera3Stream} {perform : AllocDeviceAction → Option Int} {format : PixelFormat}
  {info : CameraBufferMetaData} {alignedW alignedH : Int}

/-- The planes of a buffer that is no blob. -/
theorem populateMetaInfo_planes (width : perform .GetStride=some alignedW)
    (height : perform .GetAlignedHeight=some alignedH) (picture : format≠.BLOB)
    (done : s.populateMetaInfo perform format=.ok info) :
    info.planeInfo=[s.wholePlane alignedW alignedH] ∨
      info.planeInfo=[s.wholePlane alignedW alignedH,s.chromaPlane alignedW alignedH] := by
  unfold populateMetaInfo at done
  rw [width,height] at done
  cases format with
  | BLOB => exact absurd rfl picture
  | YCBCR_420_888 | IMPLEMENTATION_DEFINED =>
    cases done
    exact Or.inr rfl
  | RAW10 | RAW12 | RAW16 | YCBCR_422_I =>
    cases done
    exact Or.inl rfl
  | other f => cases done

theorem asUint32_nat {n : Nat} (small : n<2^32) : asUint32 n=n := by
  have held : IntType.u32.cast n=n := Int.emod_eq_of_lt (Int.natCast_nonneg n) (by
    rw [IntType.u32_bits]
    exact_mod_cast small)
  rw [asUint32,held,Int.toNat_natCast]

theorem intProduct_nat {m n : Nat} (small : m*n<2^31) : intProduct m n=m*n := by
  have held : IntType.i32.cast (m*n)=(m*n : Nat) := by
    rw [← Int.natCast_mul]
    exact IntType.i32_holds (by omega) (by omega)
  rw [intProduct,held,asUint32_nat (by omega)]

/-- The second plane begins where the first one ends; what is left is the room for the lines. -/
theorem laidOut_of_fits (width : perform .GetStride=some alignedW)
    (height : perform .GetAlignedHeight=some alignedH) (picture : format≠.BLOB)
    (done : s.populateMetaInfo perform format=.ok info)
    (whole : (s.wholePlane alignedW alignedH).Fits)
    (chroma : (s.chromaPlane alignedW alignedH).Fits) : LaidOut info.planeInfo := by
  have next : (s.chromaPlane alignedW alignedH).offset=
      (s.wholePlane alignedW alignedH).offset+(s.wholePlane alignedW alignedH).size := by
    simp only [chromaPlane,wholePlane,Nat.zero_add]
  rcases populateMetaInfo_planes width height picture done with planes|planes
  · rw [planes]
    exact ⟨.singleton _,List.forall_mem_singleton.mpr whole⟩
  · rw [planes]
    refine ⟨.cons_cons next (.singleton _),?_⟩
    exact List.forall_mem_cons.mpr ⟨whole,List.forall_mem_singleton.mpr chroma⟩

/-- A plane without lines has room for them. -/
theorem fits_of_flat {p : PlaneInfo} (flat : p.height=0) : p.Fits := by
  rw [PlaneInfo.Fits,flat,Nat.mul_zero]
  exact ⟨Nat.zero_le _,Nat.zero_le _⟩

/-- With an aligned height that covers the picture the planes are laid out. -/
theorem populateMetaInfo_laidOut {w h : Nat} (width : perform .GetStride=some (w : Int))
    (height : perform .GetAlignedHeight=some (h : Int)) (picture : format≠.BLOB)
    (done : s.populateMetaInfo perform format=.ok info) (covers : s.cameraStream.height ≤ h)
    (fitsW : w<2^31) (fitsH : h<2^31) (fits : w*h<2^31) : LaidOut info.planeInfo := by
  have half : w*(h/2) ≤ w*h := Nat.mul_le_mul_left w (Nat.div_le_self h 2)
  have lines : s.cameraStream.height/2 ≤ h/2 := Nat.div_le_div_right covers
  apply laidOut_of_fits width height picture done
  · simp only [PlaneInfo.Fits,wholePlane]
    rw [asUint32_nat (by omega),asUint32_nat (by omega),intProduct_nat fits]
    exact ⟨covers,Nat.mul_le_mul_left w covers⟩
  · simp only [PlaneInfo.Fits,chromaPlane]
    rw [show (h : Int).tdiv 2=(h/2 : Nat) from rfl,asUint32_nat (by omega),
      asUint32_nat (by omega),intProduct_nat (by omega)]
    exact ⟨lines,Nat.mul_le_mul_left w lines⟩

/-- Perform reports no line of the buffer, so the planes have room for none. -/
theorem planes_laid_out_iff (s : Camera3Stream) (handle : HidlAllocBuffer)
    (picture : handle.format≠.BLOB)
    (done : s.populateMetaInfo (HidlAllocBuffer.perform (some handle)) handle.format=.ok info) :
    LaidOut info.planeInfo ↔ s.cameraStream.height=0 := by
  have stride : HidlAllocBuffer.perform (some handle) .GetStride=
      some (IntType.i32.cast handle.stride) := rfl
  constructor
  · intro laid
    have first : s.wholePlane (IntType.i32.cast handle.stride) 0∈info.planeInfo := by
      rcases populateMetaInfo_planes stride rfl picture done with planes|planes
      · rw [planes]
        exact List.mem_cons_self
      · rw [planes]
        exact List.mem_cons_self
    exact Nat.le_zero.mp (laid.fits _ first).1
  · intro flat
    apply laidOut_of_fits stride rfl picture done
    · exact fits_of_flat flat
    · apply fits_of_flat
      rw [chromaPlane,flat]

def vgaStream (height : Nat) : Camera3Stream :=
  construct .android 0 0 ⟨640,height,.YCBCR_422_I,⟨kHwCameraWrite⟩,2⟩ true

theorem planes_laid_out_flat : ∃ info,(vgaStream 0).populateMetaInfo
    (HidlAllocBuffer.perform (some ⟨.YCBCR_422_I,640,0,640⟩)) .YCBCR_422_I=.ok info ∧
      LaidOut info.planeInfo :=
  ⟨_,rfl,(planes_laid_out_iff (vgaStream 0) ⟨.YCBCR_422_I,640,0,640⟩ (by decide) rfl).mpr rfl⟩

theorem planes_without_lines : ¬∀ (s : Camera3Stream) (handle : HidlAllocBuffer) info,
    handle.format≠.BLOB → 0 < s.cameraStream.width → s.cameraStream.width ≤ handle.stride →
    s.populateMetaInfo (HidlAllocBuffer.perform (some handle)) handle.format=.ok info →
    LaidOut info.planeInfo := by
  intro all
  have laid := all (vgaStream 480) ⟨.YCBCR_422_I,640,480,640⟩ _ (by decide) (by decide) (by decide)
    rfl
  exact absurd (laid.fits _ List.mem_cons_self).1 (by decide)

end Camera3Stream
end IotMedia.Camera
