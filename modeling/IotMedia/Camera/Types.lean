import Mathlib.Data.BitVec

namespace IotMedia.Camera

/-! errno values; the functions of the adaptor return them negated. -/

def ENOMEM : Int := 12
def ENODEV : Int := 19
def EINVAL : Int := 22
def ENOSYS : Int := 38
def ENODATA : Int := 61
def ENOTCONN : Int := 107

/-- A non-null IBufferHandle; the null pointer is `none` of `Option Handle`. -/
abbrev Handle := Nat

inductive BufferStatus
  | OK
  | ERROR
  deriving DecidableEq

/-- The HIDL stream buffer: the fences, always empty handles here, are left out. -/
structure StreamBuffer where
  streamId : Int
  bufferId : Nat
  status : BufferStatus
  buffer : Option Handle
  deriving DecidableEq

inductive PixelFormat
  | BLOB
  | YCBCR_420_888
  | IMPLEMENTATION_DEFINED
  | RAW10
  | RAW12
  | RAW16
  | YCBCR_422_I
  | other (format : Int)
  deriving DecidableEq

structure CaptureResultExtras where
  requestId : Int
  burstId : Int
  frameNumber : Nat
  partialResultCount : Int
  input : Bool
  deriving DecidableEq

inductive CameraErrorCode
  | ERROR_CAMERA_INVALID_ERROR
  | ERROR_CAMERA_DEVICE
  | ERROR_CAMERA_REQUEST
  | ERROR_CAMERA_RESULT
  | ERROR_CAMERA_BUFFER
  deriving DecidableEq

/-- Common allocator flags; the native counterpart is a `BitVec 64`. -/
structure MemAllocFlags where
  flags : BitVec 32
  deriving DecidableEq

def kPrivateAllocUbwc : BitVec 32 := 1#32 <<< 1
def kSwReadOften : BitVec 32 := 1#32 <<< 6
def kVideoEncoder : BitVec 32 := 1#32 <<< 8
def kHwTexture : BitVec 32 := 1#32 <<< 10
def kHwComposer : BitVec 32 := 1#32 <<< 12
def kHwCameraRead : BitVec 32 := 1#32 <<< 13
def kHwCameraWrite : BitVec 32 := 1#32 <<< 14

/-- The native BufferUsage values, which the graphics HAL defines outside the tree. -/
structure BufferUsage where
  CPU_READ_OFTEN : BitVec 64
  VIDEO_ENCODER : BitVec 64
  GPU_TEXTURE : BitVec 64
  COMPOSER_CURSOR : BitVec 64
  CAMERA_INPUT : BitVec 64
  CAMERA_OUTPUT : BitVec 64

namespace BufferUsage

def usageFlagMap (u : BufferUsage) : List (BitVec 32 × BitVec 64) :=
  [(kSwReadOften,u.CPU_READ_OFTEN),(kVideoEncoder,u.VIDEO_ENCODER),
    (kHwTexture,u.GPU_TEXTURE),(kHwComposer,u.COMPOSER_CURSOR),
    (kHwCameraRead,u.CAMERA_INPUT),(kHwCameraWrite,u.CAMERA_OUTPUT)]

def toLocal (u : BufferUsage) (common : MemAllocFlags) : BitVec 64 :=
  u.usageFlagMap.foldl (fun acc it => if it.1 &&& common.flags≠0 then acc ||| it.2 else acc) 0

def toCommon (u : BufferUsage) (native : BitVec 64) : MemAllocFlags :=
  ⟨u.usageFlagMap.foldl (fun acc it => if it.2 &&& native≠0 then acc ||| it.1 else acc) 0⟩

/-- The values of the graphics common HAL. -/
def android : BufferUsage where
  CPU_READ_OFTEN := 3#64
  VIDEO_ENCODER := 1#64 <<< 16
  GPU_TEXTURE := 1#64 <<< 8
  COMPOSER_CURSOR := 1#64 <<< 15
  CAMERA_INPUT := 1#64 <<< 18
  CAMERA_OUTPUT := 1#64 <<< 17

end BufferUsage
end IotMedia.Camera
