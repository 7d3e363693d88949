import IotMedia.Camera.ClientCalls
import IotMedia.Camera.ConfiguredStream
import Mathlib.Data.List.MinMax

namespace IotMedia.Camera

open IotMedia.Framework

namespace DeviceClient

variable {M : Type} {u : BufferUsage} {env : ClientEnv M} {c : DeviceClient M}

section Query

end Query

section Size

variable {p : CameraStreamParameters}

end Size

end DeviceClient

namespace ClientWorld

variable {M : Type} {u : BufferUsage} {p : CameraStreamParameters} {w : ClientWorld M}

def answers (c : DeviceClient M) : ClientEnv M :=
  let waited : Waited M := ⟨0,.CONFIGURED,KeyedVector.empty,[],[],c.handler.currentRequest⟩
  ⟨waited,waited,0,fun _ => 0,true⟩

end ClientWorld
end IotMedia.Camera
