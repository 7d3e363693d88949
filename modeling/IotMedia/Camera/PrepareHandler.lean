import IotMedia.Camera.SubmitRequests

namespace IotMedia.Camera

/-- Where ThreadLoop is: at its first lines, in PrepareBuffer without the lock, or with the answer
of PrepareBuffer before it takes the lock again. -/
inductive PrepareStage
  | locked
  | preparing
  | prepared
  deriving DecidableEq

/-- The handler holds streams by pointers `P`; of the callback, whether it is set. -/
structure Camera3PrepareHandler (P : Type) where
  prepareCb : Bool
  prepareRunning : Bool
  abortPrepare : Bool
  streams : List P
  preparedStream : Option P
  stage : PrepareStage

/-- The result of a call or of a part of ThreadLoop, the streams whose EndPrepare it calls, and
those that prepare_cb_ is told of. -/
structure PrepareResult (P : Type) where
  ret : Int
  handler : Camera3PrepareHandler P
  ended : List P
  told : List P

namespace Camera3PrepareHandler

variable {P : Type}

def construct (prepareCb : Bool) : Camera3PrepareHandler P where
  prepareCb := prepareCb
  prepareRunning := false
  abortPrepare := false
  streams := []
  preparedStream := none
  stage := .locked

def tell (h : Camera3PrepareHandler P) (stream : P) : List P := if h.prepareCb then [stream] else []

/-- Prepare, given the answers of BeginPrepare and, should the thread not run, of Run. -/
def prepare (h : Camera3PrepareHandler P) (stream : P) (begun run : Int) : PrepareResult P :=
  if begun=0 then ⟨0,h,[],h.tell stream⟩
  else if begun≠ -ENODATA then ⟨begun,h,[],[]⟩
  else if h.prepareRunning then ⟨0,{ h with streams := h.streams++[stream] },[],[]⟩
  else if run≠0 then ⟨run,h,[],h.tell stream⟩
  else
    let running := { h with abortPrepare := false,prepareRunning := true }
    ⟨0,{ running with streams := h.streams++[stream] },[],[]⟩

def clear (h : Camera3PrepareHandler P) : PrepareResult P :=
  ⟨0,{ h with streams := [],abortPrepare := true },h.streams,[]⟩

/-- ThreadLoop up to PrepareBuffer. -/
def threadLoop (h : Camera3PrepareHandler P) : PrepareResult P :=
  match h.preparedStream with
  | none =>
    match h.streams with
    | [] => ⟨0,{ h with prepareRunning := false },[],[]⟩
    | stream::rest =>
      ⟨1,{ h with preparedStream := some stream,streams := rest,stage := .preparing },[],[]⟩
  | some stream =>
    if h.abortPrepare then ⟨1,{ h with preparedStream := none,abortPrepare := false },[stream],[]⟩
    else ⟨1,{ h with stage := .preparing },[],[]⟩

/-- PrepareBuffer has answered. -/
def prepareBuffer (h : Camera3PrepareHandler P) (res : Int) : PrepareResult P :=
  if res= -ENODATA then ⟨1,{ h with stage := .locked },[],[]⟩
  else ⟨1,{ h with stage := .prepared },if res≠0 then h.preparedStream.toList else [],[]⟩

/-- The last lines of ThreadLoop. -/
def finishStream (h : Camera3PrepareHandler P) : PrepareResult P :=
  ⟨1,{ h with preparedStream := none,stage := .locked },[],h.preparedStream.toList.flatMap h.tell⟩

/-- What the handler refers to. -/
def held (h : Camera3PrepareHandler P) : List P := h.streams++h.preparedStream.toList

theorem held_prepare (h : Camera3PrepareHandler P) (stream : P) (begun run : Int) :
    ∀ p∈(h.prepare stream begun run).handler.held,p=stream ∨ p∈h.held := by
  intro p hp
  unfold prepare at hp
  split_ifs at hp
  · exact Or.inr hp
  · exact Or.inr hp
  · simp only [held,List.mem_append,List.mem_singleton] at hp ⊢
    tauto
  · exact Or.inr hp
  · simp only [held,List.mem_append,List.mem_singleton] at hp ⊢
    tauto

theorem held_threadLoop (h : Camera3PrepareHandler P) : ∀ p∈h.threadLoop.handler.held,p∈h.held := by
  intro p hp
  unfold threadLoop at hp
  cases hs : h.preparedStream with
  | none =>
    cases hq : h.streams with
    | nil => simp [hs,hq,held] at hp
    | cons stream rest =>
      rw [hs,hq] at hp
      simp only [held,hq,hs,List.mem_append,List.mem_cons,Option.toList] at hp ⊢
      tauto
  | some stream =>
    rw [hs] at hp
    dsimp only at hp
    by_cases aborted : h.abortPrepare=true
    · rw [if_pos aborted] at hp
      exact List.mem_append_left _ (by simpa [held] using hp)
    · rw [if_neg aborted] at hp
      simpa [held,hs] using hp

theorem held_prepareBuffer (h : Camera3PrepareHandler P) (res : Int) :
    (h.prepareBuffer res).handler.held=h.held := by
  unfold prepareBuffer
  split_ifs <;> rfl

theorem held_finishStream (h : Camera3PrepareHandler P) :
    ∀ p∈h.finishStream.handler.held,p∈h.held := by
  intro p hp
  exact List.mem_append_left _ (by simpa [finishStream,held] using hp)

end Camera3PrepareHandler

namespace DeviceClient

variable {M : Type}

/-- With the pointer that streams_ holds. editValueAt with the index -ENOENT is the fault: the
missing key is told, and used. -/
def prepare {P : Type} (c : DeviceClient M) (h : Camera3PrepareHandler P) (pointer : P)
    (streamId run : Int) : Except Stop Int × DeviceClient M × Camera3PrepareHandler P :=
  match c.streams.valueFor streamId with
  | none => (.error .fault,c,h)
  | some stream =>
    if stream.isStreamActive then (.ok (-EINVAL),c,h)
    else if c.handler.isStreamActive stream.id then (.ok (-EINVAL),c,h)
    else
      let begun := stream.beginPrepare
      let prepared := h.prepare pointer begun.ret run
      (.ok prepared.ret,{ c with streams := c.streams.replaceValueFor streamId begun.stream },
        prepared.handler)

end DeviceClient
end IotMedia.Camera
