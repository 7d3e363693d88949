import IotMedia.Camera.SubmitRollback

namespace IotMedia.Camera

open IotMedia.Framework PendingRequests RequestHandler

/-- Where the handler's thread is in SubmitRequest, with the streams that the loop at hand has yet
to come to; `returning` is HandleErrorRequest, and with no stream left also the end of a
submission that succeeded. -/
inductive SubmitStage (M : Type)
  | idle
  | got (next : CaptureRequest M)
  | acquiring (next : CaptureRequest M) (request : HalRequest M) (todo : List Int)
  | marked (next : CaptureRequest M) (request : HalRequest M)
  | returning (frameNumber : Nat) (todo : List Int)

/-- The calls on the handler, and the steps of its thread. -/
inductive GuardStep (M : Type)
  | queueRequestList (requests : List (CaptureRequest M))
  | setRepeatingRequests (requests : List (CaptureRequest M))
  | clearRepeatingRequests
  | clear
  | togglePause (pause : Bool)
  | finishConfiguration (batchSize : Nat)
  | getRequest
  | getRequestWoken (exitPending : Bool)
  | chooseSettings
  | getBuffer (waitRes : Int) (alloc : Option Handle)
  | markRequest (markRes : Int)
  | processCaptureRequest (accepted : Bool)
  | returnBuffer
  | finishRequest

/-- `touched` are the streams on which the thread called GetBuffer or ReturnBuffer, or whose
buffers_map it read. -/
structure GuardWorld (M : Type) where
  submission : Submission M
  stage : SubmitStage M := .idle
  touched : List Int := []

namespace SubmitStage

variable {M : Type}

/-- The streams that the thread may still come to. -/
def streams : SubmitStage M → List Int
  | .idle => []
  | .got next => next.streams
  | .acquiring next _ todo => todo++next.streams
  | .marked next _ => next.streams
  | .returning _ todo => todo

end SubmitStage

namespace GuardWorld

variable {M : Type} [CameraMetadata M]

def handler (w : GuardWorld M) : RequestHandler M := w.submission.handler

def onHandler (w : GuardWorld M) (handler : RequestHandler M) : GuardWorld M :=
  { w with submission := { w.submission with handler := handler } }

/-- The thread calls a stream. -/
def onStream (w : GuardWorld M) (id : Int) (stream : Camera3Stream) : GuardWorld M :=
  { w with
    submission := { w.submission with streams := Function.update w.submission.streams id stream }
    touched := w.touched++[id] }

/-- HandleErrorRequest begins: as many buffers are returned as the HAL request holds. -/
def fails (next : CaptureRequest M) (request : HalRequest M) : SubmitStage M :=
  .returning request.frameNumber (next.streams.take request.outputBuffers.length)

def perform (u : BufferUsage) (w : GuardWorld M) : GuardStep M → Option (GuardWorld M)
  | .queueRequestList requests => some (w.onHandler (w.handler.queueRequestList requests).1)
  | .setRepeatingRequests requests => some (w.onHandler (w.handler.setRepeatingRequests requests).1)
  | .clearRepeatingRequests => some (w.onHandler w.handler.clearRepeatingRequests.1)
  | .clear => some (w.onHandler w.handler.clear.1)
  | .togglePause pause => some (w.onHandler (w.handler.togglePause pause).1)
  | .finishConfiguration batchSize => some (w.onHandler (w.handler.finishConfiguration batchSize))
  | .getRequest =>
    match w.stage with
    | .idle => w.handler.getRequest.map fun got =>
      { w.onHandler got.1 with stage := .got got.2.1 }
    | _ => none
  | .getRequestWoken exitPending =>
    match w.stage with
    | .idle =>
      let woken := w.handler.getRequestWoken exitPending
      some { w.onHandler woken.1 with
        stage := match woken.2.1 with
          | some next => .got next
          | none => .idle }
    | _ => none
  | .chooseSettings =>
    match w.stage with
    | .got next =>
      let chosen := w.handler.chooseSettings next
      some { w.onHandler chosen.1 with
        stage := .acquiring chosen.2.1 ⟨next.resultExtras.frameNumber,chosen.2.2,[]⟩
          chosen.2.1.streams }
    | _ => none
  | .getBuffer waitRes alloc =>
    match w.stage with
    | .acquiring next request (id::todo) =>
      let got := (w.submission.streams id).getBuffer u request.frameNumber waitRes alloc
      some { w.onStream id got.stream with
        stage := if got.ret.1≠0 then fails next { request with outputBuffers := [] }
          else .acquiring next { request with
            outputBuffers := request.outputBuffers++got.ret.2.toList } todo }
    | _ => none
  | .markRequest markRes =>
    match w.stage with
    | .acquiring next request [] =>
      if w.handler.markCb=false ∨ markRes<0 then some { w with stage := fails next request }
      else some { w with
        submission := { w.submission with
          client := w.submission.client.markPendingRequest request.frameNumber
            request.outputBuffers.length next.resultExtras }
        stage := .marked next request }
    | _ => none
  | .processCaptureRequest accepted =>
    match w.stage with
    | .marked next request => some { w with
      stage := if accepted then .returning request.frameNumber [] else fails next request }
    | _ => none
  | .returnBuffer =>
    match w.stage with
    | .returning frameNumber (id::todo) =>
      let returned := Submission.returnMapped frameNumber (w.submission.streams id)
      some { w.onStream id returned.stream with stage := .returning frameNumber todo }
    | _ => none
  | .finishRequest =>
    match w.stage with
    | .returning _ [] => some { w.onHandler w.handler.finishRequest with stage := .idle }
    | _ => none

def Step (u : BufferUsage) (w : GuardWorld M) (step : GuardStep M) (w' : GuardWorld M) : Prop :=
  w.perform u step=some w'

/-- An initialized handler whose thread has no request. -/
structure Start (w : GuardWorld M) : Prop where
  handler : ∃ monitorId errorCb markCb,w.handler=RequestHandler.construct monitorId errorCb markCb
  stage : w.stage=.idle

/-- No request naming the stream is queued or installed. -/
def Spares (id : Int) (_ : GuardWorld M) : GuardStep M → Prop
  | .queueRequestList requests => ∀ r∈requests,id∉r.streams
  | .setRepeatingRequests requests => ∀ r∈requests,id∉r.streams
  | _ => True

/-- What the thread works on is in current_request_. -/
def Covered (w : GuardWorld M) : Prop := ∀ id∈w.stage.streams,id∈w.handler.currentRequest.streams

/-- No request of the handler names the stream. -/
def Unnamed (id : Int) (s : RequestHandler M) : Prop :=
  id∉s.currentRequest.streams ∧ (∀ r∈s.requests,id∉r.streams) ∧
    ∀ r∈s.streamingRequests,id∉r.streams

variable {u : BufferUsage} {w w' : GuardWorld M} {id : Int}

section Guard

omit [CameraMetadata M] in
theorem isStreamActive_false (s : RequestHandler M) (id : Int) :
    s.isStreamActive id=false ↔ Unnamed id s := by
  simp [isStreamActive,Unnamed,and_assoc]

omit [CameraMetadata M] in
/-- The next request is one of the queue or of the repeating list, as is what is left queued. -/
theorem nextRequest_mem {s t : RequestHandler M} {r : CaptureRequest M}
    (h : s.nextRequest=some (t,r)) :
    (∃ q∈s.requests++s.streamingRequests,r.streams=q.streams) ∧
    (∀ q∈t.requests,q∈s.requests++s.streamingRequests) ∧
    t.streamingRequests=s.streamingRequests := by
  unfold nextRequest at h
  cases hr : s.requests with
  | nil =>
    cases hs : s.streamingRequests with
    | nil => simp [hr,hs] at h
    | cons a rest =>
      simp only [hr,hs,Option.some.injEq,Prod.mk.injEq] at h
      obtain ⟨rfl,rfl⟩ := h
      exact ⟨⟨a,by simp,rfl⟩,fun q hq => by simp [hq],by simp⟩
  | cons a rest =>
    simp only [hr] at h
    split at h
    next q found =>
      simp only [Option.some.injEq,Prod.mk.injEq] at h
      obtain ⟨rfl,rfl⟩ := h
      refine ⟨⟨q,List.mem_append_left _ (List.mem_of_find?_eq_some found),rfl⟩,?_,rfl⟩
      intro p hp
      exact List.mem_append_left _ (List.mem_of_mem_eraseP hp)
    next =>
      simp only [Option.some.injEq,Prod.mk.injEq] at h
      obtain ⟨rfl,rfl⟩ := h
      exact ⟨⟨a,by simp,rfl⟩,fun q hq => by simp [hq],rfl⟩

/-- What a step does, one case for each of its ends. -/
inductive Moved (u : BufferUsage) (w : GuardWorld M) : GuardStep M → GuardWorld M → Prop
  | queueRequestList {requests : List (CaptureRequest M)} {paused : Bool} :
    Moved u w (.queueRequestList requests) (w.onHandler { w.handler with
      requests := w.handler.requests++requests
      pausedState := paused })
  | setRepeatingRequests {requests : List (CaptureRequest M)} {paused : Bool} :
    Moved u w (.setRepeatingRequests requests) (w.onHandler { w.handler with
      streamingRequests := requests
      pausedState := paused
      streamingLastFrameNumber := NO_IN_FLIGHT_REPEATING_FRAMES })
  | clearRepeatingRequests :
    Moved u w .clearRepeatingRequests (w.onHandler w.handler.clearRepeatingRequests.1)
  | clear : Moved u w .clear (w.onHandler w.handler.clear.1)
  | togglePause {pause : Bool} :
    Moved u w (.togglePause pause) (w.onHandler (w.handler.togglePause pause).1)
  | finishConfiguration {batchSize : Nat} :
    Moved u w (.finishConfiguration batchSize) (w.onHandler (w.handler.finishConfiguration batchSize))
  | got {step : GuardStep M} {got : RequestHandler M × CaptureRequest M × List HandlerEffect}
      (at_ : w.stage=.idle) (hg : w.handler.getRequest=some got) :
    Moved u w step { w.onHandler got.1 with stage := .got got.2.1 }
  | idle {exitPending paused : Bool} (at_ : w.stage=.idle) :
    Moved u w (.getRequestWoken exitPending)
      { w.onHandler { w.handler with pausedState := paused } with stage := .idle }
  | chooseSettings {next : CaptureRequest M} (at_ : w.stage=.got next) :
    Moved u w .chooseSettings { w.onHandler (w.handler.chooseSettings next).1 with
      stage := .acquiring (w.handler.chooseSettings next).2.1
        ⟨next.resultExtras.frameNumber,(w.handler.chooseSettings next).2.2,[]⟩
        (w.handler.chooseSettings next).2.1.streams }
  | bufferRefused {next : CaptureRequest M} {request : HalRequest M} {id : Int} {todo : List Int}
      {waitRes : Int} {alloc : Option Handle} (at_ : w.stage=.acquiring next request (id::todo))
      (failed : ((w.submission.streams id).getBuffer u request.frameNumber waitRes alloc).ret.1≠0) :
    Moved u w (.getBuffer waitRes alloc)
      { w.onStream id
          ((w.submission.streams id).getBuffer u request.frameNumber waitRes alloc).stream with
        stage := fails next { request with outputBuffers := [] } }
  | bufferGot {next : CaptureRequest M} {request : HalRequest M} {id : Int} {todo : List Int}
      {waitRes : Int} {alloc : Option Handle} (at_ : w.stage=.acquiring next request (id::todo))
      (fine : ((w.submission.streams id).getBuffer u request.frameNumber waitRes alloc).ret.1=0) :
    Moved u w (.getBuffer waitRes alloc)
      { w.onStream id
          ((w.submission.streams id).getBuffer u request.frameNumber waitRes alloc).stream with
        stage := .acquiring next { request with
          outputBuffers := request.outputBuffers++
            ((w.submission.streams id).getBuffer u request.frameNumber waitRes alloc).ret.2.toList }
          todo }
  | markRefused {next : CaptureRequest M} {request : HalRequest M} {markRes : Int}
      (at_ : w.stage=.acquiring next request []) (failed : w.handler.markCb=false ∨ markRes<0) :
    Moved u w (.markRequest markRes) { w with stage := fails next request }
  | marked {next : CaptureRequest M} {request : HalRequest M} {markRes : Int}
      (at_ : w.stage=.acquiring next request []) (fine : ¬(w.handler.markCb=false ∨ markRes<0)) :
    Moved u w (.markRequest markRes) { w with
      submission := { w.submission with
        client := w.submission.client.markPendingRequest request.frameNumber
          request.outputBuffers.length next.resultExtras }
      stage := .marked next request }
  | processed {next : CaptureRequest M} {request : HalRequest M}
      (at_ : w.stage=.marked next request) :
    Moved u w (.processCaptureRequest true) { w with stage := .returning request.frameNumber [] }
  | processRefused {next : CaptureRequest M} {request : HalRequest M}
      (at_ : w.stage=.marked next request) :
    Moved u w (.processCaptureRequest false) { w with stage := fails next request }
  | returnBuffer {frameNumber : Nat} {id : Int} {todo : List Int}
      (at_ : w.stage=.returning frameNumber (id::todo)) :
    Moved u w .returnBuffer
      { w.onStream id (Submission.returnMapped frameNumber (w.submission.streams id)).stream with
        stage := .returning frameNumber todo }
  | finishRequest {frameNumber : Nat} (at_ : w.stage=.returning frameNumber []) :
    Moved u w .finishRequest { w.onHandler w.handler.finishRequest with stage := .idle }

theorem Step.moved {step : GuardStep M} (h : Step u w step w') : Moved u w step w' := by
  unfold Step perform at h
  cases step with
  | queueRequestList requests =>
    obtain ⟨paused,same⟩ := resume_eq { w.handler with requests := w.handler.requests++requests }
    cases Option.some.inj h
    rw [RequestHandler.queueRequestList,same]
    exact .queueRequestList
  | setRepeatingRequests requests =>
    obtain ⟨paused,same⟩ := resume_eq { w.handler with streamingRequests := requests }
    cases Option.some.inj h
    rw [RequestHandler.setRepeatingRequests,same]
    exact .setRepeatingRequests
  | clearRepeatingRequests =>
    cases Option.some.inj h
    exact .clearRepeatingRequests
  | clear =>
    cases Option.some.inj h
    exact .clear
  | togglePause pause =>
    cases Option.some.inj h
    exact .togglePause
  | finishConfiguration batchSize =>
    cases Option.some.inj h
    exact .finishConfiguration
  | getRequest =>
    dsimp only at h
    split at h
    next at_ =>
      obtain ⟨got,hg,rfl⟩ := Option.map_eq_some_iff.mp h
      exact .got at_ hg
    · cases h
  | getRequestWoken exitPending =>
    dsimp only at h
    split at h
    next at_ =>
      cases Option.some.inj h
      rcases w.handler.getRequestWoken_cases exitPending with ⟨paused,l,woken⟩|⟨got,hg,woken⟩
      · rw [woken]
        exact .idle at_
      · rw [woken]
        exact .got at_ hg
    · cases h
  | chooseSettings =>
    dsimp only at h
    split at h
    next at_ =>
      cases Option.some.inj h
      exact .chooseSettings at_
    · cases h
  | getBuffer waitRes alloc =>
    dsimp only at h
    split at h
    next at_ =>
      cases Option.some.inj h
      split_ifs with failed
      · exact .bufferRefused at_ failed
      · exact .bufferGot at_ (not_not.mp failed)
    · cases h
  | markRequest markRes =>
    dsimp only at h
    split at h
    next at_ =>
      split_ifs at h with failed
      · cases Option.some.inj h
        exact .markRefused at_ failed
      · cases Option.some.inj h
        exact .marked at_ failed
    · cases h
  | processCaptureRequest accepted =>
    dsimp only at h
    split at h
    next at_ =>
      cases Option.some.inj h
      cases accepted with
      | true => exact .processed at_
      | false => exact .processRefused at_
    · cases h
  | returnBuffer =>
    dsimp only at h
    split at h
    next at_ =>
      cases Option.some.inj h
      exact .returnBuffer at_
    · cases h
  | finishRequest =>
    dsimp only at h
    split at h
    next at_ =>
      cases Option.some.inj h
      exact .finishRequest at_
    · cases h

variable (id) in
/-- GetRequest stores the request it returns in current_request_. -/
theorem getRequest_takes {s : RequestHandler M}
    {got : RequestHandler M × CaptureRequest M × List HandlerEffect} (h : s.getRequest=some got) :
    got.1.currentRequest=got.2.1 ∧ (Unnamed id s → Unnamed id got.1) := by
  unfold getRequest at h
  obtain ⟨next,hn,rfl⟩ := Option.map_eq_some_iff.mp h
  obtain ⟨⟨q,hq,same⟩,left,streaming⟩ := nextRequest_mem hn
  refine ⟨rfl,?_⟩
  intro unnamed
  have all : ∀ p∈s.requests++s.streamingRequests,id∉p.streams := by
    intro p hp
    rcases List.mem_append.mp hp with queued|repeating
    · exact unnamed.2.1 p queued
    · exact unnamed.2.2 p repeating
  refine ⟨?_,?_,?_⟩
  · show id∉next.2.streams
    rw [same]
    exact all q hq
  · intro p hp
    exact all p (left p hp)
  · show ∀ p∈next.1.streamingRequests,_
    rw [streaming]
    exact unnamed.2.2

theorem chooseSettings_keeps (id : Int) (s : RequestHandler M) (next : CaptureRequest M) :
    (s.chooseSettings next).1.currentRequest=s.currentRequest ∧
    (s.chooseSettings next).2.1.streams=next.streams ∧
    (Unnamed id s → Unnamed id (s.chooseSettings next).1) := by
  unfold chooseSettings
  split_ifs
  · exact ⟨rfl,rfl,fun h => h⟩
  · exact ⟨rfl,rfl,fun h => h⟩

omit [CameraMetadata M] in
theorem fails_streams {next : CaptureRequest M} {request : HalRequest M} {i : Int}
    (hi : i∈(fails next request).streams) : i∈next.streams := List.mem_of_mem_take hi

/-- What one step does: the thread goes on with streams it had, and touches only these; or it takes
a request that is then current_request_; or it has none left. -/
structure Proceeds (w w' : GuardWorld M) : Prop where
  streams : (∀ i∈w'.stage.streams,i∈w.stage.streams) ∧
      w'.handler.currentRequest=w.handler.currentRequest ∨
    ∀ i∈w'.stage.streams,i∈w'.handler.currentRequest.streams
  touched : ∃ new,w'.touched=w.touched++new ∧ ∀ i∈new,i∈w.stage.streams

omit [CameraMetadata M] in
theorem Proceeds.call {handler : RequestHandler M}
    (hcur : handler.currentRequest=w.handler.currentRequest) :
    Proceeds w (w.onHandler handler) :=
  ⟨Or.inl ⟨fun _ hi => hi,hcur⟩,[],(List.append_nil _).symm,by simp⟩

omit [CameraMetadata M] in
/-- The thread goes on without a stream touched. -/
theorem Proceeds.quiet {client : PendingRequests M} {stage : SubmitStage M}
    (hs : ∀ i∈stage.streams,i∈w.stage.streams) : Proceeds w { w with
      submission := { w.submission with client := client }
      stage := stage } :=
  ⟨Or.inl ⟨hs,rfl⟩,[],(List.append_nil _).symm,by simp⟩

omit [CameraMetadata M] in
/-- The thread calls a stream. -/
theorem Proceeds.touch {i : Int} {s : Camera3Stream} {stage : SubmitStage M}
    (hi : i∈w.stage.streams) (hs : ∀ j∈stage.streams,j∈w.stage.streams) :
    Proceeds w { w.onStream i s with stage := stage } := by
  refine ⟨Or.inl ⟨hs,rfl⟩,[i],rfl,?_⟩
  intro j hj
  rw [List.mem_singleton.mp hj]
  exact hi

theorem got_proceeds {got : RequestHandler M × CaptureRequest M × List HandlerEffect}
    (hg : w.handler.getRequest=some got) :
    Proceeds w { w.onHandler got.1 with stage := .got got.2.1 } := by
  refine ⟨Or.inr ?_,[],(List.append_nil _).symm,by simp⟩
  intro i hi
  show i∈got.1.currentRequest.streams
  rw [(getRequest_takes 0 hg).1]
  exact hi

theorem step_proceeds {step : GuardStep M} (h : Step u w step w') : Proceeds w w' := by
  cases h.moved with
  | queueRequestList | setRepeatingRequests | clearRepeatingRequests | clear | togglePause
  | finishConfiguration => exact .call rfl
  | got at_ hg => exact got_proceeds hg
  | idle at_ | finishRequest at_ =>
    exact ⟨Or.inr (fun i hi => by cases hi),[],(List.append_nil _).symm,by simp⟩
  | @chooseSettings next at_ =>
    obtain ⟨current,streams,-⟩ := chooseSettings_keeps 0 w.handler next
    refine ⟨Or.inl ⟨?_,current⟩,[],(List.append_nil _).symm,by simp⟩
    intro i hi
    simpa [SubmitStage.streams,streams,at_] using hi
  | @bufferRefused next request i todo waitRes alloc at_ failed =>
    apply Proceeds.touch
    · rw [at_]
      exact List.mem_cons_self
    · intro j hj
      rw [at_]
      exact List.mem_append_right (i::todo) (fails_streams hj)
  | @bufferGot next request i todo waitRes alloc at_ fine =>
    apply Proceeds.touch
    · rw [at_]
      exact List.mem_cons_self
    · intro j hj
      rw [at_]
      exact List.mem_cons_of_mem i hj
  | markRefused at_ failed | processRefused at_ =>
    exact .quiet fun j hj => by rw [at_]; exact fails_streams hj
  | marked at_ fine => exact .quiet fun j hj => by rw [at_]; exact hj
  | processed at_ => exact .quiet fun j hj => by cases hj
  | @returnBuffer frameNumber i todo at_ =>
    apply Proceeds.touch
    · rw [at_]
      exact List.mem_cons_self
    · intro j hj
      rw [at_]
      exact List.mem_cons_of_mem i hj

omit [CameraMetadata M] in
theorem Proceeds.covered (hp : Proceeds w w') (hc : w.Covered) : w'.Covered := by
  rcases hp.streams with ⟨less,same⟩|taken
  · intro i hi
    rw [same]
    exact hc i (less i hi)
  · exact taken

/-- A stream that no request names is named by none later, unless a new request does. -/
theorem step_unnamed {step : GuardStep M} (hn : Unnamed id w.handler) (hs : Spares id w step)
    (h : Step u w step w') : Unnamed id w'.handler := by
  cases h.moved with
  | queueRequestList =>
    refine ⟨hn.1,?_,hn.2.2⟩
    intro r hr
    rcases List.mem_append.mp hr with old|new
    · exact hn.2.1 r old
    · exact hs r new
  | setRepeatingRequests => exact ⟨hn.1,hn.2.1,hs⟩
  | clearRepeatingRequests => exact ⟨hn.1,hn.2.1,(fun r hr => by cases hr)⟩
  | clear => exact ⟨hn.1,(fun r hr => by cases hr),(fun r hr => by cases hr)⟩
  | got at_ hg => exact (getRequest_takes id hg).2 hn
  | @chooseSettings next at_ => exact (chooseSettings_keeps id w.handler next).2.2 hn
  | finishRequest at_ =>
    exact ⟨by simp [handler,onHandler,RequestHandler.finishRequest,CaptureRequest.clear],hn.2⟩
  | togglePause | finishConfiguration | idle | bufferRefused | bufferGot | markRefused | marked
  | processed | processRefused | returnBuffer => exact hn

/-- What holds of a stream that was found inactive, from then on. -/
structure Spared (id : Int) (w w' : GuardWorld M) : Prop where
  covered : w'.Covered
  unnamed : Unnamed id w'.handler
  touched : ∃ new,w'.touched=w.touched++new ∧ id∉new

theorem Spared.step {start : GuardWorld M} (hp : Spared id start w) {step : GuardStep M}
    (hs : Spares id w step) (h : Step u w step w') : Spared id start w' := by
  have next := step_proceeds h
  obtain ⟨new,log,others⟩ := hp.touched
  obtain ⟨more,more_log,within⟩ := next.touched
  refine ⟨next.covered hp.covered,step_unnamed hp.unnamed hs h,new++more,?_,?_⟩
  · rw [more_log,log,List.append_assoc]
  · intro hid
    rcases List.mem_append.mp hid with old|now
    · exact others old
    · exact hp.unnamed.1 (hp.covered id (within id now))

end Guard

section Submit

/-! Without interruption the steps of the thread are SubmitRequest. -/

def Reaches (u : BufferUsage) (w : GuardWorld M) (s : Submission M) (stage : SubmitStage M) :
    Prop :=
  ∃ steps touched,Run (Step u) w steps ⟨s,stage,touched⟩

variable {s t : Submission M} {stage stage' : SubmitStage M} {next : CaptureRequest M}

theorem Reaches.step (h : Reaches u w s stage) (step : GuardStep M)
    (go : ∀ touched,∃ touched',perform u ⟨s,stage,touched⟩ step=some ⟨t,stage',touched'⟩) :
    Reaches u w t stage' := by
  obtain ⟨steps,touched,run⟩ := h
  obtain ⟨touched',done⟩ := go touched
  exact ⟨steps++[step],touched',.snoc run done⟩

theorem acquire_reaches (env : SubmitEnv) {f : Nat} {settings : Option M} (k : Nat)
    (ids : List Int) (buffers : List StreamBuffer)
    (h : Reaches u w s (.acquiring next ⟨f,settings,buffers⟩ ids)) :
    Reaches u w
      { s with streams := (Submission.acquireBuffers (M := M) u env f k ids s.streams).streams }
      (if (Submission.acquireBuffers (M := M) u env f k ids s.streams).ret≠0 then
          fails next ⟨f,settings,[]⟩
        else .acquiring next ⟨f,settings,
          buffers++(Submission.acquireBuffers (M := M) u env f k ids s.streams).outputBuffers⟩ []) := by
  induction ids generalizing s k buffers with
  | nil => simpa [Submission.acquireBuffers] using h
  | cons id ids ih =>
    have round : Reaches u w
        { s with streams :=
            Function.update s.streams id (Submission.getBuffer u env f k (s.streams id)).stream }
        (if (Submission.getBuffer u env f k (s.streams id)).ret.1≠0 then
            fails next ⟨f,settings,[]⟩
          else .acquiring next ⟨f,settings,
            buffers++(Submission.getBuffer u env f k (s.streams id)).ret.2.toList⟩ ids) :=
      h.step (.getBuffer (env.waitRes k) (env.alloc k)) fun touched => ⟨touched++[id],rfl⟩
    rw [Submission.acquireBuffers]
    by_cases failed : (Submission.getBuffer u env f k (s.streams id)).ret.1≠0
    · rw [if_pos failed] at round
      simpa only [if_pos failed] using round
    · rw [if_neg failed] at round
      simpa only [if_neg failed,List.append_assoc] using ih (k+1) _ round

theorem return_reaches {f : Nat} (ids : List Int) (h : Reaches u w s (.returning f ids)) :
    Reaches u w { s with streams := (Submission.returnAll (M := M) f ids s.streams).1 }
      (.returning f []) := by
  induction ids generalizing s with
  | nil => exact h
  | cons id ids ih =>
    have round : Reaches u w
        { s with streams :=
            Function.update s.streams id (Submission.returnMapped f (s.streams id)).stream }
        (.returning f ids) :=
      h.step .returnBuffer fun touched => ⟨touched++[id],rfl⟩
    exact ih round

/-- HandleErrorRequest, and the thread has no request any more. -/
theorem fails_reaches {request : HalRequest M} (h : Reaches u w s (fails next request)) :
    Reaches u w (s.handleErrorRequest request next).1 .idle :=
  (return_reaches _ h).step .finishRequest fun touched => ⟨touched,rfl⟩

theorem submit_reaches (env : SubmitEnv) (hs : w.stage=.got next) :
    Reaches u w (Submission.submitRequest u env w.submission next).state .idle := by
  have start : Reaches u w w.submission (.got next) := ⟨[],w.touched,by rw [← hs]; exact .nil⟩
  have chosen : Reaches u w
      { w.submission with handler := (w.submission.handler.chooseSettings next).1 }
      (.acquiring (w.submission.handler.chooseSettings next).2.1
        ⟨next.resultExtras.frameNumber,(w.submission.handler.chooseSettings next).2.2,[]⟩
        (w.submission.handler.chooseSettings next).2.1.streams) :=
    start.step .chooseSettings fun touched => ⟨touched,rfl⟩
  have acquired := acquire_reaches env 0 _ _ chosen
  unfold Submission.submitRequest
  dsimp only at acquired ⊢
  rw [List.nil_append] at acquired
  by_cases failed : (Submission.acquireBuffers (M := M) u env next.resultExtras.frameNumber 0
      (w.submission.handler.chooseSettings next).2.1.streams w.submission.streams).ret≠0
  · rw [if_pos failed]
    rw [if_pos failed] at acquired
    exact fails_reaches acquired
  rw [if_neg failed]
  rw [if_neg failed] at acquired
  by_cases marks : (w.submission.handler.chooseSettings next).1.markCb=false ∨ env.markRes<0
  · have refused := acquired.step (.markRequest env.markRes) fun touched =>
      ⟨touched,if_pos marks⟩
    split_ifs with missing negative
    · exact fails_reaches refused
    · exact fails_reaches refused
    · exact absurd marks (by simp [missing,negative])
    · exact absurd marks (by simp [missing,negative])
  · let acq : Acquired M := Submission.acquireBuffers u env
      next.resultExtras.frameNumber 0 (w.submission.handler.chooseSettings next).2.1.streams
      w.submission.streams
    have marked := acquired.step
      (t := ⟨(w.submission.handler.chooseSettings next).1,acq.streams,
        w.submission.client.markPendingRequest next.resultExtras.frameNumber
          acq.outputBuffers.length (w.submission.handler.chooseSettings next).2.1.resultExtras⟩)
      (.markRequest env.markRes) fun touched => ⟨touched,if_neg marks⟩
    have handed := marked.step (.processCaptureRequest env.processed) fun touched => ⟨touched,rfl⟩
    rw [if_neg fun h => marks (Or.inl h),if_neg fun h => marks (Or.inr h)]
    split_ifs with processed
    · rw [if_pos processed] at handed
      exact handed.step .finishRequest fun touched => ⟨touched,rfl⟩
    · rw [if_neg processed] at handed
      exact fails_reaches handed

end Submit

/-- A stream that IsStreamActive finds inactive, in whatever state the handler and its thread are,
is not touched by the thread again unless a request that names it is queued or installed. -/
theorem inactive_stream_untouched {w₀ w w' : GuardWorld M} {id : Int}
    {steps later : List (GuardStep M)} (hs : Start w₀) (hr : Run (Step u) w₀ steps w)
    (hi : w.handler.isStreamActive id=false)
    (hl : Run (Guarded (Spares id) (Step u)) w later w') :
    ∃ new,w'.touched=w.touched++new ∧ id∉new := by
  have idle : w₀.Covered := by
    intro i hi
    rw [hs.stage] at hi
    cases hi
  have covered : w.Covered := hr.invariant (fun _ _ _ hc h => (step_proceeds h).covered hc) idle
  have here : Spared id w w :=
    ⟨covered,(isStreamActive_false _ _).mp hi,[],(List.append_nil _).symm,by simp⟩
  have spared : Spared id w w' := hl.invariant (fun _ _ _ hp h => hp.step h.1 h.2) here
  exact spared.touched

def guardStart : GuardWorld PlainMetadata := { submission := Submission.twoStreams }

theorem guardStart_start : Start guardStart := ⟨⟨0,true,true,rfl⟩,rfl⟩

/-- A request of the streams 0 and 1, for which the first GetBuffer fails. -/
def failingSteps : List (GuardStep PlainMetadata) :=
  [.queueRequestList [Submission.bothStreams],.getRequest,.chooseSettings,.getBuffer 0 none,
    .finishRequest]

/-- A request of the stream 0 alone, which the HAL refuses. -/
def refusedSteps : List (GuardStep PlainMetadata) :=
  [.queueRequestList [{ Submission.bothStreams with streams := [0] }],.getRequest,.chooseSettings,
    .getBuffer 0 (some 5),.markRequest 0,.processCaptureRequest false,.returnBuffer,
    .finishRequest]

theorem inactive_stream_untouched_refused : ∃ w w',Run (Step .android) guardStart failingSteps w ∧
    w.handler.isStreamActive 1=false ∧
    Run (Guarded (Spares 1) (Step .android)) w refusedSteps w' ∧ w'.touched=[0,0,0] ∧
    ∃ new,w'.touched=w.touched++new ∧ 1∉new := by
  have spares : ∀ step∈refusedSteps,∀ w : GuardWorld PlainMetadata,Spares 1 w step := by
    simp [refusedSteps,Spares]
  let w := (exec (perform .android) guardStart failingSteps).get rfl
  let w' := (exec (perform .android) w refusedSteps).get rfl
  have failed : Run (Step .android) guardStart failingSteps w :=
    Run.of_exec (f := perform .android) (fun _ _ _ h => h) rfl
  have refused : Run (Step .android) w refusedSteps w' :=
    Run.of_exec (f := perform .android) (fun _ _ _ h => h) rfl
  have later := refused.guard spares
  refine ⟨w,w',failed,by decide +kernel,later,by decide +kernel,?_⟩
  exact inactive_stream_untouched guardStart_start failed (by decide +kernel) later

end GuardWorld
end IotMedia.Camera
