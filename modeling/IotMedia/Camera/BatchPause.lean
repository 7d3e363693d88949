import IotMedia.Camera.HandlerThread
import IotMedia.Camera.RequestIds
import IotMedia.Camera.RequestQueue

namespace IotMedia.Camera

open IotMedia.Framework

/-- The fields of StreamConfiguration that EndConfigure hands on; of params, its feature flags. -/
structure StreamConfiguration where
  isConstrainedHighSpeed : Bool
  batchSize : Nat
  params : Option Nat

/-- What EndConfigure meets: whether camera_session_ is there and is_hfr_supported_ set. -/
structure EndConfigureEnv (M : Type) extends ClientEnv M where
  cameraSession : Bool
  isHfrSupported : Bool

namespace DeviceClient

variable {M : Type} (u : BufferUsage)

def withConfiguration (c : DeviceClient M) (streamConfig : StreamConfiguration) : DeviceClient M :=
  { c with
    batchSize := streamConfig.batchSize
    camFeatureFlags := match streamConfig.params with
      | some flags => c.camFeatureFlags|||flags
      | none => c.camFeatureFlags }

/-- ConfigureStreams; its result went through a bool. -/
def configureStreams (c : DeviceClient M) (env : ClientEnv M)
    (streamConfig : StreamConfiguration) : Int × DeviceClient M :=
  let configured := configureStreamsLocked u (c.withConfiguration streamConfig) env
  (if configured.ret≠0 then 1 else 0,configured.client)

def endConfigure (c : DeviceClient M) (env : EndConfigureEnv M)
    (streamConfig : StreamConfiguration) : Int × DeviceClient M :=
  if env.cameraSession=false then (-ENODEV,c)
  else if streamConfig.isConstrainedHighSpeed ∧ env.isHfrSupported=false then (-EINVAL,c)
  else c.configureStreams u env.toClientEnv streamConfig

/-- FinishConfiguration was called in between: nothing else clears reconfig_. -/
def finishes (c c' : DeviceClient M) : Bool := c.reconfig && !c'.reconfig

/-- FinishConfiguration was called with batch_size_, or the handler stayed as it was. -/
def FinishesAs (c c' : DeviceClient M) : Prop :=
  c'.batchSize=c.batchSize ∧ (c'.handler=c.handler ∧ c'.reconfig=c.reconfig ∨
    c.reconfig=true ∧ c'.reconfig=false ∧
      c'.handler=c.handler.finishConfiguration c.batchSize)

theorem FinishesAs.refl (c : DeviceClient M) : FinishesAs c c := ⟨rfl,Or.inl ⟨rfl,rfl⟩⟩

variable {u} {c d : DeviceClient M}

theorem configure_finishesAs (c : DeviceClient M) (env : ClientEnv M) :
    FinishesAs c (configureStreamsLocked u c env).client := by
  unfold configureStreamsLocked
  dsimp only
  by_cases busy : c.state≠.NOT_CONFIGURED ∧ c.state≠.CONFIGURED
  · rw [if_pos busy]
    exact .refl c
  rw [if_neg busy]
  by_cases skip : c.reconfig=false
  · rw [if_pos skip]
    exact .refl c
  have due : c.reconfig=true := Bool.eq_true_of_not_eq_false skip
  rw [if_neg skip]
  split_ifs
  · exact ⟨rfl,Or.inl ⟨rfl,rfl⟩⟩
  · exact ⟨rfl,Or.inl ⟨rfl,rfl⟩⟩
  · exact ⟨rfl,Or.inl ⟨rfl,due.symm⟩⟩
  · exact ⟨rfl,Or.inl ⟨rfl,rfl⟩⟩
  · exact ⟨rfl,Or.inr ⟨due,rfl,rfl⟩⟩

/-- A second configuration has nothing to do. -/
theorem FinishesAs.configure (h : FinishesAs c d) (env : ClientEnv M) :
    FinishesAs c (configureStreamsLocked u d env).client := by
  obtain ⟨batch,next⟩ := configure_finishesAs (u := u) d env
  obtain ⟨given,before⟩ := h
  refine ⟨batch.trans given,?_⟩
  rcases before with ⟨handler,reconfig⟩|⟨due,done,handler⟩
  · rcases next with ⟨same,still⟩|⟨due,done,finished⟩
    · exact Or.inl ⟨same.trans handler,still.trans reconfig⟩
    · refine Or.inr ⟨reconfig ▸ due,done,?_⟩
      rw [finished,handler,given]
  · rcases next with ⟨same,still⟩|⟨again,-⟩
    · exact Or.inr ⟨due,still.trans done,same.trans handler⟩
    · rw [done] at again
      cases again

theorem getRequestList_finishesAs [RequestMetadata M] (env : ClientEnv M) (ms : List M)
    (c : DeviceClient M) (burstId : Nat) :
    FinishesAs c (getRequestListLocked u env c burstId ms).client :=
  getRequestList_rule (P := FinishesAs c) (fun _ h => h.configure env) (fun _ _ _ h _ => h) ms
    (.refl c) burstId

end DeviceClient

namespace RequestHandler

variable {M : Type}

/-- No request has an input: QueueReprocRequestList gets those. -/
def OutputsOnly (h : RequestHandler M) : Prop :=
  (∀ r∈h.requests,r.input=false) ∧ ∀ r∈h.streamingRequests,r.input=false

/-- The calls that queue requests or pause leave the batches alone. -/
structure Counts (h h' : RequestHandler M) : Prop where
  batchSize : h'.batchSize=h.batchSize
  counter : h'.currentFrameNumber=h.currentFrameNumber
  outputs : h.OutputsOnly → h'.OutputsOnly

theorem Counts.refl (h : RequestHandler M) : Counts h h := ⟨rfl,rfl,fun out => out⟩

theorem resume_counts (h : RequestHandler M) : Counts h h.resume.1 := by
  obtain ⟨paused,same⟩ := h.resume_eq
  rw [same]
  exact ⟨rfl,rfl,fun out => out⟩

theorem setRepeatingRequests_counts (h : RequestHandler M) {rs : List (CaptureRequest M)}
    (out : ∀ r∈rs,r.input=false) : Counts h (h.setRepeatingRequests rs).1 := by
  obtain ⟨paused,same⟩ := resume_eq { h with streamingRequests := rs }
  unfold setRepeatingRequests
  dsimp only
  rw [same]
  exact ⟨rfl,rfl,fun before => ⟨before.1,out⟩⟩

theorem queueRequestList_counts (h : RequestHandler M) {rs : List (CaptureRequest M)}
    (out : ∀ r∈rs,r.input=false) : Counts h (h.queueRequestList rs).1 := by
  obtain ⟨paused,same⟩ := resume_eq { h with requests := h.requests++rs }
  unfold queueRequestList
  dsimp only
  rw [same]
  refine ⟨rfl,rfl,fun before => ⟨?_,before.2⟩⟩
  intro r hr
  rcases List.mem_append.mp hr with old|new
  · exact before.1 r old
  · exact out r new

end RequestHandler

namespace SubmitClient

variable {M : Type} [RequestMetadata M] {u : BufferUsage}

/-- A configuration if it was due, then at most the requests are queued. -/
def Queues (c c' : DeviceClient M) : Prop :=
  ∃ d,DeviceClient.FinishesAs c d ∧ d.handler.Counts c'.handler ∧ c'.reconfig=d.reconfig

theorem queueRequests_queues (s : SubmitClient M) (env : SubmitListEnv M) (ms : List M)
    (streaming : Bool) : Queues s.client (s.queueRequests u env ms streaming).2.client := by
  have finishesAs := DeviceClient.getRequestList_finishesAs (u := u) env.toClientEnv ms s.client 0
  unfold queueRequests
  dsimp only
  revert finishesAs
  generalize DeviceClient.getRequestListLocked u env.toClientEnv s.client 0 ms=got
  intro finishesAs
  have stays : Queues s.client got.client := ⟨got.client,finishesAs,.refl _,rfl⟩
  have outputs : ∀ r∈got.value.filter fun r => !r.input,r.input=false := by simp
  split_ifs
  · exact stays
  · exact stays
  · exact stays
  · exact ⟨got.client,finishesAs,RequestHandler.resume_counts _,rfl⟩
  · exact ⟨got.client,finishesAs,RequestHandler.setRepeatingRequests_counts _ outputs,rfl⟩
  · exact ⟨got.client,finishesAs,RequestHandler.queueRequestList_counts _ outputs,rfl⟩

theorem queueSubmission_queues (s : SubmitClient M) (env : SubmitListEnv M)
    (requests : List (Camera3Request M)) (streaming : Bool) :
    Queues s.client (s.queueSubmission u env requests streaming).submit.client := by
  have stays : Queues s.client s.client := ⟨s.client,.refl _,.refl _,rfl⟩
  unfold queueSubmission
  by_cases none_ : requests=[]
  · rw [if_pos none_]
    exact stays
  rw [if_neg none_]
  cases s.client.state with
  | ERROR | NOT_INITIALIZED | CLOSED => exact stays
  | NOT_CONFIGURED | CONFIGURED | RUNNING =>
    dsimp only
    cases s.client.checkRequests s.nextRequestId requests with
    | error stop => cases stop <;> exact stays
    | ok ms =>
      have queued := queueRequests_queues (u := u)
        { s with nextRequestId := s.nextRequestId+requests.length } env ms streaming
      dsimp only
      split_ifs
      all_goals exact queued

end SubmitClient

/-- The client and where its handler's thread is, with the number of requests that the handler has
dequeued since the last FinishConfiguration. -/
structure BatchWorld (M : Type) where
  submit : SubmitClient M
  point : LoopPoint := .waitOnPause
  dequeued : Nat := 0

/-- ConfigureStreamsLocked is also what the stream calls reconfigure with; SubmitRequestList ends
before its wait, and `elsewhere` is what happens to the client apart from its handler. -/
inductive BatchStep (M : Type)
  | endConfigure (streamConfig : StreamConfiguration) (env : EndConfigureEnv M)
  | configureStreamsLocked (env : ClientEnv M)
  | submitRequestList (requests : List (Camera3Request M)) (streaming : Bool)
      (env : SubmitListEnv M)
  | togglePause (pause : Bool)
  | thread (env : LoopEnv)
  | elsewhere (client : DeviceClient M)

namespace BatchWorld

section Steps

variable {M : Type} [RequestMetadata M] (u : BufferUsage)

omit [RequestMetadata M] in
def handler (w : BatchWorld M) : RequestHandler M := w.submit.client.handler

omit [RequestMetadata M] in
def thread (w : BatchWorld M) : HandlerThread M := ⟨w.handler,w.point⟩

omit [RequestMetadata M] in
/-- A call has left the client so. -/
def after (w : BatchWorld M) (submit : SubmitClient M) : BatchWorld M :=
  { w with
    submit := submit
    dequeued := if w.submit.client.finishes submit.client then 0 else w.dequeued }

omit [RequestMetadata M] in
def onClient (w : BatchWorld M) (client : DeviceClient M) : BatchWorld M :=
  w.after { w.submit with client := client }

omit [RequestMetadata M] in
/-- A step of the thread; GetRequest has a request when it gets to SubmitRequest. -/
def onThread (w : BatchWorld M) (t : HandlerThread M) : BatchWorld M where
  submit := { w.submit with client := { w.submit.client with handler := t.handler } }
  point := t.point
  dequeued := if t.point=.submitRequest then w.dequeued+1 else w.dequeued

def perform (w : BatchWorld M) : BatchStep M → BatchWorld M
  | .endConfigure streamConfig env =>
    w.onClient (w.submit.client.endConfigure u env streamConfig).2
  | .configureStreamsLocked env => w.onClient (w.submit.client.configureStreamsLocked u env).client
  | .submitRequestList requests streaming env =>
    w.after (w.submit.queueSubmission u env requests streaming).submit
  | .togglePause pause =>
    w.onClient { w.submit.client with handler := (w.handler.togglePause pause).1 }
  | .thread env => w.onThread (w.thread.step env)
  | .elsewhere client =>
    { w with submit := { w.submit with client := { client with handler := w.handler } } }

def Step (w : BatchWorld M) (step : BatchStep M) (w' : BatchWorld M) : Prop :=
  w'=w.perform u step

/-- The client has just constructed its handler. -/
structure Start (s : SubmitClient M) : Prop where
  handler : ∃ monitorId errorCb markCb,
    s.client.handler=RequestHandler.construct monitorId errorCb markCb

/-- WaitOnPause does not divide by zero, and pauses only when whole batches have been dequeued. -/
structure PausesBetween (w : BatchWorld M) : Prop where
  divides : w.handler.batchSize≠0
  pauses : w.point=.waitOnPause ∨ w.point=.paused → ∀ env,w.handler.pausedState=false →
    (w.thread.step env).handler.pausedState=true → w.handler.batchSize∣w.dequeued

omit [RequestMetadata M] in
/-- The batch size that a step hands to FinishConfiguration, if it gets there. -/
def given (w : BatchWorld M) : BatchStep M → Nat
  | .endConfigure streamConfig _ => streamConfig.batchSize
  | _ => w.submit.client.batchSize

/-- The batch size that FinishConfiguration is given fits the frame counter, and the one that it was
given last fits where the counter wraps. -/
def Fits (w : BatchWorld M) (step : BatchStep M) : Prop :=
  match step with
  | .thread env => (w.thread.step env).point=.submitRequest →
    w.handler.currentFrameNumber+1=2^32 → w.handler.batchSize∣2^32
  | .elsewhere _ => True
  | step => w.submit.client.finishes (w.perform u step).submit.client=true →
    w.given step≠0 ∧ w.given step∣w.handler.currentFrameNumber

omit [RequestMetadata M] in
/-- WaitOnPause with this batch size and frame counter neither divides by zero nor pauses inside a
batch when so many requests have been dequeued. -/
def Whole (batchSize frameNumber dequeued : Nat) : Prop :=
  batchSize≠0 ∧ (batchSize∣frameNumber → batchSize∣dequeued)

end Steps

variable {M : Type} [RequestMetadata M] {u : BufferUsage} {w w' : BatchWorld M}

/-- The frame counter runs along with the requests of the batches. -/
structure Inv (w : BatchWorld M) : Prop where
  divides : w.handler.batchSize≠0
  aligned : w.handler.currentFrameNumber≡w.dequeued [MOD w.handler.batchSize]
  counter : w.handler.currentFrameNumber<2^32
  paused : w.point=.paused → w.handler.batchSize∣w.dequeued
  outputs : w.handler.OutputsOnly

omit [RequestMetadata M] in
theorem nextRequest_batch {s next : RequestHandler M} {r : CaptureRequest M}
    (h : s.nextRequest=some (next,r)) : next.batchSize=s.batchSize := by
  unfold RequestHandler.nextRequest at h
  split at h
  · split at h
    · cases h
    · cases h
      rfl
  · split at h
    · cases h
      rfl
    · cases h
      rfl

theorem getRequest_counts {s : RequestHandler M} (out : s.OutputsOnly)
    {got : RequestHandler M × CaptureRequest M × List HandlerEffect}
    (h : s.getRequest=some got) : got.1.batchSize=s.batchSize ∧
      got.1.currentFrameNumber=frameAfter s.currentFrameNumber ∧ got.1.OutputsOnly := by
  obtain ⟨next,taken,same⟩ := QueueWorld.getRequest_next h
  obtain ⟨a,rest,queue,-,left,counter,streaming,-⟩ := QueueWorld.nextRequest_output out.1 taken
  have outputs : ∀ r∈rest,r.input=false := by
    intro r hr
    have waited : r∈if s.requests=[] then s.streamingRequests else s.requests := by
      rw [queue]
      exact List.mem_cons_of_mem a hr
    split_ifs at waited
    · exact out.2 r waited
    · exact out.1 r waited
  have batch : next.batchSize=s.batchSize := nextRequest_batch taken
  have queued : ∀ r∈next.requests,r.input=false := by
    rw [left]
    exact outputs
  have repeated : ∀ r∈next.streamingRequests,r.input=false := by
    rw [streaming]
    exact out.2
  rw [same]
  exact ⟨batch,counter,queued,repeated⟩

/-- What a step of the thread does to the counter: GetRequest counts the request that it takes. -/
structure Threads (t t' : HandlerThread M) : Prop where
  batchSize : t'.handler.batchSize=t.handler.batchSize
  counter : t'.handler.currentFrameNumber=
    if t'.point=.submitRequest then frameAfter t.handler.currentFrameNumber
    else t.handler.currentFrameNumber
  outputs : t'.handler.OutputsOnly
  paused : t'.point=.paused →
    t.point=.paused ∨ t.handler.batchSize∣t.handler.currentFrameNumber

omit [RequestMetadata M] in
theorem Threads.still {t : HandlerThread M} (out : t.handler.OutputsOnly) {paused : Bool}
    {point : LoopPoint} (apart : point≠.submitRequest ∧ point≠.paused) :
    Threads t ⟨{ t.handler with pausedState := paused },point⟩ :=
  ⟨rfl,(if_neg apart.1).symm,out,fun h => absurd h apart.2⟩

theorem thread_step (t : HandlerThread M) (env : LoopEnv) (out : t.handler.OutputsOnly) :
    Threads t (t.step env) := by
  have moves (point : LoopPoint) (apart : point≠.submitRequest ∧ point≠.paused) :
      Threads t { t with point := point } :=
    ⟨rfl,(if_neg apart.1).symm,out,fun h => absurd h apart.2⟩
  have takes {got : RequestHandler M × CaptureRequest M × List HandlerEffect}
      (h : t.handler.getRequest=some got) : Threads t ⟨got.1,.submitRequest⟩ := by
    obtain ⟨batch,counter,outputs⟩ := getRequest_counts out h
    exact ⟨batch,counter,outputs,fun h => by cases h⟩
  unfold HandlerThread.step
  cases point : t.point with
  | waitOnPause =>
    rcases t.waitOnPause_cases with ⟨-,same⟩|⟨-,same⟩|⟨-,between,same⟩
    · simp only [same]
      exact moves .getRequest (by decide)
    · simp only [same]
      exact moves .faulted (by decide)
    · simp only [same]
      exact ⟨rfl,rfl,out,fun _ => Or.inr between⟩
  | paused =>
    simp only [HandlerThread.pauseWoken]
    split_ifs
    · exact moves .waitOnPause (by decide)
    · exact ⟨rfl,rfl,out,fun _ => Or.inl point⟩
    · exact moves .getRequest (by decide)
  | getRequest =>
    dsimp only
    split_ifs
    · exact moves .ended (by decide)
    · unfold HandlerThread.getRequest
      cases got : t.handler.getRequest with
      | none => exact moves .waiting (by decide)
      | some got' => exact takes got
  | waiting =>
    rcases t.handler.getRequestWoken_cases env.exitPending with ⟨paused,l,same⟩|⟨got,taken,same⟩
    · simp only [HandlerThread.requestWoken,same]
      exact Threads.still out (show LoopPoint.waitOnPause≠_ ∧ LoopPoint.waitOnPause≠_ by decide)
    · simp only [HandlerThread.requestWoken,same]
      exact takes taken
  | submitRequest =>
    dsimp only
    split_ifs
    · exact moves .ended (by decide)
    · have kept : (t.handler.chooseSettings t.handler.currentRequest).1.batchSize=
            t.handler.batchSize ∧
          (t.handler.chooseSettings t.handler.currentRequest).1.currentFrameNumber=
            t.handler.currentFrameNumber ∧
          (t.handler.chooseSettings t.handler.currentRequest).1.OutputsOnly := by
        unfold RequestHandler.chooseSettings
        split_ifs
        · exact ⟨rfl,rfl,out⟩
        · exact ⟨rfl,rfl,out⟩
      exact ⟨kept.1,kept.2.1,kept.2.2,fun h => by cases h⟩
  | ended =>
    exact ⟨rfl,by simp [point],out,fun h => by simp [point] at h⟩
  | faulted =>
    exact ⟨rfl,by simp [point],out,fun h => by simp [point] at h⟩

omit [RequestMetadata M] in
/-- A call that starts from `c`: FinishConfiguration was called with its batch size, or the handler
counts on. -/
theorem after_cases (w : BatchWorld M) {submit : SubmitClient M} {c : DeviceClient M}
    (handler : c.handler=w.handler) (reconfig : c.reconfig=w.submit.client.reconfig)
    (queues : SubmitClient.Queues c submit.client) :
    (w.after submit).handler.currentFrameNumber=w.handler.currentFrameNumber ∧
    (w.handler.OutputsOnly → (w.after submit).handler.OutputsOnly) ∧
    (w.submit.client.finishes submit.client=false ∧ (w.after submit).dequeued=w.dequeued ∧
      (w.after submit).handler.batchSize=w.handler.batchSize ∨
    w.submit.client.finishes submit.client=true ∧ (w.after submit).dequeued=0 ∧
      (w.after submit).handler.batchSize=c.batchSize) := by
  obtain ⟨d,⟨-,ends⟩,counts,last⟩ := queues
  rcases ends with ⟨same,still⟩|⟨due,done,finished⟩
  · have open_ : w.submit.client.finishes submit.client=false := by
      simp [DeviceClient.finishes,last,still,reconfig]
    rw [same,handler] at counts
    exact ⟨counts.counter,counts.outputs,Or.inl ⟨open_,by simp [after,open_],counts.batchSize⟩⟩
  · have closed : w.submit.client.finishes submit.client=true := by
      simp [DeviceClient.finishes,last,done,← reconfig,due]
    rw [finished,handler] at counts
    exact ⟨counts.counter,counts.outputs,Or.inr ⟨closed,by simp [after,closed],counts.batchSize⟩⟩

omit [RequestMetadata M] in
theorem Inv.after (hi : Inv w) {submit : SubmitClient M} {c : DeviceClient M}
    (handler : c.handler=w.handler) (reconfig : c.reconfig=w.submit.client.reconfig)
    (queues : SubmitClient.Queues c submit.client)
    (fits : w.submit.client.finishes submit.client=true →
      c.batchSize≠0 ∧ c.batchSize∣w.handler.currentFrameNumber) : Inv (w.after submit) := by
  obtain ⟨counter,outputs,ends⟩ := after_cases w handler reconfig queues
  rcases ends with ⟨-,dequeued,batch⟩|⟨finished,dequeued,batch⟩
  · refine ⟨?_,?_,?_,?_,outputs hi.outputs⟩
    · rw [batch]
      exact hi.divides
    · rw [batch,counter,dequeued]
      exact hi.aligned
    · rw [counter]
      exact hi.counter
    · rw [batch,dequeued]
      exact hi.paused
  · obtain ⟨nonzero,divides⟩ := fits finished
    refine ⟨?_,?_,?_,?_,outputs hi.outputs⟩
    · rw [batch]
      exact nonzero
    · rw [batch,counter,dequeued]
      exact Nat.modEq_zero_iff_dvd.mpr divides
    · rw [counter]
      exact hi.counter
    · intro _
      rw [dequeued]
      exact Nat.dvd_zero _

/-- The frame counter goes on in step with the requests, also where it wraps at whole batches. -/
theorem frameAfter_modEq {b c d : Nat} (small : c<2^32) (wraps : c+1=2^32 → b∣2^32)
    (aligned : c≡d [MOD b]) : frameAfter c≡d+1 [MOD b] := by
  by_cases last : c+1=2^32
  · have zero : frameAfter c=0 := by
      unfold frameAfter
      omega
    have whole : c+1≡0 [MOD b] := Nat.modEq_zero_iff_dvd.mpr (last ▸ wraps last)
    rw [zero]
    exact whole.symm.trans (aligned.add_right 1)
  · have next : frameAfter c=c+1 := by
      unfold frameAfter
      omega
    rw [next]
    exact aligned.add_right 1

theorem Inv.thread (hi : Inv w) {env : LoopEnv} (fits : w.Fits u (.thread env)) :
    Inv (w.onThread (w.thread.step env)) := by
  have moved := thread_step w.thread env hi.outputs
  have batch : (w.thread.step env).handler.batchSize=w.handler.batchSize := moved.batchSize
  have counter := moved.counter
  have small := hi.counter
  have aligned := hi.aligned
  refine ⟨?_,?_,?_,?_,moved.outputs⟩
  · show (w.thread.step env).handler.batchSize≠0
    rw [batch]
    exact hi.divides
  · show (w.thread.step env).handler.currentFrameNumber≡_ [MOD (w.thread.step env).handler.batchSize]
    rw [batch,counter]
    unfold onThread
    dsimp only
    split_ifs with took
    · show frameAfter w.handler.currentFrameNumber≡_ [MOD _]
      exact frameAfter_modEq small (fits took) aligned
    · exact aligned
  · show (w.thread.step env).handler.currentFrameNumber<2^32
    rw [counter]
    split_ifs
    · unfold frameAfter
      omega
    · exact small
  · intro paused
    show (w.thread.step env).handler.batchSize ∣ _
    have still : (w.onThread (w.thread.step env)).dequeued=w.dequeued := by
      have away : (w.thread.step env).point≠.submitRequest := by
        rw [show (w.thread.step env).point=.paused from paused]
        decide
      exact if_neg away
    rw [batch,still]
    rcases moved.paused paused with before|between
    · exact hi.paused before
    · exact (aligned.dvd_iff dvd_rfl).mp between

omit [RequestMetadata M] in
theorem endConfigure_finishesAs (c : DeviceClient M) (env : EndConfigureEnv M)
    (streamConfig : StreamConfiguration) :
    ∃ d : DeviceClient M,d.handler=c.handler ∧ d.reconfig=c.reconfig ∧
      d.FinishesAs (c.endConfigure u env streamConfig).2 ∧
      (c.finishes (c.endConfigure u env streamConfig).2=true →
        d.batchSize=streamConfig.batchSize) := by
  have refused (same : (c.endConfigure u env streamConfig).2=c) :
      ∃ d : DeviceClient M,d.handler=c.handler ∧ d.reconfig=c.reconfig ∧
        d.FinishesAs (c.endConfigure u env streamConfig).2 ∧
        (c.finishes (c.endConfigure u env streamConfig).2=true →
          d.batchSize=streamConfig.batchSize) := by
    rw [same]
    exact ⟨c,rfl,rfl,.refl c,fun finished => by simp [DeviceClient.finishes] at finished⟩
  by_cases session : env.cameraSession=false
  · exact refused (by rw [DeviceClient.endConfigure,if_pos session])
  by_cases hfr : streamConfig.isConstrainedHighSpeed ∧ env.isHfrSupported=false
  · exact refused (by rw [DeviceClient.endConfigure,if_neg session,if_pos hfr])
  · refine ⟨c.withConfiguration streamConfig,rfl,rfl,?_,fun _ => rfl⟩
    rw [DeviceClient.endConfigure,if_neg session,if_neg hfr]
    exact DeviceClient.configure_finishesAs _ _

/-- The steps that are calls on the client. -/
theorem perform_after (w : BatchWorld M) (step : BatchStep M) :
    (∃ env,step=.thread env) ∨ (∃ client,step=.elsewhere client) ∨
    (w.Fits u step ↔ (w.submit.client.finishes (w.perform u step).submit.client=true →
      w.given step≠0 ∧ w.given step∣w.handler.currentFrameNumber)) ∧
    ∃ submit c,w.perform u step=w.after submit ∧ c.handler=w.handler ∧
      c.reconfig=w.submit.client.reconfig ∧ SubmitClient.Queues c submit.client ∧
      (w.submit.client.finishes submit.client=true → c.batchSize=w.given step) := by
  have finishes {c c' : DeviceClient M} (h : c.FinishesAs c') : SubmitClient.Queues c c' :=
    ⟨c',h,.refl _,rfl⟩
  cases step with
  | thread env => exact Or.inl ⟨env,rfl⟩
  | elsewhere client => exact Or.inr (Or.inl ⟨client,rfl⟩)
  | endConfigure streamConfig env =>
    obtain ⟨c,handler,reconfig,ends,batch⟩ :=
      endConfigure_finishesAs (u := u) w.submit.client env streamConfig
    exact Or.inr (Or.inr ⟨Iff.rfl,_,c,rfl,handler,reconfig,finishes ends,batch⟩)
  | configureStreamsLocked env =>
    exact Or.inr (Or.inr ⟨Iff.rfl,_,w.submit.client,rfl,rfl,rfl,
      finishes (DeviceClient.configure_finishesAs _ _),fun _ => rfl⟩)
  | submitRequestList requests streaming env =>
    exact Or.inr (Or.inr ⟨Iff.rfl,_,w.submit.client,rfl,rfl,rfl,
      SubmitClient.queueSubmission_queues w.submit env requests streaming,fun _ => rfl⟩)
  | togglePause pause =>
    exact Or.inr (Or.inr ⟨Iff.rfl,_,w.submit.client,rfl,rfl,rfl,
      ⟨w.submit.client,.refl _,⟨rfl,rfl,fun out => out⟩,rfl⟩,fun _ => rfl⟩)

/-- Every step that fits keeps the invariant. -/
theorem step_inv (hi : Inv w) {step : BatchStep M} (h : Step u w step w') (fits : w.Fits u step) :
    Inv w' := by
  cases h
  rcases perform_after (u := u) w step with
    ⟨env,rfl⟩|⟨client,rfl⟩|⟨fits_iff,submit,c,same,handler,reconfig,queues,batch⟩
  · exact hi.thread fits
  · exact ⟨hi.divides,hi.aligned,hi.counter,hi.paused,hi.outputs⟩
  · rw [fits_iff,same] at fits
    rw [same]
    refine hi.after handler reconfig queues fun finished => ?_
    rw [batch finished]
    exact fits finished

theorem start_inv {s : SubmitClient M} (hs : Start s) : Inv { submit := s } := by
  obtain ⟨monitorId,errorCb,markCb,constructed⟩ := hs.handler
  have handler : (BatchWorld.mk s .waitOnPause 0).handler=
      RequestHandler.construct monitorId errorCb markCb := constructed
  refine ⟨?_,?_,?_,(fun h => by cases h),?_⟩
  all_goals rw [handler]
  · show 1≠0
    decide
  · exact Nat.ModEq.refl 0
  · show 0<2^32
    decide
  · exact ⟨(fun r hr => by cases hr),(fun r hr => by cases hr)⟩

/-- WaitOnPause pauses only where its test finds the frame counter aligned. -/
theorem Inv.pausesBetween (hi : Inv w) : w.PausesBetween := by
  refine ⟨hi.divides,?_⟩
  intro waits env running paused
  rcases waits with first|woken
  · have here : w.thread.step env=w.thread.waitOnPause := by
      unfold HandlerThread.step
      rw [show w.thread.point=.waitOnPause from first]
    rw [here] at paused
    have still {point : LoopPoint}
        (same : w.thread.waitOnPause={ w.thread with point := point }) : False := by
      have kept : w.thread.waitOnPause.handler.pausedState=false := by
        rw [same]
        exact running
      exact Bool.false_ne_true (kept.symm.trans paused)
    rcases w.thread.waitOnPause_cases with ⟨-,same⟩|⟨-,same⟩|⟨-,between,-⟩
    · exact (still same).elim
    · exact (still same).elim
    · exact (hi.aligned.dvd_iff dvd_rfl).mp between
  · exact hi.paused woken

theorem splits_later {b c : Nat} (small : c<2^32) (misfit : ¬(b≠0 ∧ b∣c)) :
    ∃ j,¬Whole b ((c+j)%2^32) j := by
  by_cases zero : b=0
  · exact ⟨0,fun h => h.1 zero⟩
  have odd : ¬b∣c := fun h => misfit ⟨zero,h⟩
  have positive : 0<c%b := Nat.pos_of_ne_zero fun h => odd (Nat.dvd_of_mod_eq_zero h)
  have below : c%b<b := Nat.mod_lt c (Nat.pos_of_ne_zero zero)
  have inside {j : Nat} (first : 0<j) (last : j<b) (stop : b∣(c+j)%2^32) :
      ¬Whole b ((c+j)%2^32) j := fun h => by
    have le := Nat.le_of_dvd first (h.2 stop)
    omega
  by_cases wraps : 2^32 ≤ c+(b-c%b)
  · refine ⟨2^32-c,inside (by omega) (by omega) ?_⟩
    rw [Nat.add_sub_cancel' small.le,Nat.mod_self]
    exact Nat.dvd_zero b
  · refine ⟨b-c%b,inside (by omega) (by omega) ?_⟩
    rw [Nat.mod_eq_of_lt (by omega)]
    have split := Nat.div_add_mod c b
    have whole : c+(b-c%b)=b*(c/b)+b := by omega
    rw [whole]
    exact Nat.dvd_add (Nat.dvd_mul_right b _) dvd_rfl

/-- After a step that does not fit, some number of further dequeues leads WaitOnPause into a batch
or to the division by zero. -/
theorem misfit_splits (hi : Inv w) {step : BatchStep M} (h : Step u w step w')
    (misfit : ¬w.Fits u step) :
    ∃ j,¬Whole w'.handler.batchSize ((w'.handler.currentFrameNumber+j)%2^32) (w'.dequeued+j) := by
  cases h
  rcases perform_after (u := u) w step with
    ⟨env,rfl⟩|⟨client,rfl⟩|⟨fits_iff,submit,c,same,handler,reconfig,queues,batch⟩
  · simp only [Fits,Classical.not_imp] at misfit
    obtain ⟨took,wraps,odd⟩ := misfit
    have moved := thread_step w.thread env hi.outputs
    have zero : (w.thread.step env).handler.currentFrameNumber=0 := by
      rw [moved.counter,if_pos took]
      show frameAfter w.handler.currentFrameNumber=0
      unfold frameAfter
      omega
    have counted : (w.onThread (w.thread.step env)).dequeued=w.dequeued+1 := if_pos took
    refine ⟨0,fun whole => odd ?_⟩
    show w.handler.batchSize∣2^32
    have stop : (w.thread.step env).handler.batchSize∣
        (w.onThread (w.thread.step env)).dequeued := by
      refine whole.2 ?_
      show _∣((w.thread.step env).handler.currentFrameNumber+0)%2^32
      rw [zero]
      exact Nat.dvd_zero _
    rw [counted,moved.batchSize] at stop
    rw [← wraps]
    exact ((hi.aligned.add_right 1).dvd_iff dvd_rfl).mpr stop
  · exact absurd trivial misfit
  · rw [fits_iff,same] at misfit
    obtain ⟨finished,odd⟩ := Classical.not_imp.mp misfit
    obtain ⟨counter,-,ends⟩ := after_cases w handler reconfig queues
    rcases ends with ⟨open_,-⟩|⟨-,dequeued,given⟩
    · have both := finished.symm.trans open_
      cases both
    · rw [same,counter,dequeued,given,batch finished]
      simpa using splits_later hi.counter odd

/-- In a run of steps that fit WaitOnPause pauses between batches; after a step that does not fit,
it comes to pause inside one, or to divide by zero, once so many more requests are dequeued. -/
theorem pauses_between {s : SubmitClient M} (hs : Start s) {steps : List (BatchStep M)}
    (hr : Run (Guarded (Fits u) (Step u)) { submit := s } steps w) :
    w.PausesBetween ∧ ∀ step w',Step u w step w' → ¬w.Fits u step →
      ∃ j,¬Whole w'.handler.batchSize ((w'.handler.currentFrameNumber+j)%2^32) (w'.dequeued+j) := by
  have inv : Inv w := hr.invariant (fun _ _ _ hi hstep => step_inv hi hstep.2 hstep.1) (start_inv hs)
  exact ⟨inv.pausesBetween,fun step w' h misfit => misfit_splits inv h misfit⟩

section Tests

open StreamCalls (RequestPack previewCalls calmCalls strayRequest)

instance (u : BufferUsage) (w : BatchWorld M) (step : BatchStep M) : Decidable (w.Fits u step) :=
  match step with
  | .thread env => inferInstanceAs (Decidable ((w.thread.step env).point=.submitRequest →
      w.handler.currentFrameNumber+1=2^32 → w.handler.batchSize∣2^32))
  | .elsewhere _ => isTrue trivial
  | .endConfigure streamConfig env => inferInstanceAs (Decidable
      (w.submit.client.finishes (w.perform u (.endConfigure streamConfig env)).submit.client=true →
        streamConfig.batchSize≠0 ∧ streamConfig.batchSize∣w.handler.currentFrameNumber))
  | .configureStreamsLocked env => inferInstanceAs (Decidable
      (w.submit.client.finishes (w.perform u (.configureStreamsLocked env)).submit.client=true →
        w.submit.client.batchSize≠0 ∧ w.submit.client.batchSize∣w.handler.currentFrameNumber))
  | .submitRequestList requests streaming env => inferInstanceAs (Decidable
      (w.submit.client.finishes
          (w.perform u (.submitRequestList requests streaming env)).submit.client=true →
        w.submit.client.batchSize≠0 ∧ w.submit.client.batchSize∣w.handler.currentFrameNumber))
  | .togglePause pause => inferInstanceAs (Decidable
      (w.submit.client.finishes (w.perform u (.togglePause pause)).submit.client=true →
        w.submit.client.batchSize≠0 ∧ w.submit.client.batchSize∣w.handler.currentFrameNumber))

def calmLoop : BatchStep RequestPack := .thread ⟨false,false⟩

/-- So many requests are sent, the client is then configured for batches of two, takes two more
requests of which the first is sent, and is paused. -/
def pauseAfter (sent : Nat) : List (BatchStep RequestPack) :=
  .submitRequestList (List.replicate sent (strayRequest [])) false calmCalls::
    List.replicate (3*sent) calmLoop++
    [.elsewhere { previewCalls.submit.client with reconfig := true },
      .endConfigure ⟨false,2,none⟩ ⟨calmCalls.toClientEnv,true,false⟩,
      .submitRequestList [strayRequest [],strayRequest []] false calmCalls,
      calmLoop,calmLoop,calmLoop,.togglePause true]

theorem previewCalls_start : Start previewCalls.submit := ⟨0,true,true,rfl⟩

theorem pauses_between_batches : ∃ w,
    Run (Guarded (Fits .android) (Step .android)) { submit := previewCalls.submit } (pauseAfter 2)
      w ∧ w.dequeued=1 ∧ w.PausesBetween := by
  obtain ⟨w,run,dequeued⟩ := Run.of_exec_guarded (G := Fits .android)
    (f := fun w step => some (perform .android w step))
    (p := fun w : BatchWorld RequestPack => decide (w.dequeued=1))
    { submit := previewCalls.submit } (pauseAfter 2) (fun _ _ _ h => (Option.some.inj h).symm)
    (by decide)
  exact ⟨w,run,of_decide_eq_true dequeued,(pauses_between previewCalls_start run).1⟩

/-- An odd number of requests before the batches of two: the handler pauses after one of a pair. -/
theorem pauses_inside_batch : ¬∀ (u : BufferUsage) (s : SubmitClient RequestPack) steps w,
    Start s → Run (Step u) { submit := s } steps w → w.PausesBetween := by
  intro all
  obtain ⟨w,run,inside⟩ := Run.of_exec_any (p := fun w : BatchWorld RequestPack =>
      decide (w.point=.waitOnPause ∧ w.handler.pausedState=false ∧
        (w.thread.step ⟨false,false⟩).handler.pausedState=true ∧ ¬w.handler.batchSize∣w.dequeued))
    (f := fun w step => some (perform .android w step)) { submit := previewCalls.submit }
    (pauseAfter 1) (fun _ _ _ h => (Option.some.inj h).symm) (by decide)
  obtain ⟨point,running,paused,odd⟩ := of_decide_eq_true inside
  have whole := all .android _ _ w previewCalls_start run
  exact odd (whole.pauses (Or.inl point) _ running paused)

end Tests

end BatchWorld
end IotMedia.Camera
