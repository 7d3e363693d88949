import IotMedia.Camera.RequestHandler
import IotMedia.Camera.Notify
import IotMedia.Framework.Fifo
import IotMedia.Framework.Run

namespace IotMedia.Camera

open IotMedia.Framework PendingRequests RequestHandler

/-- How a request leaves requests_. -/
inductive Consumption (M : Type)
  | dequeued (request : CaptureRequest M)
  | reported (errorCode : CameraErrorCode) (resultExtras : CaptureResultExtras)

/-- The `k`-th request to leave is dequeued or reported, under the `k`-th frame number. -/
def Consumption.Of {M : Type} (k : Nat) (a : CaptureRequest M) (c : Consumption M) : Prop :=
  c=.dequeued (a.number (k%2^32)) ∨
  c=.reported .ERROR_CAMERA_REQUEST (a.number (k%2^32)).resultExtras

/-- The handler, its client's pending requests, and the request its thread works on with whether
that one was marked; `appended` is all that was ever put into requests_. -/
structure QueueWorld (M : Type) where
  handler : RequestHandler M
  client : PendingRequests M
  inFlight : Option (CaptureRequest M × Bool) := none
  appended : List (CaptureRequest M) := []
  consumed : List (Consumption M) := []

/-- The calls on the handler, the steps of its thread, and the messages of the HAL. -/
inductive QueueStep (M : Type)
  | queueRequestList (requests : List (CaptureRequest M))
  | setRepeatingRequests (requests : List (CaptureRequest M))
  | clearRepeatingRequests
  | clear
  | getRequest
  | getRequestWoken (exitPending : Bool)
  | markPendingRequest (numBuffers : Int)
  | submitted
  | notifyShutter (frameNumber : Nat) (timestamp : Int)
  | handleCaptureResult (result : CaptureResult)
  | notifyError (errorCode : ErrorCode) (frameNumber : Nat)

def HandlerEffect.consumption {M : Type} : HandlerEffect → Option (Consumption M)
  | .errorCb code extras => some (.reported code extras)
  | _ => none

namespace QueueWorld

variable {M : Type} [CameraMetadata M]

/-- GetRequest returned `request`; an empty queue had been filled with the repeating burst. -/
def took (w : QueueWorld M) (handler : RequestHandler M) (request : CaptureRequest M) :
    QueueWorld M :=
  { w with
    handler := handler
    inFlight := some (request,false)
    appended := if w.handler.requests=[] then w.appended++w.handler.streamingRequests
      else w.appended
    consumed := w.consumed++[.dequeued request] }

def perform (w : QueueWorld M) : QueueStep M → QueueWorld M
  | .queueRequestList requests =>
    { w with
      handler := (w.handler.queueRequestList requests).1
      appended := w.appended++requests }
  | .setRepeatingRequests requests =>
    { w with handler := (w.handler.setRepeatingRequests requests).1 }
  | .clearRepeatingRequests => { w with handler := w.handler.clearRepeatingRequests.1 }
  | .clear =>
    { w with
      handler := w.handler.clear.1
      consumed := w.consumed++w.handler.clear.2.2.filterMap HandlerEffect.consumption }
  | .getRequest =>
    match w.handler.getRequest with
    | some got => w.took got.1 got.2.1
    | none => w
  | .getRequestWoken exitPending =>
    match (w.handler.getRequestWoken exitPending).2.1 with
    | some request => w.took (w.handler.getRequestWoken exitPending).1 request
    | none => { w with handler := (w.handler.getRequestWoken exitPending).1 }
  | .markPendingRequest numBuffers =>
    match w.inFlight with
    | some (r,_) =>
      { w with
        client := w.client.markPendingRequest r.resultExtras.frameNumber numBuffers r.resultExtras
        inFlight := some (r,true) }
    | none => w
  | .submitted => { w with inFlight := none }
  | .notifyShutter f ts => { w with client := (w.client.notifyShutter f ts).1 }
  | .handleCaptureResult result => { w with client := (w.client.handleCaptureResult result).1 }
  | .notifyError code f => { w with client := (w.client.notifyError code f).1 }

/-- Output requests only; the thread gets a request when it has none, and marks it once. -/
def Allowed (w : QueueWorld M) : QueueStep M → Prop
  | .queueRequestList requests => ∀ r∈requests,r.input=false
  | .setRepeatingRequests requests => ∀ r∈requests,r.input=false
  | .getRequest => w.inFlight=none
  | .getRequestWoken _ => w.inFlight=none
  | .markPendingRequest _ => ∃ r,w.inFlight=some (r,false)
  | .submitted => ∃ r,w.inFlight=some r
  | _ => True

def Step (w : QueueWorld M) (step : QueueStep M) (w' : QueueWorld M) : Prop :=
  w.Allowed step ∧ w'=w.perform step

/-- An initialized handler whose client has registered nothing. -/
structure Start (w : QueueWorld M) : Prop where
  handler : ∃ monitorId markCb,w.handler=RequestHandler.construct monitorId true markCb
  unregistered : ∀ f,w.client.pendingRequests.valueFor f=none
  inFlight : w.inFlight=none
  appended : w.appended=[]
  consumed : w.consumed=[]

/-- Every request ever appended still waits or left once, in order, under consecutive frame
numbers. -/
def Conserved (w : QueueWorld M) : Prop :=
  Conserves Consumption.Of w.appended w.handler.requests w.consumed

/-- The frame number of a request not yet marked is not registered; the counter may wrap with
the 2^32-th consumption. -/
def MarksFresh (w : QueueWorld M) : Prop :=
  ∀ r,w.inFlight=some (r,false) → w.consumed.length≤2^32 →
    w.client.pendingRequests.valueFor r.resultExtras.frameNumber=none

/-- The registered frames are among the first `n`. -/
def RegisteredBelow (w : QueueWorld M) (n : Nat) : Prop :=
  ∀ f,(w.client.pendingRequests.valueFor f).isSome → ∃ j,j<n ∧ f=j%2^32

structure Inv (w : QueueWorld M) : Prop where
  conserved : w.Conserved
  counter : w.handler.currentFrameNumber=w.consumed.length%2^32
  installed : w.handler.errorCb=true
  outputs : ∀ r∈w.handler.requests,r.input=false
  repeating : ∀ r∈w.handler.streamingRequests,r.input=false
  registered : w.RegisteredBelow w.consumed.length
  unmarked : ∀ r,w.inFlight=some (r,false) → ∃ i,i<w.consumed.length ∧
    r.resultExtras.frameNumber=i%2^32 ∧ w.RegisteredBelow i

variable {w w' : QueueWorld M}

omit [CameraMetadata M] in
theorem RegisteredBelow.mono {n m : Nat} (h : w.RegisteredBelow n) (hm : n ≤ m) :
    w.RegisteredBelow m := by
  intro f hf
  obtain ⟨j,hj,same⟩ := h f hf
  exact ⟨j,by omega,same⟩

omit [CameraMetadata M] in
theorem Inv.marksFresh (hi : Inv w) : w.MarksFresh := by
  intro r hr bound
  obtain ⟨i,hi,number,below⟩ := hi.unmarked r hr
  rw [← Option.not_isSome_iff_eq_none]
  intro registered
  obtain ⟨j,hj,same⟩ := below _ registered
  rw [number,Nat.mod_eq_of_lt (by omega),Nat.mod_eq_of_lt (by omega)] at same
  omega

omit [CameraMetadata M] in
/-- Steps that neither consume a request nor register a frame. -/
theorem Inv.keep (hi : Inv w) (hc : w'.Conserved) (hf : w'.inFlight=w.inFlight ∨ w'.inFlight=none)
    (hn : w'.consumed=w.consumed)
    (hcounter : w'.handler.currentFrameNumber=w.handler.currentFrameNumber)
    (hcb : w'.handler.errorCb=w.handler.errorCb)
    (hout : ∀ r∈w'.handler.requests,r.input=false)
    (hrep : ∀ r∈w'.handler.streamingRequests,r.input=false)
    (hreg : ∀ f,w.client.pendingRequests.valueFor f=none →
      w'.client.pendingRequests.valueFor f=none) : Inv w' := by
  have below : ∀ n,w.RegisteredBelow n → w'.RegisteredBelow n := by
    intro n hb f hf
    cases hv : w.client.pendingRequests.valueFor f with
    | none => simp [hreg f hv] at hf
    | some q => exact hb f (by simp [hv])
  refine ⟨hc,?_,?_,hout,hrep,?_,?_⟩
  · rw [hcounter,hn]
    exact hi.counter
  · rw [hcb]
    exact hi.installed
  · rw [hn]
    exact below _ hi.registered
  · intro r hr
    cases hf with
    | inl same =>
      obtain ⟨i,hlt,number,hb⟩ := hi.unmarked r (by rw [← same]; exact hr)
      exact ⟨i,by rw [hn]; exact hlt,number,below i hb⟩
    | inr gone => simp [gone] at hr

omit [CameraMetadata M] in
theorem reportAll_length (n : Nat) (rs : List (CaptureRequest M)) :
    ((reportAll n rs).2.filterMap (HandlerEffect.consumption (M := M))).length=rs.length := by
  induction rs generalizing n with
  | nil => rfl
  | cons r rs ih =>
    have rest := ih (frameAfter n)
    simpa [reportAll,HandlerEffect.consumption] using rest

omit [CameraMetadata M] in
theorem reportAll_counter (c : Nat) (rs : List (CaptureRequest M)) :
    (reportAll (c%2^32) rs).1=(c+rs.length)%2^32 := by
  induction rs generalizing c with
  | nil => rfl
  | cons r rs ih =>
    have next : frameAfter (c%2^32)=(c+1)%2^32 := by
      unfold frameAfter
      omega
    simp only [reportAll,next,ih (c+1),List.length_cons]
    congr 1
    omega

omit [CameraMetadata M] in
/-- Clear reports each request under the next frame number. -/
theorem reportAll_of (c : Nat) (rs : List (CaptureRequest M)) (k : Nat) (a : CaptureRequest M)
    (b : Consumption M) (ha : rs[k]?=some a)
    (hb : ((reportAll (c%2^32) rs).2.filterMap HandlerEffect.consumption)[k]?=some b) :
    b.Of (c+k) a := by
  induction rs generalizing c k with
  | nil => simp at ha
  | cons r rs ih =>
    have next : frameAfter (c%2^32)=(c+1)%2^32 := by
      unfold frameAfter
      omega
    simp only [reportAll,next,List.filterMap_cons,HandlerEffect.consumption] at hb
    cases k with
    | zero =>
      cases Option.some.inj ha
      cases Option.some.inj hb
      exact Or.inr rfl
    | succ k =>
      have rest := ih (c+1) k (by simpa using ha) (by simpa using hb)
      have index : c+1+k=c+(k+1) := by omega
      rw [index] at rest
      exact rest

omit [CameraMetadata M] in
/-- Without input requests the next request is the head of the queue, filled if it was empty. -/
theorem nextRequest_output {s t : RequestHandler M} {r : CaptureRequest M}
    (hq : ∀ q∈s.requests,q.input=false) (h : s.nextRequest=some (t,r)) :
    ∃ a rest,(if s.requests=[] then s.streamingRequests else s.requests)=a::rest ∧
      r=a.number s.currentFrameNumber ∧ t.requests=rest ∧
      t.currentFrameNumber=frameAfter s.currentFrameNumber ∧
      t.streamingRequests=s.streamingRequests ∧ t.errorCb=s.errorCb := by
  unfold nextRequest at h
  cases hr : s.requests with
  | nil =>
    cases hs : s.streamingRequests with
    | nil => simp [hr,hs] at h
    | cons a rest =>
      simp only [hr,hs,Option.some.injEq,Prod.mk.injEq] at h
      obtain ⟨rfl,rfl⟩ := h
      exact ⟨a,rest,by simp,rfl,rfl,rfl,rfl,rfl⟩
  | cons a rest =>
    have no_input : (a::rest).find? (fun q => q.input)=none := by
      rw [List.find?_eq_none]
      intro q hm
      rw [hq q (by rw [hr]; exact hm)]
      decide
    simp only [hr,no_input,Option.some.injEq,Prod.mk.injEq] at h
    obtain ⟨rfl,rfl⟩ := h
    exact ⟨a,rest,by simp,rfl,rfl,rfl,rfl,rfl⟩

/-- A request leaves the queue for the thread. -/
theorem took_inv (hi : Inv w) {next got : RequestHandler M} {r : CaptureRequest M}
    (h : w.handler.nextRequest=some (next,r)) (hg : got=(next.takeRequest r).1) :
    Inv (w.took got r) := by
  obtain ⟨a,rest,queue,rfl,left,counter,streaming,installed⟩ := nextRequest_output hi.outputs h
  have filled : Conserves Consumption.Of (w.took got (a.number w.handler.currentFrameNumber)).appended
      (a::rest) w.consumed := by
    have conserved := hi.conserved
    unfold Conserved at conserved
    unfold took
    dsimp only
    split_ifs at queue ⊢ with empty
    · rw [empty] at conserved
      rw [← queue]
      simpa using conserved.append w.handler.streamingRequests
    · rw [← queue]
      exact conserved
  have inputs : ∀ q∈a::rest,q.input=false := by
    intro q hq
    rw [← queue] at hq
    split_ifs at hq
    · exact hi.repeating q hq
    · exact hi.outputs q hq
  have length : (w.took got (a.number w.handler.currentFrameNumber)).consumed.length=
      w.consumed.length+1 := by simp [took]
  have now : w.handler.currentFrameNumber=w.consumed.length%2^32 := hi.counter
  rw [hg]
  refine ⟨?_,?_,?_,?_,?_,?_,?_⟩
  · have out := filled.consume (b := .dequeued (a.number w.handler.currentFrameNumber))
      (Or.inl (by rw [now]))
    rw [← left] at out
    exact out
  · show next.currentFrameNumber=_
    rw [← hg,length,counter,now]
    unfold frameAfter
    omega
  · show next.errorCb=true
    rw [installed]
    exact hi.installed
  · show ∀ q∈next.requests,q.input=false
    intro q hq
    rw [left] at hq
    exact inputs q (List.mem_cons_of_mem a hq)
  · show ∀ q∈next.streamingRequests,q.input=false
    rw [streaming]
    exact hi.repeating
  · rw [← hg,length]
    exact hi.registered.mono (by omega)
  · intro q hq
    obtain rfl : a.number w.handler.currentFrameNumber=q := by
      simpa [took] using hq
    refine ⟨w.consumed.length,?_,now,hi.registered⟩
    rw [← hg,length]
    omega

theorem getRequest_next {s : RequestHandler M}
    {got : RequestHandler M × CaptureRequest M × List HandlerEffect}
    (h : s.getRequest=some got) :
    ∃ next,s.nextRequest=some (next,got.2.1) ∧ got.1=(next.takeRequest got.2.1).1 := by
  unfold getRequest at h
  cases hn : s.nextRequest with
  | none => simp [hn] at h
  | some next =>
    rw [hn] at h
    cases Option.some.inj h
    exact ⟨next.1,rfl,rfl⟩

theorem clear_inv (hi : Inv w) : Inv (w.perform .clear) := by
  have now : w.handler.currentFrameNumber=w.consumed.length%2^32 := hi.counter
  have reports : w.handler.clear.2.2=(reportAll (w.consumed.length%2^32) w.handler.requests).2 := by
    simp only [RequestHandler.clear,hi.installed,if_true,now]
  have all : (w.handler.clear.2.2.filterMap (HandlerEffect.consumption (M := M))).length=
      w.handler.requests.length := by
    rw [reports]
    exact reportAll_length _ _
  have length : (w.perform .clear).consumed.length=w.consumed.length+w.handler.requests.length := by
    simp only [perform,List.length_append,all]
  refine ⟨?_,?_,hi.installed,?_,?_,?_,?_⟩
  · have conserved := hi.conserved
    unfold Conserved at conserved
    rw [← List.append_nil w.handler.requests] at conserved
    apply conserved.drain all.symm
    intro k a b ha hb
    rw [reports] at hb
    exact reportAll_of _ _ k a b ha hb
  · show w.handler.clear.1.currentFrameNumber=_
    rw [length,← reportAll_counter]
    simp only [RequestHandler.clear,hi.installed,if_true,now]
  · intro r hr
    simp [perform,RequestHandler.clear] at hr
  · intro r hr
    simp [perform,RequestHandler.clear] at hr
  · rw [length]
    exact hi.registered.mono (by omega)
  · intro r hr
    obtain ⟨i,hlt,number,below⟩ := hi.unmarked r hr
    exact ⟨i,by rw [length]; omega,number,below⟩

theorem mark_inv (hi : Inv w) {r : CaptureRequest M} (hr : w.inFlight=some (r,false)) (n : Int) :
    Inv (w.perform (.markPendingRequest n)) := by
  obtain ⟨i,hlt,number,below⟩ := hi.unmarked r hr
  have done : w.perform (.markPendingRequest n)={ w with
      client := w.client.markPendingRequest r.resultExtras.frameNumber n r.resultExtras
      inFlight := some (r,true) } := by simp only [perform,hr]
  rw [done]
  refine ⟨hi.conserved,hi.counter,hi.installed,hi.outputs,hi.repeating,?_,?_⟩
  · intro f hf
    by_cases same : f=r.resultExtras.frameNumber
    · exact ⟨i,hlt,by rw [same,number]⟩
    · apply hi.registered f
      simpa [markPendingRequest,same] using hf
  · intro q hq
    simp at hq

omit [CameraMetadata M] in
/-- A handler of HAL messages registers no frame. -/
theorem handled_inv (hi : Inv w) {o : PendingRequests M × List (ResultEvent M)} {f : Nat}
    (ht : Touches f w.client o)
    (hf : w.client.pendingRequests.valueFor f=none → o.1.pendingRequests.valueFor f=none) :
    Inv { w with client := o.1 } := by
  refine hi.keep hi.conserved (Or.inl rfl) rfl rfl rfl hi.outputs hi.repeating ?_
  intro g hg
  by_cases same : g=f
  · rw [same] at hg ⊢
    exact hf hg
  · rw [ht.pending g same]
    exact hg

omit [CameraMetadata M] in
theorem notifyError_absent (s : PendingRequests M) (code : ErrorCode) {f g : Nat}
    (h : s.pendingRequests.valueFor g=none) :
    (s.notifyError code f).1.pendingRequests.valueFor g=none := by
  by_cases hc : code.perFrame
  · have touched := s.notifyError_touches hc f
    by_cases same : g=f
    · rw [same] at h ⊢
      cases code <;> simp [notifyError,h]
    · rw [touched.pending g same]
      exact h
  · cases code <;> simp_all [ErrorCode.perFrame,notifyError]

theorem step_inv (hi : Inv w) (step : QueueStep M) (h : Step w step w') : Inv w' := by
  rw [h.2]
  have allowed := h.1
  cases step with
  | queueRequestList rs =>
    obtain ⟨paused,same⟩ := resume_eq { w.handler with requests := w.handler.requests++rs }
    simp only [perform,queueRequestList,same]
    refine hi.keep (hi.conserved.append rs) (Or.inl rfl) rfl rfl rfl ?_ hi.repeating fun _ hf => hf
    intro r hr
    cases List.mem_append.mp hr with
    | inl old => exact hi.outputs r old
    | inr new => exact allowed r new
  | setRepeatingRequests rs =>
    obtain ⟨paused,same⟩ := resume_eq { w.handler with streamingRequests := rs }
    simp only [perform,setRepeatingRequests,same]
    exact hi.keep hi.conserved (Or.inl rfl) rfl rfl rfl hi.outputs allowed fun _ hf => hf
  | clearRepeatingRequests =>
    exact hi.keep hi.conserved (Or.inl rfl) rfl rfl rfl hi.outputs
      (fun r hr => by simp [perform,RequestHandler.clearRepeatingRequests] at hr) fun _ hf => hf
  | clear => exact clear_inv hi
  | getRequest =>
    cases hg : w.handler.getRequest with
    | none =>
      simp only [perform,hg]
      exact hi
    | some got =>
      simp only [perform,hg]
      obtain ⟨next,hn,same⟩ := getRequest_next hg
      exact took_inv hi hn same
  | getRequestWoken exitPending =>
    rcases w.handler.getRequestWoken_cases exitPending with ⟨paused,l,same⟩|⟨got,hg,woken⟩
    · simp only [perform,same]
      exact hi.keep hi.conserved (Or.inl rfl) rfl rfl rfl hi.outputs hi.repeating fun _ hf => hf
    · simp only [perform,woken]
      obtain ⟨next,hn,same⟩ := getRequest_next hg
      exact took_inv hi hn same
  | markPendingRequest n =>
    obtain ⟨r,hr⟩ := allowed
    exact mark_inv hi hr n
  | submitted =>
    exact hi.keep hi.conserved (Or.inr rfl) rfl rfl rfl hi.outputs hi.repeating fun _ hf => hf
  | notifyShutter f ts =>
    apply handled_inv hi (w.client.notifyShutter_touches f ts)
    intro hf
    rw [PendingRequests.notifyShutter_absent hf]
    exact hf
  | handleCaptureResult result =>
    apply handled_inv hi (w.client.handleCaptureResult_touches result)
    intro hf
    rcases w.client.handleCaptureResult_cases result with
      ⟨-,-,h⟩|⟨-,⟨-,e,h⟩|⟨queue,md,-,⟨-,-,h⟩|⟨-,-,h⟩|⟨r,hv,-⟩⟩⟩
    · rw [h]
      exact hf
    · rw [h]
      exact hf
    · rw [h]
      exact hf
    · rw [h]
      exact hf
    · simp [hf] at hv
  | notifyError code f =>
    exact hi.keep hi.conserved (Or.inl rfl) rfl rfl rfl hi.outputs hi.repeating
      fun _ hg => notifyError_absent w.client code hg

theorem start_inv (hs : Start w) : Inv w := by
  obtain ⟨monitorId,markCb,handler⟩ := hs.handler
  refine ⟨?_,?_,?_,?_,?_,?_,?_⟩
  · rw [Conserved,handler,hs.appended,hs.consumed]
    exact Conserves.empty
  · rw [handler,hs.consumed]
    rfl
  · rw [handler]
    rfl
  · rw [handler]
    intro r hr
    simp [RequestHandler.construct] at hr
  · rw [handler]
    intro r hr
    simp [RequestHandler.construct] at hr
  · intro f hf
    simp [hs.unregistered f] at hf
  · intro r hr
    simp [hs.inFlight] at hr

/-- In every run each appended request is consumed once, in order and under consecutive frame
numbers, and no marked frame number is registered already. -/
theorem requests_conserved {w w' : QueueWorld M} {steps : List (QueueStep M)} (hs : Start w)
    (hr : Run Step w steps w') : w'.Conserved ∧ w'.MarksFresh := by
  have inv : Inv w' := hr.invariant (fun _ step _ hi h => step_inv hi step h) (start_inv hs)
  exact ⟨inv.conserved,inv.marksFresh⟩

def plainRequest (requestId : Int) : CaptureRequest PlainMetadata :=
  ⟨⟨[]⟩,[0],⟨requestId,0,0,0,false⟩,false⟩

def plainQueue : QueueWorld PlainMetadata := ⟨RequestHandler.construct 0 true true,plain,none,[],[]⟩

theorem plainQueue_start : Start plainQueue := ⟨⟨0,true,rfl⟩,fun _ => rfl,rfl,rfl,rfl⟩

/-- A burst is begun, a queued request flushed behind its rest, and the next one numbered 3. -/
def burstSteps : List (QueueStep PlainMetadata) :=
  [.setRepeatingRequests [plainRequest 7,plainRequest 7],.getRequest,.markPendingRequest 1,
    .submitted,.queueRequestList [plainRequest 8],.clear,.queueRequestList [plainRequest 9],
    .getRequestWoken false]

theorem requests_conserved_burst : ∃ w',Start plainQueue ∧ Run Step plainQueue burstSteps w' ∧
    w'.consumed.length=4 ∧ w'.Conserved ∧ w'.MarksFresh := by
  have run : Run Step plainQueue burstSteps (burstSteps.foldl perform plainQueue) := by
    apply Run.of_follows (a := Allowed) (fun _ _ h => ⟨h,rfl⟩)
    refine ⟨?_,rfl,⟨_,rfl⟩,⟨_,rfl⟩,?_,trivial,?_,rfl,trivial⟩
    · intro r hr
      simp only [List.mem_cons,List.not_mem_nil,or_false] at hr
      rcases hr with rfl|rfl <;> rfl
    · intro r hr
      cases List.mem_singleton.mp hr
      rfl
    · intro r hr
      cases List.mem_singleton.mp hr
      rfl
  exact ⟨_,plainQueue_start,run,rfl,requests_conserved plainQueue_start run⟩

end QueueWorld
end IotMedia.Camera
