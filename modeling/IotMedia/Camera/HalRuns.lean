import IotMedia.Camera.Notify
import IotMedia.Framework.Run

namespace IotMedia.Camera

open IotMedia.Framework PendingRequests

/-- What the HAL has sent for a registered frame; `error` is a notification that stands in
for the missing metadata or shutter. -/
structure FrameRecord where
  numBuffers : Nat
  reported : List StreamBuffer := []
  shutter : Bool := false
  finalMeta : Bool := false
  error : Bool := false
  deriving DecidableEq

/-- Nothing more has to come for the frame. -/
def FrameRecord.Done (rec : FrameRecord) : Prop :=
  rec.reported.length=rec.numBuffers ∧
    (rec.shutter=true ∧ rec.finalMeta=true ∨ rec.error=true)

instance (rec : FrameRecord) : Decidable rec.Done := inferInstanceAs (Decidable (_∧(_∧_∨_)))

/-- The notification says that the frame's metadata or shutter will not come. -/
def ErrorCode.standsIn (code : ErrorCode) : Bool :=
  code=.ERROR_REQUEST || code=.ERROR_RESULT

/-- The client together with what the HAL has sent: the frames, the order of shutters and of
final metadata, and what the client did. -/
structure HalWorld (M : Type) where
  client : PendingRequests M
  frames : Nat → Option FrameRecord := fun _ => none
  nextShutter : Nat := 0
  nextFinal : Nat := 0
  log : List (ResultEvent M) := []

inductive HalMessage
  | markPendingRequest (frameNumber numBuffers : Nat) (resultExtras : CaptureResultExtras)
  | shutter (frameNumber : Nat) (timestamp : Int)
  | captureResult (result : CaptureResult)
  | error (code : ErrorCode) (frameNumber : Nat)
  | writeMetadata (bytes : List UInt8)
  | flush (ongoing : Bool)

namespace HalWorld

variable {M : Type}

/-- The HAL's obligations on a result: no more buffers than registered, metadata parts in
range, final metadata once and in frame order, and the announced bytes in the queue. -/
structure LegalResult (w : HalWorld M) (rec : FrameRecord) (result : CaptureResult) : Prop where
  room : rec.reported.length+result.outputBuffers.length ≤ rec.numBuffers
  noInput : result.inputBuffer=false
  single : w.client.isPartialResultSupported=false → result.result≠[] → result.partialResult=1
  inRange : w.client.PartialInRange result
  once : w.client.carriesFinal result=true → rec.finalMeta=false
  order : w.client.carriesFinal result=true → w.nextFinal ≤ result.frameNumber
  readable : w.client.Readable result.fmqResultSize

/-- What a legal HAL, and the handler that registers fresh frame numbers, may send. -/
def Legal (w : HalWorld M) : HalMessage → Prop
  | .markPendingRequest f _ _ => w.frames f=none
  | .shutter f ts => 0<ts ∧ w.nextShutter≤f ∧ ∃ rec,w.frames f=some rec ∧ rec.shutter=false
  | .captureResult result =>
    ∃ rec,w.frames result.frameNumber=some rec ∧ w.LegalResult rec result
  | .error code f => code.perFrame ∧ ∃ rec,w.frames f=some rec
  | .writeMetadata _ => True
  | .flush _ => True

/-- Whatever the HAL is done with has left the pending map, each buffer returned once. -/
def Settled (w : HalWorld M) : Prop :=
  ∀ f rec,w.frames f=some rec → rec.Done →
    w.client.pendingRequests.valueFor f=none ∧ returnedFor f w.log=rec.reported

/-- No ERROR_REQUEST or ERROR_RESULT comes for an entry all of whose buffers have arrived. -/
def Timely (w : HalWorld M) : HalMessage → Prop
  | .error code f => code.standsIn=true →
    ∀ r,w.client.pendingRequests.valueFor f=some r → r.buffersRemaining≠0
  | _ => True

/-- The entry agrees with what the HAL has sent for the frame. -/
structure Tracks (rec : FrameRecord) (r : PendingRequest M) (returned : List StreamBuffer) :
    Prop where
  remaining : r.buffersRemaining=rec.numBuffers-rec.reported.length
  room : rec.reported.length ≤ rec.numBuffers
  shutter : rec.shutter=true → 0 < r.shutterTS
  noShutter : rec.shutter=false → r.shutterTS=0
  final : r.isMetaPresent=rec.finalMeta
  error : rec.error=true → r.status≠none
  held : r.pendingBuffers=if rec.shutter then [] else rec.reported
  returned : returned=if rec.shutter then rec.reported else []

/-- A registered frame: its entry tracks it and is not done, or is gone with all returned. -/
def FrameOk (rec : FrameRecord) (entry : Option (PendingRequest M))
    (returned : List StreamBuffer) : Prop :=
  match entry with
  | some r => Tracks rec r returned ∧ ¬rec.Done
  | none => rec.reported.length=rec.numBuffers ∧ returned=rec.reported

structure Inv (w : HalWorld M) : Prop where
  known : ∀ f rec,w.frames f=some rec →
    FrameOk rec (w.client.pendingRequests.valueFor f) (returnedFor f w.log)
  unknown : ∀ f,w.frames f=none →
    w.client.pendingRequests.valueFor f=none ∧ returnedFor f w.log=[]
  shutters : ∀ i,w.client.expectedShutter i≤w.nextShutter

variable {w w' : HalWorld M} {msg : HalMessage} {rec : FrameRecord} {r : PendingRequest M}
  {f : Nat} {o : PendingRequests M × List (ResultEvent M)} {before ret : List StreamBuffer}
  {errors : List SetError}

theorem Inv.settled (hi : Inv w) : w.Settled := by
  intro f rec hf hd
  have ok := hi.known f rec hf
  cases hv : w.client.pendingRequests.valueFor f with
  | none =>
    rw [hv] at ok
    exact ⟨rfl,ok.2⟩
  | some r =>
    rw [hv] at ok
    exact absurd hd ok.2

theorem Tracks.complete_of_done (ht : Tracks rec r before) (hd : rec.Done) : r.complete=true := by
  have none_left : r.buffersRemaining=0 := by
    have := ht.remaining
    have := hd.1
    omega
  unfold PendingRequest.complete
  cases hd.2 with
  | inl both =>
    have ts := ht.shutter both.1
    have : r.shutterTS≠0 := by omega
    simp [none_left,ht.final,both.2,this]
  | inr err => simp [none_left,ht.error err]

theorem Tracks.reported_of_complete (ht : Tracks rec r before) (hc : r.complete=true) :
    rec.reported.length=rec.numBuffers := by
  have none_left : r.buffersRemaining=0 := by
    unfold PendingRequest.complete at hc
    simp at hc
    exact hc.1
  have := ht.remaining
  omega

/-- A handler that closes an entry in step with the HAL leaves the frame in order. -/
theorem Tracks.closed (ht : Tracks rec r (before++ret)) (hc : Closes f r ret errors o) :
    FrameOk rec (o.1.pendingRequests.valueFor f) (before++returnedFor f o.2) := by
  rcases hc with ⟨hc,gone,back,-⟩|⟨hc,stays,back,-⟩
  · rw [gone,back]
    refine ⟨ht.reported_of_complete hc,?_⟩
    rw [← List.append_assoc,ht.returned,ht.held]
    cases rec.shutter <;> simp
  · rw [stays,back]
    refine ⟨ht,?_⟩
    intro hd
    rw [ht.complete_of_done hd] at hc
    cases hc

/-- The frames that a message does not concern stay in order. -/
theorem Inv.touch (hi : Inv w) (ht : Touches f w.client o) (rec' : FrameRecord) {n m : Nat}
    (hok : FrameOk rec' (o.1.pendingRequests.valueFor f)
      (returnedFor f w.log++returnedFor f o.2))
    (hs : ∀ i,o.1.expectedShutter i≤n) :
    Inv ⟨o.1,Function.update w.frames f (some rec'),n,m,w.log++o.2⟩ := by
  refine ⟨?_,?_,hs⟩
  · intro g rec hg
    by_cases hgf : g=f
    · subst g
      obtain rfl : rec'=rec := by simpa using hg
      rw [returnedFor_append]
      exact hok
    · have old : w.frames g=some rec := by simpa [hgf] using hg
      rw [returnedFor_append,ht.returned g hgf,List.append_nil,ht.pending g hgf]
      exact hi.known g rec old
  · intro g hg
    by_cases hgf : g=f
    · subst g
      simp at hg
    · have old : w.frames g=none := by simpa [hgf] using hg
      rw [returnedFor_append,ht.returned g hgf,List.append_nil,ht.pending g hgf]
      exact hi.unknown g old

variable [CameraMetadata M]

/-- One message is handled to the end. -/
def receive (w : HalWorld M) : HalMessage → HalWorld M
  | .markPendingRequest f n extras =>
    { w with
      client := w.client.markPendingRequest f n extras
      frames := Function.update w.frames f (some { numBuffers := n }) }
  | .shutter f ts =>
    let o := w.client.notifyShutter f ts
    { w with
      client := o.1
      frames := Function.update w.frames f
        ((w.frames f).map fun rec => { rec with shutter := true })
      nextShutter := f+1
      log := w.log++o.2 }
  | .captureResult result =>
    let o := w.client.handleCaptureResult result
    let isFinal := w.client.carriesFinal result
    { w with
      client := o.1
      frames := Function.update w.frames result.frameNumber
        ((w.frames result.frameNumber).map fun rec => { rec with
          reported := rec.reported++result.outputBuffers
          finalMeta := rec.finalMeta || isFinal })
      nextFinal := if isFinal then result.frameNumber+1 else w.nextFinal
      log := w.log++o.2 }
  | .error code f =>
    let o := w.client.notifyError code f
    { w with
      client := o.1
      frames := Function.update w.frames f
        ((w.frames f).map fun rec => { rec with error := rec.error || code.standsIn })
      log := w.log++o.2 }
  | .writeMetadata bytes =>
    { w with client := { w.client with
        resultMetadataQueue := w.client.resultMetadataQueue.map (·++bytes) } }
  | .flush ongoing => { w with client := { w.client with flushOnGoing := ongoing } }

/-- Every errorCb that was called is installed. ReturnOutputBuffers calls it for a buffer in error
without the test that the other callers make: an empty one throws, and the process ends. -/
def Callable (w : HalWorld M) : Prop :=
  w.client.errorCb=false → ∀ code extras,ResultEvent.errorCb code extras∉w.log

omit [CameraMetadata M] in
theorem callable_of_installed (h : w.client.errorCb=true) : w.Callable :=
  fun off => absurd (h.symm.trans off) (by decide)

structure Step (w : HalWorld M) (msg : HalMessage) (w' : HalWorld M) : Prop where
  legal : w.Legal msg
  received : w'=w.receive msg
  callable : w'.Callable

theorem frameAfter_le (f : Nat) : frameAfter f≤f+1 := Nat.mod_le _ _

theorem shutter_inv (hi : Inv w) {ts : Int} (hl : w.Legal (.shutter f ts)) :
    Inv (w.receive (.shutter f ts)) := by
  obtain ⟨hts,ho,rec,hf,hns⟩ := hl
  have ok := hi.known f rec hf
  have touched := w.client.notifyShutter_touches f ts
  have counted : ∀ i,(w.client.notifyShutter f ts).1.expectedShutter i≤f+1 := by
    intro i
    have bound := hi.shutters i
    rcases (w.client.notifyShutter_counters f ts i).1 with h|h
    · omega
    · rw [h]
      exact frameAfter_le f
  simp only [receive,hf,Option.map_some]
  apply hi.touch touched _ ?_ counted
  rcases w.client.notifyShutter_cases f ts with ⟨gone,h⟩|⟨r,called,hv,-,-,⟨late,-⟩|⟨-,st,keep,closes⟩⟩
  · rw [gone] at ok
    rw [h,gone]
    refine ⟨ok.1,?_⟩
    show returnedFor f w.log++[]=rec.reported
    rw [List.append_nil]
    exact ok.2
  · have := hi.shutters r.resultExtras.input
    omega
  · rw [hv] at ok
    have old := ok.1
    apply Tracks.closed ?_ closes
    refine ⟨old.remaining,old.room,fun _ => hts,fun h => by simp at h,old.final,
      fun h => keep (old.error h),rfl,?_⟩
    simp [old.returned,old.held,hns]

theorem error_inv (hi : Inv w) {code : ErrorCode} (hl : w.Legal (.error code f))
    (ht : w.Timely (.error code f)) : Inv (w.receive (.error code f)) := by
  obtain ⟨hc,rec,hf⟩ := hl
  have ok := hi.known f rec hf
  have touched := w.client.notifyError_touches hc f
  obtain ⟨told,quiet,-,h⟩ := w.client.notifyError_perFrame hc f
  have counted : ∀ i,(w.client.notifyError code f).1.expectedShutter i≤w.nextShutter := by
    intro i
    rw [h]
    cases hv : w.client.pendingRequests.valueFor f with
    | none => exact hi.shutters i
    | some r => exact hi.shutters i
  simp only [receive,hf,Option.map_some]
  apply hi.touch touched _ ?_ counted
  rw [h,quiet,List.append_nil]
  cases hv : w.client.pendingRequests.valueFor f with
  | none =>
    rw [hv] at ok
    show FrameOk _ (w.client.pendingRequests.valueFor f) _
    rw [hv]
    exact ok
  | some r =>
    rw [hv] at ok
    have old := ok.1
    show FrameOk _ ((w.client.store f _).pendingRequests.valueFor f) _
    rw [store_self _ hv]
    refine ⟨⟨old.remaining,old.room,old.shutter,old.noShutter,old.final,?_,old.held,old.returned⟩,?_⟩
    · intro _
      simp
    · intro hd
      cases hs : code.standsIn with
      | false => exact ok.2 (by simpa [FrameRecord.Done,hs] using hd)
      | true =>
        have left := ht hs r hv
        have := old.remaining
        have : rec.reported.length=rec.numBuffers := hd.1
        omega

theorem mark_inv (hi : Inv w) {n : Nat} {extras : CaptureResultExtras} (hf : w.frames f=none) :
    Inv (w.receive (.markPendingRequest f n extras)) := by
  have fresh := hi.unknown f hf
  have touched : Touches f w.client (w.client.markPendingRequest f n extras,[]) :=
    ⟨fun g hg => by simp [markPendingRequest,hg],fun _ _ => rfl,fun _ _ => rfl,rfl⟩
  have added : (w.client.markPendingRequest f n extras).pendingRequests.valueFor f=
      some (.construct n extras) := by
    simp [markPendingRequest,emplace,fresh.1]
  have done := hi.touch (m := w.nextFinal) touched { numBuffers := n } (by
    rw [added,fresh.2]
    refine ⟨⟨by simp [PendingRequest.construct],Nat.zero_le n,by simp,by simp [PendingRequest.construct],
      rfl,by simp,rfl,rfl⟩,?_⟩
    simp [FrameRecord.Done]) hi.shutters
  simpa [receive] using done

/-- A legal result of an entry in step with the HAL is delivered and leaves it in step. -/
theorem processResult_ok {result : CaptureResult} {queue : Option (List UInt8)} {md : List UInt8}
    (hv : w.client.pendingRequests.valueFor result.frameNumber=some r)
    (ht : Tracks rec r before) (hl : w.LegalResult rec result) :
    FrameOk { rec with
        reported := rec.reported++result.outputBuffers
        finalMeta := rec.finalMeta || w.client.carriesFinal result }
      ((({ w.client with resultMetadataQueue := queue } : PendingRequests M).processResult r result
        md).1.pendingRequests.valueFor result.frameNumber)
      (before++returnedFor result.frameNumber
        (({ w.client with resultMetadataQueue := queue } : PendingRequests M).processResult r result
          md).2) := by
  have left : r.buffersRemaining=rec.numBuffers-rec.reported.length := ht.remaining
  have room := hl.room
  rcases ({ w.client with resultMetadataQueue := queue } : PendingRequests M).processResult_cases r
    result md with ⟨q,told,e,-,-,-,hn⟩|⟨e,c,b,told,collected,-,quiet,-,h⟩
  · have short := hn hl.inRange fun hf => by rw [ht.final]; exact hl.once hf
    simp only [hl.noInput,Bool.false_eq_true,if_false] at short
    omega
  · rw [h]
    obtain ⟨q,hq,closes⟩ := deliverResult_closes
      (s := { w.client with resultMetadataQueue := queue })
      (countedResult { w.client with resultMetadataQueue := queue } r result e c b) collected result md
      (carriesFinal { w.client with resultMetadataQueue := queue } result) (by simp [hv])
    rw [returnedFor_append,quiet,List.nil_append]
    apply Tracks.closed ?_ closes
    have shutterTS : q.shutterTS=r.shutterTS := hq.shutterTS
    have pendingBuffers : q.pendingBuffers=
        r.pendingBuffers++if r.shutterTS=0 then result.outputBuffers else [] := hq.pendingBuffers
    refine ⟨?_,by simpa using room,?_,?_,?_,fun h => hq.status (ht.error h),?_,?_⟩
    · rw [hq.buffersRemaining]
      simp only [countedResult,hl.noInput,List.length_append]
      simp
      omega
    · rw [shutterTS]
      exact ht.shutter
    · rw [shutterTS]
      exact ht.noShutter
    · rw [hq.isMetaPresent]
      simp only [countedResult,ht.final]
      rfl
    · cases hs : rec.shutter with
      | false => simp [pendingBuffers,ht.held,ht.noShutter hs,hs]
      | true =>
        have ts := ht.shutter hs
        have : r.shutterTS≠0 := by omega
        simp [pendingBuffers,ht.held,hs,this]
    · cases hs : rec.shutter with
      | false => simp [countedResult,ht.returned,ht.noShutter hs,hs]
      | true => simp [countedResult,ht.returned,ht.shutter hs,hs]

theorem result_inv (hi : Inv w) {result : CaptureResult} (hl : w.Legal (.captureResult result)) :
    Inv (w.receive (.captureResult result)) := by
  obtain ⟨rec,hf,hl⟩ := hl
  have ok := hi.known result.frameNumber rec hf
  have touched := w.client.handleCaptureResult_touches result
  have counted : ∀ i,(w.client.handleCaptureResult result).1.expectedShutter i≤w.nextShutter := by
    intro i
    rw [(w.client.handleCaptureResult_counters result i).1]
    exact hi.shutters i
  simp only [receive,hf,Option.map_some]
  apply hi.touch touched _ ?_ counted
  -- a frame that is gone has reported all it had: the result brings no further buffer
  have gone_ok : w.client.pendingRequests.valueFor result.frameNumber=none →
      FrameOk (M := M) { rec with
        reported := rec.reported++result.outputBuffers
        finalMeta := rec.finalMeta || w.client.carriesFinal result } none
        (returnedFor result.frameNumber w.log) := by
    intro hv
    rw [hv] at ok
    have room := hl.room
    have full := ok.1
    have none_more : result.outputBuffers=[] := List.length_eq_zero_iff.mp (by omega)
    exact ⟨by simpa [none_more] using full,by simpa [none_more] using ok.2⟩
  rcases w.client.handleCaptureResult_cases result with
    ⟨hr,hb,h⟩|⟨-,⟨bad,-⟩|⟨queue,md,-,⟨hv,-,h⟩|⟨hv,-,h⟩|⟨r,hv,h⟩⟩⟩
  · rw [h]
    have none_final : w.client.carriesFinal result=false := by simp [carriesFinal,hr]
    simpa [hb,none_final] using ok
  · exact absurd ⟨hl.single,hl.readable⟩ bad
  · rw [h]
    simpa [hv] using gone_ok hv
  · rw [h]
    have quiet : returnedFor result.frameNumber
      [(.setErr (.invalidFrameNumber result.frameNumber) : ResultEvent M)]=[] := rfl
    simpa [hv,quiet] using gone_ok hv
  · rw [h]
    rw [hv] at ok
    exact processResult_ok hv ok.1 hl

theorem step_inv (hi : Inv w) (ht : w.Timely msg) (h : Step w msg w') : Inv w' := by
  rw [h.received]
  cases msg with
  | markPendingRequest f n extras => exact mark_inv hi h.legal
  | shutter f ts => exact shutter_inv hi h.legal
  | captureResult result => exact result_inv hi h.legal
  | error code f => exact error_inv hi h.legal ht
  | writeMetadata bytes => exact ⟨hi.known,hi.unknown,hi.shutters⟩
  | flush ongoing => exact ⟨hi.known,hi.unknown,hi.shutters⟩

/-- An error that comes too late leaves its entry behind. -/
theorem step_untimely (hi : Inv w) (ht : ¬w.Timely msg) (h : Step w msg w') : ¬w'.Settled := by
  intro hs
  cases msg with
  | error code f =>
    obtain ⟨hstands,r,hv,hz⟩ : code.standsIn=true ∧
        ∃ r,w.client.pendingRequests.valueFor f=some r ∧ r.buffersRemaining=0 := by
      simpa [Timely] using ht
    obtain ⟨hc,rec,hf⟩ := h.legal
    have ok := hi.known f rec hf
    rw [hv] at ok
    have full : rec.reported.length=rec.numBuffers := by
      have := ok.1.remaining
      omega
    obtain ⟨told,-,-,he⟩ := w.client.notifyError_perFrame hc f
    have gone := (hs f { rec with error := rec.error || code.standsIn }
      (by simp [h.received,receive,hf]) ⟨full,Or.inr (by simp [hstands])⟩).1
    rw [h.received] at gone
    simp only [receive,he,hv] at gone
    rw [store_self _ hv] at gone
    cases gone
  | _ => exact ht trivial

/-- The start: nothing registered, any configuration. -/
structure Start (s : PendingRequests M) : Prop where
  pending : s.pendingRequests=KeyedVector.empty
  errors : s.pendingErrorRequests=KeyedVector.empty
  counters : s.counters=(0,0,0,0)

omit [CameraMetadata M] in
theorem start_inv {s : PendingRequests M} (hs : Start s) :
    Inv (⟨s,fun _ => none,0,0,[]⟩ : HalWorld M) := by
  refine ⟨fun _ _ h => by simp at h,fun f _ => ⟨by simp [hs.pending],rfl⟩,?_⟩
  intro i
  rw [expectedShutter_eq,hs.counters]
  cases i <;> simp

/-- In every run of timely messages each finished frame has left the pending map with its
buffers returned once, and a further message keeps this exactly when it is timely. -/
theorem frames_settled_iff {s : PendingRequests M} (hs : Start s) {msgs : List HalMessage}
    (hr : Run (Guarded Timely Step) (⟨s,fun _ => none,0,0,[]⟩ : HalWorld M) msgs w) :
    w.Settled ∧ ∀ msg w',Step w msg w' → (w'.Settled ↔ w.Timely msg) := by
  refine hr.kept_iff_guard (I := Inv) ?_ ?_ (start_inv hs) (start_inv hs).settled
  · intro t msg t' hi _ h timely
    exact step_inv hi timely h
  · intro t msg t' hi _ h
    constructor
    · intro settled
      by_contra late
      exact step_untimely hi late h settled
    · intro timely
      exact (step_inv hi timely h).settled

/-- A preview buffer, and a result of frame 0. -/
def frameBuffer : StreamBuffer := ⟨0,0,.OK,some 7⟩

def resultOf (metadata : List UInt8) (buffers : List StreamBuffer) : HalMessage :=
  .captureResult ⟨0,0,metadata,buffers,false,1⟩

def plainWorld : HalWorld PlainMetadata := ⟨.plain,fun _ => none,0,0,[]⟩

theorem plain_start : Start PendingRequests.plain := ⟨rfl,rfl,rfl⟩

def firstExtras : CaptureResultExtras := ⟨1,0,0,0,false⟩

theorem frames_settled_single : ∃ w,Run (Guarded Timely Step) plainWorld
    [.markPendingRequest 0 1 firstExtras,.shutter 0 5,resultOf [5] [frameBuffer]] w ∧
    w.Settled ∧ ∀ msg w',Step w msg w' → (w'.Settled ↔ w.Timely msg) := by
  have hr : Run (Guarded Timely Step) plainWorld
      [.markPendingRequest 0 1 firstExtras,.shutter 0 5,resultOf [5] [frameBuffer]] _ :=
    Run.of_follows (a := fun w m => (w.receive m).client.errorCb=true ∧ w.Timely m ∧ w.Legal m)
      (f := receive) (fun w m h => ⟨h.2.1,h.2.2,rfl,callable_of_installed h.1⟩)
      ⟨⟨rfl,trivial,rfl⟩,⟨rfl,trivial,by decide,by decide,_,rfl,rfl⟩,
        ⟨rfl,trivial,_,rfl,⟨by decide,rfl,fun _ _ => rfl,fun h => absurd h.1 (by decide),
          fun _ => rfl,fun _ => by decide,Or.inl rfl⟩⟩,trivial⟩
  exact ⟨_,hr,frames_settled_iff plain_start hr⟩

/-- The shutter and the buffer of a frame arrive, then ERROR_RESULT: the entry stays. -/
theorem late_error_keeps_entry : ¬∀ (s : PendingRequests PlainMetadata) msgs w,Start s →
    Run Step ⟨s,fun _ => none,0,0,[]⟩ msgs w → w.Settled := by
  intro hall
  have hr : Run Step plainWorld [.markPendingRequest 0 1 firstExtras,.shutter 0 5,
      resultOf [] [frameBuffer],.error .ERROR_RESULT 0] _ :=
    Run.of_follows (a := fun w m => (w.receive m).client.errorCb=true ∧ w.Legal m)
      (f := receive) (fun w m h => ⟨h.2,rfl,callable_of_installed h.1⟩)
      ⟨⟨rfl,rfl⟩,⟨rfl,by decide,by decide,_,rfl,rfl⟩,
        ⟨rfl,_,rfl,⟨by decide,rfl,fun _ _ => rfl,fun h => absurd h.1 (by decide),fun _ => rfl,
          fun _ => by decide,Or.inl rfl⟩⟩,⟨rfl,Or.inr (Or.inl rfl),_,rfl⟩,trivial⟩
  have settled := hall _ _ _ plain_start hr
  have gone := (settled 0 _ rfl (by decide)).1
  revert gone
  decide

end HalWorld
end IotMedia.Camera
