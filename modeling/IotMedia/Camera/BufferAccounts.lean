import IotMedia.Camera.BufferReturns

namespace IotMedia.Camera

open IotMedia.Framework

namespace PendingRequests

variable {M : Type} {f : Nat} {s : PendingRequests M} {now later : List StreamBuffer}
  {o p : PendingRequests M × List (ResultEvent M)} {q r : PendingRequest M}

/-- What a handler does with the buffers of frame `f`, none left out: those held and those that came
`now` are returned or held, in this order. -/
def Accounts (f : Nat) (now : List StreamBuffer) (s : PendingRequests M)
    (o : PendingRequests M × List (ResultEvent M)) : Prop :=
  returnedFor f o.2++o.1.heldFor f=s.heldFor f++now

theorem accounts_quiet (same : o.1.pendingRequests.valueFor f=s.pendingRequests.valueFor f)
    (quiet : returnedFor f o.2=[]) : Accounts f [] s o := by
  rw [Accounts,quiet,heldFor_congr same,List.append_nil]
  rfl

/-- A handler that ends in RemovePendingRequestLocked accounts for what the entry then held. -/
theorem Closes.accounts {returned : List StreamBuffer} {errors : List SetError}
    (h : Closes f q returned errors o) :
    returnedFor f o.2++o.1.heldFor f=returned++q.pendingBuffers := by
  rcases h with ⟨-,gone,back,-⟩|⟨-,stays,back,-⟩
  · rw [back,heldFor_none gone,List.append_nil]
  · rw [back,heldFor_some stays]

variable [CameraMetadata M] {result : CaptureResult}

/-- The checks of HandleCaptureResult on a frame's entry: the metadata is in range and no final part
comes twice, there are not more buffers than were asked for, and the shutter was not below zero. -/
structure Takes (s : PendingRequests M) (r : PendingRequest M) (result : CaptureResult) : Prop where
  range : s.PartialInRange result
  once : s.carriesFinal result=true → r.isMetaPresent=false
  room : result.outputBuffers.length+(if result.inputBuffer then 1 else 0) ≤ r.buffersRemaining
  time : 0 ≤ r.shutterTS

/-- HandleCaptureResult gets to the frame's entry and takes the buffers of the result. -/
structure Accepts (s : PendingRequests M) (result : CaptureResult) : Prop where
  supported : s.isPartialResultSupported=false → result.result≠[] → result.partialResult=1
  readable : s.Readable result.fmqResultSize
  entry : ∃ r,s.pendingRequests.valueFor result.frameNumber=some r ∧ s.Takes r result

theorem deliverResult_accounts (timed : r.shutterTS≠0 → r.pendingBuffers=[]) (collected : M)
    (md : List UInt8) (isFinal : Bool)
    (h : (s.pendingRequests.valueFor result.frameNumber).isSome) :
    returnedFor result.frameNumber (s.deliverResult r collected result md isFinal).2++
      (s.deliverResult r collected result md isFinal).1.heldFor result.frameNumber=
    r.pendingBuffers++(if 0 ≤ r.shutterTS then result.outputBuffers else []) := by
  obtain ⟨q,held,closes⟩ := deliverResult_closes r collected result md isFinal h
  rw [closes.accounts,held.pendingBuffers]
  rcases lt_trichotomy r.shutterTS 0 with below|zero|above
  · rw [if_neg (by omega),if_neg (by omega),if_neg (by omega)]
    rfl
  · rw [if_neg (by omega),if_pos zero,if_pos (by omega)]
    rfl
  · rw [if_pos above,if_neg (by omega),if_pos (by omega),timed (by omega)]
    simp

/-- A frame with an entry: its buffers are taken after all the checks, and let go otherwise. -/
theorem processResult_accounts (md : List UInt8)
    (h : s.pendingRequests.valueFor result.frameNumber=some r)
    (timed : r.shutterTS≠0 → r.pendingBuffers=[]) :
    (s.Takes r result → Accounts result.frameNumber result.outputBuffers s
      (s.processResult r result md)) ∧
    (¬s.Takes r result → Accounts result.frameNumber [] s (s.processResult r result md)) := by
  -- an early exit stores the entry as it was
  have kept (q : PendingRequest M) (told : List (ResultEvent M)) (quiet : Quiet told)
      (same : q.pendingBuffers=r.pendingBuffers) :
      Accounts result.frameNumber [] s (s.store result.frameNumber q,told) := by
    rw [Accounts,quiet,heldFor_some (store_self s h q),heldFor_some h,same,List.append_nil]
    rfl
  obtain ⟨x,hx,noted⟩ := notePartialCount_eq r result
  unfold processResult
  dsimp only
  rcases s.composePartial_cases (r.notePartialCount result) result with
    ⟨outside,e,composed⟩|⟨range,c,b,told,quiet,-,composed⟩
  · rw [composed]
    refine ⟨fun takes => absurd takes.range outside,fun _ => ?_⟩
    exact kept _ _ (fun _ => rfl) (by rw [noted])
  rw [composed,noted]
  dsimp only
  rw [carriesFinal_eq]
  have reported (e : SetError) : Quiet (told++[.setErr e]) := quiet.append fun _ => rfl
  by_cases again : s.carriesFinal result=true ∧ r.isMetaPresent=true
  · rw [if_pos again]
    refine ⟨fun takes => ?_,fun _ => kept _ _ (reported _) rfl⟩
    have once := takes.once again.1
    rw [again.2] at once
    cases once
  rw [if_neg again]
  have once : s.carriesFinal result=true → r.isMetaPresent=false := by
    intro final
    by_contra present
    exact again ⟨final,by simpa using present⟩
  generalize hq : (if s.carriesFinal result=true then _ else _ : PendingRequest M × M)=accepted
  -- the metadata block leaves the buffers and their count alone
  have fields : accepted.1.pendingBuffers=r.pendingBuffers ∧
      accepted.1.shutterTS=r.shutterTS ∧ accepted.1.buffersRemaining=r.buffersRemaining := by
    rw [← hq]
    split_ifs
    · obtain ⟨c',taken⟩ := s.acceptMetadata_eq
        { r with resultExtras := x,composedResult := c,partial3AReceived := b }
      rw [taken]
      exact ⟨rfl,rfl,rfl⟩
    · exact ⟨rfl,rfl,rfl⟩
  obtain ⟨buffers,time,remaining⟩ := fields
  by_cases full : (accepted.1.countBuffers result).buffersRemaining<0
  · rw [if_pos full]
    refine ⟨fun takes => ?_,fun _ => kept _ _ (reported _) buffers⟩
    have room := takes.room
    simp only [PendingRequest.countBuffers,remaining] at full
    omega
  rw [if_neg full]
  have room : result.outputBuffers.length+(if result.inputBuffer then 1 else 0) ≤
      r.buffersRemaining := by
    simp only [PendingRequest.countBuffers,remaining] at full
    omega
  have untimed : (accepted.1.countBuffers result).shutterTS≠0 →
      (accepted.1.countBuffers result).pendingBuffers=[] := by
    intro known
    rw [show (accepted.1.countBuffers result).pendingBuffers=r.pendingBuffers from buffers]
    exact timed (by rw [← time]; exact known)
  have delivered := deliverResult_accounts untimed accepted.2 md (s.carriesFinal result)
    (by rw [h]; rfl)
  have total : ∀ now : List StreamBuffer,
      (if 0 ≤ (accepted.1.countBuffers result).shutterTS then result.outputBuffers else [])=now →
      Accounts result.frameNumber now s
        ((s.deliverResult (accepted.1.countBuffers result) accepted.2 result md
          (s.carriesFinal result)).1,told++(s.deliverResult (accepted.1.countBuffers result)
            accepted.2 result md (s.carriesFinal result)).2) := by
    intro now hnow
    rw [Accounts,returnedFor_append,quiet,List.nil_append,delivered,hnow,heldFor_some h]
    exact congrArg (·++now) buffers
  refine ⟨fun takes => total _ (if_pos ?_),fun refused => total _ (if_neg ?_)⟩
  · rw [show (accepted.1.countBuffers result).shutterTS=r.shutterTS from time]
    exact takes.time
  · rw [show (accepted.1.countBuffers result).shutterTS=r.shutterTS from time]
    exact fun known => refused ⟨range,once,room,known⟩

/-- Without partial results any other count than 1 is an error. -/
theorem handleCaptureResult_unsupported (some_part : ¬(result.result=[] ∧ result.outputBuffers=[]))
    (unsupported :
      ¬(s.isPartialResultSupported=false → result.result≠[] → result.partialResult=1)) :
    s.handleCaptureResult result=
      (s,[.setErr (.partialResultUnsupported result.frameNumber result.partialResult)]) := by
  unfold handleCaptureResult
  rw [if_neg some_part,if_pos]
  simpa using unsupported

theorem handleCaptureResult_accounts
    (timed : ∀ r,s.pendingRequests.valueFor result.frameNumber=some r → r.shutterTS≠0 →
      r.pendingBuffers=[]) :
    (s.Accepts result → Accounts result.frameNumber result.outputBuffers s
      (s.handleCaptureResult result)) ∧
    (¬s.Accepts result → Accounts result.frameNumber [] s (s.handleCaptureResult result)) := by
  rcases s.handleCaptureResult_cases result with
    ⟨-,empty,equal⟩|⟨some_part,⟨unread,e,equal⟩|⟨queue,md,read,rest⟩⟩
  · rw [equal,empty]
    exact ⟨fun _ => accounts_quiet rfl rfl,fun _ => accounts_quiet rfl rfl⟩
  · rw [equal]
    exact ⟨fun accepts => absurd ⟨accepts.supported,accepts.readable⟩ unread,
      fun _ => accounts_quiet rfl rfl⟩
  by_cases supported : s.isPartialResultSupported=false → result.result≠[] → result.partialResult=1
  swap
  · rw [handleCaptureResult_unsupported (by tauto) supported]
    exact ⟨fun accepts => absurd accepts.supported supported,fun _ => accounts_quiet rfl rfl⟩
  have readable : s.Readable result.fmqResultSize := by
    rcases s.readResultMetadata_cases result.fmqResultSize with ⟨-,e,failed⟩|⟨readable,-⟩
    · rw [failed] at read
      cases read
    · exact readable
  rcases rest with ⟨absent,-,equal⟩|⟨absent,-,equal⟩|⟨r,hr,equal⟩
  · rw [equal]
    refine ⟨fun accepts => ?_,fun _ => accounts_quiet rfl rfl⟩
    obtain ⟨r,hr,-⟩ := accepts.entry
    rw [absent] at hr
    cases hr
  · rw [equal]
    refine ⟨fun accepts => ?_,fun _ => accounts_quiet rfl rfl⟩
    obtain ⟨r,hr,-⟩ := accepts.entry
    rw [absent] at hr
    cases hr
  · rw [equal]
    have done := processResult_accounts (s := { s with resultMetadataQueue := queue }) md hr
      (timed r hr)
    refine ⟨fun accepts => done.1 ?_,fun refused => done.2 ?_⟩
    · obtain ⟨q,hq,takes⟩ := accepts.entry
      rw [hr] at hq
      cases Option.some.inj hq
      exact ⟨takes.range,takes.once,takes.room,takes.time⟩
    · intro takes
      exact refused ⟨supported,readable,r,hr,takes.range,takes.once,takes.room,takes.time⟩

/-- A shutter returns all that waited for it. -/
theorem notifyShutter_accounts (f : Nat) (ts : Int) : Accounts f [] s (s.notifyShutter f ts) := by
  rcases s.notifyShutter_cases f ts with
    ⟨-,equal⟩|⟨r,called,hr,quiet,-,⟨-,equal⟩|⟨-,st,-,closes⟩⟩
  · rw [equal]
    exact accounts_quiet rfl rfl
  · rw [equal]
    exact accounts_quiet rfl ((quiet.append fun _ => rfl) f)
  · rw [Accounts,closes.accounts,heldFor_some hr]
    rfl

omit [CameraMetadata M] in
theorem notifyError_accounts (code : ErrorCode) (f : Nat) :
    Accounts f [] s (s.notifyError code f) := by
  by_cases hc : code.perFrame
  · obtain ⟨told,quiet,-,equal⟩ := s.notifyError_perFrame hc f
    rw [equal]
    cases hr : s.pendingRequests.valueFor f with
    | none => exact accounts_quiet rfl (quiet f)
    | some r =>
      rw [Accounts,quiet f,heldFor_some hr]
      dsimp only
      rw [heldFor_some (store_self s hr _),List.append_nil]
      rfl
  · cases code with
    | ERROR_DEVICE | other => exact accounts_quiet rfl rfl
    | ERROR_REQUEST | ERROR_RESULT | ERROR_BUFFER => exact absurd (by simp [ErrorCode.perFrame]) hc

theorem markPendingRequest_accounts (f : Nat) (n : Int) (extras : CaptureResultExtras) :
    Accounts f [] s (s.markPendingRequest f n extras,[]) := by
  cases hr : s.pendingRequests.valueFor f with
  | some r => exact accounts_quiet (by simp [markPendingRequest,emplace,hr]) rfl
  | none =>
    have marked : (s.markPendingRequest f n extras).pendingRequests.valueFor f=
        some (.construct n extras) := by
      simp [markPendingRequest,emplace,hr]
    rw [Accounts,heldFor_some marked,heldFor_none hr]
    rfl

theorem markPendingRequest_heldFor (f g : Nat) (n : Int) (extras : CaptureResultExtras) :
    (s.markPendingRequest f n extras).heldFor g=s.heldFor g := by
  by_cases same : g=f
  · subst same
    have accounts := markPendingRequest_accounts (s := s) g n extras
    rwa [Accounts,List.append_nil] at accounts
  · exact heldFor_congr (emplace_other s.pendingRequests _ same)

/-- What the message reports is taken. -/
def TakesReport (s : PendingRequests M) : HalMessage → Prop
  | .captureResult result => result.outputBuffers≠[] → s.Accepts result
  | _ => True

omit [CameraMetadata M] in
theorem Touches.accounts {g : Nat} (touches : Touches g s o) (other : f≠g) : Accounts f [] s o :=
  accounts_quiet (touches.pending f other) (touches.returned f other)

/-- Each message accounts for the buffers held and, if it is taken, for those it reports. -/
theorem receive_accounts (msg : HalMessage)
    (timed : ∀ r,s.pendingRequests.valueFor f=some r → r.shutterTS≠0 → r.pendingBuffers=[]) :
    (s.TakesReport msg → Accounts f (reportedFor f msg) s (s.receive msg)) ∧
    (¬s.TakesReport msg → Accounts f [] s (s.receive msg)) := by
  cases msg with
  | markPendingRequest g n extras =>
    refine ⟨fun _ => ?_,fun kept => absurd trivial kept⟩
    by_cases same : g=f
    · subst same
      exact markPendingRequest_accounts g n extras
    · exact accounts_quiet (emplace_other s.pendingRequests _ (Ne.symm same)) rfl
  | shutter g ts =>
    refine ⟨fun _ => ?_,fun kept => absurd trivial kept⟩
    by_cases same : g=f
    · subst same
      exact notifyShutter_accounts g ts
    · exact (s.notifyShutter_touches g ts).accounts (Ne.symm same)
  | captureResult result =>
    by_cases same : result.frameNumber=f
    · subst same
      have done := handleCaptureResult_accounts timed
      rw [reportedFor,if_pos rfl]
      refine ⟨fun kept => ?_,fun dropped => done.2 fun accepts => dropped fun _ => accepts⟩
      by_cases accepts : s.Accepts result
      · exact done.1 accepts
      · have empty : result.outputBuffers=[] := by
          by_contra some_
          exact accepts (kept some_)
        rw [empty]
        exact done.2 accepts
    · have quiet := (s.handleCaptureResult_touches result).accounts (Ne.symm same)
      rw [reportedFor,if_neg same]
      exact ⟨fun _ => quiet,fun _ => quiet⟩
  | error code g =>
    refine ⟨fun _ => ?_,fun kept => absurd trivial kept⟩
    by_cases same : g=f
    · subst same
      exact notifyError_accounts code g
    · by_cases perFrame : code.perFrame
      · exact (s.notifyError_touches perFrame g).accounts (Ne.symm same)
      · cases code with
        | ERROR_DEVICE | other => exact accounts_quiet rfl rfl
        | ERROR_REQUEST | ERROR_RESULT | ERROR_BUFFER =>
          exact absurd (by simp [ErrorCode.perFrame]) perFrame
  | writeMetadata | flush => exact ⟨fun _ => accounts_quiet rfl rfl,fun kept => absurd trivial kept⟩

/-- An entry that knows its shutter holds no buffers, whatever comes. -/
theorem receive_timed (msg : HalMessage)
    (timed : ∀ r,s.pendingRequests.valueFor f=some r → r.shutterTS≠0 → r.pendingBuffers=[]) :
    ∀ r,(s.receive msg).1.pendingRequests.valueFor f=some r → r.shutterTS≠0 →
      r.pendingBuffers=[] := by
  have clocked : ∀ r,s.pendingRequests.valueFor f=some r → Clocked (fun _ => True) r :=
    fun r hr => ⟨timed r hr,fun _ => trivial,fun _ _ => trivial⟩
  intro r hr
  exact ((receive_moves clocked msg fun _ _ => trivial).entry r hr).empty

/-- A message is about one frame at most. -/
theorem receive_one (s : PendingRequests M) (msg : HalMessage) : ∃ f,∀ g,g≠f →
    (s.receive msg).1.heldFor g=s.heldFor g ∧ returnedFor g (s.receive msg).2=[] ∧
      reportedFor g msg=[] := by
  have touched {f : Nat} (touches : Touches f s (s.receive msg))
      (reported : ∀ g,g≠f → reportedFor g msg=[]) : ∃ f,∀ g,g≠f →
      (s.receive msg).1.heldFor g=s.heldFor g ∧ returnedFor g (s.receive msg).2=[] ∧
        reportedFor g msg=[] :=
    ⟨f,fun g other => ⟨heldFor_congr (touches.pending g other),touches.returned g other,
      reported g other⟩⟩
  cases msg with
  | markPendingRequest f n extras =>
    refine ⟨f,fun g other => ⟨heldFor_congr ?_,rfl,rfl⟩⟩
    exact emplace_other s.pendingRequests _ other
  | shutter f ts => exact touched (s.notifyShutter_touches f ts) fun _ _ => rfl
  | captureResult result =>
    exact touched (s.handleCaptureResult_touches result) fun g other => if_neg (Ne.symm other)
  | error code f =>
    by_cases perFrame : code.perFrame
    · exact touched (s.notifyError_touches perFrame f) fun _ _ => rfl
    · cases code with
      | ERROR_DEVICE | other => exact ⟨f,fun _ _ => ⟨rfl,rfl,rfl⟩⟩
      | ERROR_REQUEST | ERROR_RESULT | ERROR_BUFFER =>
        exact absurd (by simp [ErrorCode.perFrame]) perFrame
  | writeMetadata | flush => exact ⟨0,fun _ _ => ⟨rfl,rfl,rfl⟩⟩

end PendingRequests
end IotMedia.Camera
