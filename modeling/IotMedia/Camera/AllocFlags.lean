import IotMedia.Camera.TableMoves
import IotMedia.Framework.FlagMap

namespace IotMedia.Camera

open IotMedia.Framework

namespace BufferUsage

/-- What the graphics HAL's values have in common: no two flags share a bit, none is empty, and
all are positive as an int32_t. -/
structure Distinct (u : BufferUsage) : Prop where
  separated : FlagMap.Separated u.usageFlagMap
  positive : ∀ p∈u.usageFlagMap,p.2.toNat<2^31

/-- The common flags that have a native counterpart. -/
def commonFlags : List (BitVec 32) :=
  [kSwReadOften,kVideoEncoder,kHwTexture,kHwComposer,kHwCameraRead,kHwCameraWrite]

def mapped : BitVec 32 := commonFlags.foldl (·|||·) 0#32

variable {u : BufferUsage}

theorem toLocal_eq (u : BufferUsage) (common : MemAllocFlags) :
    u.toLocal common=FlagMap.translate u.usageFlagMap common.flags := rfl

theorem toCommon_eq (u : BufferUsage) (native : BitVec 64) :
    u.toCommon native=⟨FlagMap.translate (FlagMap.back u.usageFlagMap) native⟩ := rfl

/-- The table is an unordered map: the order in which it is walked does not matter. -/
theorem toLocal_order (u : BufferUsage) {order : FlagMap 32 64} (h : order.Perm u.usageFlagMap)
    (common : MemAllocFlags) : FlagMap.translate order common.flags=u.toLocal common :=
  FlagMap.translate_perm h common.flags

theorem back_separated (u : BufferUsage) : (FlagMap.back u.usageFlagMap).Separated := by
  have column : (FlagMap.back u.usageFlagMap).map Prod.snd=commonFlags := rfl
  refine ⟨?_,?_⟩
  · rw [column]
    simp [Meets,commonFlags,kSwReadOften,kVideoEncoder,kHwTexture,kHwComposer,kHwCameraRead,
      kHwCameraWrite]
  · rw [column]
    simp [commonFlags,kSwReadOften,kVideoEncoder,kHwTexture,kHwComposer,kHwCameraRead,
      kHwCameraWrite]

theorem common_single (u : BufferUsage) :
    ∀ a∈u.usageFlagMap.map Prod.fst,∃ k : Fin 32,a=BitVec.twoPow 32 k := by
  have column : u.usageFlagMap.map Prod.fst=commonFlags := rfl
  rw [column]
  simp only [commonFlags,List.forall_mem_cons]
  exact ⟨⟨6,rfl⟩,⟨8,rfl⟩,⟨10,rfl⟩,⟨12,rfl⟩,⟨13,rfl⟩,⟨14,rfl⟩,by simp⟩

theorem Distinct.back_allOnes (h : u.Distinct) :
    FlagMap.translate (FlagMap.back u.usageFlagMap) (BitVec.allOnes 64)=mapped := by
  have left : (FlagMap.back u.usageFlagMap).map Prod.fst=u.usageFlagMap.map Prod.snd := rfl
  have right : (FlagMap.back u.usageFlagMap).map Prod.snd=commonFlags := rfl
  have touched : ∀ a∈(FlagMap.back u.usageFlagMap).map Prod.fst,a≠0#64 := by
    rw [left]
    exact h.separated.nonzero
  rw [FlagMap.translate_allOnes touched,right,mapped]

/-- To the native flags and back: the flags of the table stay, the others are dropped. -/
theorem Distinct.toCommon_toLocal (h : u.Distinct) (common : MemAllocFlags) :
    u.toCommon (u.toLocal common)=⟨common.flags &&& mapped⟩ := by
  rw [toCommon_eq,toLocal_eq,h.separated.there_back_mask u.common_single,h.back_allOnes]

/-- The flags that are dropped have no native counterpart. -/
theorem Distinct.toLocal_mapped (h : u.Distinct) (common : MemAllocFlags) :
    u.toLocal ⟨common.flags &&& mapped⟩=u.toLocal common := by
  rw [← h.toCommon_toLocal common,toCommon_eq,toLocal_eq,toLocal_eq,
    h.separated.stable u.back_separated]

/-- The UBWC flag is not in the table, so it never comes back. -/
theorem mapped_ubwc : kPrivateAllocUbwc &&& mapped=0#32 := by
  simp [mapped,commonFlags,kPrivateAllocUbwc,kSwReadOften,kVideoEncoder,kHwTexture,kHwComposer,
    kHwCameraRead,kHwCameraWrite]

theorem Distinct.toLocal_positive (h : u.Distinct) (common : MemAllocFlags) {i : Nat}
    (hi : 31 ≤ i) : (u.toLocal common).getLsbD i=false := by
  by_contra bit
  rw [toLocal_eq,Bool.not_eq_false,FlagMap.getLsbD_translate] at bit
  obtain ⟨p,hp,-,bit⟩ := bit
  have small : p.2.toNat<2^i :=
    (h.positive p hp).trans_le (Nat.pow_le_pow_right (by decide) hi)
  rw [← BitVec.testBit_toNat,Nat.testBit_lt_two_pow small] at bit
  exact absurd bit Bool.false_ne_true

theorem android_distinct : android.Distinct := by
  refine ⟨⟨?_,?_⟩,?_⟩
  · simp [Meets,usageFlagMap,android]
  · simp [usageFlagMap,android]
  · simp [usageFlagMap,android]

end BufferUsage

/-- The part of the descriptor that AllocBuffer gives to the mapper; one layer throughout. -/
structure BufferDescriptorInfo where
  width : BitVec 32
  height : BitVec 32
  format : PixelFormat
  usage : BitVec 64
  deriving DecidableEq

/-- HidlAllocDevice::AllocBuffer up to createDescriptor: the usage goes through an int32_t. -/
def AllocRequest.descriptorInfo (u : BufferUsage) (request : AllocRequest) :
    BufferDescriptorInfo where
  width := BitVec.ofInt 32 request.width
  height := BitVec.ofInt 32 request.height
  format := request.format
  usage :=
    let consumerUsage : BitVec 32 := (u.toLocal request.usage).setWidth 32
    consumerUsage.signExtend 64 ||| u.CAMERA_OUTPUT

/-- A native usage of 31 bits survives the int32_t. -/
theorem AllocRequest.descriptorInfo_usage {u : BufferUsage} (h : u.Distinct)
    (request : AllocRequest) :
    (request.descriptorInfo u).usage=u.toLocal request.usage ||| u.CAMERA_OUTPUT := by
  have kept : ((u.toLocal request.usage).setWidth 32).signExtend 64=u.toLocal request.usage := by
    refine BitVec.eq_of_getLsbD_eq fun i inside => ?_
    have sign : ((u.toLocal request.usage).setWidth 32).msb=false := by
      rw [BitVec.msb_eq_getLsbD_last,BitVec.getLsbD_setWidth,h.toLocal_positive _ (le_refl 31)]
      rfl
    rw [BitVec.getLsbD_signExtend,sign,BitVec.getLsbD_setWidth]
    by_cases low : i<32
    · simp [low,inside]
    · rw [h.toLocal_positive _ (by omega)]
      simp [low]
  exact congrArg (·|||u.CAMERA_OUTPUT) kept

namespace Camera3Stream

variable {u : BufferUsage} {s t : Camera3Stream} {α : Type}

/-- In the other two states GetBufferLocked gives up before it looks at the usage. -/
def Active (s : Camera3Stream) : Prop := ¬(s.status=.error ∨ s.status=.initialized)

/-- The request that a stream's parameters stand for. -/
def requestFor (maxSize : Nat) (params : CameraStreamParameters) : AllocRequest where
  width := (BitVec.ofNat 32 (if params.format=.BLOB then maxSize else params.width)).toInt
  height := if params.format=.BLOB then 1 else (BitVec.ofNat 32 params.height).toInt
  format := params.format
  usage := ⟨params.allocFlags.flags &&& BufferUsage.mapped⟩

/-- The usage is the client's wherever it can reach the allocator, and so is the one to which
AbortConfigure goes back. -/
structure Asks (u : BufferUsage) (maxSize : Nat) (params : CameraStreamParameters)
    (s : Camera3Stream) : Prop where
  maxSize : s.maxSize=maxSize
  width : s.cameraStream.width=params.width
  height : s.cameraStream.height=params.height
  format : s.cameraStream.format=params.format
  clientUsage : s.clientUsage=params.allocFlags
  usage : s.Active → s.cameraStream.usage=u.toLocal params.allocFlags
  oldUsage : s.Settled → s.oldUsage=⟨params.allocFlags.flags &&& BufferUsage.mapped⟩

/-- Nothing that a request depends on has changed. -/
structure SameRequest (s t : Camera3Stream) : Prop where
  maxSize : t.maxSize=s.maxSize
  cameraStream : t.cameraStream=s.cameraStream
  clientUsage : t.clientUsage=s.clientUsage
  oldUsage : t.oldUsage=s.oldUsage
  active : t.Active → s.Active
  settled : t.Settled → s.Settled

theorem SameRequest.refl (s : Camera3Stream) : SameRequest s s :=
  ⟨rfl,rfl,rfl,rfl,fun a => a,fun a => a⟩

theorem SameRequest.trans {r : Camera3Stream} (h : SameRequest s t) (k : SameRequest t r) :
    SameRequest s r where
  maxSize := k.maxSize.trans h.maxSize
  cameraStream := k.cameraStream.trans h.cameraStream
  clientUsage := k.clientUsage.trans h.clientUsage
  oldUsage := k.oldUsage.trans h.oldUsage
  active := fun a => h.active (k.active a)
  settled := fun a => h.settled (k.settled a)

variable {maxSize : Nat} {params : CameraStreamParameters}

theorem Asks.same (h : s.Asks u maxSize params) (k : SameRequest s t) :
    t.Asks u maxSize params where
  maxSize := k.maxSize.trans h.maxSize
  width := by rw [k.cameraStream,h.width]
  height := by rw [k.cameraStream,h.height]
  format := by rw [k.cameraStream,h.format]
  clientUsage := k.clientUsage.trans h.clientUsage
  usage := fun a => by rw [k.cameraStream,h.usage (k.active a)]
  oldUsage := fun a => by rw [k.oldUsage,h.oldUsage (k.settled a)]

theorem Asks.allocRequest (h : s.Asks u maxSize params) (distinct : u.Distinct)
    (active : s.Active) : s.allocRequest u=requestFor maxSize params := by
  have usage : s.allocUsage u=⟨params.allocFlags.flags &&& BufferUsage.mapped⟩ := by
    have back := distinct.toCommon_toLocal params.allocFlags
    have plain : params.allocFlags.flags &&& BufferUsage.mapped &&& kPrivateAllocUbwc=0#32 := by
      rw [BitVec.and_assoc,BitVec.and_comm BufferUsage.mapped,BufferUsage.mapped_ubwc,
        BitVec.and_zero]
    rw [allocUsage,h.usage active,back]
    simp [plain]
  rw [Camera3Stream.allocRequest,usage,h.format,h.maxSize,h.width,h.height,requestFor]
  split_ifs <;> rfl

/-- What a list of effects asks the allocator for. -/
def allocRequests (effects : List StreamEffect) : List AllocRequest :=
  effects.filterMap fun
    | .allocBuffer request _ => some request
    | _ => none

theorem allocRequests_append (a b : List StreamEffect) :
    allocRequests (a++b)=allocRequests a++allocRequests b := List.filterMap_append

theorem allocRequests_freeAll (s : Camera3Stream) : allocRequests s.freeAll=[] := by
  simp [allocRequests,freeAll]

theorem allocRequests_handOut (s : Camera3Stream) (idx : Nat) (h : Handle) (frame : Int) :
    allocRequests (s.handOut idx h frame).effects=[] := by
  simp only [handOut]
  split_ifs <;> rfl

/-- A call changes nothing that a request depends on and asks with the stream's request. -/
structure AsksAs (u : BufferUsage) (s : Camera3Stream) (r : StreamResult α) : Prop where
  same : SameRequest s r.stream
  asked : ∀ request∈allocRequests r.effects,s.Active ∧ request=s.allocRequest u

/-- A call changes nothing that a request depends on and asks for nothing. -/
structure Quiet (s : Camera3Stream) (r : StreamResult α) : Prop where
  same : SameRequest s r.stream
  silent : allocRequests r.effects=[]

theorem Quiet.asks {r : StreamResult α} (h : Quiet s r) : AsksAs u s r := by
  refine ⟨h.same,?_⟩
  rw [h.silent]
  exact fun _ asked => absurd asked List.not_mem_nil

theorem Quiet.refused (s : Camera3Stream) (ret : α) : Quiet s ⟨ret,s,[]⟩ := ⟨.refl s,rfl⟩

theorem getBufferLocked_asks (u : BufferUsage) (s : Camera3Stream) (frame : Option Int)
    (alloc : Option Handle) : AsksAs u s (s.getBufferLocked u frame alloc) := by
  by_cases closed : s.status=.error ∨ s.status=.initialized
  · have refused : s.getBufferLocked u frame alloc=⟨(-ENOSYS,none),s,[]⟩ := if_pos closed
    rw [refused]
    exact (Quiet.refused s _).asks
  have outcome := s.getBufferLocked_outcome u frame alloc
  generalize s.getBufferLocked u frame alloc=r at outcome ⊢
  cases outcome with
  | refused | unplaced | full => exact Quiet.asks ⟨⟨rfl,rfl,rfl,rfl,fun a => a,fun a => a⟩,rfl⟩
  | reuses active free placed =>
    exact Quiet.asks ⟨⟨rfl,rfl,rfl,rfl,fun a => a,fun a => a⟩,allocRequests_handOut _ _ _ _⟩
  | unanswered answer room =>
    exact ⟨.refl s,fun request asked => ⟨closed,List.mem_singleton.mp asked⟩⟩
  | preallocates answer room =>
    exact ⟨⟨rfl,rfl,rfl,rfl,fun a => a,fun a => a⟩,
      fun request asked => ⟨closed,List.mem_singleton.mp asked⟩⟩
  | allocates active answer room handed =>
    subst handed
    refine ⟨⟨rfl,rfl,rfl,rfl,fun a => a,fun a => a⟩,fun request asked => ⟨closed,?_⟩⟩
    rw [← List.singleton_append,allocRequests_append,allocRequests_handOut] at asked
    exact List.mem_singleton.mp asked

theorem getBufferWoken_asks (u : BufferUsage) (s : Camera3Stream) (frame waitRes : Int)
    (alloc : Option Handle) : AsksAs u s (s.getBufferWoken u frame waitRes alloc) := by
  unfold getBufferWoken
  split_ifs
  · exact (Quiet.refused s _).asks
  · exact getBufferLocked_asks u s (some frame) alloc

theorem getBuffer_asks (u : BufferUsage) (s : Camera3Stream) (frame waitRes : Int)
    (alloc : Option Handle) : AsksAs u s (s.getBuffer u frame waitRes alloc) := by
  unfold getBuffer
  split_ifs
  · exact (Quiet.refused s _).asks
  · exact getBufferWoken_asks u s frame waitRes alloc
  · exact getBufferLocked_asks u s (some frame) alloc

theorem prepareBuffer_asks (u : BufferUsage) (s : Camera3Stream) (alloc : Option Handle) :
    AsksAs u s (s.prepareBuffer u alloc) := by
  have got := getBufferLocked_asks u s none alloc
  unfold prepareBuffer
  split_ifs with preparing
  · exact (Quiet.refused s _).asks
  dsimp only
  split_ifs
  · exact ⟨got.same,got.asked⟩
  · exact ⟨got.same.trans ⟨rfl,rfl,rfl,rfl,fun a => a,fun a => a⟩,got.asked⟩
  · unfold endPrepareLocked
    dsimp only
    split_ifs with above
    · simp only [List.append_nil]
      exact ⟨got.same.trans ⟨rfl,rfl,rfl,rfl,fun a => a,fun a => a⟩,got.asked⟩
    · have ready : (s.getBufferLocked u none alloc).stream.status=.prepareActive := not_not.mp above
      simp only [List.append_nil]
      exact ⟨got.same.trans ⟨rfl,rfl,rfl,rfl,fun _ => by simp [Active,ready],
        fun _ => Or.inr (Or.inl ready)⟩,got.asked⟩

theorem returnBufferLocked_quiet (s : Camera3Stream) (handle : Option Handle) :
    Quiet s (s.returnBufferLocked handle) := by
  cases handle with
  | none =>
    unfold returnBufferLocked
    split_ifs <;> exact .refused s _
  | some h =>
    unfold returnBufferLocked
    split_ifs
    · exact .refused s _
    · exact .refused s _
    cases found : s.memAllocBuffers.valueFor h with
    | none =>
      simp only [found]
      exact .refused s _
    | some v =>
      simp only [found]
      refine ⟨⟨rfl,rfl,rfl,rfl,fun a => a,fun a => a⟩,?_⟩
      split_ifs <;> rfl

theorem returnBufferToClient_quiet {status : BufferStatus}
    {timestamp frame : Int} {r : StreamResult Unit}
    (h : s.returnBufferToClient status timestamp frame=some r) : Quiet s r := by
  have marked : SameRequest s { s with isStreamActive := true } :=
    ⟨rfl,rfl,rfl,rfl,fun a => a,fun a => a⟩
  obtain ⟨handle,-,⟨-,rfl⟩|⟨-,rfl⟩⟩ := returnBufferToClient_cases h
  · exact ⟨marked,rfl⟩
  · have back := returnBufferLocked_quiet { s with isStreamActive := true } (some handle)
    exact ⟨marked.trans back.same,back.silent⟩

/-- The buffers are freed and the stream is left in a state of an earlier phase. -/
theorem closeLocked_quiet (s : Camera3Stream) : Quiet s s.closeLocked := by
  have emptied (status : StreamStatus) (from_ : s.Active)
      (early : status=.configActive ∨ status=.initialized) :
      Quiet s (⟨0,{ s with memAllocBuffers := KeyedVector.empty,status := status },s.freeAll⟩ :
        StreamResult Int) := by
    refine ⟨⟨rfl,rfl,rfl,rfl,fun _ => from_,?_⟩,allocRequests_freeAll s⟩
    rcases early with rfl|rfl <;> simp [Settled]
  cases at_ : s.status <;> simp only [closeLocked,at_]
  case reconfigActive =>
    by_cases busy : 0 < s.pendingBufferCount
    · rw [if_pos busy]
      exact .refused s _
    · rw [if_neg busy]
      exact emptied _ (by simp [Active,at_]) (Or.inl (by simp))
  case configured =>
    by_cases busy : 0 < s.pendingBufferCount
    · rw [if_pos busy]
      exact .refused s _
    · rw [if_neg busy]
      exact emptied _ (by simp [Active,at_]) (Or.inr (by simp))
  all_goals exact .refused s _

theorem resetBuffers_quiet (s : Camera3Stream) : Quiet s s.resetBuffers :=
  ⟨⟨rfl,rfl,rfl,rfl,fun a => a,fun a => a⟩,allocRequests_freeAll s⟩

theorem configureLocked_quiet (s : Camera3Stream) :
    Quiet s s.configureLocked := by
  have closed := closeLocked_quiet s
  cases at_ : s.status <;> simp only [configureLocked,at_]
  case reconfigActive =>
    split_ifs
    · exact closed
    · have reset := resetBuffers_quiet s.closeLocked.stream
      refine ⟨closed.same.trans reset.same,?_⟩
      rw [allocRequests_append,reset.silent,List.append_nil]
      exact closed.silent
  case configActive => exact resetBuffers_quiet s
  all_goals exact .refused s _

theorem beginPrepare_quiet (s : Camera3Stream) : Quiet s s.beginPrepare := by
  unfold beginPrepare
  split_ifs with away
  · exact .refused s _
  · exact .refused s _
  · exact .refused s _
  · have here : s.status=.configured := not_not.mp away
    exact ⟨⟨rfl,rfl,rfl,rfl,fun _ => by simp [Active,here],fun _ => Or.inl here⟩,rfl⟩

theorem endPrepareLocked_quiet (s : Camera3Stream) :
    Quiet s s.endPrepareLocked := by
  unfold endPrepareLocked
  split_ifs with away
  · exact .refused s _
  · have here : s.status=.prepareActive := not_not.mp away
    exact ⟨⟨rfl,rfl,rfl,rfl,fun _ => by simp [Active,here],fun _ => Or.inr (Or.inl here)⟩,rfl⟩

theorem tearDown_quiet (s : Camera3Stream) : Quiet s s.tearDown := by
  unfold tearDown
  split_ifs
  · exact .refused s _
  · exact .refused s _
  · exact ⟨⟨rfl,rfl,rfl,rfl,fun a => a,fun a => a⟩,allocRequests_freeAll s⟩
  · exact ⟨⟨rfl,rfl,rfl,rfl,fun a => a,fun a => a⟩,rfl⟩

/-! The three calls of a configuration write the usage. -/

theorem beginConfigure_keepsAsks (h : s.Asks u maxSize params) :
    (s.beginConfigure u).stream.Asks u maxSize params := by
  unfold beginConfigure
  cases at_ : s.status with
  | initialized =>
    refine ⟨h.maxSize,h.width,h.height,h.format,h.clientUsage,?_,?_⟩
    · exact fun _ => congrArg u.toLocal h.clientUsage
    · simp [Settled]
  | configured =>
    refine ⟨h.maxSize,h.width,h.height,h.format,h.clientUsage,?_,?_⟩
    · exact fun _ => congrArg u.toLocal h.clientUsage
    · exact fun _ => h.oldUsage (Or.inl at_)
  | _ => exact h

theorem abortConfigure_keepsAsks (distinct : u.Distinct) (h : s.Asks u maxSize params) :
    (s.abortConfigure u).stream.Asks u maxSize params := by
  unfold abortConfigure
  split_ifs with active again
  · have old := h.oldUsage (Or.inr (Or.inr again))
    refine ⟨h.maxSize,h.width,h.height,h.format,h.clientUsage,fun _ => ?_,fun _ => old⟩
    show u.toLocal s.oldUsage=_
    rw [old,distinct.toLocal_mapped]
  · refine ⟨h.maxSize,h.width,h.height,h.format,h.clientUsage,?_,?_⟩
    · simp [Active]
    · simp [Settled]
  · exact h

theorem endConfigure_keepsAsks (distinct : u.Distinct) (h : s.Asks u maxSize params)
    (acquired : Int) : (s.endConfigure u acquired).stream.Asks u maxSize params := by
  unfold endConfigure
  by_cases configuring : s.isConfigureActive=true
  swap
  · rw [if_neg configuring]
    exact h
  rw [if_pos configuring]
  have active : s.Active := by
    have either : s.status=.configActive ∨ s.status=.reconfigActive := by
      simpa [isConfigureActive] using configuring
    rcases either with at_|at_ <;> simp [Active,at_]
  have watched : SameRequest s { s with monitorId := acquired } :=
    ⟨rfl,rfl,rfl,rfl,fun a => a,fun a => a⟩
  have reset := watched.trans (configureLocked_quiet { s with monitorId := acquired }).same
  have usage := h.usage active
  dsimp only
  split_ifs with unanswered unchanged failed
  · exact h.same watched
  · exact h.same ⟨rfl,rfl,rfl,rfl,fun _ => active,fun _ => Or.inr (Or.inr unchanged.1)⟩
  · refine h.same ⟨reset.maxSize,reset.cameraStream,reset.clientUsage,reset.oldUsage,?_,?_⟩
    · simp [Active]
    · simp [Settled]
  · generalize configureLocked { s with monitorId := acquired }=r at reset ⊢
    have stream : r.stream.cameraStream=s.cameraStream := reset.cameraStream
    refine ⟨reset.maxSize.trans h.maxSize,?_,?_,?_,reset.clientUsage.trans h.clientUsage,
      fun _ => ?_,fun _ => ?_⟩
    · rw [stream,h.width]
    · rw [stream,h.height]
    · rw [stream,h.format]
    · rw [stream,usage]
    · show u.toCommon r.stream.cameraStream.usage=_
      rw [stream,usage,distinct.toCommon_toLocal]

theorem beginConfigure_unasked (u : BufferUsage) (s : Camera3Stream) :
    allocRequests (s.beginConfigure u).effects=[] := by
  unfold beginConfigure
  cases at_ : s.status with
  | initialized | configured =>
    dsimp only
    split_ifs <;> rfl
  | _ => rfl

theorem endConfigure_unasked (u : BufferUsage) (s : Camera3Stream) (acquired : Int) :
    allocRequests (s.endConfigure u acquired).effects=[] := by
  have reset := (configureLocked_quiet { s with monitorId := acquired }).silent
  unfold endConfigure
  dsimp only
  split_ifs
  · rfl
  · rfl
  · exact reset
  · exact reset
  · rfl

theorem abortConfigure_unasked (u : BufferUsage) (s : Camera3Stream) :
    allocRequests (s.abortConfigure u).effects=[] := by
  unfold abortConfigure
  split_ifs <;> rfl

theorem construct_asks (u : BufferUsage) (id : Int) (maxSize : Nat)
    (params : CameraStreamParameters) (device : Bool) :
    (construct u id maxSize params device).Asks u maxSize params := by
  refine ⟨rfl,rfl,rfl,rfl,rfl,fun _ => rfl,fun settled => ?_⟩
  unfold Settled construct at settled
  dsimp only at settled
  split_ifs at settled <;> simp at settled

end Camera3Stream

namespace StreamWorld

open Camera3Stream

variable {u : BufferUsage} {maxSize : Nat} {params : CameraStreamParameters} {w w' : StreamWorld}
  {c : StreamCall}

/-- What holds after every run: the stream asks for its parameters, and has so far. -/
structure AsksInv (u : BufferUsage) (maxSize : Nat) (params : CameraStreamParameters)
    (w : StreamWorld) : Prop where
  stream : w.stream.Asks u maxSize params
  asked : ∀ request∈allocRequests w.log,request=requestFor maxSize params

theorem AsksInv.after {α : Type} {r : StreamResult α} (hi : w.AsksInv u maxSize params)
    (distinct : u.Distinct) (h : AsksAs u w.stream r) : (w.after r).AsksInv u maxSize params := by
  refine ⟨hi.stream.same h.same,?_⟩
  intro request asked
  rw [StreamWorld.after,allocRequests_append,List.mem_append] at asked
  rcases asked with before|now
  · exact hi.asked request before
  · obtain ⟨active,rfl⟩ := h.asked request now
    exact hi.stream.allocRequest distinct active

/-- A call of the configuration: the usage may be written, but nothing is asked. -/
theorem AsksInv.configure {α : Type} {r : StreamResult α} (hi : w.AsksInv u maxSize params)
    (stream : r.stream.Asks u maxSize params) (silent : allocRequests r.effects=[]) :
    (w.after r).AsksInv u maxSize params := by
  refine ⟨stream,?_⟩
  rw [StreamWorld.after,allocRequests_append,silent,List.append_nil]
  exact hi.asked

theorem step_asks (distinct : u.Distinct) (hi : w.AsksInv u maxSize params)
    (h : w.perform u c=some w') : w'.AsksInv u maxSize params := by
  cases c with
  | getBuffer frame alloc =>
    simp only [perform] at h
    split_ifs at h
    · cases h
      exact ⟨hi.stream,hi.asked⟩
    · cases h
      exact hi.after distinct (getBuffer_asks u w.stream frame 0 alloc)
  | wakeGetBuffer frame waitRes alloc =>
    simp only [perform] at h
    split_ifs at h
    cases h
    have woken := hi.after distinct (getBufferWoken_asks u w.stream frame waitRes alloc)
    exact ⟨woken.stream,woken.asked⟩
  | returnBuffer handle =>
    cases h
    exact hi.after distinct (returnBufferLocked_quiet w.stream handle).asks
  | returnBufferToClient status timestamp frame =>
    obtain ⟨r,hr,rfl⟩ := Option.map_eq_some_iff.mp h
    exact hi.after distinct (returnBufferToClient_quiet hr).asks
  | beginConfigure =>
    cases h
    exact hi.configure (beginConfigure_keepsAsks hi.stream) (beginConfigure_unasked u _)
  | endConfigure acquired =>
    cases h
    exact hi.configure (endConfigure_keepsAsks distinct hi.stream acquired)
      (endConfigure_unasked u _ acquired)
  | abortConfigure =>
    cases h
    exact hi.configure (abortConfigure_keepsAsks distinct hi.stream) (abortConfigure_unasked u _)
  | beginPrepare =>
    cases h
    exact hi.after distinct (beginPrepare_quiet w.stream).asks
  | prepareBuffer alloc =>
    cases h
    exact hi.after distinct (prepareBuffer_asks u w.stream alloc)
  | endPrepare =>
    cases h
    exact hi.after distinct (endPrepareLocked_quiet w.stream).asks
  | tearDown =>
    cases h
    exact hi.after distinct (tearDown_quiet w.stream).asks
  | close =>
    cases h
    have closed := closeLocked_quiet w.stream
    exact hi.after distinct (Quiet.asks ⟨closed.same,closed.silent⟩)

/-- Whatever is called in whatever order, through reconfigurations, aborts and closes: each buffer
is asked for with the size of the parameters and those of the client's flags that have a native
counterpart, the UBWC branch is never taken, and the HAL sees all the client's native flags. -/
theorem buffers_asked_alike (u : BufferUsage) (distinct : u.Distinct) (id : Int) (maxSize : Nat)
    (params : CameraStreamParameters) (device : Bool) {calls : List StreamCall} {w : StreamWorld}
    (hr : Run (fun w c w' => w.perform u c=some w')
      ⟨Camera3Stream.construct u id maxSize params device,[],[]⟩ calls w) :
    ∀ request∈allocRequests w.log,request=requestFor maxSize params ∧
      kPrivateAllocUbwc &&& request.usage.flags=0#32 ∧
      (request.descriptorInfo u).usage=u.toLocal params.allocFlags ||| u.CAMERA_OUTPUT := by
  have start : AsksInv u maxSize params
      ⟨Camera3Stream.construct u id maxSize params device,[],[]⟩ :=
    ⟨construct_asks u id maxSize params device,fun _ asked => absurd asked List.not_mem_nil⟩
  have hi := hr.invariant (fun _ _ _ hi h => step_asks distinct hi h) start
  intro request asked
  obtain rfl := hi.asked request asked
  refine ⟨rfl,?_,?_⟩
  · show kPrivateAllocUbwc &&& (params.allocFlags.flags &&& BufferUsage.mapped)=0#32
    rw [BitVec.and_comm params.allocFlags.flags,← BitVec.and_assoc,BufferUsage.mapped_ubwc,
      BitVec.zero_and]
  · rw [AllocRequest.descriptorInfo_usage distinct]
    exact congrArg (·|||u.CAMERA_OUTPUT) (distinct.toLocal_mapped params.allocFlags)

/-- A UBWC stream of two buffers that the CPU reads. -/
def ubwcPreview : CameraStreamParameters :=
  ⟨640,480,.IMPLEMENTATION_DEFINED,⟨kPrivateAllocUbwc ||| kSwReadOften ||| kHwCameraWrite⟩,2⟩

theorem buffers_asked_alike_ubwc : ∃ w,
    Run (fun w c w' => perform .android w c=some w')
      ⟨Camera3Stream.construct .android 0 0 ubwcPreview true,[],[]⟩
      [.beginConfigure,.endConfigure 0,.getBuffer 7 (some 5),.returnBuffer (some 5),
        .beginConfigure,.abortConfigure,.getBuffer 8 none,.getBuffer 9 (some 6)] w ∧
    allocRequests w.log≠[] ∧
    ∀ request∈allocRequests w.log,request=requestFor 0 ubwcPreview ∧
      kPrivateAllocUbwc &&& request.usage.flags=0#32 ∧
      (request.descriptorInfo .android).usage=
        BufferUsage.toLocal .android ubwcPreview.allocFlags ||| BufferUsage.android.CAMERA_OUTPUT := by
  obtain ⟨w,hr,asked⟩ := Run.of_exec_any (f := perform .android)
    (p := fun w => decide (allocRequests w.log≠[]))
    ⟨Camera3Stream.construct .android 0 0 ubwcPreview true,[],[]⟩
    [.beginConfigure,.endConfigure 0,.getBuffer 7 (some 5),.returnBuffer (some 5),
      .beginConfigure,.abortConfigure,.getBuffer 8 none,.getBuffer 9 (some 6)]
    (fun _ _ _ h => h) (by decide)
  exact ⟨w,hr,of_decide_eq_true asked,buffers_asked_alike .android BufferUsage.android_distinct
    0 0 ubwcPreview true hr⟩

end StreamWorld
end IotMedia.Camera
