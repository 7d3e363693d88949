import IotMedia.Camera.InternalPause
import IotMedia.Camera.PrepareHandler
import IotMedia.Camera.SubmitRequests

namespace IotMedia.Camera

open IotMedia.Framework RequestMetadata

/-- The client and what its calls by stream id reach besides: the reprocess queue and the prepare
handler, which here knows streams by their ids. -/
structure StreamCalls (M : Type) where
  submit : SubmitClient M
  prepareHandler : Camera3PrepareHandler Int

/-- The calls that are given stream ids; `run` is what starting the prepare handler's thread
returns. -/
inductive IdCall (M : Type)
  | submitRequestList (requests : List (Camera3Request M)) (streaming : Bool)
  | deleteStream (cache : Bool)
  | prepare (run : Int)
  | tearDown
  | returnStreamBuffer (buffer : Option Handle)

namespace DeviceClient

variable {M : Type}

def tearDown (c : DeviceClient M) (streamId : Int) : Except Stop Int × DeviceClient M :=
  match c.streams.valueFor streamId with
  | none => (.error .fault,c)
  | some stream =>
    if c.handler.isStreamActive stream.id then (.ok (-EINVAL),c)
    else (.ok stream.tearDown.ret,
      { c with streams := c.streams.replaceValueFor streamId stream.tearDown.stream })

def returnStreamBuffer (c : DeviceClient M) (streamId : Int) (buffer : Option Handle) :
    Int × DeviceClient M :=
  match c.state with
  | .ERROR | .NOT_INITIALIZED | .CLOSED | .NOT_CONFIGURED => (-ENOSYS,c)
  | .CONFIGURED | .RUNNING =>
    match c.streams.valueFor streamId with
    | none => (-EINVAL,c)
    | some stream =>
      let returned := stream.returnBuffer buffer
      (returned.ret,{ c with streams := c.streams.replaceValueFor streamId returned.stream })

theorem prepare_missing {c : DeviceClient M} {streamId : Int}
    (missing : c.streams.valueFor streamId=none) (h : Camera3PrepareHandler Int) (run : Int) :
    c.prepare h streamId streamId run=(.error .fault,c,h) := by
  rw [prepare,missing]

theorem tearDown_missing {c : DeviceClient M} {streamId : Int}
    (missing : c.streams.valueFor streamId=none) : c.tearDown streamId=(.error .fault,c) := by
  rw [tearDown,missing]

theorem returnStreamBuffer_missing {c : DeviceClient M} {streamId : Int} {buffer : Option Handle}
    (hc : c.state=.CONFIGURED ∨ c.state=.RUNNING) (missing : c.streams.valueFor streamId=none) :
    c.returnStreamBuffer streamId buffer=(-EINVAL,c) := by
  unfold returnStreamBuffer
  rcases hc with hc|hc <;> rw [hc] <;> dsimp only <;> rw [missing]

end DeviceClient

namespace StreamCalls

variable {M : Type} [RequestMetadata M]

def client (s : StreamCalls M) : DeviceClient M := s.submit.client

def onClient (s : StreamCalls M) (c : DeviceClient M) : StreamCalls M :=
  { s with submit := { s.submit with client := c } }

def perform (u : BufferUsage) (s : StreamCalls M) (env : SubmitListEnv M) (id : Int) :
    IdCall M → Except Stop Int × StreamCalls M
  | .submitRequestList requests streaming =>
    let r := s.submit.submitRequestList u env requests streaming
    (r.1,{ s with submit := r.2 })
  | .deleteStream cache =>
    let r := s.client.deleteStream u env.toClientEnv id cache
    (.ok r.ret,s.onClient r.client)
  | .prepare run =>
    let r := s.client.prepare s.prepareHandler id id run
    (r.1,{ s.onClient r.2.1 with prepareHandler := r.2.2 })
  | .tearDown =>
    let r := s.client.tearDown id
    (r.1,s.onClient r.2)
  | .returnStreamBuffer buffer =>
    let r := s.client.returnStreamBuffer id buffer
    (.ok r.1,s.onClient r.2)

/-- The id is neither that of a registered stream nor that of a registered input stream. -/
def Unknown (id : Int) (s : StreamCalls M) : Prop :=
  id∉s.client.streams.keys ∧
    ¬(0 ≤ s.client.inputStream.streamId ∧ id=s.client.inputStream.streamId)

/-- The state at the end of the idle wait that the call makes, as other calls have left it. -/
def meanwhile (s : StreamCalls M) (env : SubmitListEnv M) : IdCall M → StreamCalls M
  | .deleteStream false =>
    if s.client.state=.RUNNING then s.onClient { s.client with
      state := env.idle.state
      streams := env.idle.streams
      handler := { s.client.handler with
        requests := env.idle.requests
        streamingRequests := env.idle.streamingRequests
        currentRequest := env.idle.currentRequest } }
    else s
  | _ => s

/-- The call answers -EINVAL and leaves everything as it was. -/
structure Rejected (before after : StreamCalls M) (ret : Except Stop Int) : Prop where
  ret : ret=.ok (-EINVAL)
  streams : after.client.streams.keys=before.client.streams.keys
  requests : after.client.handler.requests=before.client.handler.requests
  streamingRequests :
    after.client.handler.streamingRequests=before.client.handler.streamingRequests
  reprocRequests : after.submit.reprocRequests=before.submit.reprocRequests
  pause : after.client.handler.togglePauseState=before.client.handler.togglePauseState
  inputStream : after.client.inputStream=before.client.inputStream

/-- The request without the stream. -/
def without (id : Int) (r : Camera3Request M) : Camera3Request M :=
  { r with streamIds := r.streamIds.filter fun i => i≠id }

/-- A submission that names the stream, and that is accepted if the stream is left out. -/
def OtherwiseValid (u : BufferUsage) (s : StreamCalls M) (env : SubmitListEnv M) (id : Int) :
    IdCall M → Prop
  | .submitRequestList requests streaming => (∃ r∈requests,id∈r.streamIds) ∧
    ∃ ret : Int,0 ≤ ret ∧
      (s.submit.submitRequestList u env (requests.map (without id)) streaming).1=.ok ret
  | _ => True

/-- SubmitRequestList rejects only the id that stands for no input stream, and that only if some
request names it twice, or lacks both it and an entry for input streams; DeleteStream rejects any
other id, without `cache` if captures are paused already and no idle wait fails otherwise;
ReturnStreamBuffer rejects every id. -/
def Rejects (s : StreamCalls M) (env : SubmitListEnv M) (id : Int) : IdCall M → Prop
  | .submitRequestList requests _ => id=s.client.inputStream.streamId ∧
    ∃ r∈requests,2 ≤ r.streamIds.count id ∨
      id∉r.streamIds ∧ findEntry r.metadata .ANDROID_REQUEST_INPUT_STREAMS=none
  | .deleteStream true => id≠s.client.inputStream.streamId
  | .deleteStream false => s.client.handler.togglePauseState=true ∧
    if s.client.state=.RUNNING ∧ env.idle.res≠0 then env.idle.res= -EINVAL
    else id≠s.client.inputStream.streamId
  | .prepare _ => False
  | .tearDown => False
  | .returnStreamBuffer _ => True

end StreamCalls

section Sorted

/-! The sorted ids of a request, with the stream and without it. -/

theorem sorted_filter (ids : List Int) (p : Int → Bool) :
    (ids.filter p).insertionSort (· ≤ ·)=(ids.insertionSort (· ≤ ·)).filter p := by
  apply List.Perm.eq_of_pairwise' (r := (· ≤ ·))
  · exact List.pairwise_insertionSort _ _
  · exact (List.pairwise_insertionSort _ _).filter p
  · exact (List.perm_insertionSort _ _).trans ((List.perm_insertionSort _ ids).symm.filter p)

variable {ids : List Int} {id : Int} {j : Nat}

theorem erase_count (hj : ids[j]?=some id) : (ids.eraseIdx j).count id+1=ids.count id := by
  obtain ⟨bound,found⟩ := List.getElem?_eq_some_iff.mp hj
  have parts := (List.getElem_cons_eraseIdx_perm bound).count_eq id
  rw [found,List.count_cons_self] at parts
  exact parts

theorem erase_single (hj : ids[j]?=some id) (once : ids.count id ≤ 1) :
    ids.eraseIdx j=ids.filter fun i => i≠id := by
  have none : id∉ids.eraseIdx j := by
    intro hm
    have pos := List.count_pos_iff.mpr hm
    have counted := erase_count hj
    omega
  obtain ⟨bound,found⟩ := List.getElem?_eq_some_iff.mp hj
  have split : ids=ids.take j++id::ids.drop (j+1) := by
    rw [← found,List.cons_getElem_drop_succ,List.take_append_drop]
  rw [List.eraseIdx_eq_take_drop_succ] at none ⊢
  have others : ∀ i∈ids.take j++ids.drop (j+1),i≠id := fun i hi same => none (same ▸ hi)
  conv_rhs => rw [split]
  rw [List.filter_append,List.filter_cons_of_neg (by simp),← List.filter_append]
  symm
  exact List.filter_eq_self.mpr fun i hi => by simpa using others i hi

end Sorted

namespace DeviceClient

variable {M : Type} [RequestMetadata M] {c : DeviceClient M} {id : Int}

section Check

theorem checkRequest_ok {r : Camera3Request M} {k : Int} {m : M} (h : c.checkRequest r k=.ok m) :
    ¬CameraMetadata.isEmpty r.metadata=true ∧ r.streamIds≠[] ∧ ∃ m₁ inp,
      c.checkStreamIds r.metadata none (-1) 0 (r.streamIds.insertionSort (· ≤ ·))=.ok (m₁,inp) ∧
      m=updateEntry (updateEntry m₁ .ANDROID_REQUEST_OUTPUT_STREAMS
        (outputIds (r.streamIds.insertionSort (· ≤ ·)) inp)) .ANDROID_REQUEST_ID [k] := by
  unfold checkRequest at h
  split_ifs at h with full none
  dsimp only at h
  split at h
  · cases h
  next m₁ inp done => exact ⟨full,none,m₁,inp,done,(Except.ok.inj h).symm⟩

theorem checkRequest_of {r : Camera3Request M} {m₁ : M} {inp : Option Nat} (k : Int)
    (full : ¬CameraMetadata.isEmpty r.metadata=true) (some_ : r.streamIds≠[])
    (done : c.checkStreamIds r.metadata none (-1) 0 (r.streamIds.insertionSort (· ≤ ·))=
      .ok (m₁,inp)) :
    c.checkRequest r k=.ok (updateEntry (updateEntry m₁ .ANDROID_REQUEST_OUTPUT_STREAMS
      (outputIds (r.streamIds.insertionSort (· ≤ ·)) inp)) .ANDROID_REQUEST_ID [k]) := by
  rw [checkRequest,if_neg full,if_neg some_]
  dsimp only
  rw [done]

/-- SubmitRequestList looks the missing stream up. -/
theorem checkStreamIds_fault (missing : c.streams.valueFor id=none)
    (hs : c.inputStream.streamId≠id) (m : M) (inp : Option Nat) (prev : Int) (i : Nat)
    (ids : List Int) (named : id∈ids)
    (fine : ∃ x,c.checkStreamIds m inp prev i (ids.filter fun k => k≠id)=.ok x) :
    c.checkStreamIds m inp prev i ids=.error .fault := by
  induction ids generalizing m inp prev i with
  | nil => simp at named
  | cons k ids ih =>
    by_cases here : k=id
    · rw [here,checkStreamIds,if_neg hs,missing]
    have later : id∈ids := (List.mem_cons.mp named).resolve_left (Ne.symm here)
    rw [List.filter_cons_of_pos (by simpa using here)] at fine
    rw [checkStreamIds] at fine ⊢
    by_cases input : c.inputStream.streamId=k
    · rw [if_pos input] at fine ⊢
      exact ih _ _ _ _ later fine
    rw [if_neg input] at fine ⊢
    cases found : c.streams.valueFor k with
    | none => simp [found] at fine
    | some stream =>
      rw [found] at fine
      dsimp only at fine ⊢
      by_cases twice : prev=k
      · simp [twice] at fine
      · rw [if_neg twice] at fine ⊢
        exact ih _ _ _ _ later fine

theorem checkRequest_fault (missing : c.streams.valueFor id=none)
    (hs : c.inputStream.streamId≠id) (r : Camera3Request M) (k : Int) (named : id∈r.streamIds)
    (fine : ∃ m',c.checkRequest (StreamCalls.without id r) k=.ok m') :
    c.checkRequest r k=.error .fault := by
  obtain ⟨m',fine⟩ := fine
  obtain ⟨full,-,m₁,inp,check,-⟩ := checkRequest_ok fine
  have kept : ¬CameraMetadata.isEmpty r.metadata=true := full
  have sorted : ((StreamCalls.without id r).streamIds.insertionSort (· ≤ ·))=
      (r.streamIds.insertionSort (· ≤ ·)).filter fun i => i≠id := sorted_filter _ _
  rw [sorted] at check
  have fault := checkStreamIds_fault missing hs r.metadata none (-1) 0 _
    ((List.perm_insertionSort _ _).mem_iff.mpr named) ⟨_,check⟩
  rw [checkRequest,if_neg kept,if_neg (List.ne_nil_of_mem named)]
  dsimp only
  rw [fault]

theorem checkRequests_fault (missing : c.streams.valueFor id=none)
    (hs : c.inputStream.streamId≠id) (requests : List (Camera3Request M)) (k : Int)
    (named : ∃ r∈requests,id∈r.streamIds)
    (fine : ∃ ms,c.checkRequests k (requests.map (StreamCalls.without id))=.ok ms) :
    c.checkRequests k requests=.error .fault := by
  induction requests generalizing k with
  | nil => simp at named
  | cons r requests ih =>
    obtain ⟨ms,fine⟩ := fine
    rw [List.map_cons,checkRequests] at fine
    rw [checkRequests]
    split at fine
    · cases fine
    next m' first =>
      split at fine
      · cases fine
      next rest others =>
        by_cases here : id∈r.streamIds
        · rw [checkRequest_fault missing hs r k here ⟨m',first⟩]
        · have same : StreamCalls.without id r=r := by
            have all : r.streamIds.filter (fun i => i≠id)=r.streamIds := by
              rw [List.filter_eq_self]
              intro i hi
              simpa using fun equal : i=id => here (equal ▸ hi)
            rw [StreamCalls.without,all]
          have later : ∃ r∈requests,id∈r.streamIds := by
            obtain ⟨q,hq,member⟩ := named
            rcases List.mem_cons.mp hq with rfl|hq
            · exact absurd member here
            · exact ⟨q,hq,member⟩
          rw [same] at first
          rw [first]
          dsimp only
          rw [ih (k+1) later ⟨rest,others⟩]

variable [LawfulRequestMetadata M]

/-- The id that stands for no input stream is taken for the input stream. -/
theorem checkStreamIds_sentinel (hs : c.inputStream.streamId=id) (m m' : M) (inp inp' : Option Nat)
    (prev : Int) (i i' : Nat) (ids : List Int) {x : M × Option Nat}
    (fine : c.checkStreamIds m' inp' prev i' (ids.filter fun k => k≠id)=.ok x) :
    x=(m',inp') ∧ ∃ m₁ inp₁,c.checkStreamIds m inp prev i ids=.ok (m₁,inp₁) ∧
      (id∉ids → m₁=m ∧ inp₁=inp) ∧
      (id∈ids → (∃ j,inp₁=some (i+j) ∧ ids[j]?=some id) ∧
        findEntry m₁ .ANDROID_REQUEST_INPUT_STREAMS=some [id]) := by
  induction ids generalizing m m' inp inp' prev i i' with
  | nil =>
    refine ⟨(Except.ok.inj fine).symm,m,inp,rfl,fun _ => ⟨rfl,rfl⟩,?_⟩
    intro named
    cases named
  | cons k ids ih =>
    by_cases here : k=id
    · subst here
      rw [List.filter_cons_of_neg (by simp)] at fine
      obtain ⟨same,m₁,inp₁,done,unnamed,named⟩ := ih
        (updateEntry m .ANDROID_REQUEST_INPUT_STREAMS [k]) m' (some i) inp' prev (i+1) i' fine
      refine ⟨same,m₁,inp₁,by rw [checkStreamIds,if_pos hs]; exact done,
        fun h => absurd List.mem_cons_self h,fun _ => ?_⟩
      by_cases again : k∈ids
      · obtain ⟨⟨j,at_,place⟩,entry⟩ := named again
        exact ⟨⟨j+1,by rw [at_]; congr 1; omega,by simpa using place⟩,entry⟩
      · obtain ⟨rfl,rfl⟩ := unnamed again
        exact ⟨⟨0,rfl,rfl⟩,LawfulRequestMetadata.find_update _ _ _⟩
    · have other : c.inputStream.streamId≠k := fun h => here (h.symm.trans hs)
      rw [List.filter_cons_of_pos (by simpa using here),checkStreamIds,if_neg other] at fine
      rw [checkStreamIds,if_neg other]
      cases found : c.streams.valueFor k with
      | none => simp [found] at fine
      | some stream =>
        rw [found] at fine
        dsimp only at fine ⊢
        by_cases twice : prev=k
        · simp [twice] at fine
        rw [if_neg twice] at fine ⊢
        obtain ⟨same,m₁,inp₁,done,unnamed,named⟩ := ih m m' inp inp' k (i+1) (i'+1) fine
        refine ⟨same,m₁,inp₁,done,fun h => unnamed fun later => h (List.mem_cons_of_mem k later),?_⟩
        intro h
        have later := (List.mem_cons.mp h).resolve_left (Ne.symm here)
        obtain ⟨⟨j,at_,place⟩,entry⟩ := named later
        exact ⟨⟨j+1,by rw [at_]; congr 1; omega,by simpa using place⟩,entry⟩

/-- What becomes of the metadata of a request in SubmitRequestList, with the stream (`m`) and
without it (`m'`). -/
structure Follows (id : Int) (r : Camera3Request M) (m m' : M) : Prop where
  once : r.streamIds.count id ≤ 1 →
    findEntry m .ANDROID_REQUEST_OUTPUT_STREAMS=findEntry m' .ANDROID_REQUEST_OUTPUT_STREAMS
  twice : 2 ≤ r.streamIds.count id →
    ∃ ids,findEntry m .ANDROID_REQUEST_OUTPUT_STREAMS=some ids ∧ id∈ids
  request : findEntry m .ANDROID_REQUEST_ID=findEntry m' .ANDROID_REQUEST_ID
  named : id∈r.streamIds → findEntry m .ANDROID_REQUEST_INPUT_STREAMS=some [id]
  unnamed : id∉r.streamIds → findEntry m .ANDROID_REQUEST_INPUT_STREAMS=
    findEntry m' .ANDROID_REQUEST_INPUT_STREAMS
  own : findEntry m' .ANDROID_REQUEST_INPUT_STREAMS=
    findEntry r.metadata .ANDROID_REQUEST_INPUT_STREAMS

theorem checkRequest_sentinel (hs : c.inputStream.streamId=id) (r : Camera3Request M) (k : Int)
    {m' : M} (fine : c.checkRequest (StreamCalls.without id r) k=.ok m') :
    ∃ m,c.checkRequest r k=.ok m ∧ Follows id r m m' := by
  obtain ⟨full,some_,m₂,inp₂,check,rfl⟩ := checkRequest_ok fine
  have sorted : ((StreamCalls.without id r).streamIds.insertionSort (· ≤ ·))=
      (r.streamIds.insertionSort (· ≤ ·)).filter fun i => i≠id := sorted_filter _ _
  rw [sorted] at check ⊢
  obtain ⟨same,m₁,inp₁,done,unnamed,named⟩ :=
    checkStreamIds_sentinel hs r.metadata r.metadata none none (-1) 0 0 _ check
  cases same
  have order := List.perm_insertionSort (· ≤ ·) r.streamIds
  have count : (r.streamIds.insertionSort (· ≤ ·)).count id=r.streamIds.count id :=
    order.count_eq id
  have ids : r.streamIds≠[] := by
    intro none
    exact some_ (by simp [StreamCalls.without,none])
  refine ⟨_,checkRequest_of k full ids done,?_⟩
  have output : ∀ (m : M) ids,findEntry (updateEntry (updateEntry m .ANDROID_REQUEST_OUTPUT_STREAMS
      ids) .ANDROID_REQUEST_ID [k]) .ANDROID_REQUEST_OUTPUT_STREAMS=some ids := by
    intro m ids
    rw [LawfulRequestMetadata.find_update_ne _ _ _ _ (by decide),LawfulRequestMetadata.find_update]
  have input : ∀ (m : M) ids,findEntry (updateEntry (updateEntry m .ANDROID_REQUEST_OUTPUT_STREAMS
      ids) .ANDROID_REQUEST_ID [k]) .ANDROID_REQUEST_INPUT_STREAMS=
        findEntry m .ANDROID_REQUEST_INPUT_STREAMS := by
    intro m ids
    rw [LawfulRequestMetadata.find_update_ne _ _ _ _ (by decide),
      LawfulRequestMetadata.find_update_ne _ _ _ _ (by decide)]
  have member : id∈r.streamIds.insertionSort (· ≤ ·) ↔ id∈r.streamIds := order.mem_iff
  constructor
  · intro once
    rw [output,output,outputIds]
    by_cases here : id∈r.streamIds
    · obtain ⟨⟨j,rfl,place⟩,-⟩ := named (member.mpr here)
      rw [Nat.zero_add,outputIds,erase_single place (by omega)]
    · obtain ⟨rfl,rfl⟩ := unnamed (fun h => here (member.mp h))
      rw [outputIds,List.filter_eq_self.mpr]
      intro i hi
      simpa using fun same : i=id => here (member.mp (same ▸ hi))
  · intro twice
    have here : id∈r.streamIds := List.count_pos_iff.mp (by omega)
    obtain ⟨⟨j,rfl,place⟩,-⟩ := named (member.mpr here)
    have left := erase_count place
    rw [output]
    refine ⟨_,rfl,?_⟩
    rw [Nat.zero_add,outputIds]
    exact List.count_pos_iff.mp (by omega)
  · rw [LawfulRequestMetadata.find_update,LawfulRequestMetadata.find_update]
  · intro here
    rw [input]
    exact (named (member.mpr here)).2
  · intro absent
    rw [input,input,(unnamed fun h => absent (member.mp h)).1]
  · rw [input]

/-- The requests with their metadata, with the stream and without it. -/
theorem checkRequests_sentinel (hs : c.inputStream.streamId=id)
    (requests : List (Camera3Request M)) (k : Int) {ms' : List M}
    (fine : c.checkRequests k (requests.map (StreamCalls.without id))=.ok ms') :
    ∃ rows : List (Camera3Request M × M × M),rows.map (fun row => row.1)=requests ∧
      rows.map (fun row => row.2.2)=ms' ∧
      c.checkRequests k requests=.ok (rows.map fun row => row.2.1) ∧
      ∀ row∈rows,Follows id row.1 row.2.1 row.2.2 := by
  induction requests generalizing k ms' with
  | nil => exact ⟨[],rfl,Except.ok.inj fine,rfl,by simp⟩
  | cons r requests ih =>
    rw [List.map_cons,checkRequests] at fine
    split at fine
    · cases fine
    next m' first =>
      split at fine
      · cases fine
      next rest others =>
        obtain ⟨m,done,follows⟩ := checkRequest_sentinel hs r k first
        obtain ⟨rows,heads,lasts,all,every⟩ := ih (k+1) others
        refine ⟨(r,m,m')::rows,by rw [List.map_cons,heads],?_,?_,?_⟩
        · rw [List.map_cons,lasts]
          exact Except.ok.inj fine
        · rw [checkRequests,done]
          dsimp only
          rw [all]
          rfl
        · intro row hrow
          rcases List.mem_cons.mp hrow with rfl|hrow
          · exact follows
          · exact every row hrow

end Check

section Generate

variable {u : BufferUsage} {env : ClientEnv M} {acquired : Int → Int} {c' d : DeviceClient M}

/-- What a submission that is not queued leaves alone. -/
structure Kept (c c' : DeviceClient M) : Prop where
  streams : c'.streams.keys=c.streams.keys
  requests : c'.handler.requests=c.handler.requests
  streamingRequests : c'.handler.streamingRequests=c.handler.streamingRequests
  pause : c'.handler.togglePauseState=c.handler.togglePauseState
  inputStream : c'.inputStream=c.inputStream

omit [RequestMetadata M] in
theorem Kept.refl (c : DeviceClient M) : Kept c c := ⟨rfl,rfl,rfl,rfl,rfl⟩

omit [RequestMetadata M] in
theorem Kept.trans (h : Kept c c') (h' : Kept c' d) : Kept c d :=
  ⟨h'.streams.trans h.streams,h'.requests.trans h.requests,
    h'.streamingRequests.trans h.streamingRequests,h'.pause.trans h.pause,
    h'.inputStream.trans h.inputStream⟩

omit [RequestMetadata M] in
theorem configure_kept (u : BufferUsage) (c : DeviceClient M) (env : ClientEnv M) :
    Kept c (configureStreamsLocked u c env).client := by
  obtain ⟨pause,-,requests,streaming,-⟩ := configure_flags u c env
  refine ⟨?_,requests,streaming,pause,?_⟩
  · unfold configureStreamsLocked
    dsimp only
    split_ifs <;> simp [internalUpdateStatusLocked]
  · unfold configureStreamsLocked
    dsimp only
    split_ifs <;> rfl

omit [RequestMetadata M] in
theorem Kept.configure (h : Kept c d) (env : ClientEnv M) :
    Kept c (configureStreamsLocked u d env).client := h.trans (configure_kept u d env)

omit [RequestMetadata M] in
theorem Kept.replace (h : Kept c d) (id : Int) (s : Camera3Stream) :
    Kept c { d with streams := d.streams.replaceValueFor id s } :=
  h.trans ⟨KeyedVector.keys_replaceValueFor _ _ _,rfl,rfl,rfl,rfl⟩

omit [RequestMetadata M] in
theorem configureIfDue_kept (u : BufferUsage) (c : DeviceClient M) (env : ClientEnv M) :
    Kept c (configureIfDue u c env).2 :=
  configureIfDue_rule (fun _ h => h.configure env) (Kept.refl c)

omit [RequestMetadata M] in
theorem pushStreams_kept (u : BufferUsage) (env : ClientEnv M) (ids : List Int)
    (c : DeviceClient M) : Kept c (pushStreams u env.acquired c ids).client :=
  pushStreams_rule (fun _ id _ h _ => h.replace id _) ids (Kept.refl c)

omit [RequestMetadata M] in
/-- A stream that is missing is found out, if nothing before it fails. -/
theorem pushStreams_missing (ids : List Int) (c : DeviceClient M) (named : id∈ids)
    (missing : id∉c.streams.keys) : (pushStreams u acquired c ids).res≠0 := by
  induction ids generalizing c with
  | nil => cases named
  | cons k ids ih =>
    rw [pushStreams]
    split
    · simp [EINVAL]
    next s found =>
      have other : k≠id := by
        intro same
        rw [← same,KeyedVector.mem_keys_iff] at missing
        exact missing ⟨s,found⟩
      have later : id∈ids := (List.mem_cons.mp named).resolve_left (Ne.symm other)
      dsimp only
      split_ifs
      · simp [ENODEV]
      · simp [ENOSYS]
      · exact ih _ later (by simpa using missing)

theorem generate_kept (u : BufferUsage) (env : ClientEnv M) (c : DeviceClient M) (m : M) :
    Kept c (generateCaptureRequestLocked u c env m).client :=
  generate_rule (fun _ h => h.configure env) (fun _ id _ h _ => h.replace id _) (Kept.refl c) m

theorem getRequestList_kept (u : BufferUsage) (env : ClientEnv M) (ms : List M)
    (c : DeviceClient M) (burstId : Nat) : Kept c (getRequestListLocked u env c burstId ms).client :=
  getRequestList_rule (fun _ h => h.configure env) (fun _ id _ h _ => h.replace id _) ms
    (Kept.refl c) burstId

/-- The blocks of GenerateCaptureRequestLocked that a request passes. -/
structure Passes (u : BufferUsage) (c : DeviceClient M) (env : ClientEnv M) (m : M) (k : Int)
    (ids : List Int) (input : Bool) : Prop where
  due : (configureIfDue u c env).1=0
  outputs : findEntry m .ANDROID_REQUEST_OUTPUT_STREAMS=some (k::ids)
  pushed : (pushStreams u env.acquired (configureIfDue u c env).2 (k::ids)).res=0
  input : (pushStreams u env.acquired (configureIfDue u c env).2 (k::ids)).client.inputOf
    (erase m .ANDROID_REQUEST_OUTPUT_STREAMS)=.ok input

variable {m : M} {k : Int} {ids : List Int} {input : Bool}

theorem Passes.generated (h : Passes u c env m k ids input) :
    (generateCaptureRequestLocked u c env m).client=
      (pushStreams u env.acquired (configureIfDue u c env).2 (k::ids)).client ∧
    ∃ q,(generateCaptureRequestLocked u c env m).value=some q ∧ q.input=input := by
  obtain ⟨due,outputs,pushed,given⟩ := h
  unfold generateCaptureRequestLocked
  dsimp only
  rw [if_neg (not_not.mpr due),outputs]
  dsimp only
  rw [if_neg (not_not.mpr pushed),given]
  exact ⟨rfl,_,rfl,rfl⟩

theorem generated_passes {q : CaptureRequest M}
    (h : (generateCaptureRequestLocked u c env m).value=some q) :
    ∃ k ids,Passes u c env m k ids q.input := by
  unfold generateCaptureRequestLocked at h
  dsimp only at h
  split_ifs at h with due
  split at h
  · cases h
  · cases h
  next k ids outputs =>
    split_ifs at h with pushed
    split at h
    · cases h
    next input given =>
      cases Option.some.inj h
      exact ⟨k,ids,not_not.mp due,outputs,not_not.mp pushed,given⟩

section Follow

variable [LawfulRequestMetadata M] {r : Camera3Request M} {m m' : M}

theorem inputOf_erase (c : DeviceClient M) (m : M) :
    c.inputOf (erase m .ANDROID_REQUEST_OUTPUT_STREAMS)=c.inputOf m := by
  rw [inputOf,LawfulRequestMetadata.find_erase_ne _ _ _ (by decide),inputOf]

/-- A request is generated with the stream as without it; it is an input request then. -/
theorem generate_follows (hs : c.inputStream.streamId=id) (follows : Follows id r m m')
    (once : r.streamIds.count id ≤ 1) {q' : CaptureRequest M}
    (done : (generateCaptureRequestLocked u c env m').value=some q') :
    (generateCaptureRequestLocked u c env m).client=
      (generateCaptureRequestLocked u c env m').client ∧
    ∃ q,(generateCaptureRequestLocked u c env m).value=some q ∧
      (q.input=true ↔ id∈r.streamIds ∨ q'.input=true) := by
  obtain ⟨k,ids,passes⟩ := generated_passes done
  have kept := (configureIfDue_kept u c env).trans
    (pushStreams_kept u env (k::ids) (configureIfDue u c env).2)
  have outputs := passes.outputs
  rw [← follows.once once] at outputs
  rw [passes.generated.1]
  by_cases here : id∈r.streamIds
  · have given : (pushStreams u env.acquired (configureIfDue u c env).2 (k::ids)).client.inputOf
        (erase m .ANDROID_REQUEST_OUTPUT_STREAMS)=.ok true := by
      rw [inputOf_erase,inputOf,follows.named here]
      dsimp only
      rw [if_pos (by rw [kept.inputStream,hs])]
    obtain ⟨client,q,value,input⟩ :=
      (⟨passes.due,outputs,passes.pushed,given⟩ : Passes u c env m k ids true).generated
    exact ⟨client,q,value,by simp [input,here]⟩
  · have given : (pushStreams u env.acquired (configureIfDue u c env).2 (k::ids)).client.inputOf
        (erase m .ANDROID_REQUEST_OUTPUT_STREAMS)=.ok q'.input := by
      rw [← passes.input,inputOf_erase,inputOf_erase,inputOf,inputOf,follows.unnamed here]
    obtain ⟨client,q,value,input⟩ :=
      (⟨passes.due,outputs,passes.pushed,given⟩ : Passes u c env m k ids q'.input).generated
    exact ⟨client,q,value,by simp [input,here]⟩

/-- Without the stream it is an input request by its own metadata. -/
theorem generate_own (follows : Follows id r m m') {q' : CaptureRequest M}
    (done : (generateCaptureRequestLocked u c env m').value=some q') :
    q'.input=false ↔ findEntry r.metadata .ANDROID_REQUEST_INPUT_STREAMS=none := by
  obtain ⟨k,ids,passes⟩ := generated_passes done
  have given := passes.input
  rw [inputOf_erase,inputOf,follows.own] at given
  cases entry : findEntry r.metadata .ANDROID_REQUEST_INPUT_STREAMS with
  | none =>
    rw [entry] at given
    simp [← Except.ok.inj given]
  | some vs =>
    rw [entry] at given
    split at given
    · rename_i absent
      cases absent
    · split_ifs at given
      simp [← Except.ok.inj given]
    · cases given

omit [LawfulRequestMetadata M] in
/-- Named twice the stream stays among the outputs, where it is not found. -/
theorem generate_twice (missing : id∉c.streams.keys) (follows : Follows id r m m')
    (twice : 2 ≤ r.streamIds.count id) : (generateCaptureRequestLocked u c env m).value=none := by
  cases done : (generateCaptureRequestLocked u c env m).value with
  | none => rfl
  | some q =>
    obtain ⟨k,ids,passes⟩ := generated_passes done
    obtain ⟨outputs,entry,member⟩ := follows.twice twice
    rw [passes.outputs] at entry
    cases entry
    have absent : id∉(configureIfDue u c env).2.streams.keys := by
      rw [(configureIfDue_kept u c env).streams]
      exact missing
    exact absurd passes.pushed (pushStreams_missing _ _ member absent)

/-- The requests of the list: without the stream, and with it. -/
theorem getRequestList_follows (hs : c.inputStream.streamId=id) (missing : id∉c.streams.keys)
    (rows : List (Camera3Request M × M × M)) (burstId : Nat)
    (follows : ∀ row∈rows,Follows id row.1 row.2.1 row.2.2)
    (fine : (getRequestListLocked u env c burstId (rows.map fun row => row.2.2)).res=0) :
    (getRequestListLocked u env c burstId (rows.map fun row => row.2.2)).value.map
        CaptureRequest.input=rows.map (fun row =>
          decide (findEntry row.1.metadata .ANDROID_REQUEST_INPUT_STREAMS≠none)) ∧
    ((∃ row∈rows,2 ≤ row.1.streamIds.count id) →
      (getRequestListLocked u env c burstId (rows.map fun row => row.2.1)).res= -EINVAL) ∧
    ((∀ row∈rows,row.1.streamIds.count id ≤ 1) →
      (getRequestListLocked u env c burstId (rows.map fun row => row.2.1)).res=0 ∧
      (getRequestListLocked u env c burstId (rows.map fun row => row.2.1)).value.map
        CaptureRequest.input=rows.map fun row => decide (id∈row.1.streamIds ∨
          findEntry row.1.metadata .ANDROID_REQUEST_INPUT_STREAMS≠none)) := by
  induction rows generalizing c burstId with
  | nil => exact ⟨rfl,fun h => by simp at h,fun _ => ⟨rfl,rfl⟩⟩
  | cons row rows ih =>
    have follow := follows row List.mem_cons_self
    simp only [List.map_cons,getRequestListLocked] at fine ⊢
    cases done : (generateCaptureRequestLocked u c env row.2.2).value with
    | none => simp [done,EINVAL] at fine
    | some q' =>
      rw [done] at fine
      dsimp only at fine ⊢
      rw [← follow.request] at fine ⊢
      split at fine
      · simp [EINVAL] at fine
      · simp [EINVAL] at fine
      next requestId more entry =>
        have kept := generate_kept u env c row.2.2
        obtain ⟨own,twice,once⟩ := ih (kept.inputStream ▸ hs) (by rw [kept.streams]; exact missing)
          (burstId+1) (fun row hrow => follows row (List.mem_cons_of_mem _ hrow)) fine
        have first : q'.input=true ↔
            findEntry row.1.metadata .ANDROID_REQUEST_INPUT_STREAMS≠none := by
          rw [← Bool.not_eq_false,generate_own follow done]
        have bit : q'.input=
            decide (findEntry row.1.metadata .ANDROID_REQUEST_INPUT_STREAMS≠none) :=
          Bool.eq_iff_iff.mpr (first.trans decide_eq_true_iff.symm)
        by_cases here : 2 ≤ row.1.streamIds.count id
        · rw [generate_twice missing follow here]
          refine ⟨by simp [own,bit],fun _ => rfl,?_⟩
          intro all
          have bound := all row List.mem_cons_self
          omega
        · obtain ⟨client,q,value,input⟩ := generate_follows hs follow (by omega) done
          rw [value,client]
          refine ⟨by simp [own,bit],?_,?_⟩
          · rintro ⟨other,hother,named⟩
            rcases List.mem_cons.mp hother with rfl|hother
            · exact absurd named here
            · exact twice ⟨other,hother,named⟩
          · intro all
            obtain ⟨res,inputs⟩ := once fun row hrow => all row (List.mem_cons_of_mem _ hrow)
            refine ⟨res,?_⟩
            have now : q.input=decide (id∈row.1.streamIds ∨
                findEntry row.1.metadata .ANDROID_REQUEST_INPUT_STREAMS≠none) := by
              rw [first] at input
              exact Bool.eq_iff_iff.mpr (input.trans decide_eq_true_iff.symm)
            simp [inputs,now]

end Follow

theorem getRequestList_res (ms : List M) (c : DeviceClient M) (burstId : Nat) :
    (getRequestListLocked u env c burstId ms).res=0 ∨
      (getRequestListLocked u env c burstId ms).res= -EINVAL := by
  induction ms generalizing c burstId with
  | nil => exact Or.inl rfl
  | cons m ms ih =>
    rw [getRequestListLocked]
    dsimp only
    split
    · exact Or.inr rfl
    · split
      · exact Or.inr rfl
      · exact Or.inr rfl
      · exact ih _ _

end Generate

section Errors

omit [RequestMetadata M] in
theorem negative : -EINVAL<0 ∧ -EINTR<0 := by decide

/-- SubmitRequestList stops with no other error than -EINVAL. -/
theorem checkStreamIds_error {m : M} {inp : Option Nat} {prev : Int} {i : Nat} {ids : List Int}
    {res : Int} (h : c.checkStreamIds m inp prev i ids=.error (.error res)) : res= -EINVAL := by
  induction ids generalizing m inp prev i with
  | nil => cases h
  | cons k ids ih =>
    rw [checkStreamIds] at h
    by_cases input : c.inputStream.streamId=k
    · rw [if_pos input] at h
      exact ih h
    rw [if_neg input] at h
    cases found : c.streams.valueFor k with
    | none => simp [found] at h
    | some stream =>
      rw [found] at h
      dsimp only at h
      by_cases twice : prev=k
      · rw [if_pos twice] at h
        cases h
        rfl
      · rw [if_neg twice] at h
        exact ih h

theorem checkRequest_error {r : Camera3Request M} {k res : Int}
    (h : c.checkRequest r k=.error (.error res)) : res= -EINVAL := by
  unfold checkRequest at h
  split_ifs at h
  · cases h
    rfl
  · cases h
    rfl
  · dsimp only at h
    split at h
    next stop found =>
      cases h
      exact checkStreamIds_error found
    · cases h

theorem checkRequests_error {requests : List (Camera3Request M)} {k res : Int}
    (h : c.checkRequests k requests=.error (.error res)) : res= -EINVAL := by
  induction requests generalizing k with
  | nil => cases h
  | cons r requests ih =>
    rw [checkRequests] at h
    split at h
    next stop found =>
      cases h
      exact checkRequest_error found
    · split at h
      next stop found =>
        cases h
        exact ih found
      · cases h

end Errors
end DeviceClient

namespace SubmitClient

variable {M : Type} [RequestMetadata M] {u : BufferUsage} {env : SubmitListEnv M}

variable (u env) in
/-- The four ends of AddRequestListLocked. -/
theorem addRequestList_cases (s : SubmitClient M) (ms : List M) (streaming : Bool)
    {got : Generated M (List (CaptureRequest M))}
    (hg : DeviceClient.getRequestListLocked u env.toClientEnv s.client 0 ms=got) :
    got.res≠0 ∧ s.addRequestListLocked u env ms streaming=(got.res,{ s with client := got.client }) ∨
    got.res=0 ∧ ((∀ r∈got.value,r.input=true) ↔ ∀ r∈got.value,r.input=false) ∧
      s.addRequestListLocked u env ms streaming=(-EINVAL,{ s with client := got.client }) ∨
    got.res=0 ∧ ¬((∀ r∈got.value,r.input=true) ↔ ∀ r∈got.value,r.input=false) ∧
      ((s.addRequestListLocked u env ms streaming).1= -EINTR ∨
        (s.addRequestListLocked u env ms streaming).1=0) := by
  unfold addRequestListLocked
  rw [hg]
  dsimp only
  by_cases failed : got.res≠0
  · rw [if_pos failed]
    exact Or.inl ⟨failed,rfl⟩
  rw [if_neg failed]
  refine Or.inr ?_
  have parts : ((got.value.filter fun r => !r.input).isEmpty=
      (got.value.filter fun r => r.input).isEmpty) ↔
      ((∀ r∈got.value,r.input=true) ↔ ∀ r∈got.value,r.input=false) := by
    rw [Bool.eq_iff_iff,List.isEmpty_iff,List.isEmpty_iff,List.filter_eq_nil_iff,
      List.filter_eq_nil_iff]
    simp
  by_cases invalid : (got.value.filter fun r => !r.input).isEmpty=
      (got.value.filter fun r => r.input).isEmpty
  · rw [if_pos invalid]
    exact Or.inl ⟨not_not.mp failed,parts.mp invalid,rfl⟩
  · rw [if_neg invalid]
    refine Or.inr ⟨not_not.mp failed,fun h => invalid (parts.mpr h),?_⟩
    by_cases started : (got.value.filter fun r => r.input)≠[] ∧ env.worker=false
    · rw [if_pos started]
      exact Or.inl rfl
    · rw [if_neg started]
      exact Or.inr rfl

section Submit

variable {s : SubmitClient M} {requests : List (Camera3Request M)} {streaming : Bool}

theorem submit_stopped (hc : s.client.state=.CONFIGURED ∨ s.client.state=.RUNNING)
    (some_ : requests≠[]) {stop : Stop}
    (check : s.client.checkRequests s.nextRequestId requests=.error stop) :
    s.submitRequestList u env requests streaming=(match stop with
      | .fault => .error .fault
      | .error res => .ok res,s) := by
  unfold submitRequestList
  rw [if_neg some_]
  rcases hc with hc|hc
  all_goals
    rw [hc]
    dsimp only
    cases stop <;> simp only [check]

theorem submit_added (u : BufferUsage) (env : SubmitListEnv M) (streaming : Bool)
    (hc : s.client.state=.CONFIGURED ∨ s.client.state=.RUNNING)
    (some_ : requests≠[]) {ms : List M}
    (check : s.client.checkRequests s.nextRequestId requests=.ok ms)
    {added : Int × SubmitClient M}
    (ha : { s with nextRequestId := s.nextRequestId+requests.length }.addRequestListLocked u env ms
      streaming=added) :
    s.submitRequestList u env requests streaming=
      if added.1≠0 then (.ok added.1,added.2)
      else (.ok s.nextRequestId,{ added.2 with
        repeatingRequests := if streaming then added.2.repeatingRequests++[s.nextRequestId]
          else added.2.repeatingRequests }) := by
  unfold submitRequestList
  rw [if_neg some_]
  rcases hc with hc|hc
  all_goals
    rw [hc]
    simp only [check,ha]

theorem addRequestList_zero {ms : List M}
    (h : (s.addRequestListLocked u env ms streaming).1=0) :
    (DeviceClient.getRequestListLocked u env.toClientEnv s.client 0 ms).res=0 := by
  obtain ⟨failed,added⟩|⟨got,-,-⟩|⟨got,-,-⟩ := addRequestList_cases u env s ms streaming rfl
  · rw [added] at h
    exact absurd h failed
  · exact got
  · exact got

theorem addRequestList_negative {ms : List M}
    (h : (s.addRequestListLocked u env ms streaming).1≠0) :
    (s.addRequestListLocked u env ms streaming).1<0 := by
  obtain ⟨invalid,interrupted⟩ := DeviceClient.negative
  obtain ⟨failed,added⟩|⟨-,-,added⟩|⟨-,-,added|added⟩ := addRequestList_cases u env s ms streaming rfl
  · rw [added]
    have error := (DeviceClient.getRequestList_res ms s.client 0).resolve_left failed
    exact error ▸ invalid
  · exact added ▸ invalid
  · exact added ▸ interrupted
  · exact absurd added h

/-- What is known of a submission that is accepted. -/
theorem submit_valid (hc : s.client.state=.CONFIGURED ∨ s.client.state=.RUNNING) {ret : Int}
    (hr : 0 ≤ ret) (h : (s.submitRequestList u env requests streaming).1=.ok ret) :
    0 ≤ s.nextRequestId ∧ ∃ ms,s.client.checkRequests s.nextRequestId requests=.ok ms ∧
      (DeviceClient.getRequestListLocked u env.toClientEnv s.client 0 ms).res=0 := by
  obtain ⟨invalid,interrupted⟩ := DeviceClient.negative
  by_cases none : requests=[]
  · rw [submitRequestList,if_pos none] at h
    cases h
    omega
  cases check : s.client.checkRequests s.nextRequestId requests with
  | error stop =>
    rw [submit_stopped hc none check] at h
    cases stop with
    | fault => cases h
    | error res =>
      cases h
      have error := DeviceClient.checkRequests_error check
      omega
  | ok ms =>
    rw [submit_added u env streaming hc none check rfl] at h
    by_cases failed : ({ s with
        nextRequestId := s.nextRequestId+requests.length }.addRequestListLocked u env ms
      streaming).1≠0
    · rw [if_pos failed] at h
      have added := addRequestList_negative failed
      have same := Except.ok.inj h
      omega
    · rw [if_neg failed] at h
      exact ⟨Except.ok.inj h ▸ hr,ms,rfl,addRequestList_zero (s := { s with
        nextRequestId := s.nextRequestId+requests.length }) (not_not.mp failed)⟩

variable (u env streaming) in
/-- The requests of a submission with the id that stands for no input stream. -/
theorem addRequestList_sentinel [LawfulRequestMetadata M] {id : Int}
    (missing : id∉s.client.streams.keys) (hs : s.client.inputStream.streamId=id)
    (rows : List (Camera3Request M × M × M))
    (follows : ∀ row∈rows,DeviceClient.Follows id row.1 row.2.1 row.2.2)
    (fine : (DeviceClient.getRequestListLocked u env.toClientEnv s.client 0
      (rows.map fun row => row.2.2)).res=0)
    (named : ∃ row∈rows,id∈row.1.streamIds) {added : Int × SubmitClient M}
    (ha : s.addRequestListLocked u env (rows.map fun row => row.2.1) streaming=added) :
    if ∃ row∈rows,2 ≤ row.1.streamIds.count id ∨ id∉row.1.streamIds ∧
      findEntry row.1.metadata .ANDROID_REQUEST_INPUT_STREAMS=none
    then added=(-EINVAL,{ s with client := (DeviceClient.getRequestListLocked u env.toClientEnv
      s.client 0 (rows.map fun row => row.2.1)).client })
    else added.1= -EINTR ∨ added.1=0 := by
  obtain ⟨-,twice,once⟩ := DeviceClient.getRequestList_follows hs missing rows 0 follows fine
  have ends := addRequestList_cases u env s (rows.map fun row => row.2.1) streaming
    rfl
  rw [ha] at ends
  revert twice once ends
  generalize DeviceClient.getRequestListLocked u env.toClientEnv s.client 0
    (rows.map fun row => row.2.1)=got
  intro twice once ends
  by_cases some2 : ∃ row∈rows,2 ≤ row.1.streamIds.count id
  · have res := twice some2
    obtain ⟨row,hrow,count⟩ := some2
    rw [if_pos ⟨row,hrow,Or.inl count⟩]
    obtain ⟨-,added⟩|⟨zero,-⟩|⟨zero,-⟩ := ends
    · rw [added,res]
    · rw [res] at zero
      exact absurd zero (by decide)
    · rw [res] at zero
      exact absurd zero (by decide)
  have single : ∀ row∈rows,row.1.streamIds.count id ≤ 1 := by
    intro row hrow
    by_contra more
    exact some2 ⟨row,hrow,by omega⟩
  obtain ⟨zero,inputs⟩ := once single
  -- the requests that name the stream are input requests
  have inputOf : ∀ b : Bool,(∃ q∈got.value,q.input=b) ↔ ∃ row∈rows,
      decide (id∈row.1.streamIds ∨
        findEntry row.1.metadata .ANDROID_REQUEST_INPUT_STREAMS≠none)=b := by
    intro b
    have member := congrArg (fun l => b∈l) inputs
    simpa only [List.mem_map,eq_iff_iff] using member
  have mixed : ¬∀ q∈got.value,q.input=false := by
    obtain ⟨row,hrow,here⟩ := named
    obtain ⟨q,hq,input⟩ := (inputOf true).mpr ⟨row,hrow,by simp [here]⟩
    intro all
    rw [all q hq] at input
    cases input
  have invalid : ((∀ q∈got.value,q.input=true) ↔ ∀ q∈got.value,q.input=false) ↔
      ∃ row∈rows,2 ≤ row.1.streamIds.count id ∨ id∉row.1.streamIds ∧
        findEntry row.1.metadata .ANDROID_REQUEST_INPUT_STREAMS=none := by
    rw [iff_false_right mixed]
    push Not
    simp only [ne_eq,Bool.not_eq_true,inputOf false]
    constructor
    · rintro ⟨row,hrow,bit⟩
      exact ⟨row,hrow,Or.inr (by simpa using bit)⟩
    · rintro ⟨row,hrow,count|⟨unnamed,none⟩⟩
      · exact absurd ⟨row,hrow,count⟩ some2
      · exact ⟨row,hrow,by simp [unnamed,none]⟩
  obtain ⟨failed,-⟩|⟨-,both,added⟩|⟨-,one,ended⟩ := ends
  · exact absurd zero failed
  · rw [if_pos (invalid.mp both)]
    exact added
  · rw [if_neg fun h => one (invalid.mpr h)]
    exact ended

end Submit
end SubmitClient

namespace StreamCalls

variable {M : Type} [RequestMetadata M] {u : BufferUsage} {env : SubmitListEnv M} {id : Int}

section Submit

variable [LawfulRequestMetadata M] {requests : List (Camera3Request M)} {streaming : Bool}

/-- The submission with the id that stands for no input stream. -/
theorem submit_sentinel {s : StreamCalls M}
    (hc : s.client.state=.CONFIGURED ∨ s.client.state=.RUNNING)
    (missing : id∉s.client.streams.keys) (hs : s.client.inputStream.streamId=id)
    (valid : s.OtherwiseValid u env id (.submitRequestList requests streaming)) :
    Rejected s (s.perform u env id (.submitRequestList requests streaming)).2
        (s.perform u env id (.submitRequestList requests streaming)).1 ↔
      ∃ r∈requests,2 ≤ r.streamIds.count id ∨
        id∉r.streamIds ∧ findEntry r.metadata .ANDROID_REQUEST_INPUT_STREAMS=none := by
  obtain ⟨named,ret,hr,fine⟩ := valid
  obtain ⟨next,ms',check',got'⟩ := SubmitClient.submit_valid hc hr fine
  obtain ⟨rows,heads,rfl,check,follows⟩ := DeviceClient.checkRequests_sentinel hs requests _ check'
  have some_ : requests≠[] := by
    rintro rfl
    simp at named
  have each (P : Camera3Request M → Prop) : (∃ r∈requests,P r) ↔ ∃ row∈rows,P row.1 := by
    rw [← heads]
    simp
  have ends := SubmitClient.addRequestList_sentinel u env streaming
    (s := { s.submit with nextRequestId := s.submit.nextRequestId+requests.length })
    missing hs rows follows got' ((each fun r => id∈r.streamIds).mp named) rfl
  have submitted := SubmitClient.submit_added u env streaming hc some_ check rfl
  have kept := DeviceClient.getRequestList_kept u env.toClientEnv
    (rows.map fun row => row.2.1) s.client 0
  rw [each]
  split_ifs at ends with invalid
  · -- an answer of -EINVAL comes before the queues
    refine iff_of_true ?_ invalid
    rw [ends,if_pos (show (-EINVAL : Int)≠0 by decide)] at submitted
    simp only [perform,submitted]
    exact ⟨rfl,kept.streams,kept.requests,kept.streamingRequests,rfl,kept.pause,kept.inputStream⟩
  · refine iff_of_false ?_ invalid
    intro rejected
    have ret := rejected.ret
    simp only [perform,submitted] at ret
    rcases ends with ended|ended
    · rw [if_pos (ended ▸ by decide),ended] at ret
      exact absurd (Except.ok.inj ret) (by decide)
    · rw [if_neg (not_not.mpr ended)] at ret
      have negative := Except.ok.inj ret
      rw [negative] at next
      exact absurd next (by decide)

omit [LawfulRequestMetadata M] in
/-- Of any other id SubmitRequestList looks the stream up. -/
theorem submit_missing {s : StreamCalls M}
    (hc : s.client.state=.CONFIGURED ∨ s.client.state=.RUNNING)
    (missing : s.client.streams.valueFor id=none) (hs : s.client.inputStream.streamId≠id)
    (valid : s.OtherwiseValid u env id (.submitRequestList requests streaming)) :
    (s.perform u env id (.submitRequestList requests streaming)).1=.error .fault := by
  obtain ⟨named,ret,hr,fine⟩ := valid
  obtain ⟨-,ms',check',-⟩ := SubmitClient.submit_valid hc hr fine
  have fault := DeviceClient.checkRequests_fault missing hs requests _ named ⟨ms',check'⟩
  have some_ : requests≠[] := by
    rintro rfl
    simp at named
  rw [perform,SubmitClient.submit_stopped hc some_ fault]

end Submit

section Delete

variable {s : StreamCalls M}

omit [RequestMetadata M] in
/-- Without `cache` DeleteStream looks the stream up where its idle wait ends. -/
theorem delete_idled (hc : s.client.state=.CONFIGURED ∨ s.client.state=.RUNNING) :
    s.client.deleteStream u env.toClientEnv id false=
      let paused := s.client.internalPauseAndWaitLocked env.toClientEnv
      if paused.ret≠0 then
        ⟨paused.ret,paused.client.setErrorStateLocked.1,
          paused.effects++paused.client.setErrorStateLocked.2⟩
      else paused.client.dropStream u env.toClientEnv id false paused.effects := by
  unfold DeviceClient.deleteStream
  rcases hc with hc|hc <;> rw [hc] <;> rfl

omit [RequestMetadata M] in
/-- The idle wait ends in the state that the other calls left, with the pause. -/
theorem idled_meanwhile (s : StreamCalls M) (env : SubmitListEnv M) :
    (s.client.idled env.toClientEnv).1=(if s.client.state=.RUNNING then env.idle.res else 0) ∧
    (s.client.idled env.toClientEnv).2.streams=
      (s.meanwhile env (.deleteStream false)).client.streams ∧
    (s.client.idled env.toClientEnv).2.handler.requests=
      (s.meanwhile env (.deleteStream false)).client.handler.requests ∧
    (s.client.idled env.toClientEnv).2.handler.streamingRequests=
      (s.meanwhile env (.deleteStream false)).client.handler.streamingRequests ∧
    (s.client.idled env.toClientEnv).2.inputStream=s.client.inputStream := by
  unfold DeviceClient.idled DeviceClient.waitUntilStateThenRelock meanwhile
  by_cases running : s.client.state=.RUNNING
  · rw [if_neg (by simp [running]),if_pos running,if_pos running]
    exact ⟨rfl,rfl,rfl,rfl,rfl⟩
  · rw [if_pos (by simp [running]),if_neg running,if_neg running]
    exact ⟨rfl,rfl,rfl,rfl,rfl⟩

omit [RequestMetadata M] in
theorem meanwhile_kept (s : StreamCalls M) (env : SubmitListEnv M) :
    (s.meanwhile env (.deleteStream false)).client.inputStream=s.client.inputStream ∧
    (s.meanwhile env (.deleteStream false)).client.handler.togglePauseState=
      s.client.handler.togglePauseState ∧
    (s.meanwhile env (.deleteStream false)).submit.reprocRequests=s.submit.reprocRequests := by
  unfold meanwhile
  split_ifs <;> exact ⟨rfl,rfl,rfl⟩

omit [RequestMetadata M] in
/-- What is left of SET_ERR_L where captures are paused. -/
theorem setErrorState_kept (c : DeviceClient M) (paused : c.handler.togglePauseState=true) :
    DeviceClient.Kept c c.setErrorStateLocked.1 := by
  obtain ⟨state,pause,still,failed⟩ := c.setErrorState_eq
  have same : pause=c.handler.togglePauseState := still.elim (fun h => h.trans paused.symm) id
  rw [failed]
  exact ⟨rfl,rfl,rfl,same,rfl⟩

omit [RequestMetadata M] in
theorem zero_accepted : (0 : Int)≠ -EINVAL := by decide

theorem delete_rejected (hc : s.client.state=.CONFIGURED ∨ s.client.state=.RUNNING)
    (hu : Unknown id (s.meanwhile env (.deleteStream false))) :
    Rejected (s.meanwhile env (.deleteStream false)) (s.perform u env id (.deleteStream false)).2
      (s.perform u env id (.deleteStream false)).1 ↔ s.Rejects env id (.deleteStream false) := by
  obtain ⟨res,streams,requests,streaming,inputStream⟩ := s.idled_meanwhile env
  obtain ⟨input,pause,reproc⟩ := s.meanwhile_kept env
  obtain ⟨ret,paused,failed⟩ := s.client.pause_idled env.toClientEnv
  have flags := (s.client.idled_flags env.toClientEnv).1
  have missing : (s.client.idled env.toClientEnv).2.streams.valueFor id=none := by
    rw [streams]
    exact (KeyedVector.valueFor_none _ _).mpr hu.1
  -- what ends in the state of the wait is a rejection, if captures were paused before
  have ends : ∀ c,DeviceClient.Kept (s.client.idled env.toClientEnv).2 c → ∀ r : Int,
      Rejected (s.meanwhile env (.deleteStream false)) (s.onClient c) (.ok r) ↔
        r= -EINVAL ∧ s.client.handler.togglePauseState=true := by
    intro c kept r
    constructor
    · intro rejected
      exact ⟨Except.ok.inj rejected.ret,
        pause.symm.trans (rejected.pause.symm.trans (kept.pause.trans flags))⟩
    · rintro ⟨rfl,before⟩
      exact ⟨rfl,kept.streams.trans (congrArg KeyedVector.keys streams),
        kept.requests.trans requests,kept.streamingRequests.trans streaming,reproc.symm,
        (kept.pause.trans flags).trans (pause.trans before).symm,
        kept.inputStream.trans (inputStream.trans input.symm)⟩
  unfold perform Rejects
  dsimp only
  rw [delete_idled hc]
  dsimp only
  rw [ret]
  by_cases broken : (s.client.idled env.toClientEnv).1≠0
  · have waited : s.client.state=.RUNNING ∧ env.idle.res≠0 := by
      rw [res] at broken
      split_ifs at broken with running
      · exact ⟨running,broken⟩
      · exact absurd rfl broken
    rw [if_pos broken,if_pos waited,failed broken]
    have first := setErrorState_kept _ flags
    have kept := first.trans (setErrorState_kept _ (first.pause.trans flags))
    rw [ends _ kept,res,if_pos waited.1]
    exact and_comm
  · have ok : ¬(s.client.state=.RUNNING ∧ env.idle.res≠0) := by
      rintro ⟨running,bad⟩
      rw [res,if_pos running] at broken
      exact broken bad
    rw [if_neg broken,if_neg ok,paused (not_not.mp broken),DeviceClient.dropStream,inputStream]
    by_cases sentinel : id=s.client.inputStream.streamId
    · rw [if_pos sentinel]
      refine iff_of_false ?_ (fun h => h.2 sentinel)
      intro rejected
      exact zero_accepted (Except.ok.inj rejected.ret)
    · rw [if_neg sentinel,missing]
      dsimp only
      rw [ends _ (DeviceClient.Kept.refl _)]
      exact ⟨fun h => ⟨h.2,sentinel⟩,fun h => ⟨rfl,h.1⟩⟩

theorem deleteCached_rejected (hc : s.client.state=.CONFIGURED ∨ s.client.state=.RUNNING)
    (hu : Unknown id s) :
    Rejected s (s.perform u env id (.deleteStream true)).2
      (s.perform u env id (.deleteStream true)).1 ↔ id≠s.client.inputStream.streamId := by
  have missing := (KeyedVector.valueFor_none _ _).mpr hu.1
  have dropped : s.client.deleteStream u env.toClientEnv id true=
      s.client.dropStream u env.toClientEnv id true [] := by
    unfold DeviceClient.deleteStream
    rcases hc with hc|hc <;> rw [hc] <;> rfl
  unfold perform
  dsimp only
  rw [dropped,DeviceClient.dropStream]
  by_cases sentinel : id=s.client.inputStream.streamId
  · rw [if_pos sentinel]
    refine iff_of_false ?_ (not_not.mpr sentinel)
    intro rejected
    exact zero_accepted (Except.ok.inj rejected.ret)
  · rw [if_neg sentinel,missing]
    exact iff_of_true ⟨rfl,rfl,rfl,rfl,rfl,rfl,rfl⟩ sentinel

end Delete

section Calls

variable [LawfulRequestMetadata M]

/-- The calls that reject a stream that is not registered, by what they are given. -/
theorem unknown_rejected_iff (u : BufferUsage) (s : StreamCalls M) (env : SubmitListEnv M)
    (id : Int) (call : IdCall M) (hc : s.client.state=.CONFIGURED ∨ s.client.state=.RUNNING)
    (hu : Unknown id (s.meanwhile env call)) (valid : s.OtherwiseValid u env id call) :
    Rejected (s.meanwhile env call) (s.perform u env id call).2 (s.perform u env id call).1 ↔
      s.Rejects env id call := by
  cases call with
  | submitRequestList requests streaming =>
    have missing := (KeyedVector.valueFor_none _ _).mpr hu.1
    by_cases hs : s.client.inputStream.streamId=id
    · exact (submit_sentinel hc hu.1 hs valid).trans
        ⟨fun h => ⟨hs.symm,h⟩,fun h => h.2⟩
    · refine iff_of_false ?_ (fun h => hs h.1.symm)
      intro rejected
      have ret := rejected.ret
      rw [submit_missing hc missing hs valid] at ret
      cases ret
  | deleteStream cache =>
    cases cache with
    | false => exact delete_rejected hc hu
    | true => exact deleteCached_rejected hc hu
  | prepare run =>
    refine iff_of_false ?_ not_false
    intro rejected
    have ret := rejected.ret
    rw [perform,DeviceClient.prepare_missing (c := s.client)
      ((KeyedVector.valueFor_none _ _).mpr hu.1)] at ret
    cases ret
  | tearDown =>
    refine iff_of_false ?_ not_false
    intro rejected
    have ret := rejected.ret
    rw [perform,DeviceClient.tearDown_missing (c := s.client)
      ((KeyedVector.valueFor_none _ _).mpr hu.1)] at ret
    cases ret
  | returnStreamBuffer buffer =>
    refine iff_of_true ?_ trivial
    rw [perform,DeviceClient.returnStreamBuffer_missing hc
      ((KeyedVector.valueFor_none _ _).mpr hu.1)]
    exact ⟨rfl,rfl,rfl,rfl,rfl,rfl,rfl⟩

end Calls

section Tests

/-- A metadata pack with the entries of requests beside the others. -/
structure RequestPack where
  plain : PlainMetadata
  request : RequestTag → Option (List Int)

instance : RequestMetadata RequestPack where
  empty := ⟨CameraMetadata.empty,fun _ => none⟩
  isEmpty m := CameraMetadata.isEmpty m.plain &&
    [RequestTag.ANDROID_REQUEST_INPUT_STREAMS,.ANDROID_REQUEST_OUTPUT_STREAMS,
      .ANDROID_REQUEST_ID].all fun tag => (m.request tag).isNone
  ofRaw raw := ⟨CameraMetadata.ofRaw raw,fun _ => none⟩
  append m n := ⟨CameraMetadata.append m.plain n.plain,
    fun tag => (n.request tag).orElse fun _ => m.request tag⟩
  appendRaw m raw := ⟨CameraMetadata.appendRaw m.plain raw,m.request⟩
  update m tag value := (CameraMetadata.update m.plain tag value).map fun plain =>
    ⟨plain,m.request⟩
  sort m := m
  find m tag := CameraMetadata.find m.plain tag
  findRaw raw tag := CameraMetadata.findRaw (M := PlainMetadata) raw tag
  updateEntry m tag vs := ⟨m.plain,fun other => if other=tag then some vs else m.request other⟩
  findEntry m tag := m.request tag
  erase m tag := ⟨m.plain,fun other => if other=tag then none else m.request other⟩

instance : LawfulRequestMetadata RequestPack where
  find_update _ _ _ := if_pos rfl
  find_update_ne _ _ _ _ other := if_neg other
  find_erase_ne _ _ _ other := if_neg other

/-- A CONFIGURED client with the streams 0 and 1 and no input stream. -/
def previewCalls : StreamCalls RequestPack where
  submit :=
    { client :=
        { state := .CONFIGURED
          streams := DeviceClient.previews
          deletedStreams := []
          nextStreamId := 2
          reconfig := false
          inputStream := ⟨-1,0,0,.other 0⟩
          camFeatureFlags := 0
          batchSize := 1
          frameNumber := 0
          pauseStateNotify := false
          handler := RequestHandler.construct 0 true true
          availableStreamConfigs := []
          jpegMaxSize := []
          errorCb := true
          idleCb := true }
      reprocRequests := []
      nextRequestId := 0
      repeatingRequests := [] }
  prepareHandler := .construct true

/-- The waits end well, and the reprocess thread runs. -/
def calmCalls : SubmitListEnv RequestPack :=
  let waited (state : State) : Waited RequestPack :=
    ⟨0,state,DeviceClient.previews,[],[],(RequestHandler.construct 0 true true).currentRequest⟩
  ⟨⟨waited .CONFIGURED,waited .RUNNING,0,fun id => id,true⟩,true⟩

/-- A request for stream 0 that names the id -1 besides. -/
def strayRequest (more : List Int) : Camera3Request RequestPack :=
  ⟨⟨⟨[(.ANDROID_SENSOR_TIMESTAMP,0)]⟩,fun _ => none⟩,0::more⟩

theorem unknown_rejected_twice : Rejected previewCalls
    (previewCalls.perform .android calmCalls (-1)
      (.submitRequestList [strayRequest [-1,-1]] false)).2
    (previewCalls.perform .android calmCalls (-1)
      (.submitRequestList [strayRequest [-1,-1]] false)).1 := by
  apply (unknown_rejected_iff .android previewCalls calmCalls (-1)
    (.submitRequestList [strayRequest [-1,-1]] false) (Or.inl rfl) ⟨by decide,by decide⟩ ?_).mpr
  · exact ⟨rfl,_,List.mem_singleton_self _,Or.inl (by decide)⟩
  · exact ⟨⟨_,List.mem_singleton_self _,by decide⟩,0,by decide,by decide⟩

/-- Prepare of stream 5 aborts. -/
theorem prepare_unknown_aborts : ¬∀ (u : BufferUsage) (s : StreamCalls RequestPack) env id call,
    s.client.state=.CONFIGURED ∨ s.client.state=.RUNNING → Unknown id (s.meanwhile env call) →
    s.OtherwiseValid u env id call →
    Rejected (s.meanwhile env call) (s.perform u env id call).2 (s.perform u env id call).1 := by
  intro all
  have rejected := all .android previewCalls calmCalls 5 (.prepare 0) (Or.inl rfl)
    ⟨by decide,by decide⟩ trivial
  exact absurd rejected.ret (by decide)

end Tests
end StreamCalls
end IotMedia.Camera
